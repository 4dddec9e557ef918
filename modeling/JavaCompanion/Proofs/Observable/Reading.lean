/-
Methods read back from the operations that write them.

`read` takes the operations of one method and gives the method that they spell: its name, its
parameters, and its body as statements.  A call is put together from its beginning, its
arguments and its end, and a declaration that waits for its call from the two.  Operations
that spell no method are refused.  The lemmas say what each part of a wrapper adds to what has
been read before it.
-/
import JavaCompanion.Observable.Source
import JavaCompanion.Proofs.Observable.Wrapped

namespace JavaCompanion
namespace Observable

open Emitter Java

/-! ## Methods as they are read -/

/-- A parameter or a local variable as it is declared. -/
structure Declared where
  type : String
  name : String
  deriving DecidableEq, Repr

inductive Statement where
  /-- Declares a variable with what an accessor gives. -/
  | read (variable_ : Declared) (accessor : String)
  /-- Calls the overridden method, and declares a variable with the result or drops it. -/
  | callSuper (variable_ : Option Declared) (method : String) (arguments : List String)
  | call (target : String) (arguments : List String)
  | giveBack (name : String)
  /-- What follows, up to the end, is done for each item of a collection. -/
  | forEach (variable_ : Declared) (collection : String)
  | endEach
  deriving DecidableEq, Repr

/-- A method, with the interface that declares it where there is one. -/
structure MethodText where
  owner : Option String := none
  returnType : String := ""
  name : String := ""
  parameters : List Declared := []
  body : List Statement := []
  deriving DecidableEq, Repr

/-! ## Reading -/

/-- What is open while operations are read. -/
inductive Pending where
  | outside
  | interface_
  | header
  | body
  | declaration (variable_ : Declared)
  | superCall (variable_ : Option Declared) (method : String) (arguments : List String)
  /-- A declaration whose call is complete. -/
  | assigned (variable_ : Declared) (method : String) (arguments : List String)
  | call (target : String) (arguments : List String)
  | declaredOnly
  | finished
  deriving DecidableEq, Repr

structure Reading where
  method : MethodText := {}
  pending : Pending := .outside
  deriving DecidableEq, Repr

/-- The name of a method that is called without arguments. -/
def accessorOf? (value : String) : Option String :=
  match value.toList.reverse with
  | ')' :: '(' :: rest => some (String.ofList rest.reverse)
  | _ => none

namespace Reading

def toPending (r : Reading) (p : Pending) : Reading := { r with pending := p }

/-- The reading in the body, after one more statement. -/
def add (r : Reading) (s : Statement) : Reading :=
  { method := { r.method with body := r.method.body ++ [s] }, pending := .body }

def step (r : Reading) (op : Operation) : Option Reading :=
  match r.pending, op with
  | .outside, .interfaceStart name _ _ _ =>
    some { method := { r.method with owner := some name }, pending := .interface_ }
  | .outside, .methodStart type name _ | .interface_, .methodStart type name _ =>
    some { method := { r.method with returnType := type, name }, pending := .header }
  | .header, .parameter _ type name _ =>
    some { r with method :=
      { r.method with parameters := r.method.parameters ++ [⟨type, name⟩] } }
  | .header, .bodyStart _ => some (r.toPending .body)
  | .header, .bodiless _ => some (r.toPending .declaredOnly)
  | .body, .declaration type name value _ =>
    (accessorOf? value).map fun accessor => r.add (.read ⟨type, name⟩ accessor)
  | .body, .declarationStart type name _ => some (r.toPending (.declaration ⟨type, name⟩))
  | .body, .superCallStart name => some (r.toPending (.superCall none name []))
  | .declaration v, .superCallStart name => some (r.toPending (.superCall (some v) name []))
  | .superCall v name arguments, .argument (.text a) =>
    some (r.toPending (.superCall v name (arguments ++ [a])))
  | .superCall none name arguments, .callEnd => some (r.add (.callSuper none name arguments))
  | .superCall (some v) name arguments, .callEnd => some (r.toPending (.assigned v name arguments))
  | .assigned v name arguments, .statementEnd => some (r.add (.callSuper (some v) name arguments))
  | .body, .callStart target => some (r.toPending (.call target []))
  | .call target arguments, .argument (.text a) =>
    some (r.toPending (.call target (arguments ++ [a])))
  | .call target arguments, .callEnd => some (r.add (.call target arguments))
  | .body, .returnValue (some name) => some (r.add (.giveBack name))
  | .body, .loopStart type name collection _ => some (r.add (.forEach ⟨type, name⟩ collection))
  | .body, .loopEnd => some (r.add .endEach)
  | .body, .blockEnd => some (r.toPending .finished)
  | .declaredOnly, .interfaceEnd => some (r.toPending .finished)
  | _, _ => none

def all (r : Reading) (ops : List Operation) : Option Reading := ops.foldlM step r

end Reading

/-- The method that operations spell, if they spell one. -/
def read (ops : List Operation) : Option MethodText :=
  match ({} : Reading).all ops with
  | some r => if r.pending = .finished then some r.method else none
  | none => none

/-! ## Parts of bodies -/

namespace Reading

theorem all_append {r middle last : Reading} {ops more : List Operation}
    (h : r.all ops = some middle) (hmore : middle.all more = some last) :
    r.all (ops ++ more) = some last :=
  foldlM_append_eq_some h hmore

/-- The reading of a method after some statements of its body. -/
def inBody (m : MethodText) (done : List Statement) : Reading :=
  { method := { m with body := done }, pending := .body }

/-- Operations that add these statements to any body. -/
def Spells (ops : List Operation) (statements : List Statement) : Prop :=
  ∀ m done, (inBody m done).all ops = some (inBody m (done ++ statements))

theorem spells_nil : Spells [] [] := by
  intro m done
  rw [List.append_nil]
  rfl

theorem Spells.after {r : Reading} {m : MethodText} {ops more : List Operation}
    {ss done : List Statement} (hmore : Spells more ss) (h : r.all ops = some (inBody m done)) :
    r.all (ops ++ more) = some (inBody m (done ++ ss)) :=
  all_append h (hmore m done)

theorem Spells.append {ops more : List Operation} {ss tt : List Statement} (h : Spells ops ss)
    (hmore : Spells more tt) : Spells (ops ++ more) (ss ++ tt) := by
  intro m done
  rw [← List.append_assoc]
  exact hmore.after (h m done)

theorem spells_flatMap {α : Type} {part : α → List Operation} {statement : α → Statement}
    {as : List α} (h : ∀ a ∈ as, Spells (part a) [statement a]) :
    Spells (as.flatMap part) (as.map statement) := by
  induction as with
  | nil => exact spells_nil
  | cons a rest ih =>
    exact (h a List.mem_cons_self).append (ih fun b hb => h b (List.mem_cons_of_mem a hb))

end Reading

open Reading

theorem accessorOf?_call (name : String) : accessorOf? (name ++ "()") = some name := by
  simp [accessorOf?, String.toList_append]

def Observed.accessorName (o : Observed) : String := o.mutator.accessor.name.display

def readStatement (o : Observed) (name : String) : Statement :=
  .read ⟨o.valueType, name⟩ o.accessorName

theorem spells_readValue (o : Observed) (name : String) :
    Spells [readValue o name] [readStatement o name] := by
  intro m done
  have haccessor : accessorOf? o.accessorCall = some o.accessorName := accessorOf?_call _
  simp [all, readValue, step, inBody, haccessor, add, readStatement]

theorem spells_reads (group : List Observed) (name : Observed → String) :
    Spells (group.map fun o => readValue o (name o))
      (group.map fun o => readStatement o (name o)) := by
  rw [List.map_eq_flatMap]
  exact spells_flatMap fun o _ => spells_readValue o (name o)

/-- The variable that keeps what the overridden method gives. -/
def resultVariable (m : Method) (resultName : String) : Option Declared :=
  if m.isVoid then none else some ⟨m.returnType, resultName⟩

theorem spells_superCall {m : Method} {x : Parameter} (hx : m.parameters = [x])
    (resultName : String) :
    Spells (superCall m resultName)
      [.callSuper (resultVariable m resultName) m.name.display [x.name]] := by
  intro signature done
  unfold superCall resultVariable
  rw [hx]
  split <;> rfl

/-- The names under which a subject's listeners are told the change. -/
def toldNames (oldValue : Bool) (oldName newName : String) : List String :=
  (if oldValue then [oldName] else []) ++ [newName]

theorem spells_fireCall (oldValue : Bool) (o : Observed) :
    Spells (fireCall oldValue o)
      [.call o.fireName (toldNames oldValue o.oldValueName o.newValueName)] := by
  intro m done
  cases oldValue <;> rfl

/-! ## Wrappers and what they call -/

/-- The body of a wrapper, where `x` is the parameter. -/
def wrapperBody (oldValue : Bool) (m : Method) (x : Parameter) (resultName : String)
    (group : List Observed) : List Statement :=
  (if oldValue then group.map fun o => readStatement o o.oldValueName else [])
    ++ [.callSuper (resultVariable m resultName) m.name.display [x.name]]
    ++ group.map (fun o => readStatement o o.newValueName)
    ++ group.map (fun o => .call o.fireName (toldNames oldValue o.oldValueName o.newValueName))
    ++ (if m.isVoid then [] else [.giveBack resultName])

def wrapperText (oldValue : Bool) (first : Observed) (others : List Observed) (x : Parameter) :
    MethodText where
  returnType := first.mutator.method.returnType
  name := first.mutator.method.name.display
  parameters := [⟨x.type, x.name⟩]
  body := wrapperBody oldValue first.mutator.method x first.resultName (first :: others)

theorem read_wrapperOperations {oldValue : Bool} {first : Observed} {others : List Observed}
    {x : Parameter} (hx : first.mutator.method.parameters = [x]) :
    read (wrapperOperations oldValue first others)
      = some (wrapperText oldValue first others x) := by
  let m := first.mutator.method
  let signature : MethodText :=
    { returnType := m.returnType, name := m.name.display, parameters := [⟨x.type, x.name⟩] }
  have hheader : ({} : Reading).all ([.methodStart m.returnType m.name.display (wrapperModifiers m)]
      ++ m.parameters.map parameterOperation ++ [.bodyStart (m.thrown.map .text)])
        = some (inBody signature []) := by
    rw [show m.parameters = [x] from hx]
    rfl
  have holds : Spells (if oldValue then
        (first :: others).map fun o => readValue o o.oldValueName else [])
      (if oldValue then (first :: others).map fun o => readStatement o o.oldValueName else []) := by
    cases oldValue with
    | false => exact spells_nil
    | true => exact spells_reads (first :: others) Observed.oldValueName
  have hcall := spells_superCall hx first.resultName
  have hnews := spells_reads (first :: others) Observed.newValueName
  have hfires : Spells ((first :: others).flatMap (fireCall oldValue)) _ :=
    spells_flatMap fun o _ => spells_fireCall oldValue o
  have hreturn : Spells (if m.isVoid then [] else [.returnValue (some first.resultName)])
      (if m.isVoid then [] else [.giveBack first.resultName]) := by
    intro signature done
    cases m.isVoid with
    | true => exact spells_nil signature done
    | false => rfl
  have hbody := hreturn.after (hfires.after (hnews.after (hcall.after (holds.after hheader))))
  have hall : ({} : Reading).all (wrapperOperations oldValue first others)
      = some { method := wrapperText oldValue first others x, pending := .finished } :=
    all_append hbody rfl
  rw [read, hall]
  rfl

/-- The parameters by which a change of the value is told. -/
def toldParameters (oldValue : Bool) (o : Observed) : List Declared :=
  (toldNames oldValue "oldValue" "newValue").map fun name => ⟨o.valueType, name⟩

def fireText (oldValue : Bool) (o : Observed) : MethodText where
  returnType := "void"
  name := o.fireName
  parameters := toldParameters oldValue o
  body :=
    [ .forEach ⟨o.listenerType, "listener"⟩ o.fieldName,
      .call ("listener." ++ o.callbackName) (toldNames oldValue "oldValue" "newValue"),
      .endEach ]

theorem read_fireOperations (oldValue : Bool) (o : Observed) :
    read (fireOperations oldValue o) = some (fireText oldValue o) := by
  cases oldValue <;> rfl

def callbackText (oldValue : Bool) (o : Observed) : MethodText where
  owner := some o.listenerType
  returnType := "void"
  name := o.callbackName
  parameters := toldParameters oldValue o

theorem read_interfaceOperations (p : Plan) (o : Observed) :
    read (interfaceOperations p o) = some (callbackText p.settings.oldValue o) := by
  unfold interfaceOperations
  cases p.settings.oldValue <;> rfl

end Observable
end JavaCompanion
