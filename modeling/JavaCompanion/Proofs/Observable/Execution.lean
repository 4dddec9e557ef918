/-
Running the body of a wrapper.

The overridden method and the accessors are those of an arbitrary superclass: the method
takes a state to a state and a result, and an accessor gives what it reads in a state.  Names
stand for the parameter and the local variables, as they do in Java: a name that is declared
already cannot be declared again, and a name that is not declared means nothing.  A run
records the calls that it makes, and the values that are passed on with the types they were
declared with.
-/
import JavaCompanion.Proofs.Observable.Reading

namespace JavaCompanion
namespace Observable

/-- What a wrapper relies on, over any states and values. -/
structure Superclass (σ V : Type) where
  call : String → List V → σ → σ × V
  get : String → σ → V

structure Local (V : Type) extends Declared where
  value : V

def Local.typed {V : Type} (l : Local V) : String × V := (l.type, l.value)

inductive Event (V : Type) where
  | superCall (method : String) (arguments : List V)
  | call (target : String) (arguments : List (String × V))

structure Execution (σ V : Type) where
  scope : List (Local V)
  state : σ
  events : List (Event V) := []
  returned : Option (String × V) := none

variable {σ V : Type}

namespace Execution

def lookup (e : Execution σ V) (name : String) : Option (Local V) :=
  e.scope.find? (·.name == name)

def declare (e : Execution σ V) (v : Declared) (value : V) : Option (Execution σ V) :=
  if (e.lookup v.name).isSome then none
  else some { e with scope := e.scope ++ [{ v with value }] }

/-- One statement of a straight-line body. -/
def perform (c : Superclass σ V) (e : Execution σ V) : Statement → Option (Execution σ V)
  | .read v accessor => e.declare v (c.get accessor e.state)
  | .callSuper v method arguments => do
    let xs ← arguments.mapM e.lookup
    let given := c.call method (xs.map (·.value)) e.state
    let called : Execution σ V :=
      { e with
        state := given.1
        events := e.events ++ [.superCall method (xs.map (·.value))] }
    match v with
    | none => some called
    | some v => called.declare v given.2
  | .call target arguments => do
    let xs ← arguments.mapM e.lookup
    some { e with events := e.events ++ [.call target (xs.map Local.typed)] }
  | .giveBack name => do
    let x ← e.lookup name
    some { e with returned := some x.typed }
  | .forEach _ _ | .endEach => none

/-- As `perform`, where nothing can follow what gives a value back. -/
def execute (c : Superclass σ V) (e : Execution σ V) (s : Statement) : Option (Execution σ V) :=
  if e.returned.isSome then none else e.perform c s

end Execution

open Execution

def run (c : Superclass σ V) (body : List Statement) (e : Execution σ V) :
    Option (Execution σ V) := body.foldlM (execute c) e

/-- A method that is entered in a state with values for its parameters. -/
def enter (m : MethodText) (values : List V) (s : σ) : Execution σ V where
  scope := List.zipWith (fun v value => { v with value }) m.parameters values
  state := s

/-! ## Names -/

theorem lookup_of_mem {e : Execution σ V} (hnodup : (e.scope.map (·.name)).Nodup) {l : Local V}
    (hl : l ∈ e.scope) : e.lookup l.name = some l := by
  cases hfind : e.lookup l.name with
  | none => exact absurd (beq_self_eq_true l.name) (List.find?_eq_none.mp hfind l hl)
  | some l' =>
    have hname : l'.name = l.name := by simpa using List.find?_some hfind
    rw [List.inj_on_of_nodup_map hnodup (List.mem_of_find?_eq_some hfind) hl hname]

theorem lookup_eq_none {e : Execution σ V} {name : String} (h : name ∉ e.scope.map (·.name)) :
    e.lookup name = none := by
  refine List.find?_eq_none.mpr fun l hl hname => h ?_
  exact List.mem_map.mpr ⟨l, hl, by simpa using hname⟩

theorem declare_of_fresh {e : Execution σ V} {v : Declared} (value : V)
    (h : v.name ∉ e.scope.map (·.name)) :
    e.declare v value = some { e with scope := e.scope ++ [{ v with value }] } := by
  simp [Execution.declare, lookup_eq_none h]

/-! ## Runs -/

variable {c : Superclass σ V}

theorem execute_of_running {e : Execution σ V} (h : e.returned = none) (s : Statement) :
    e.execute c s = e.perform c s := by
  simp [execute, h]

theorem run_append {e middle last : Execution σ V} {body more : List Statement}
    (h : run c body e = some middle) (hmore : run c more middle = some last) :
    run c (body ++ more) e = some last :=
  foldlM_append_eq_some h hmore

theorem run_singleton (e : Execution σ V) (statement : Statement) :
    run c [statement] e = e.execute c statement := by
  simp [run]

theorem run_superCall {e : Execution σ V} (argument : Local V) {v : Option Declared}
    {method : String} (hreturned : e.returned = none)
    (hargument : e.lookup argument.name = some argument)
    (hv : ∀ d, v = some d → d.name ∉ e.scope.map (·.name)) :
    run c [.callSuper v method [argument.name]] e
      = some { e with
          scope := e.scope ++ v.toList.map fun d =>
            { d with value := (c.call method [argument.value] e.state).2 }
          state := (c.call method [argument.value] e.state).1
          events := e.events ++ [.superCall method [argument.value]] } := by
  have hmap : [argument.name].mapM e.lookup = some [argument] := by simp [hargument]
  rw [run_singleton, execute_of_running hreturned, perform, hmap]
  cases v with
  | none => simp
  | some d => exact declare_of_fresh _ (hv d rfl)

/-- The local variable that a wrapper declares for a value read in a state. -/
def localOf (c : Superclass σ V) (s : σ) (o : Observed) (name : String) : Local V :=
  { type := o.valueType, name, value := c.get o.accessorName s }

/-- Reading one value after another declares a variable for each, all read in one state. -/
theorem run_reads {e : Execution σ V} {group : List Observed} (name : Observed → String)
    (hreturned : e.returned = none) (hnodup : (e.scope.map (·.name) ++ group.map name).Nodup) :
    run c (group.map fun o => readStatement o (name o)) e
      = some { e with scope := e.scope ++ group.map fun o => localOf c e.state o (name o) } := by
  induction group generalizing e with
  | nil => simp [run]
  | cons o rest ih =>
    have hfresh : name o ∉ e.scope.map (·.name) := by
      intro hmem
      rw [List.nodup_append] at hnodup
      exact hnodup.2.2 (name o) hmem (name o) List.mem_cons_self rfl
    have hstep : e.execute c (readStatement o (name o))
        = some { e with scope := e.scope ++ [localOf c e.state o (name o)] } := by
      rw [execute_of_running hreturned]
      exact declare_of_fresh (c.get o.accessorName e.state) hfresh
    rw [List.map_cons, run, List.foldlM_cons, hstep]
    have hrest := ih (e := { e with scope := e.scope ++ [localOf c e.state o (name o)] }) hreturned
      (by simpa [localOf, List.append_assoc] using hnodup)
    refine hrest.trans ?_
    simp [List.append_assoc]

/-- Calls whose arguments are all declared are made in order, and change nothing else. -/
theorem run_calls {e : Execution σ V} {group : List Observed} {target : Observed → String}
    {names : Observed → List String} {passed : Observed → List (Local V)}
    (hreturned : e.returned = none)
    (hpassed : ∀ o ∈ group, (names o).mapM e.lookup = some (passed o)) :
    run c (group.map fun o => .call (target o) (names o)) e
      = some { e with
          events := e.events ++ group.map fun o =>
            Event.call (target o) ((passed o).map Local.typed) } := by
  induction group generalizing e with
  | nil => simp [run]
  | cons o rest ih =>
    let called : Execution σ V :=
      { e with events := e.events ++ [.call (target o) ((passed o).map Local.typed)] }
    have hstep : e.execute c (.call (target o) (names o)) = some called := by
      rw [execute_of_running hreturned, perform, hpassed o List.mem_cons_self]
      rfl
    rw [List.map_cons, run, List.foldlM_cons, hstep]
    have hrest := ih (e := called) hreturned fun o' ho' => hpassed o' (List.mem_cons_of_mem o ho')
    refine hrest.trans ?_
    simp [called, List.append_assoc]

end Observable
end JavaCompanion
