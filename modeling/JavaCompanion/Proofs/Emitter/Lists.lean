/-
Whole lists.

Arguments stand in a call, parameters and thrown types in the declaration of a callable, and an
instance is created with arguments of its own.  From wherever one of them can be begun, the whole
text is stated, for every number of elements and with what opens and closes it (`emit_call`,
`emit_declaration`, `emit_instance`).  Only an element that begins a line can stop it, where the
blanks before the element cannot be made.
-/
import JavaCompanion.Proofs.Emitter.Elements

namespace JavaCompanion
namespace Emitter

open Java

variable {e : Emitter} {width : Int} {eol s : String} {frames below : List Frame} {list : Frame}
  {depth : Nat}

/-- A step reaches the emitter exactly under the condition.  Otherwise blanks that cannot be made
stop it. -/
def ReachesIf (condition : Prop) (x : Except Fault Emitter) (e' : Emitter) : Prop :=
  (condition → x = .ok e') ∧ (¬ condition → ∃ f, f.IsOversize ∧ x = .error f)

/-! ## Calls -/

/-- A call.  Inside a statement it neither begins the line nor ends it. -/
def callText (inside : Bool) (margin eol target : String) (arguments : List String) : String :=
  (if inside then "" else margin) ++ target ++ "(" ++ ", ".intercalate arguments ++ ")"
    ++ (if inside then "" else ";" ++ eol)

namespace Operation

/-- What the operation calls, if it begins a call. -/
def target? : Operation → Option String
  | .superConstructorStart => some "super"
  | .superCallStart name => some ("super." ++ name)
  | .callStart target => some target
  | _ => none

end Operation

/-- A call, with its arguments and its end. -/
def callOperations (start : Operation) (arguments : List String) : List Operation :=
  start :: (arguments.map fun s => .argument (.text s)) ++ [.callEnd]

theorem actions_of_target {style : Style} {start : Operation} {target : String}
    (htarget : start.target? = some target)
    (hplaced : start.places.contains (placeOf frames) = true) :
    start.actions style (innermost frames)
      = Operation.callActions (placeOf frames == some .statement) target := by
  have hstatement : ((innermost frames).context == .statement)
      = (placeOf frames == some .statement) := by cases frames <;> rfl
  cases start with
  | superConstructorStart =>
    have hplace : placeOf frames = some .methodBody := by
      simpa [Operation.places] using hplaced
    cases htarget
    rw [hplace]
    rfl
  | superCallStart name =>
    cases htarget
    rw [Operation.actions, hstatement]
  | callStart =>
    cases htarget
    rw [Operation.actions, hstatement]
  | _ => cases htarget

theorem run_callActions (hopen : e.closed = false) (h : e.Lays width eol) {inside : Bool}
    (hfits : inside = false → CanIndent e.style.textLimit width depth) (target : String) :
    (e.reached frames depth s).run (Operation.callActions inside target)
      = (e.reached (callFrames inside target frames) depth
          (s ++ ((if inside then "" else levelBlanks width depth) ++ target ++ "(")), none) := by
  cases inside with
  | true =>
    show (e.reached frames depth s).run [.mark .begun, .write (target ++ "("), .push _] = _
    rw [run_mark, run_write hopen, run_push, run_nil, if_pos rfl, String.empty_append]
    rfl
  | false =>
    show (e.reached frames depth s).run [.indent, .write (target ++ "("), .push _] = _
    rw [run_indent hopen h (hfits rfl), run_write hopen, run_push, run_nil,
      if_neg Bool.false_ne_true]
    simp only [String.append_assoc]
    rfl

theorem perform_target (h : e.Lays width eol) {start : Operation} {target : String}
    (htarget : start.target? = some target) (hstart : (e.perform start).2 = none) :
    let inside := e.place == some .statement
    e.closed = false ∧ e.perform start
      = (e.reached (callFrames inside target e.frames) e.depth
          ((if inside then "" else levelBlanks width e.depth) ++ target ++ "("), none) := by
  intro inside
  obtain ⟨hplaced, hperform, hrun⟩ := run_of_started hstart
  rw [actions_of_target htarget hplaced] at hperform hrun
  -- As the call has been begun, the text is open and the line could be indented.
  have hwritten : Action.write (target ++ "(")
      ∈ Operation.callActions (placeOf e.frames == some .statement) target := by
    simp [Operation.callActions]
  have hopen : e.closed = false := open_of_run hrun hwritten
  have hfits : inside = false → CanIndent e.style.textLimit width e.depth := by
    intro hinside
    rw [show (placeOf e.frames == some Context.statement) = false from hinside] at hrun
    exact canIndent_of_run h hrun
  have hactions : (e.reached e.frames e.depth "").run (Operation.callActions inside target) = _ :=
    run_callActions hopen h hfits target
  rw [reached_self, String.empty_append] at hactions
  exact ⟨hopen, hperform.trans hactions⟩

theorem perform_callEnd (hopen : e.closed = false) (h : e.Lays width eol)
    (hlist : list.context = .arguments) :
    (e.reached (list :: below) depth s).perform .callEnd
      = (e.reached below (depth - list.indent)
          (s ++ (")" ++ (if list.inline then "" else ";" ++ eol))), none) := by
  rw [perform_reached (by simp [placeOf, hlist, Operation.places])]
  show Emitter.run _ ([.pop, .write ")"] ++ if list.inline then [] else [.write ";", .lineEnd]) = _
  cases list.inline with
  | true =>
    rw [if_pos rfl, List.append_nil, run_pop, run_write hopen, run_nil, if_pos rfl,
      String.append_empty]
  | false =>
    rw [if_neg Bool.false_ne_true, List.cons_append, List.cons_append, List.nil_append, run_pop,
      run_write hopen, run_write hopen, run_lineEnd hopen h, run_nil, if_neg Bool.false_ne_true]
    simp only [String.append_assoc]

theorem emit_call (h : e.Lays width eol) {start : Operation} {target : String}
    (htarget : start.target? = some target) (hstart : (e.perform start).2 = none)
    (arguments : List String) :
    let inside := e.place == some .statement
    e.emit (callOperations start arguments)
      = .ok (e.reached (if inside then markTop .begun e.frames else e.frames) e.depth
          (callText inside (levelBlanks width e.depth) eol target arguments)) := by
  intro inside
  obtain ⟨hopen, hperform⟩ := perform_target h htarget hstart
  let list : Frame := { context := .arguments, label := target, inline := inside }
  have hadds : List.Forall₂
      (Adds e list (if inside then markTop .begun e.frames else e.frames) e.depth ", ")
      (arguments.map fun s => .argument (.text s)) arguments := by
    rw [List.forall₂_map_left_iff, List.forall₂_same]
    exact fun s _ => adds_argument hopen rfl
  rw [callOperations, List.cons_append, emit_of_perform hperform]
  show (e.reached ({ list with first := true } :: _) e.depth _).emit _ = _
  rw [emit_elements hadds, separated_eq_intercalate, emit_of_perform (perform_callEnd hopen h rfl)]
  show Except.ok _ = Except.ok _
  rw [callText]
  simp only [String.append_assoc]
  rfl

/-! ## Declarations -/

namespace Operation

/-- The modifiers, the type with a blank behind it, and the name of the callable whose declaration
the operation begins. -/
def head? : Operation → Option (Value × String × String)
  | .constructorStart name ms => some (ms, "", name)
  | .methodStart type name ms => some (ms, type ++ " ", name)
  | _ => none

end Operation

/-- The operation that ends a declaration, with a body or without. -/
def declarationEnd (bodied : Bool) (thrown : List String) : Operation :=
  if bodied then .bodyStart (thrown.map .text) else .bodiless (thrown.map .text)

/-- What follows the thrown types: the body that is opened, or the end of the declaration. -/
def closing (bodied : Bool) (label : String) : List Action :=
  if bodied then
    [.write " \x7b", .lineEnd, .pop, .push { context := .methodBody, label, indent := 1 }]
  else [.write ";", .lineEnd, .lineEnd, .pop]

theorem declarationEnd_actions (style : Style) {bodied : Bool}
    (hbodied : bodied = true → list.bodiless = false) (thrown : List String) :
    (declarationEnd bodied thrown).actions style list
      = .write ")"
        :: (Operation.throwsActions (thrown.map .text) ++ closing bodied list.label) := by
  cases bodied with
  | true =>
    rw [declarationEnd, if_pos rfl, Operation.actions, hbodied rfl, if_neg Bool.false_ne_true,
      List.append_assoc]
    rfl
  | false =>
    rw [declarationEnd, if_neg Bool.false_ne_true, Operation.actions, List.append_assoc]
    rfl

/-- The emitter behind a declaration that was begun at this depth. -/
def behindDeclaration (e : Emitter) (bodied : Bool) (name : String) (below : List Frame)
    (depth : Nat) (s : String) : Emitter :=
  if bodied then
    e.reached ({ context := .methodBody, label := name, indent := 1 } :: below) (depth + 1) s
  else e.reached below depth s

def closingText (eol : String) (bodied : Bool) : String :=
  if bodied then " \x7b" ++ eol else ";" ++ eol ++ eol

theorem run_closing (hopen : e.closed = false) (h : e.Lays width eol) (bodied : Bool) :
    (e.reached (list :: below) depth s).run (closing bodied list.label)
      = (e.behindDeclaration bodied list.label below (depth - list.indent)
          (s ++ closingText eol bodied), none) := by
  cases bodied with
  | true =>
    rw [closing, if_pos rfl, run_write hopen, run_lineEnd hopen h, run_pop, run_push, run_nil,
      String.append_assoc]
    rfl
  | false =>
    rw [closing, if_neg Bool.false_ne_true, run_write hopen, run_lineEnd hopen h,
      run_lineEnd hopen h, run_pop, run_nil, String.append_assoc, String.append_assoc]
    rfl

section DeclarationEnd

variable {bodied : Bool} {thrown : List String}

theorem perform_declarationEnd (hlist : list.context = .parameters)
    (hbodied : bodied = true → list.bodiless = false) :
    (e.reached (list :: below) depth s).perform (declarationEnd bodied thrown)
      = (e.reached (list :: below) depth s).run
          (.write ")" :: (Operation.throwsActions (thrown.map .text)
            ++ closing bodied list.label)) := by
  have hplaced : (declarationEnd bodied thrown).places.contains (placeOf (list :: below))
      = true := by
    cases bodied <;> simp [declarationEnd, placeOf, hlist, Operation.places]
  rw [perform_reached hplaced]
  exact congrArg (Emitter.run _) (declarationEnd_actions e.style hbodied thrown)

theorem perform_declarationEnd_of_canIndent (hopen : e.closed = false) (h : e.Lays width eol)
    (hlist : list.context = .parameters) (hbodied : bodied = true → list.bodiless = false)
    (hfits : thrown = [] ∨ CanIndent e.style.textLimit width depth) :
    (e.reached (list :: below) depth s).perform (declarationEnd bodied thrown)
      = (e.behindDeclaration bodied list.label below (depth - list.indent)
          (s ++ (")" ++ throwsText eol (levelBlanks width depth) thrown
            ++ closingText eol bodied)), none) := by
  rw [perform_declarationEnd hlist hbodied, run_write hopen, run_throws hopen h thrown hfits,
    run_closing hopen h]
  simp only [String.append_assoc]

theorem perform_declarationEnd_stops (hopen : e.closed = false) (h : e.Lays width eol)
    (hlist : list.context = .parameters) (hbodied : bodied = true → list.bodiless = false)
    (hthrown : thrown ≠ []) (hfits : ¬ CanIndent e.style.textLimit width depth) :
    ∃ f, f.IsOversize
      ∧ ((e.reached (list :: below) depth s).perform (declarationEnd bodied thrown)).2
        = some f := by
  rw [perform_declarationEnd hlist hbodied, run_write hopen]
  exact run_throws_stops hopen h hfits hthrown

end DeclarationEnd

theorem inSourceOrder_of_run {as : List Action} (h : (e.run as).2 = none) {v : Value}
    (hv : Action.modifiers v ∈ as) : ∃ ms, InSourceOrder v ms := by
  obtain ⟨middle, middle', hmiddle, -⟩ := exists_apply_of_run h hv
  obtain ⟨s, hs, -⟩ := bind_eq_ok.mp hmiddle
  unfold modifierText at hs
  split at hs
  · next ms hms => exact ⟨ms, modifierSet_eq_ok.mp hms⟩
  · exact nomatch hs

theorem head_actions {style : Style} {start : Operation} {ms : Value} {type name : String}
    (hhead : start.head? = some (ms, type, name))
    (hplaced : start.places.contains (placeOf frames) = true) :
    start.actions style (innermost frames)
      = [.indent, .modifiers ms, .write (type ++ name ++ "("),
          .push { context := .parameters, label := name, indent := 2,
                  bodiless := placeOf frames == some .interfaceBody }] := by
  have hinterface : ((innermost frames).context == .interfaceBody)
      = (placeOf frames == some .interfaceBody) := by cases frames <;> rfl
  cases start with
  | constructorStart =>
    have hplace : placeOf frames = some .classBody := by
      simpa [Operation.places] using hplaced
    cases hhead
    rw [hplace, String.empty_append]
    rfl
  | methodStart =>
    cases hhead
    rw [Operation.actions, hinterface]
  | _ => cases hhead

theorem perform_head (h : e.Lays width eol) {start : Operation} {ms : Value} {type name : String}
    (hhead : start.head? = some (ms, type, name)) (hstart : (e.perform start).2 = none) :
    e.closed = false ∧ ∃ keywords, InSourceOrder ms keywords ∧ e.perform start
      = (e.reached ({ context := .parameters, label := name, indent := 2,
                      bodiless := e.place == some .interfaceBody } :: e.frames) (e.depth + 2)
          (levelBlanks width e.depth ++ (keywordsText keywords ++ type ++ name) ++ "("), none) := by
  obtain ⟨hplaced, hperform, hrun⟩ := run_of_started hstart
  rw [head_actions hhead hplaced] at hperform hrun
  have hopen : e.closed = false := open_of_run hrun (w := type ++ name ++ "(") (by simp)
  have hfits : CanIndent e.style.textLimit width e.depth := canIndent_of_run h hrun
  obtain ⟨keywords, hkeywords⟩ := inSourceOrder_of_run hrun (v := ms) (by simp)
  refine ⟨hopen, keywords, hkeywords, hperform.trans ?_⟩
  nth_rewrite 1 [← reached_self e]
  rw [run_indent hopen h hfits, run_modifiers hopen hkeywords, run_write hopen, run_push, run_nil]
  simp only [String.append_assoc, String.empty_append]
  rfl

/-- The text of a declaration from its head to the end of its line. -/
def declarationText (eol margin inner head : String) (parameters thrown : List String)
    (bodied : Bool) : String :=
  margin ++ head ++ "(" ++ linesText eol inner parameters ++ ")" ++ throwsText eol inner thrown
    ++ closingText eol bodied

/-- The declaration of a callable: its head, its parameters and what ends it. -/
def declarationOperations (start : Operation) (parameters : List Operation) (thrown : List String)
    (bodied : Bool) : List Operation :=
  start :: parameters ++ [declarationEnd bodied thrown]

section Parameters

variable {parameters : List Operation} {texts thrown : List String} {bodied : Bool}

theorem emit_parameters (hopen : e.closed = false) (h : e.Lays width eol)
    (hlist : list.context = .parameters) (hbodied : bodied = true → list.bodiless = false)
    (hparameters : List.Forall₂ Declares parameters texts)
    (hfits : texts = [] ∧ thrown = [] ∨ CanIndent e.style.textLimit width depth) (s : String) :
    (e.reached ({ list with first := true } :: below) depth s).emit
        (parameters ++ [declarationEnd bodied thrown])
      = .ok (e.behindDeclaration bodied list.label below (depth - list.indent)
          (s ++ linesText eol (levelBlanks width depth) texts
            ++ (")" ++ throwsText eol (levelBlanks width depth) thrown
              ++ closingText eol bodied))) := by
  have hadds : List.Forall₂ (Adds e list below depth ",") parameters
      (texts.map fun t => eol ++ levelBlanks width depth ++ t) := by
    rcases hfits with ⟨rfl, -⟩ | hfits
    · cases hparameters
      exact .nil
    · exact List.forall₂_map_right_iff.mpr (hparameters.imp fun _ _ hop =>
        adds_parameter hopen h hfits hlist hop)
  have hend : ∀ first s, (e.reached ({ list with first } :: below) depth s).perform
      (declarationEnd bodied thrown) = _ := fun first s =>
    perform_declarationEnd_of_canIndent hopen h hlist hbodied (hfits.imp_left And.right)
  rw [emit_elements hadds, separated_eq_intercalate, emit_of_perform (hend _ _)]
  rfl

theorem emit_parameters_stops (hopen : e.closed = false) (h : e.Lays width eol)
    (hlist : list.context = .parameters) (hbodied : bodied = true → list.bodiless = false)
    (hparameters : List.Forall₂ Declares parameters texts)
    (hlines : ¬ (texts = [] ∧ thrown = [])) (hfits : ¬ CanIndent e.style.textLimit width depth)
    (s : String) :
    ∃ f, f.IsOversize ∧ (e.reached (list :: below) depth s).emit
      (parameters ++ [declarationEnd bodied thrown]) = .error f := by
  -- What stops is the first line within the parentheses or, without parameters, behind them.
  cases hparameters with
  | nil =>
    have hthrown : thrown ≠ [] := fun hthrown => hlines ⟨rfl, hthrown⟩
    obtain ⟨f, hsize, hf⟩ := perform_declarationEnd_stops hopen h hlist hbodied hthrown hfits
    exact ⟨f, hsize, emit_of_stops hf []⟩
  | cons hop _ =>
    obtain ⟨f, hsize, hf⟩ := perform_parameter_stops hopen h hfits hlist hop s
    exact ⟨f, hsize, emit_of_stops hf _⟩

end Parameters

theorem emit_declaration (h : e.Lays width eol) {start : Operation} {ms : Value}
    {type name : String} (hhead : start.head? = some (ms, type, name))
    (hstart : (e.perform start).2 = none) :
    ∃ keywords, InSourceOrder ms keywords ∧ ∀ parameters texts thrown bodied,
      List.Forall₂ Declares parameters texts →
      (bodied = true → e.place ≠ some .interfaceBody) →
      ReachesIf (texts = [] ∧ thrown = [] ∨ CanIndent e.style.textLimit width (e.depth + 2))
        (e.emit (declarationOperations start parameters thrown bodied))
        (e.behindDeclaration bodied name e.frames e.depth
          (declarationText eol (levelBlanks width e.depth) (levelBlanks width (e.depth + 2))
            (keywordsText keywords ++ type ++ name) texts thrown bodied)) := by
  obtain ⟨hopen, keywords, hkeywords, hperform⟩ := perform_head h hhead hstart
  refine ⟨keywords, hkeywords, fun parameters texts thrown bodied hparameters hplace => ?_⟩
  let list : Frame := { context := .parameters, label := name, indent := 2,
                        bodiless := e.place == some .interfaceBody }
  have hbodied : bodied = true → list.bodiless = false := fun hbodied =>
    beq_eq_false_iff_ne.mpr (hplace hbodied)
  rw [declarationOperations, List.cons_append, emit_of_perform hperform]
  show ReachesIf _ ((e.reached ({ list with first := true } :: e.frames) _ _).emit _) _
  constructor
  · intro hfits
    rw [emit_parameters hopen h rfl hbodied hparameters hfits, declarationText]
    simp only [String.append_assoc]
    rfl
  · intro hfits
    rw [not_or] at hfits
    exact emit_parameters_stops hopen h rfl hbodied hparameters hfits.1 hfits.2 _

/-! ## Instances -/

/-- The creation of an instance, its arguments each on a line of its own. -/
def instanceText (eol inner name : String) (arguments : List String) : String :=
  "new " ++ name ++ "(" ++ linesText eol inner arguments ++ ")"

theorem newInstance_actions (style : Style) {frame : Frame} (hfirst : frame.first = true)
    (name : String) (arguments : List Value) :
    (Operation.newInstance name arguments).actions style frame
      = [.mark .begun, .write ("new " ++ name ++ "("), .deepen 2]
        ++ Operation.argumentLines arguments ++ [.shallow 2, .write ")"] := by
  rw [Operation.actions, hfirst]
  rfl

/-- Where an instance can be created without arguments, it can be begun with any. -/
theorem perform_newInstance {name : String}
    (hstart : (e.perform (.newInstance name [])).2 = none) :
    e.closed = false ∧ ∀ arguments, e.perform (.newInstance name arguments)
      = (e.reached (markTop .begun e.frames) (e.depth + 2) ("new " ++ name ++ "(")).run
          (Operation.argumentLines arguments ++ [.shallow 2, .write ")"]) := by
  obtain ⟨hplaced, -, hrun⟩ := run_of_started hstart
  -- In a statement with an expression the instance without arguments would be refused too.
  have hfirst : (innermost e.frames).first = true := by
    by_contra hfirst
    rw [Bool.not_eq_true] at hfirst
    rw [Operation.actions, hfirst] at hrun
    cases hrun
  rw [newInstance_actions e.style hfirst] at hrun
  have hwritten : Action.write ")" ∈ [.mark .begun, .write ("new " ++ name ++ "("), .deepen 2]
      ++ Operation.argumentLines [] ++ [.shallow 2, .write ")"] := by simp
  have hopen : e.closed = false := open_of_run hrun hwritten
  refine ⟨hopen, fun arguments => ?_⟩
  have hperform : e.perform (.newInstance name arguments)
      = e.run ((Operation.newInstance name arguments).actions e.style (innermost e.frames)) :=
    if_pos hplaced
  rw [hperform, newInstance_actions e.style hfirst, List.append_assoc]
  nth_rewrite 1 [← reached_self e]
  simp only [List.cons_append, List.nil_append]
  rw [run_mark, run_write hopen, run_deepen, String.empty_append]

/-- The depth of the arguments ends with them. -/
theorem emit_instance (h : e.Lays width eol) {name : String} (arguments : List String)
    (hstart : (e.perform (.newInstance name [])).2 = none) :
    ReachesIf (arguments = [] ∨ CanIndent e.style.textLimit width (e.depth + 2))
      (e.emit [.newInstance name (arguments.map .text)])
      (e.reached (markTop .begun e.frames) e.depth
        (instanceText eol (levelBlanks width (e.depth + 2)) name arguments)) := by
  obtain ⟨hopen, hperform⟩ := perform_newInstance hstart
  constructor
  · intro hfits
    have hlast : e.perform (.newInstance name (arguments.map .text))
        = (e.reached (markTop .begun e.frames) e.depth
            (instanceText eol (levelBlanks width (e.depth + 2)) name arguments), none) := by
      rw [hperform, run_argumentLines hopen h arguments hfits, run_shallow, run_write hopen,
        run_nil, Nat.add_sub_cancel, instanceText]
    rw [emit_of_perform hlast]
    rfl
  · intro hfits
    rw [not_or] at hfits
    obtain ⟨f, hsize, hf⟩ : ∃ f, f.IsOversize
        ∧ (e.perform (.newInstance name (arguments.map .text))).2 = some f := by
      rw [hperform]
      exact run_argumentLines_stops hopen h hfits.2 hfits.1
    exact ⟨f, hsize, emit_of_stops hf []⟩

/-! ## Every list -/

/-- From every emitter where a list can be begun, its elements are written in order, as many as
there are, with the separator between each two and nowhere else. -/
theorem lists_written (h : e.Lays width eol) :
    (∀ (start : Operation) (target : String), start.target? = some target →
      (e.perform start).2 = none → ∀ arguments,
        let inside := e.place == some .statement
        e.emit (callOperations start arguments)
          = .ok (e.reached (if inside then markTop .begun e.frames else e.frames) e.depth
              (callText inside (levelBlanks width e.depth) eol target arguments)))
    ∧ (∀ (start : Operation) (ms : Value) (type name : String),
      start.head? = some (ms, type, name) → (e.perform start).2 = none →
        ∃ keywords, InSourceOrder ms keywords ∧ ∀ parameters texts thrown bodied,
          List.Forall₂ Declares parameters texts →
          (bodied = true → e.place ≠ some .interfaceBody) →
          ReachesIf (texts = [] ∧ thrown = [] ∨ CanIndent e.style.textLimit width (e.depth + 2))
            (e.emit (declarationOperations start parameters thrown bodied))
            (e.behindDeclaration bodied name e.frames e.depth
              (declarationText eol (levelBlanks width e.depth) (levelBlanks width (e.depth + 2))
                (keywordsText keywords ++ type ++ name) texts thrown bodied)))
    ∧ (∀ name, (e.perform (.newInstance name [])).2 = none → ∀ arguments,
        ReachesIf (arguments = [] ∨ CanIndent e.style.textLimit width (e.depth + 2))
          (e.emit [.newInstance name (arguments.map .text)])
          (e.reached (markTop .begun e.frames) e.depth
            (instanceText eol (levelBlanks width (e.depth + 2)) name arguments))) :=
  ⟨fun _ _ htarget hstart arguments => emit_call h htarget hstart arguments,
    fun _ _ _ _ hhead hstart => emit_declaration h hhead hstart,
    fun _ hstart arguments => emit_instance h arguments hstart⟩

/-- The body of a class is open after these. -/
def bodyOpened (width : Int) : Emitter :=
  (performAll { style := { indentWidth := .int width } }
    (classDeclaration "Sample" "" (.list []))).1

def sampleParameters : List Operation :=
  [ .parameter (.list [.text "@A", .text "@B"]) "int" "low" (.list [.text "final"]),
    .parameter (.text "") "int" "high" (.list []) ]

theorem declares_sampleParameters :
    List.Forall₂ Declares sampleParameters ["@A @B final int low", "int high"] := by
  have hannotations : Joined (.list [.text "@A", .text "@B"]) (" ".intercalate ["@A", "@B"]) :=
    .collection rfl rfl
  have hlow : Declares (.parameter (.list [.text "@A", .text "@B"]) "int" "low"
      (.list [.text "final"])) (parameterText (" ".intercalate ["@A", "@B"]) [.final] "int" "low") :=
    .parameter "int" "low" hannotations (modifierSet_eq_ok.mp rfl)
  have hhigh : Declares (.parameter (.text "") "int" "high" (.list []))
      (parameterText "" [] "int" "high") :=
    .parameter "int" "high" (.text "") (modifierSet_eq_ok.mp rfl)
  exact .cons hlow (.cons hhigh .nil)

/-- A method with two parameters and two thrown types, and in its body a call and an instance with
two arguments each. -/
theorem lists_written_in_method :
    let outer := bodyOpened 4
    let inner := (performAll outer [.methodStart "int" "run" (.list []), .bodyStart []]).1
    let statement := (performAll inner [.returnStart]).1
    outer.emit (declarationOperations
        (.methodStart "int" "clamp" (.list [.text "static", .text "public"])) sampleParameters
        ["IOException", "TimeoutException"] true)
      = .ok (outer.behindDeclaration true "clamp" outer.frames outer.depth
          ("    public static int clamp(\n            @A @B final int low,\n            int high)"
            ++ " throws\n            IOException,\n            TimeoutException \x7b\n"))
    ∧ inner.emit (callOperations (.callStart "other") ["1", "2"])
      = .ok (inner.reached inner.frames inner.depth "        other(1, 2);\n")
    ∧ statement.emit [.newInstance "Thing" [.text "1", .text "2"]]
      = .ok (statement.reached (markTop .begun statement.frames) statement.depth
          "new Thing(\n                1,\n                2)") := by
  intro outer inner statement
  have houter : outer.Lays 4 "\n" := ⟨rfl, rfl⟩
  have hinner : inner.Lays 4 "\n" := ⟨rfl, rfl⟩
  have hstatement : statement.Lays 4 "\n" := ⟨rfl, rfl⟩
  refine ⟨?declaration, ?call, ?creation⟩
  case declaration =>
    obtain ⟨keywords, hkeywords, hwritten⟩ := (lists_written houter).2.1
      (.methodStart "int" "clamp" (.list [.text "static", .text "public"])) _ _ _ rfl
      (by decide +kernel)
    have hsorted : [.«public», .static] = keywords :=
      Except.ok.inj (modifierSet_eq_ok.mpr hkeywords)
    have hlist := (hwritten _ _ ["IOException", "TimeoutException"] true declares_sampleParameters
      (fun _ => by decide +kernel)).1 (.inr (by decide +kernel))
    refine hlist.trans (congrArg (Except.ok <| outer.behindDeclaration true "clamp" _ _ ·) ?_)
    rw [← hsorted]
    decide +kernel
  case call =>
    have hlist := (lists_written hinner).1 (.callStart "other") _ rfl (by decide +kernel) ["1", "2"]
    refine hlist.trans (congrArg (Except.ok <| inner.reached _ _ ·) ?_)
    decide +kernel
  case creation =>
    have hlist := ((lists_written hstatement).2.2 "Thing" (by decide +kernel) ["1", "2"]).1
      (.inr (by decide +kernel))
    refine hlist.trans (congrArg (Except.ok <| statement.reached _ _ ·) ?_)
    decide +kernel

/-- A width so far below zero that only the blanks of two levels can be counted lets the list be
opened, and stops its first element. -/
theorem parameter_stopped_by_indentation :
    (bodyOpened (-4000000000000000000)).Lays (-4000000000000000000) "\n"
    ∧ ((bodyOpened (-4000000000000000000)).perform (.constructorStart "Sample" (.list []))).2 = none
    ∧ Declares (.parameter (.list []) "int" "limit" (.list [])) "int limit"
    ∧ (bodyOpened (-4000000000000000000)).emit
        (declarationOperations (.constructorStart "Sample" (.list []))
          [.parameter (.list []) "int" "limit" (.list [])] [] true) = .error .countTooLarge := by
  have hannotations : Joined (.list []) (" ".intercalate []) := .collection rfl rfl
  have hparameter : Declares (.parameter (.list []) "int" "limit" (.list []))
      (parameterText (" ".intercalate []) [] "int" "limit") :=
    .parameter "int" "limit" hannotations (modifierSet_eq_ok.mp rfl)
  exact ⟨⟨rfl, rfl⟩, rfl, hparameter, rfl⟩

end Emitter
end JavaCompanion
