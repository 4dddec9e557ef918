/-
Lists, element by element.

Arguments and parameters are given by operations of their own, and the flag of the open list tells
whether one has been given.  So an operation adds its element behind a separator, unless it is the
first (`Adds`), and all together add the elements joined by the separator (`emit_elements`).  Thrown
types and the arguments of an instance are laid out by a single operation, each on a line of its own
(`run_throws`, `run_argumentLines`).
-/
import JavaCompanion.Proofs.Emitter.Written
import JavaCompanion.Proofs.Java.Modifier

namespace JavaCompanion
namespace Emitter

open Java

/-! ## The texts of lists -/

def keywordsText (ms : List Modifier) : String :=
  String.join (ms.map fun m => m.keyword ++ " ")

/-- Annotations, modifiers, type and name of a parameter. -/
def parameterText (annotations : String) (ms : List Modifier) (type name : String) : String :=
  (if annotations = "" then "" else annotations ++ " ") ++ keywordsText ms ++ type ++ " " ++ name

/-- Elements that each begin a line, with a comma behind each but the last. -/
def linesText (eol margin : String) (elements : List String) : String :=
  ",".intercalate (elements.map fun s => eol ++ margin ++ s)

/-- Thrown types, each on a line of its own, or nothing if there are none. -/
def throwsText (eol margin : String) (thrown : List String) : String :=
  if thrown = [] then ""
  else " throws" ++ eol ++ ("," ++ eol).intercalate (thrown.map fun s => margin ++ s)

/-- A text or a collection of texts, joined by blanks. -/
inductive Joined : Value → String → Prop
  | text (s : String) : Joined (.text s) s
  | collection {v : Value} {texts : List String} (hv : v.isCollection = true)
      (hitems : v.items = .ok (texts.map .text)) : Joined v (" ".intercalate texts)

/-- The operation gives a parameter with this text. -/
inductive Declares : Operation → String → Prop
  | parameter {annotations ms : Value} {joined : String} {keywords : List Modifier}
      (type name : String) (hjoined : Joined annotations joined)
      (hkeywords : InSourceOrder ms keywords) :
      Declares (.parameter annotations type name ms) (parameterText joined keywords type name)

variable {e : Emitter} {width : Int} {eol s : String} {frames below : List Frame} {list : Frame}
  {depth : Nat} {more : List Action} {op : Operation}

theorem run_modifiers {v : Value} {ms : List Modifier} (hopen : e.closed = false)
    (h : InSourceOrder v ms) :
    (e.reached frames depth s).run (.modifiers v :: more)
      = (e.reached frames depth (s ++ keywordsText ms)).run more := by
  have htext : modifierText v = .ok (keywordsText ms) := by
    rw [modifierText, modifierSet_eq_ok.mpr h]
    rfl
  by_cases hnone : keywordsText ms = ""
  · have happly : (e.reached frames depth s).apply (.modifiers v)
        = .ok (e.reached frames depth s) := by
      rw [apply, htext]
      exact if_pos hnone
    rw [run, happly, hnone, String.append_empty]
  · have happly : (e.reached frames depth s).apply (.modifiers v)
        = (e.reached frames depth s).append (keywordsText ms) := by
      rw [apply, htext]
      exact if_neg hnone
    rw [run, happly]
    exact run_write hopen

theorem joinedAnnotations_of_joined {v : Value} (h : Joined v s) :
    Operation.joinedAnnotations v = .ok s := by
  cases h with
  | text => rfl
  | @collection _ texts hv hitems =>
    have hjoined : joinedText " " v = .ok (" ".intercalate texts) := by
      rw [joinedText, hitems, ok_bind, mapM_asOperand_texts]
      rfl
    cases v with
    | list _ | object _ => exact hjoined
    | _ => exact nomatch hv

/-! ## Elements that are given one by one -/

/-- Texts with a separator before each, unless the first of them begins the list. -/
def separated (separator : String) : Bool → List String → String
  | _, [] => ""
  | first, s :: rest => (if first then "" else separator) ++ s ++ separated separator false rest

theorem separated_cons (separator : String) (first : Bool) (s : String) (rest : List String) :
    separated separator first (s :: rest)
      = (if first then "" else separator) ++ separator.intercalate (s :: rest) := by
  induction rest generalizing first s with
  | nil => cases first <;> simp [separated]
  | cons t rest ih =>
    rw [separated, ih, String.intercalate_cons_cons]
    simp only [String.append_assoc, Bool.false_eq_true, if_false]

theorem separated_eq_intercalate (separator : String) (texts : List String) :
    separated separator true texts = separator.intercalate texts := by
  cases texts with
  | nil => rw [separated, String.intercalate_nil]
  | cons s rest => rw [separated_cons, if_pos rfl, String.empty_append]

/-- The operation adds an element to the open list, with the separator before it unless it is the
first. -/
def Adds (e : Emitter) (list : Frame) (below : List Frame) (depth : Nat) (separator : String)
    (op : Operation) (element : String) : Prop :=
  ∀ first s, (e.reached ({ list with first } :: below) depth s).perform op
    = (e.reached ({ list with first := false } :: below) depth
        (s ++ ((if first then "" else separator) ++ element)), none)

theorem emit_elements {separator : String} {ops : List Operation} {elements : List String}
    (h : List.Forall₂ (Adds e list below depth separator) ops elements) (first : Bool) (s : String)
    (more : List Operation) :
    (e.reached ({ list with first } :: below) depth s).emit (ops ++ more)
      = (e.reached ({ list with first := first && elements.isEmpty } :: below) depth
          (s ++ separated separator first elements)).emit more := by
  -- Any flag, as the operations behind the first find it cleared.
  induction h generalizing first s with
  | nil => rw [separated, String.append_empty, List.isEmpty_nil, Bool.and_true, List.nil_append]
  | @cons op element ops elements hop _ ih =>
    rw [List.cons_append, emit_of_perform (hop first s), ih, separated, List.isEmpty_cons,
      Bool.and_false, Bool.false_and, String.append_assoc, String.append_assoc]

/-- An operation that writes the separator, unless it is the first, and marks the list, adds what it
writes then. -/
theorem adds_of_run {separator element : String} {rest : List Action} (hopen : e.closed = false)
    (hplaced : op.places.contains (some list.context) = true)
    (hactions : ∀ first, op.actions e.style { list with first }
      = (if first then [] else [.write separator]) ++ .mark .begun :: rest)
    (hrest : ∀ s, (e.reached ({ list with first := false } :: below) depth s).run rest
      = (e.reached ({ list with first := false } :: below) depth (s ++ element), none)) :
    Adds e list below depth separator op element := by
  intro first s
  rw [perform_reached hplaced]
  show Emitter.run _ (op.actions e.style { list with first }) = _
  rw [hactions]
  cases first with
  | true =>
    rw [if_pos rfl, List.nil_append, run_mark, if_pos rfl, String.empty_append]
    exact hrest s
  | false =>
    rw [if_neg Bool.false_ne_true, List.cons_append, List.nil_append, run_write hopen, run_mark,
      if_neg Bool.false_ne_true, ← String.append_assoc]
    exact hrest (s ++ separator)

/-! ## Arguments -/

theorem adds_argument (hopen : e.closed = false) (hlist : list.context = .arguments) :
    Adds e list below depth ", " (.argument (.text s)) s := by
  refine adds_of_run hopen (by rw [hlist]; rfl) (fun first => rfl) fun t => ?_
  rw [run_writeValue hopen, run_nil]

/-! ## Parameters -/

/-- The actions of a parameter whose annotations are joined. -/
theorem parameterLine_of_joined {annotations : Value} {joined : String}
    (h : Joined annotations joined) (ms : Value) (declared : String) :
    Operation.parameterLine annotations ms declared
      = [.lineEnd, .indent] ++ (if joined = "" then [] else [.write joined, .write " "])
        ++ [.modifiers ms, .write declared] := by
  rw [Operation.parameterLine, joinedAnnotations_of_joined h]

theorem run_parameterLine {annotations ms : Value} {joined : String} {keywords : List Modifier}
    {type name : String} (hopen : e.closed = false) (h : e.Lays width eol)
    (hfits : CanIndent e.style.textLimit width depth) (hjoined : Joined annotations joined)
    (hkeywords : InSourceOrder ms keywords) :
    (e.reached frames depth s).run
        (Operation.parameterLine annotations ms (type ++ " " ++ name))
      = (e.reached frames depth
          (s ++ (eol ++ levelBlanks width depth ++ parameterText joined keywords type name)),
        none) := by
  rw [parameterLine_of_joined hjoined, List.append_assoc, List.cons_append, List.cons_append,
    List.nil_append, run_lineEnd hopen h, run_indent hopen h hfits, parameterText]
  split
  · rw [List.nil_append, run_modifiers hopen hkeywords, run_write hopen, run_nil]
    simp only [String.append_assoc, String.empty_append]
  · rw [List.cons_append, List.cons_append, List.nil_append, run_write hopen, run_write hopen,
      run_modifiers hopen hkeywords, run_write hopen, run_nil]
    simp only [String.append_assoc]

theorem adds_parameter (hopen : e.closed = false) (h : e.Lays width eol)
    (hfits : CanIndent e.style.textLimit width depth) (hlist : list.context = .parameters)
    (hop : Declares op s) :
    Adds e list below depth "," op (eol ++ levelBlanks width depth ++ s) := by
  obtain ⟨type, name, hjoined, hkeywords⟩ := hop
  refine adds_of_run hopen (by rw [hlist]; rfl) (fun first => ?_) fun t =>
    run_parameterLine hopen h hfits hjoined hkeywords
  rw [Operation.actions, List.append_assoc]
  rfl

/-- A parameter is noticed not to be indented once its line has begun. -/
theorem perform_parameter_stops (hopen : e.closed = false) (h : e.Lays width eol)
    (hfits : ¬ CanIndent e.style.textLimit width depth) (hlist : list.context = .parameters)
    (hop : Declares op s)
    (t : String) :
    ∃ f, f.IsOversize ∧ ((e.reached (list :: below) depth t).perform op).2 = some f := by
  obtain ⟨type, name, hjoined, hkeywords⟩ := hop
  rw [perform_reached (by simp [placeOf, hlist, Operation.places]), Operation.actions,
    parameterLine_of_joined hjoined]
  split
  · simp only [List.cons_append, List.nil_append]
    rw [run_mark, run_lineEnd hopen h]
    exact run_indent_stops h hfits
  · simp only [List.cons_append, List.nil_append]
    rw [run_write hopen, run_mark, run_lineEnd hopen h]
    exact run_indent_stops h hfits

/-! ## Thrown types -/

theorem run_throwsFrom (hopen : e.closed = false) (h : e.Lays width eol)
    (hfits : CanIndent e.style.textLimit width depth) (thrown : List String) (s : String) :
    (e.reached frames depth s).run (Operation.throwsFrom (thrown.map .text) ++ more)
      = (e.reached frames depth (s ++ ("," ++ eol).intercalate
          (thrown.map fun t => levelBlanks width depth ++ t))).run more := by
  induction thrown generalizing s with
  | nil => rw [List.map_nil, List.map_nil, String.intercalate_nil, String.append_empty]; rfl
  | cons t rest ih =>
    -- No comma stands behind the last type, so that a single one is a case of its own.
    cases rest with
    | nil =>
      show Emitter.run _ ([.indent, .writeValue (.text t)] ++ more) = _
      rw [List.cons_append, List.cons_append, List.nil_append, run_indent hopen h hfits,
        run_writeValue hopen, List.map_singleton, String.intercalate_singleton, String.append_assoc]
    | cons u rest =>
      show Emitter.run _ ([.indent, .writeValue (.text t), .write ",", .lineEnd]
        ++ Operation.throwsFrom ((u :: rest).map .text) ++ more) = _
      simp only [List.cons_append, List.nil_append]
      rw [run_indent hopen h hfits, run_writeValue hopen, run_write hopen, run_lineEnd hopen h, ih,
        List.map_cons, List.map_cons, List.map_cons, String.intercalate_cons_cons]
      simp only [String.append_assoc]

theorem run_throws (hopen : e.closed = false) (h : e.Lays width eol) (thrown : List String)
    (hfits : thrown = [] ∨ CanIndent e.style.textLimit width depth) :
    (e.reached frames depth s).run (Operation.throwsActions (thrown.map .text) ++ more)
      = (e.reached frames depth (s ++ throwsText eol (levelBlanks width depth) thrown)).run
          more := by
  cases thrown with
  | nil => rw [throwsText, if_pos rfl, String.append_empty]; rfl
  | cons t rest =>
    have hindent : CanIndent e.style.textLimit width depth :=
      hfits.resolve_left (List.cons_ne_nil t rest)
    show Emitter.run _ ([.write " throws", .lineEnd]
      ++ Operation.throwsFrom ((t :: rest).map .text) ++ more) = _
    rw [List.append_assoc, List.cons_append, List.cons_append, List.nil_append, run_write hopen,
      run_lineEnd hopen h, run_throwsFrom hopen h hindent, throwsText,
      if_neg (List.cons_ne_nil t rest)]
    simp only [String.append_assoc]

theorem run_throws_stops (hopen : e.closed = false) (h : e.Lays width eol)
    (hfits : ¬ CanIndent e.style.textLimit width depth) {thrown : List String}
    (hthrown : thrown ≠ []) :
    ∃ f, f.IsOversize ∧ ((e.reached frames depth s).run
      (Operation.throwsActions (thrown.map .text) ++ more)).2 = some f := by
  obtain ⟨t, rest, rfl⟩ := List.exists_cons_of_ne_nil hthrown
  have hbegins : ∃ tail, Operation.throwsActions ((t :: rest).map .text)
      = .write " throws" :: .lineEnd :: .indent :: tail := by cases rest <;> exact ⟨_, rfl⟩
  obtain ⟨tail, htail⟩ := hbegins
  rw [htail, List.cons_append, List.cons_append, List.cons_append, run_write hopen,
    run_lineEnd hopen h]
  exact run_indent_stops h hfits

/-! ## Arguments of an instance -/

theorem run_argumentLines (hopen : e.closed = false) (h : e.Lays width eol)
    (arguments : List String) (hfits : arguments = [] ∨ CanIndent e.style.textLimit width depth) :
    (e.reached frames depth s).run (Operation.argumentLines (arguments.map .text) ++ more)
      = (e.reached frames depth (s ++ linesText eol (levelBlanks width depth) arguments)).run
          more := by
  induction arguments generalizing s with
  | nil =>
    rw [linesText, List.map_nil, List.map_nil, String.intercalate_nil, String.append_empty]
    rfl
  | cons t rest ih =>
    have hindent : CanIndent e.style.textLimit width depth :=
      hfits.resolve_left (List.cons_ne_nil t rest)
    cases rest with
    | nil =>
      show Emitter.run _ ([.lineEnd, .indent, .writeValue (.text t)] ++ more) = _
      simp only [List.cons_append, List.nil_append]
      rw [run_lineEnd hopen h, run_indent hopen h hindent, run_writeValue hopen, linesText,
        List.map_singleton, String.intercalate_singleton]
      simp only [String.append_assoc]
    | cons u rest =>
      show Emitter.run _ ([.lineEnd, .indent, .writeValue (.text t), .write ","]
        ++ Operation.argumentLines ((u :: rest).map .text) ++ more) = _
      simp only [List.cons_append, List.nil_append]
      rw [run_lineEnd hopen h, run_indent hopen h hindent, run_writeValue hopen, run_write hopen,
        ih (.inr hindent), linesText, linesText, List.map_cons, List.map_cons, List.map_cons,
        String.intercalate_cons_cons]
      simp only [String.append_assoc]

theorem run_argumentLines_stops (hopen : e.closed = false) (h : e.Lays width eol)
    (hfits : ¬ CanIndent e.style.textLimit width depth) {arguments : List String}
    (harguments : arguments ≠ []) :
    ∃ f, f.IsOversize ∧ ((e.reached frames depth s).run
      (Operation.argumentLines (arguments.map .text) ++ more)).2 = some f := by
  obtain ⟨t, rest, rfl⟩ := List.exists_cons_of_ne_nil harguments
  have hbegins : ∃ tail, Operation.argumentLines ((t :: rest).map .text)
      = .lineEnd :: .indent :: tail := by cases rest <;> exact ⟨_, rfl⟩
  obtain ⟨tail, htail⟩ := hbegins
  rw [htail, List.cons_append, List.cons_append, run_lineEnd hopen h]
  exact run_indent_stops h hfits

end Emitter
end JavaCompanion
