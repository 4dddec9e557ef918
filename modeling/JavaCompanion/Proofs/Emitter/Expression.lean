/-
Statements and the expressions in them.

An operation reaches no frame below the innermost one (`tail_suffix_perform`).  So an open statement
is changed only by operations that find it innermost, and these leave it as it is, mark it as begun,
or end it (`statement_perform`).  The mark therefore tells whether an expression has been begun in
the statement (`statement_performEach`).  An instance is created in it while none has, and never
afterwards (`second_instance_refused`).
-/
import JavaCompanion.Proofs.Emitter.Rejection

namespace JavaCompanion
namespace Emitter

variable {e e' : Emitter} {op : Operation} {s : Frame} {below : List Frame}

/-! ## The frames that actions reach -/

/-- Whether the action changes which frames are open, or marks one. -/
def Action.reframes : Action → Bool
  | .push _ | .pop | .mark _ => true
  | _ => false

/-- Whether actions reach no further down than the innermost `n` frames. -/
def within : Nat → List Action → Bool
  | _, [] => true
  | n, .push _ :: rest => within (n + 1) rest
  | n, .pop :: rest => 0 < n && within (n - 1) rest
  | n, .mark _ :: rest => 0 < n && within n rest
  | n, _ :: rest => within n rest

theorem within_cons {a : Action} (ha : a.reframes = false) (n : Nat) (rest : List Action) :
    within n (a :: rest) = within n rest := by
  cases a with
  | push _ | pop | mark _ => exact nomatch ha
  | _ => rfl

theorem within_append {as : List Action} (has : ∀ a ∈ as, a.reframes = false) (n : Nat)
    (bs : List Action) : within n (as ++ bs) = within n bs := by
  induction as with
  | nil => rfl
  | cons a rest ih =>
    rw [List.cons_append, within_cons (has a List.mem_cons_self)]
    exact ih fun b hb => has b (List.mem_cons_of_mem a hb)

theorem frames_of_apply {a : Action} (ha : a.reframes = false) (h : e.apply a = .ok e') :
    e'.frames = e.frames := by
  have hframes := congrArg Skeleton.frames (apply_skeleton h).1
  cases a with
  | push _ | pop | mark _ => exact nomatch ha
  | _ => exact hframes

theorem frames_run {as : List Action} (has : ∀ a ∈ as, a.reframes = false) :
    (e.run as).1.frames = e.frames := by
  induction as generalizing e with
  | nil => rfl
  | cons a rest ih =>
    rw [run]
    cases happly : e.apply a with
    | error f => rfl
    | ok middle =>
      rw [← frames_of_apply (has a List.mem_cons_self) happly]
      exact ih fun b hb => has b (List.mem_cons_of_mem a hb)

/-- A run leaves the frames that its actions do not reach, also where it fails. -/
theorem run_within {as : List Action} (above : List Frame) {base : List Frame}
    (hframes : e.frames = above ++ base) (has : within above.length as = true) :
    base <:+ (e.run as).1.frames := by
  induction as generalizing e above with
  | nil => exact ⟨above, hframes.symm⟩
  | cons a rest ih =>
    rw [run]
    cases happly : e.apply a with
    | error f => exact ⟨above, hframes.symm⟩
    | ok middle =>
      have hmiddle : middle.frames = (a.skeleton e.skeleton).frames :=
        congrArg Skeleton.frames (apply_skeleton happly).1
      cases a with
      | push f =>
        refine ih (f :: above) ?_ has
        rw [hmiddle]
        exact congrArg (List.cons f) hframes
      | pop =>
        cases above with
        | nil => exact absurd has Bool.false_ne_true
        | cons f above =>
          refine ih above ?_ has
          rw [hmiddle, Action.skeleton, skeleton, hframes]
          rfl
      | mark m =>
        cases above with
        | nil => exact absurd has Bool.false_ne_true
        | cons f above =>
          refine ih (f.mark m :: above) ?_ has
          rw [hmiddle]
          exact congrArg (markTop m) hframes
      | _ => exact ih above (hmiddle.trans hframes) has

/-! ## The frames that operations reach -/

theorem common_keeps : Common fun a => a.reframes = false := ⟨fun _ => rfl, rfl, rfl⟩

theorem within_actions (style : Style) (frame : Frame) (op : Operation) :
    within 1 (op.actions style frame) = true := by
  cases op with
  | packageDeclaration _ | callEnd =>
    simp only [Operation.actions]
    split <;> rfl
  | headerComment text =>
    have hlines : ∀ a ∈ Operation.commentLines text, a.reframes = false :=
      forall_commentLines common_keeps fun _ _ => rfl
    simp only [Operation.actions, List.append_assoc]
    rw [within_append (by simp [Action.reframes]), within_append hlines]
    rfl
  | classStart name provenance ms =>
    simp only [Operation.actions]
    rw [within_append (forall_generatedLine common_keeps style.generatedMarker provenance)]
    rfl
  | interfaceStart name provenance ms extended =>
    have hextended : ∀ a ∈ Operation.extendsActions extended, a.reframes = false :=
      forall_extendsActions common_keeps (fun _ _ => rfl) (fun _ _ => rfl)
    simp only [Operation.actions, List.append_assoc]
    rw [within_append (forall_generatedLine common_keeps style.generatedMarker provenance)]
    show within 1 (Operation.extendsActions extended ++ _) = true
    rw [within_append hextended]
    rfl
  | classExtends _ | classImplements _ =>
    simp only [Operation.actions]
    split
    · rfl
    · split <;> rfl
  | parameter annotations type name ms =>
    have hline : ∀ a ∈ Operation.parameterLine annotations ms (type ++ " " ++ name),
        a.reframes = false := forall_parameterLine common_keeps (fun _ _ => rfl) rfl
    simp only [Operation.actions, List.append_assoc]
    rw [within_append (by split <;> simp [Action.reframes])]
    show within 1 (Operation.parameterLine annotations ms (type ++ " " ++ name)) = true
    rw [← List.append_nil (Operation.parameterLine ..), within_append hline]
    rfl
  | argument value =>
    simp only [Operation.actions]
    rw [within_append (by split <;> simp [Action.reframes])]
    rfl
  | bodyStart thrown =>
    have hthrows : ∀ a ∈ Operation.throwsActions thrown, a.reframes = false :=
      forall_throwsActions common_keeps fun _ _ => rfl
    simp only [Operation.actions]
    split
    · rfl
    · rw [List.append_assoc, within_append (by simp [Action.reframes]), within_append hthrows]
      rfl
  | bodiless thrown =>
    have hthrows : ∀ a ∈ Operation.throwsActions thrown, a.reframes = false :=
      forall_throwsActions common_keeps fun _ _ => rfl
    simp only [Operation.actions]
    rw [List.append_assoc, within_append (by simp [Action.reframes]), within_append hthrows]
    rfl
  | newInstance name arguments =>
    have hlines : ∀ a ∈ Operation.argumentLines arguments, a.reframes = false :=
      forall_argumentLines common_keeps fun _ _ => rfl
    simp only [Operation.actions]
    split
    · rfl
    · rw [List.append_assoc]
      show within 1 (Operation.argumentLines arguments ++ _) = true
      rw [within_append hlines]
      rfl
  | superCallStart _ | callStart _ =>
    simp only [Operation.actions, Operation.callActions]
    split <;> rfl
  | _ => rfl

/-- An operation reaches no frame below the innermost one. -/
theorem tail_suffix_perform (e : Emitter) (op : Operation) :
    e.frames.tail <:+ (e.perform op).1.frames := by
  unfold perform
  split
  · cases hframes : e.frames with
    | nil => exact List.nil_suffix
    | cons f below => exact run_within [f] hframes (within_actions _ _ op)
  · exact List.tail_suffix e.frames

/-! ## Operations in an open statement -/

namespace Operation

/-- Whether the operation begins an expression where a statement is open. -/
def isExpression : Operation → Bool
  | .newInstance .. | .callStart _ | .superCallStart _ => true
  | _ => false

/-- The label of the statement that the operation opens. -/
def statementLabel : Operation → Option String
  | .declarationStart _ name _ => some name
  | .returnStart => some "return"
  | _ => none

end Operation

theorem callActions_inStatement (target : String) :
    ∃ rest, Operation.callActions true target = .mark .begun :: rest ∧ within 0 rest = true :=
  ⟨_, rfl, rfl⟩

/-- An expression marks the statement that it is begun in, and reaches it no further. -/
theorem actions_of_expression (style : Style) {frame : Frame} (hop : op.isExpression = true)
    (hframe : frame.context = .statement) (hadmits : op.admits frame = true) :
    ∃ rest, op.actions style frame = .mark .begun :: rest ∧ within 0 rest = true := by
  cases op with
  | newInstance name arguments =>
    have hlines : ∀ a ∈ Operation.argumentLines arguments, a.reframes = false :=
      forall_argumentLines common_keeps fun _ _ => rfl
    simp only [Operation.admits] at hadmits
    simp only [Operation.actions, hadmits, Bool.not_true, Bool.false_eq_true, if_false]
    refine ⟨_, rfl, ?_⟩
    show within 0 (Operation.argumentLines arguments ++ _) = true
    rw [within_append hlines]
    rfl
  | callStart target =>
    rw [Operation.actions, hframe]
    exact callActions_inStatement target
  | superCallStart name =>
    rw [Operation.actions, hframe]
    exact callActions_inStatement ("super." ++ name)
  | _ => exact absurd hop Bool.false_ne_true

/-- A legal operation that begins no expression leaves the statement as it is, or ends it. -/
theorem perform_beside_expression (hs : s.context = .statement) (hframes : e.frames = s :: below)
    (hlegal : isLegal e.frames op = true) (hop : op.isExpression = false) :
    (e.perform op).1.frames = s :: below ∨ (e.perform op).1.frames = below := by
  rw [run_of_legal hlegal]
  rw [isLegal, Bool.and_eq_true, hframes] at hlegal
  have hplaced : op.places.contains (some .statement) = true := hs ▸ hlegal.1
  cases op with
  | statementEnd =>
    right
    show (Emitter.run e.popFrame [.write ";", .lineEnd]).1.frames = below
    rw [frames_run (by simp [Action.reframes]), popFrame, hframes]
  | raw text =>
    left
    rw [← hframes]
    exact frames_run (by simp [Operation.actions, Action.reframes])
  | callStart _ | superCallStart _ | newInstance _ _ => exact absurd hop.symm Bool.false_ne_true
  | _ => simp [Operation.places, Operation.bodies] at hplaced

theorem perform_expression (hs : s.context = .statement) (hframes : e.frames = s :: below)
    (hlegal : isLegal e.frames op = true) (hop : op.isExpression = true) :
    s.mark .begun :: below <:+ (e.perform op).1.frames := by
  rw [run_of_legal hlegal]
  rw [isLegal, Bool.and_eq_true, hframes] at hlegal
  have hinnermost : innermost e.frames = s := by rw [hframes]; rfl
  obtain ⟨rest, hactions, hrest⟩ := actions_of_expression e.style hop hs hlegal.2
  rw [hinnermost, hactions]
  refine run_within (e := { e with frames := markTop .begun e.frames }) [] ?_ hrest
  show markTop .begun e.frames = s.mark .begun :: below
  rw [hframes]
  rfl

/-! ## Operations while a statement is open -/

/-- Whether the operation begins an expression in the statement that is the `n`th open construct
from the outside. -/
def beginsExpression (n : Nat) (e : Emitter) (op : Operation) : Bool :=
  op.isExpression && e.frames.length == n && isLegal e.frames op

/-- The operations that have begun an expression in that statement. -/
def expressions (n : Nat) (e : Emitter) : List Operation → List Operation
  | [] => []
  | op :: rest =>
    if beginsExpression n e op then op :: expressions n (e.perform op).1 rest
    else expressions n (e.perform op).1 rest

/-- The operations one after another, each on what the one before has left, also where that has
failed. -/
def performEach (e : Emitter) (ops : List Operation) : Emitter :=
  ops.foldl (fun e op => (e.perform op).1) e

/-- Whether more than `n` constructs stay open throughout. -/
def staysOpen (n : Nat) (e : Emitter) : List Operation → Bool
  | [] => n < e.frames.length
  | op :: rest => n < e.frames.length && staysOpen n (e.perform op).1 rest

/-- An operation leaves an open statement alone, unless it begins an expression in it. -/
theorem statement_perform (op : Operation) (hs : s.context = .statement)
    (hframes : s :: below <:+ e.frames) (hopen : below.length < (e.perform op).1.frames.length) :
    (if beginsExpression (below.length + 1) e op then s.mark .begun else s) :: below
      <:+ (e.perform op).1.frames := by
  obtain ⟨above, habove⟩ := hframes
  cases above with
  | nil =>
    have hframes : e.frames = s :: below := habove.symm
    cases hlegal : isLegal e.frames op with
    | false =>
      obtain ⟨m, hm⟩ := perform_of_not_legal hlegal
      rw [beginsExpression, hlegal, Bool.and_false, hm, hframes]
      exact List.suffix_rfl
    | true =>
      have hheight : (e.frames.length == below.length + 1) = true := by simp [hframes]
      rw [beginsExpression, hlegal, hheight, Bool.and_true, Bool.and_true]
      cases hop : op.isExpression with
      | true => exact perform_expression hs hframes hlegal hop
      | false =>
        rcases perform_beside_expression hs hframes hlegal hop with h | h
        · rw [h]
          exact List.suffix_rfl
        · rw [h] at hopen
          exact absurd hopen (Nat.lt_irrefl _)
  | cons f above =>
    have hheight : (e.frames.length == below.length + 1) = false := by
      rw [← habove, beq_eq_false_iff_ne, List.length_append, List.length_cons, List.length_cons]
      omega
    rw [beginsExpression, hheight, Bool.and_false, Bool.false_and]
    have htail := tail_suffix_perform e op
    rw [← habove] at htail
    exact (List.suffix_append above (s :: below)).trans htail

/-- The frame of a statement tells whether an expression has been begun in it. -/
theorem statement_performEach {ops : List Operation} (hs : s.context = .statement)
    (hframes : s :: below <:+ e.frames) (hopen : staysOpen below.length e ops = true) :
    { s with first := s.first && (expressions (below.length + 1) e ops).isEmpty } :: below
      <:+ (performEach e ops).frames := by
  induction ops generalizing e s with
  | nil => simpa [expressions, performEach] using hframes
  | cons op rest ih =>
    rw [staysOpen, Bool.and_eq_true] at hopen
    have hnext : below.length < (e.perform op).1.frames.length := by
      cases rest <;> simp [staysOpen] at hopen <;> omega
    have hstep := statement_perform op hs hframes hnext
    rw [expressions, performEach, List.foldl_cons]
    split at hstep
    · next hbegins =>
      have hrest := ih (s := s.mark .begun) hs hstep hopen.2
      rw [if_pos hbegins, List.isEmpty_cons, Bool.and_false]
      exact hrest
    · next hbegins =>
      rw [if_neg hbegins]
      exact ih hs hstep hopen.2

/-! ## Statements and their expressions -/

/-- From `e₀`, `start` opens a statement under that label.  The statement stays open throughout the
operations after it, and is the innermost construct when they are done. -/
structure InStatement (e₀ : Emitter) (start : Operation) (label : String) (ops : List Operation) :
    Prop where
  label_eq : start.statementLabel = some label
  started : (e₀.perform start).2.isNone = true
  stays : staysOpen e₀.frames.length (e₀.perform start).1 ops = true
  innermost : (performEach e₀ (start :: ops)).frames.length = e₀.frames.length + 1

/-- The expressions that have been begun in the statement. -/
def expressionsIn (e₀ : Emitter) (start : Operation) (ops : List Operation) : List Operation :=
  expressions (e₀.frames.length + 1) (e₀.perform start).1 ops

theorem frames_of_start {e₀ : Emitter} {start : Operation} {label : String}
    (hlabel : start.statementLabel = some label) (h : (e₀.perform start).2.isNone = true) :
    (e₀.perform start).1.frames = { context := .statement, label } :: e₀.frames := by
  have hnext := next_of_perform (Prod.ext rfl (Option.isNone_iff_eq_none.mp h))
  unfold next at hnext
  split at hnext
  · rw [← Option.some.inj hnext]
    cases start with
    | declarationStart _ name _ => cases hlabel; rfl
    | returnStart => cases hlabel; rfl
    | _ => exact nomatch hlabel
  · exact nomatch hnext

theorem frames_in_statement {e₀ : Emitter} {start : Operation} {label : String}
    {ops : List Operation} (h : InStatement e₀ start label ops) :
    (performEach e₀ (start :: ops)).frames
      = { context := .statement, label, first := (expressionsIn e₀ start ops).isEmpty }
        :: e₀.frames := by
  have hstart := frames_of_start h.label_eq h.started
  have hsuffix := statement_performEach (s := { context := .statement, label }) rfl
    (hstart ▸ List.suffix_rfl) h.stays
  exact (hsuffix.eq_of_length h.innermost.symm).symm

/-- Once an expression has been begun in a statement, the creation of an instance in it is refused
and nothing changes.  Before that, every expression is let through. -/
theorem second_instance_refused (e₀ : Emitter) (start : Operation) (label : String)
    (ops : List Operation) (h : InStatement e₀ start label ops) :
    let e := performEach e₀ (start :: ops)
    e.place = some .statement
      ∧ (expressionsIn e₀ start ops ≠ [] → ∀ name arguments,
        e.perform (.newInstance name arguments) = (e, some (.emitter (.secondExpression label))))
      ∧ (expressionsIn e₀ start ops = [] → ∀ op, op.isExpression = true →
        (e.perform op).2.any isMisuse = false) := by
  have hframes := frames_in_statement h
  intro e
  have hplace : e.place = some .statement := by
    rw [place, hframes]
    rfl
  refine ⟨hplace, fun hbegun name arguments => ?_, fun hnone op hop => ?_⟩
  · have hfirst : (expressionsIn e₀ start ops).isEmpty = false := by simpa using hbegun
    rw [perform, hplace, hframes, hfirst]
    rfl
  · rw [any_isMisuse_perform, isLegal, hframes, hnone]
    cases op with
    | newInstance _ _ | callStart _ | superCallStart _ => rfl
    | _ => exact absurd hop Bool.false_ne_true

/-- The body of a method is open after these. -/
def methodOpened : List Operation :=
  classDeclaration "Sample" "" (.list []) ++ [.methodStart "Thing" "run" (.list []), .bodyStart []]

/-- A call that has been ended is an expression like any other. -/
theorem instance_after_call_refused :
    InStatement (performEach {} methodOpened) .returnStart "return"
        [.callStart "other", .argument (.text "1"), .callEnd]
      ∧ let e := performEach (performEach {} methodOpened)
          [.returnStart, .callStart "other", .argument (.text "1"), .callEnd]
        e.perform (.newInstance "Thing" [])
          = (e, some (.emitter (.secondExpression "return"))) := by
  have hstatement : InStatement (performEach {} methodOpened) .returnStart "return"
      [.callStart "other", .argument (.text "1"), .callEnd] :=
    ⟨rfl, by decide +kernel, by decide +kernel, by decide +kernel⟩
  obtain ⟨-, hrefused, -⟩ := second_instance_refused _ _ _ _ hstatement
  exact ⟨hstatement, hrefused (List.cons_ne_nil _ _) "Thing" []⟩

/-- A call in a statement is let through also where an instance is created in it already. -/
theorem call_after_instance_accepted :
    ¬ ∀ (before : List Operation) (start : Operation) (label : String) (ops : List Operation)
      (op : Operation), InStatement (performEach {} before) start label ops →
      expressionsIn (performEach {} before) start ops ≠ [] → op.isExpression = true →
      ∃ m, (performEach (performEach {} before) (start :: ops)).perform op
        = (performEach (performEach {} before) (start :: ops), some (.emitter m)) := by
  intro h
  obtain ⟨m, hm⟩ := h methodOpened .returnStart "return" [.newInstance "Thing" []]
    (.callStart "other") ⟨rfl, by decide +kernel, by decide +kernel, by decide +kernel⟩
    (List.cons_ne_nil _ _) rfl
  have haccepted : ((performEach (performEach {} methodOpened)
      [.returnStart, .newInstance "Thing" []]).perform (.callStart "other")).2.isNone = true := by
    decide +kernel
  rw [hm] at haccepted
  exact nomatch haccepted

end Emitter
end JavaCompanion
