/-
Brackets stand for what is open.

Every construct that has a body or a list opens one bracket and closes it (`Context.bracket`).
What an operation writes is balanced apart from these, if its texts are.  So the text of an
emitter that has refused nothing leaves open just the brackets of the constructs that are open,
and it is balanced when it may be taken (`emit_leaves_brackets`).
-/
import JavaCompanion.Proofs.Emitter.Texts
import JavaCompanion.Proofs.Emitter.Transition
import JavaCompanion.Proofs.Text.Brackets
import JavaCompanion.Proofs.Text.Surrogate

namespace JavaCompanion
namespace Emitter

open Text

/-! ## What actions write -/

def textBrackets (v : Value) : List Char := brackets (v.text?.getD "").toList

/-- The brackets of what an action writes, if it succeeds. -/
def Action.brackets (style : Style) : Action → List Char
  | .write s => Text.brackets s.toList
  | .writeValue v => textBrackets v
  | .lineEnd => textBrackets style.lineEnding
  | .joined separator v =>
    match joinedText separator v with
    | .ok s => Text.brackets s.toList
    | .error _ => []
  | _ => []

@[simp] theorem Action.brackets_write (style : Style) (s : String) :
    (write s).brackets style = Text.brackets s.toList := rfl

@[simp] theorem Action.brackets_mark (style : Style) (m : Mark) :
    (mark m).brackets style = [] := rfl

theorem brackets_of_append {e e' : Emitter} {s : String} (h : e.append s = .ok e') :
    brackets e'.text.toList = brackets e.text.toList ++ brackets s.toList := by
  unfold append at h
  split at h
  · exact nomatch h
  · cases h
    rw [String.toList_append, brackets_append]

theorem brackets_of_appendValue {e e' : Emitter} {v : Value} (h : e.appendValue v = .ok e') :
    brackets e'.text.toList = brackets e.text.toList ++ textBrackets v := by
  obtain ⟨s, hs, h⟩ := bind_eq_ok.mp h
  rw [shaped_eq_ok] at hs
  cases v with
  | text t =>
    cases hs
    exact brackets_of_append h
  | _ => exact nomatch hs

theorem brackets_indentation {style : Style} {depth : Nat} {s : String}
    (h : indentation style depth = .ok s) : brackets s.toList = [] := by
  have hblanks : ∀ n : Nat, brackets (List.replicate n ' ') = [] := fun n =>
    brackets_eq_nil fun c hc => by rw [List.eq_of_mem_replicate hc]; rfl
  unfold indentation at h
  split at h
  · unfold blanks at h
    split at h
    · exact nomatch h
    · split at h
      · exact nomatch h
      · cases h
        rw [String.toList_ofList]
        exact hblanks _
  · exact nomatch h

theorem brackets_keyword (m : Java.Modifier) : brackets (m.keyword ++ " ").toList = [] := by
  cases m <;> rfl

theorem brackets_modifierText {v : Value} {s : String} (h : modifierText v = .ok s) :
    brackets s.toList = [] := by
  unfold modifierText at h
  split at h
  · cases h
    rw [String.toList_join, List.flatMap_map]
    refine brackets_eq_nil fun c hc => ?_
    obtain ⟨m, -, hc⟩ := List.mem_flatMap.mp hc
    have hnone := brackets_keyword m
    rw [brackets, List.filter_eq_nil_iff] at hnone
    exact Bool.eq_false_iff.mpr (hnone c hc)
  · cases h

theorem apply_brackets {e e' : Emitter} {a : Action} (h : e.apply a = .ok e') :
    brackets e'.text.toList = brackets e.text.toList ++ a.brackets e.style := by
  cases a with
  | write s => exact brackets_of_append h
  | writeValue v => exact brackets_of_appendValue h
  | lineEnd => exact brackets_of_appendValue h
  | indent =>
    simp only [apply] at h
    split at h
    · cases h
      exact (List.append_nil _).symm
    · obtain ⟨s, hs, h⟩ := bind_eq_ok.mp h
      rw [brackets_of_append h, brackets_indentation hs]
      rfl
  | modifiers v =>
    obtain ⟨s, hs, h⟩ := bind_eq_ok.mp h
    split at h
    · cases h
      exact (List.append_nil _).symm
    · rw [brackets_of_append h, brackets_modifierText hs]
      rfl
  | joined separator v =>
    obtain ⟨s, hs, h⟩ := bind_eq_ok.mp h
    rw [brackets_of_append h, Action.brackets, hs]
  | pop =>
    cases h
    unfold popFrame
    split <;> exact (List.append_nil _).symm
  | push _ | mark _ | deepen _ | shallow _ =>
    cases h
    exact (List.append_nil _).symm
  | fail f => cases h

theorem run_brackets {as : List Action} {e e' : Emitter} (h : e.run as = (e', none)) :
    brackets e'.text.toList = brackets e.text.toList ++ as.flatMap (Action.brackets e.style) := by
  induction as generalizing e with
  | nil =>
    cases h
    exact (List.append_nil _).symm
  | cons a rest ih =>
    rw [run] at h
    cases happly : e.apply a with
    | error f =>
      rw [happly] at h
      cases h
    | ok middle =>
      rw [happly] at h
      rw [ih h, apply_brackets happly, (apply_skeleton happly).2.style_eq, List.flatMap_cons,
        List.append_assoc]

/-! ## Texts of operations -/

/-- The brackets in the texts of the operation match. -/
def Operation.Balanced (op : Operation) : Prop := ∀ s ∈ op.texts, Text.Balanced s

instance (op : Operation) : Decidable op.Balanced :=
  inferInstanceAs (Decidable (∀ s ∈ op.texts, Text.Balanced s))

/-- The brackets in what the style has written match. -/
structure Style.Balanced (style : Style) : Prop where
  lineEnding : ∀ s ∈ textsIn style.lineEnding, Text.Balanced s
  generatedMarker : Text.Balanced style.generatedMarker.display

theorem neutral_textBrackets {v : Value} (h : ∀ s ∈ textsIn v, Text.Balanced s) :
    Neutral (textBrackets v) := by
  cases v with
  | text s => exact neutral_brackets.mpr (neutral_of_balanced (h s List.mem_cons_self))
  | _ => exact neutral_nil

theorem neutral_textBrackets_of_mem {vs : List Value}
    (h : ∀ s ∈ textsIn (.list vs), Text.Balanced s) :
    ∀ v ∈ vs, Neutral (textBrackets v) := by
  intro v hv
  cases v with
  | text s =>
    exact neutral_brackets.mpr (neutral_of_balanced (h s (List.mem_filterMap.mpr ⟨_, hv, rfl⟩)))
  | _ => exact neutral_nil

/-! ## Joined texts -/

theorem brackets_intercalate {separator : List Char} (h : brackets separator = [])
    (pieces : List (List Char)) :
    brackets (separator.intercalate pieces) = pieces.flatMap brackets := by
  induction pieces with
  | nil => rfl
  | cons piece rest ih =>
    cases rest with
    | nil => simp [List.intercalate]
    | cons next more =>
      have hcons : separator.intercalate (piece :: next :: more)
          = piece ++ (separator ++ separator.intercalate (next :: more)) := by
        simp [List.intercalate]
      rw [hcons, brackets_append, brackets_append, h, ih]
      rfl

theorem brackets_joinedText {separator s : String} {v : Value}
    (hseparator : brackets separator.toList = []) (h : joinedText separator v = .ok s) :
    ∃ vs, v.items = .ok vs ∧ brackets s.toList = vs.flatMap textBrackets := by
  obtain ⟨texts, htexts, h⟩ := bind_eq_ok.mp h
  rw [shaped_eq_ok] at htexts
  obtain ⟨vs, hvs, htexts⟩ := bind_eq_ok.mp htexts
  cases h
  refine ⟨vs, hvs, ?_⟩
  rw [String.toList_intercalate, brackets_intercalate hseparator, List.flatMap_map,
    eq_texts_of_mapM_asOperand htexts, List.flatMap_map]
  rfl

/-- The items of a value are balanced together, also where they are the characters of a text. -/
theorem neutral_items {v : Value} {vs : List Value} (hv : ∀ s ∈ textsIn v, Text.Balanced s)
    (h : v.items = .ok vs) : Neutral (vs.flatMap textBrackets) := by
  cases v with
  | list items =>
    cases h
    exact neutral_flatMap (neutral_textBrackets_of_mem hv)
  | text s =>
    cases h
    have hsymbols : ∀ symbols : List (List Char),
        (symbols.map fun cs => Value.text (String.ofList cs)).flatMap textBrackets
          = brackets symbols.flatten := by
      intro symbols
      induction symbols with
      | nil => rfl
      | cons cs rest ih =>
        rw [List.map_cons, List.flatMap_cons, ih, textBrackets, List.flatten_cons, brackets_append]
        simp [Value.text?]
    rw [hsymbols, flatten_symbols]
    exact neutral_brackets.mpr (neutral_of_balanced (hv s List.mem_cons_self))
  | object fields =>
    cases h
    rw [List.flatMap_map]
    refine neutral_flatMap fun f hf => ?_
    exact neutral_brackets.mpr (neutral_of_balanced (hv f.1 (List.mem_map.mpr ⟨f, hf, rfl⟩)))
  | _ => exact nomatch h

theorem neutral_joinedText {separator s : String} {v : Value}
    (hseparator : brackets separator.toList = [])
    (hv : ∀ vs, v.items = .ok vs → Neutral (vs.flatMap textBrackets))
    (h : joinedText separator v = .ok s) : Neutral s.toList := by
  obtain ⟨vs, hvs, hs⟩ := brackets_joinedText hseparator h
  rw [← neutral_brackets, hs]
  exact hv vs hvs

/-! ## Parts of operations -/

section Parts

variable {style : Style}

/-- The brackets of what actions write one after another. -/
def bracketsOf (style : Style) (as : List Action) : List Char :=
  as.flatMap (Action.brackets style)

@[simp] theorem bracketsOf_nil : bracketsOf style [] = [] := rfl

@[simp] theorem bracketsOf_cons (a : Action) (rest : List Action) :
    bracketsOf style (a :: rest) = a.brackets style ++ bracketsOf style rest := rfl

@[simp] theorem bracketsOf_append (as bs : List Action) :
    bracketsOf style (as ++ bs) = bracketsOf style as ++ bracketsOf style bs :=
  List.flatMap_append

theorem neutral_throwsFrom (hline : Neutral (textBrackets style.lineEnding))
    {thrown : List Value} (h : ∀ v ∈ thrown, Neutral (textBrackets v)) :
    Neutral (bracketsOf style (Operation.throwsFrom thrown)) := by
  fun_induction Operation.throwsFrom thrown with
  | case1 => exact neutral_nil
  | case2 t => simpa [Action.brackets] using h t List.mem_cons_self
  | case3 t rest _ ih =>
    have hrest := ih fun v hv => h v (List.mem_cons_of_mem t hv)
    have hcomma : brackets ",".toList = [] := rfl
    simp only [bracketsOf_append, bracketsOf_cons, bracketsOf_nil, Action.brackets, hcomma,
      List.nil_append, List.append_nil]
    exact ((h t List.mem_cons_self).append hline).append hrest

theorem neutral_throwsActions (hline : Neutral (textBrackets style.lineEnding))
    {thrown : List Value} (h : ∀ v ∈ thrown, Neutral (textBrackets v)) :
    Neutral (bracketsOf style (Operation.throwsActions thrown)) := by
  unfold Operation.throwsActions
  split
  · exact neutral_nil
  · have hword : brackets " throws".toList = [] := rfl
    simp only [bracketsOf_append, bracketsOf_cons, bracketsOf_nil, Action.brackets, hword,
      List.nil_append, List.append_nil]
    exact hline.append (neutral_throwsFrom hline h)

theorem neutral_argumentLines (hline : Neutral (textBrackets style.lineEnding))
    {arguments : List Value} (h : ∀ v ∈ arguments, Neutral (textBrackets v)) :
    Neutral (bracketsOf style (Operation.argumentLines arguments)) := by
  fun_induction Operation.argumentLines arguments with
  | case1 => exact neutral_nil
  | case2 t => simpa [Action.brackets] using hline.append (h t List.mem_cons_self)
  | case3 t rest _ ih =>
    have hrest := ih fun v hv => h v (List.mem_cons_of_mem t hv)
    have hcomma : brackets ",".toList = [] := rfl
    simp only [bracketsOf_append, bracketsOf_cons, bracketsOf_nil, Action.brackets, hcomma,
      List.nil_append, List.append_nil]
    exact (hline.append (h t List.mem_cons_self)).append hrest

theorem neutral_generatedLine (hstyle : style.Balanced)
    (hline : Neutral (textBrackets style.lineEnding)) {provenance : String}
    (h : Text.Balanced provenance) :
    Neutral (bracketsOf style (Operation.generatedLine style.generatedMarker provenance)) := by
  unfold Operation.generatedLine
  split
  · intro opened
    have hmarker := neutral_of_balanced hstyle.generatedMarker
    have hprovenance := neutral_of_balanced h
    simp [Action.brackets, stepBracket, hmarker _, hprovenance _, hline _]
  · exact neutral_nil

theorem brackets_commentLine (line : String) :
    bracketsOf style (Operation.commentLine line)
      = brackets line.toList ++ textBrackets style.lineEnding := by
  have hstart : brackets " * ".toList = [] := rfl
  simp only [Operation.commentLine, bracketsOf_cons, bracketsOf_nil, Action.brackets, stripRight,
    String.toList_ofList, brackets_trimRight, String.toList_append, brackets_append, hstart,
    List.nil_append, List.append_nil]

/-- The lines of a balanced text are so together, though none of them has to be on its own. -/
theorem neutral_commentLines (hline : Neutral (textBrackets style.lineEnding)) {text : Value}
    (h : ∀ s ∈ textsIn text, Text.Balanced s) :
    Neutral (bracketsOf style (Operation.commentLines text)) := by
  unfold Operation.commentLines
  split
  · next s hs =>
    cases text with
    | text t =>
      cases hs
      have hlines : bracketsOf style ((splitLines s).flatMap Operation.commentLine)
          = (splitLines s).flatMap fun line =>
            brackets line.toList ++ textBrackets style.lineEnding := by
        rw [bracketsOf, List.flatMap_assoc]
        exact congrArg (List.flatMap · (splitLines s)) (funext brackets_commentLine)
      have hall : (splitLines s).flatMap (fun line => brackets line.toList)
          = brackets s.toList := by
        simpa [splitLines, List.flatMap_map] using brackets_linesFrom [] s.toList
      intro opened
      rw [hlines, matchBrackets_flatMap_append hline, hall, matchBrackets_brackets]
      exact neutral_of_balanced (h s List.mem_cons_self) opened
    | _ => exact nomatch hs
  · exact neutral_nil

theorem neutral_joined (style : Style) {separator : String}
    (hseparator : brackets separator.toList = []) {v : Value}
    (h : ∀ vs, v.items = .ok vs → Neutral (vs.flatMap textBrackets)) :
    Neutral ((Action.joined separator v).brackets style) := by
  rw [Action.brackets]
  split
  · next hs => exact neutral_brackets.mpr (neutral_joinedText hseparator h hs)
  · exact neutral_nil

theorem neutral_extendsActions (style : Style) {extended : Value}
    (h : ∀ s ∈ textsIn extended, Text.Balanced s) :
    Neutral (bracketsOf style (Operation.extendsActions extended)) := by
  unfold Operation.extendsActions
  split
  · exact neutral_nil
  · exact neutral_nil
  · next names _ hnames =>
    have hword : brackets " extends ".toList = [] := rfl
    simp only [bracketsOf_cons, bracketsOf_nil, Action.brackets_write, hword, List.nil_append,
      List.append_nil]
    refine neutral_joined style rfl fun vs hvs => ?_
    cases hvs
    exact neutral_items h hnames

theorem neutral_joinedAnnotations {annotations : Value} {s : String}
    (h : ∀ s ∈ textsIn annotations, Text.Balanced s)
    (hs : Operation.joinedAnnotations annotations = .ok s) : Neutral s.toList := by
  unfold Operation.joinedAnnotations at hs
  split at hs
  · cases hs
    exact neutral_of_balanced (h _ List.mem_cons_self)
  · exact neutral_joinedText rfl (fun _ hvs => neutral_items h hvs) hs

theorem neutral_parameterLine (hline : Neutral (textBrackets style.lineEnding))
    {annotations ms : Value} {declared : String}
    (h : ∀ s ∈ textsIn annotations, Text.Balanced s) (hdeclared : Neutral declared.toList) :
    Neutral (bracketsOf style (Operation.parameterLine annotations ms declared)) := by
  unfold Operation.parameterLine
  split
  · exact neutral_nil
  · next s hs =>
    have hs := neutral_joinedAnnotations h hs
    intro opened
    split <;> simp [Action.brackets, stepBracket, hline _, hs _, hdeclared _]

end Parts

/-! ## Operations -/

/-- The bracket that an open construct has opened. -/
def Context.bracket : Context → Option Char
  | .classBody | .interfaceBody | .methodBody | .loopBody => some '\x7b'
  | .parameters | .arguments => some '('
  | .classHeader | .statement => none

def frameBrackets (frames : List Frame) : List Char := frames.filterMap (·.context.bracket)

@[simp] theorem frameBrackets_markTop (m : Mark) (frames : List Frame) :
    frameBrackets (markTop m frames) = frameBrackets frames := by
  cases frames with
  | nil => rfl
  | cons f rest => cases m <;> rfl

/-- A construct that is closed has opened the bracket on top. -/
theorem frameBrackets_of_placed {frames : List Frame} {c : Context}
    (h : placeOf frames = some c) :
    frameBrackets frames = c.bracket.toList ++ frameBrackets frames.tail := by
  cases frames with
  | nil => exact nomatch h
  | cons f rest =>
    have hcontext : f.context = c := Option.some.inj h
    simp only [frameBrackets, List.filterMap_cons, hcontext, List.tail_cons]
    cases c.bracket <;> rfl

/-- Whether the operation leaves the brackets of the open constructs as they are. -/
def Operation.isLevel : Operation → Bool
  | .classEnd | .interfaceStart .. | .interfaceEnd | .blockEnd | .constructorStart ..
  | .methodStart .. | .bodyStart _ | .bodiless _ | .superConstructorStart | .superCallStart _
  | .callStart _ | .callEnd | .statementEnd | .loopStart .. | .loopEnd => false
  | _ => true

theorem frameBrackets_of_isLevel {op : Operation} (hlevel : op.isLevel = true)
    (frames : List Frame) : frameBrackets (op.after frames) = frameBrackets frames := by
  cases op with
  | classStart _ _ _ | declarationStart _ _ _ | returnStart => rfl
  | classExtends _ | parameter _ _ _ _ | argument _ | newInstance _ _ =>
    exact frameBrackets_markTop _ frames
  | classImplements names =>
    simp only [Operation.after]
    split
    · rfl
    · exact frameBrackets_markTop _ frames
  | packageDeclaration _ | headerComment _ | annotate _ | raw _ | field _ _ _ _
  | declaration _ _ _ _ | assignment _ _ | returnValue _ => rfl
  | _ => cases hlevel

section Operations

variable {style : Style} {op : Operation} {frames : List Frame}

/-- What a legal operation that opens and closes no bracket writes is balanced. -/
theorem neutral_actions (hstyle : style.Balanced) (hop : op.Balanced) {frame : Frame}
    (hadmitted : op.admits frame = true) (hlevel : op.isLevel = true) :
    Neutral (bracketsOf style (op.actions style frame)) := by
  have hline : Neutral (textBrackets style.lineEnding) := neutral_textBrackets hstyle.lineEnding
  have hneutral : ∀ s ∈ op.texts, Neutral s.toList := fun s hs => neutral_of_balanced (hop s hs)
  intro opened
  cases op with
  | packageDeclaration name =>
    have hname := hneutral name List.mem_cons_self
    simp only [Operation.actions]
    split
    · rfl
    · simp [Action.brackets, stepBracket, hline _, hname _]
  | headerComment text =>
    have hlines := neutral_commentLines hline hop
    simp [Operation.actions, Action.brackets, stepBracket, hline _, hlines _]
  | annotate v | raw v =>
    have hv := neutral_textBrackets hop
    simp [Operation.actions, Action.brackets, hline _, hv _]
  | classStart name provenance ms =>
    have hname := hneutral name List.mem_cons_self
    have hgenerated := neutral_generatedLine hstyle hline
      (hop provenance (List.mem_cons_of_mem _ List.mem_cons_self))
    simp [Operation.actions, Action.brackets, stepBracket, hname _, hgenerated _]
  | classExtends name =>
    have hname := hneutral name List.mem_cons_self
    simp only [Operation.admits, Bool.and_eq_true, Bool.not_eq_true'] at hadmitted
    simp [Operation.actions, Action.brackets, stepBracket, hadmitted, hname _]
  | classImplements names =>
    simp only [Operation.admits, Bool.not_eq_true'] at hadmitted
    simp only [Operation.actions, hadmitted, Bool.false_eq_true, if_false]
    split
    · rfl
    · have hnames : ∀ s ∈ textsIn (.list names), Text.Balanced s := hop
      have hjoined : Neutral ((Action.joined ", " (.list names)).brackets style) :=
        neutral_joined style rfl fun _ hvs => neutral_items hnames hvs
      have hword : brackets " implements ".toList = [] := rfl
      simp only [bracketsOf_cons, bracketsOf_nil, hword, Action.brackets_write,
        Action.brackets_mark, List.nil_append, List.append_nil]
      exact hjoined _
  | field type name ms value =>
    have htype := hneutral type List.mem_cons_self
    have hname := hneutral name (List.mem_cons_of_mem _ List.mem_cons_self)
    have hsuffix : Neutral (Operation.valueSuffix value).toList := by
      cases value with
      | none => exact neutral_nil
      | some v =>
        have hv := hneutral v (List.mem_cons_of_mem _ (List.mem_cons_of_mem _ List.mem_cons_self))
        intro opened
        simp [Operation.valueSuffix, stepBracket, hv _]
    simp [Operation.actions, Action.brackets, stepBracket, hline _, htype _, hname _, hsuffix _]
  | parameter annotations type name ms =>
    have htype := hneutral type List.mem_cons_self
    have hname := hneutral name (List.mem_cons_of_mem _ List.mem_cons_self)
    have hdeclared : Neutral (type ++ " " ++ name).toList := by
      intro opened
      simp [stepBracket, htype _, hname _]
    have hparameter : Neutral (bracketsOf style
        (Operation.parameterLine annotations ms (type ++ " " ++ name))) :=
      neutral_parameterLine hline
        (fun s hs => hop s (List.mem_cons_of_mem _ (List.mem_cons_of_mem _ hs))) hdeclared
    simp only [Operation.actions]
    split <;> simp [Action.brackets, stepBracket, hparameter _]
  | returnStart => rfl
  | argument v =>
    have hv := neutral_textBrackets hop
    simp only [Operation.actions]
    split <;> simp [Action.brackets, stepBracket, hv _]
  | declarationStart type name ms =>
    have htype := hneutral type List.mem_cons_self
    have hname := hneutral name (List.mem_cons_of_mem _ List.mem_cons_self)
    simp [Operation.actions, Action.brackets, stepBracket, htype _, hname _]
  | declaration type name value ms =>
    have htype := hneutral type List.mem_cons_self
    have hname := hneutral name (List.mem_cons_of_mem _ List.mem_cons_self)
    have hvalue := hneutral value
      (List.mem_cons_of_mem _ (List.mem_cons_of_mem _ List.mem_cons_self))
    simp [Operation.actions, Action.brackets, stepBracket, hline _, htype _, hname _, hvalue _]
  | assignment target value =>
    have htarget := hneutral target List.mem_cons_self
    have hvalue := hneutral value (List.mem_cons_of_mem _ List.mem_cons_self)
    simp [Operation.actions, Action.brackets, stepBracket, hline _, htarget _, hvalue _]
  | returnValue value =>
    cases value with
    | none => simp [Operation.actions, Action.brackets, stepBracket, hline _]
    | some v =>
      have hv := hneutral v List.mem_cons_self
      simp [Operation.actions, Action.brackets, stepBracket, hline _, hv _]
  | newInstance name arguments =>
    have hname := hneutral name List.mem_cons_self
    have harguments : Neutral (bracketsOf style (Operation.argumentLines arguments)) :=
      neutral_argumentLines hline
        (neutral_textBrackets_of_mem fun s hs => hop s (List.mem_cons_of_mem _ hs))
    simp only [Operation.admits] at hadmitted
    simp [Operation.actions, Action.brackets, stepBracket, hadmitted, hname _, harguments _]
  | _ => cases hlevel

theorem match_callActions {inStatement : Bool} {target : String}
    (htarget : Neutral target.toList) :
    matchBrackets (frameBrackets frames)
        (bracketsOf style (Operation.callActions inStatement target))
      = some (frameBrackets (callFrames inStatement target frames)) := by
  have hframes : frameBrackets (callFrames inStatement target frames)
      = '(' :: frameBrackets frames := by
    cases inStatement with
    | false => rfl
    | true => exact congrArg (List.cons '(') (frameBrackets_markTop .begun frames)
  cases inStatement <;>
    simp [hframes, Operation.callActions, Action.brackets, stepBracket, htarget _]

/-- The brackets that a legal operation writes lead from those of the constructs before it to
those of the constructs after it. -/
theorem match_actions (hstyle : style.Balanced) (hop : op.Balanced)
    (hplaced : op.places.contains (placeOf frames) = true)
    (hadmitted : op.admits (innermost frames) = true) :
    matchBrackets (frameBrackets frames) (bracketsOf style (op.actions style (innermost frames)))
      = some (frameBrackets (op.after frames)) := by
  have hline : Neutral (textBrackets style.lineEnding) := neutral_textBrackets hstyle.lineEnding
  have hneutral : ∀ s ∈ op.texts, Neutral s.toList := fun s hs => neutral_of_balanced (hop s hs)
  have hlevel : op.isLevel = true → matchBrackets (frameBrackets frames)
      (bracketsOf style (op.actions style (innermost frames)))
        = some (frameBrackets (op.after frames)) := fun hlevel => by
    rw [frameBrackets_of_isLevel hlevel]
    exact neutral_actions hstyle hop hadmitted hlevel _
  rw [List.contains_iff_mem] at hplaced
  cases op with
  | classEnd =>
    rw [frameBrackets_of_placed (List.mem_singleton.mp hplaced)]
    simp [Operation.actions, Operation.after, Action.brackets, stepBracket, frameBrackets,
      Context.bracket, hline _]
  | interfaceStart name provenance ms extended =>
    have hname := hneutral name List.mem_cons_self
    have hgenerated := neutral_generatedLine hstyle hline
      (hop provenance (List.mem_cons_of_mem _ List.mem_cons_self))
    have hextended : Neutral (bracketsOf style (Operation.extendsActions extended)) :=
      neutral_extendsActions style fun s hs =>
        hop s (List.mem_cons_of_mem _ (List.mem_cons_of_mem _ hs))
    simp [Operation.actions, Operation.after, Action.brackets, stepBracket, frameBrackets,
      Context.bracket, hline _, hname _, hgenerated _, hextended _]
  | interfaceEnd | statementEnd | loopEnd =>
    rw [frameBrackets_of_placed (List.mem_singleton.mp hplaced)]
    simp [Operation.actions, Operation.after, Action.brackets, stepBracket, Context.bracket,
      hline _]
  | blockEnd =>
    have hplace : placeOf frames = some .methodBody ∨ placeOf frames = some .classBody := by
      simpa [Operation.places] using hplaced
    rcases hplace with hplace | hplace <;> rw [frameBrackets_of_placed hplace] <;>
      simp [Operation.actions, Operation.after, Action.brackets, stepBracket, Context.bracket,
        hline _]
  | constructorStart name ms =>
    have hname := hneutral name List.mem_cons_self
    simp [Operation.actions, Operation.after, Action.brackets, stepBracket, frameBrackets,
      Context.bracket, hname _]
  | methodStart type name ms =>
    have htype := hneutral type List.mem_cons_self
    have hname := hneutral name (List.mem_cons_of_mem _ List.mem_cons_self)
    simp [Operation.actions, Operation.after, Action.brackets, stepBracket, frameBrackets,
      Context.bracket, htype _, hname _]
  | bodyStart thrown =>
    have hthrows := neutral_throwsActions hline (neutral_textBrackets_of_mem hop)
    simp only [Operation.admits, Bool.not_eq_true'] at hadmitted
    rw [frameBrackets_of_placed (List.mem_singleton.mp hplaced)]
    simp [Operation.actions, Operation.after, Action.brackets, stepBracket, frameBrackets,
      Context.bracket, hadmitted, hline _, hthrows _]
  | bodiless thrown =>
    have hthrows := neutral_throwsActions hline (neutral_textBrackets_of_mem hop)
    rw [frameBrackets_of_placed (List.mem_singleton.mp hplaced)]
    simp [Operation.actions, Operation.after, Action.brackets, stepBracket, Context.bracket,
      hline _, hthrows _]
  | superConstructorStart =>
    simp [Operation.actions, Operation.after, Action.brackets, stepBracket, frameBrackets,
      Context.bracket]
  | superCallStart name =>
    have hname := hneutral name List.mem_cons_self
    have htarget : Neutral ("super." ++ name).toList := by
      intro opened
      simp [stepBracket, hname _]
    exact match_callActions htarget
  | callStart target => exact match_callActions (hneutral target List.mem_cons_self)
  | callEnd =>
    rw [frameBrackets_of_placed (List.mem_singleton.mp hplaced)]
    simp only [Operation.actions, Operation.after]
    split <;> simp [Action.brackets, stepBracket, Context.bracket, hline _]
  | loopStart type name iterable ms =>
    have htype := hneutral type List.mem_cons_self
    have hname := hneutral name (List.mem_cons_of_mem _ List.mem_cons_self)
    have hiterable := hneutral iterable
      (List.mem_cons_of_mem _ (List.mem_cons_of_mem _ List.mem_cons_self))
    simp [Operation.actions, Operation.after, Action.brackets, stepBracket, frameBrackets,
      Context.bracket, hline _, htype _, hname _, hiterable _]
  | _ => exact hlevel rfl

end Operations

/-! ## Runs -/

/-- The text leaves open just the brackets of the constructs that are open. -/
structure Bracketed (style : Style) (e : Emitter) : Prop where
  style_eq : e.style = style
  depth_eq : e.depth = total e.frames
  match_eq : matchBrackets [] e.text.toList = some (frameBrackets e.frames)

theorem bracketed_of_perform {style : Style} (hstyle : style.Balanced) {op : Operation}
    (hop : op.Balanced) {e e' : Emitter} (he : Bracketed style e)
    (h : e.perform op = (e', none)) : Bracketed style e' := by
  have hleads := leads_of_perform he.depth_eq h
  have hbrackets := run_brackets (run_of_perform h)
  refine ⟨hleads.continues.style_eq.trans he.style_eq, hleads.depth_eq, ?_⟩
  rw [he.style_eq] at hbrackets
  rw [← matchBrackets_brackets, hbrackets, matchBrackets_append, matchBrackets_brackets,
    he.match_eq, Option.bind_some, hleads.frames_eq]
  exact match_actions hstyle hop hleads.placed hleads.admitted

theorem bracketed_of_performAll {style : Style} (hstyle : style.Balanced)
    {ops : List Operation} (hops : ∀ op ∈ ops, op.Balanced) {e e' : Emitter}
    (he : Bracketed style e) (h : e.performAll ops = (e', none)) : Bracketed style e' := by
  induction ops generalizing e with
  | nil =>
    cases h
    exact he
  | cons op rest ih =>
    rw [performAll] at h
    split at h
    · next middle hperform =>
      exact ih (fun op hop => hops op (List.mem_cons_of_mem _ hop))
        (bracketed_of_perform hstyle (hops op List.mem_cons_self) he hperform) h
    · next hstopped => exact absurd h (hstopped e')

theorem emit_eq_ok {e e' : Emitter} {ops : List Operation} :
    e.emit ops = .ok e' ↔ e.performAll ops = (e', none) := by
  unfold emit
  split <;> simp_all

theorem performAll_of_prefix {e last : Emitter} {ops done : List Operation}
    (hdone : done <+: ops) (h : e.performAll ops = (last, none)) :
    ∃ e', e.performAll done = (e', none) := by
  obtain ⟨rest, rfl⟩ := hdone
  rw [performAll_append] at h
  split at h
  · next e' hdone => exact ⟨e', hdone⟩
  · next hstopped => exact absurd h (hstopped last)

theorem filterMap_openContexts (e : Emitter) :
    e.openContexts.filterMap Context.bracket = (frameBrackets e.frames).reverse := by
  rw [openContexts, List.filterMap_map, List.filterMap_reverse]
  rfl

theorem Bracketed.openBrackets_eq {style : Style} {e : Emitter} (h : Bracketed style e) :
    openBrackets e.text = some (e.openContexts.filterMap Context.bracket) := by
  rw [openBrackets, h.match_eq, filterMap_openContexts]
  rfl

theorem eq_text_of_result {e : Emitter} {s : String} (h : e.result = .ok s) :
    s = e.text ∧ e.frames = [] := by
  unfold result at h
  split at h
  · exact nomatch h
  · split at h
    · exact nomatch h
    · next hbalanced =>
      split at h
      · exact nomatch h
      · cases h
        exact ⟨rfl, ensureBalanced_eq_ok.mp hbalanced⟩

/-- Operations on a new emitter that all succeed, with balanced texts: after each of them the
text closes no bracket wrongly and leaves open the brackets of the constructs that are open.  A
text that can be taken is balanced. -/
theorem emit_leaves_brackets (style : Style) (hstyle : style.Balanced) (ownsText : Bool)
    (ops : List Operation) (hops : ∀ op ∈ ops, op.Balanced) (last : Emitter)
    (hlast : emit { style, ownsText } ops = .ok last) (done : List Operation)
    (hdone : done <+: ops) :
    ∃ e, emit { style, ownsText } done = .ok e
      ∧ openBrackets e.text = some (e.openContexts.filterMap Context.bracket)
      ∧ ∀ s, e.result = .ok s → Text.Balanced s := by
  obtain ⟨e, he⟩ := performAll_of_prefix hdone (emit_eq_ok.mp hlast)
  have hbracketed : Bracketed style e :=
    bracketed_of_performAll hstyle (fun op hop => hops op (hdone.subset hop))
      ⟨rfl, rfl, rfl⟩ he
  refine ⟨e, emit_eq_ok.mpr he, hbracketed.openBrackets_eq, fun s hs => ?_⟩
  obtain ⟨rfl, hframes⟩ := eq_text_of_result hs
  rw [Text.Balanced, hbracketed.openBrackets_eq, openContexts, hframes]
  rfl

/-- A class whose method calls itself in a loop.  Its texts have brackets. -/
def nestedCalls : List Operation :=
  classDeclaration "Walk" "walk()" (Java.keywords [.«public»])
    ++ [ .methodStart "void" "visit" (.list []),
      .parameter (.text "@Named(\"a()\")") "Node" "node" localModifiers,
      .bodyStart [.text "java.io.IOException"],
      .loopStart "Node" "child" "node.children(0)" localModifiers,
      .callStart "visit",
      .argument (.text "new Node(child)"),
      .callEnd,
      .declarationStart "Node" "last" (.list []),
      .newInstance "Node" [.text "node", .text "children()"],
      .statementEnd,
      .loopEnd,
      .blockEnd,
      .blockEnd ]

theorem nestedCalls_leave_brackets :
    ({ } : Style).Balanced ∧ (∀ op ∈ nestedCalls, op.Balanced)
    ∧ (∃ last, emit {} nestedCalls = .ok last)
    ∧ nestedCalls.take 7 <+: nestedCalls
    ∧ ∃ e, emit {} (nestedCalls.take 7) = .ok e
      ∧ e.openContexts = [.classBody, .methodBody, .loopBody, .arguments]
      ∧ openBrackets e.text = some ['\x7b', '\x7b', '\x7b', '('] := by
  have hstyle : ({ } : Style).Balanced := ⟨by decide +kernel, by decide +kernel⟩
  have hops : ∀ op ∈ nestedCalls, op.Balanced := by decide +kernel
  have hlast : ∃ last, emit {} nestedCalls = .ok last := by
    have hsome : (emit {} nestedCalls).toOption.isSome = true := by decide +kernel
    cases hemit : emit {} nestedCalls with
    | ok last => exact ⟨last, rfl⟩
    | error f =>
      rw [hemit] at hsome
      exact nomatch hsome
  obtain ⟨last, hemit⟩ := hlast
  have hdone : nestedCalls.take 7 <+: nestedCalls := List.take_prefix 7 nestedCalls
  obtain ⟨e, he, hopened, -⟩ :=
    emit_leaves_brackets {} hstyle true nestedCalls hops last hemit _ hdone
  have hcontexts : (emit {} (nestedCalls.take 7)).toOption.map openContexts
      = some [.classBody, .methodBody, .loopBody, .arguments] := by decide +kernel
  rw [he] at hcontexts
  have hcontexts := Option.some.inj hcontexts
  rw [hcontexts] at hopened
  exact ⟨hstyle, hops, ⟨last, hemit⟩, hdone, e, he, hcontexts, hopened⟩

end Emitter
end JavaCompanion
