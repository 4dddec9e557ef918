/-
What operations write on one line.

Lines are ended by actions that do nothing else.  If the texts that an operation is given stay on
one line, so does everything that its other actions write (`oneLine_actions`).  A header comment
may be given any text, as it is written line by line.
-/
import JavaCompanion.Proofs.Emitter.Texts
import JavaCompanion.Proofs.Emitter.Transition
import JavaCompanion.Proofs.Text.LineEnds
import JavaCompanion.Proofs.Text.Surrogate

namespace JavaCompanion
namespace Emitter

open Text

/-- Whether the texts of the operation stay on one line.  Those of a header comment need not. -/
def Operation.OneLine : Operation → Prop
  | .headerComment _ => True
  | op => ∀ s ∈ op.texts, Text.OneLine s

/-- Whether the action stays on its line, if it does not end it. -/
def Action.OneLine : Action → Prop
  | .write s => Text.OneLine s
  | .writeValue v => ∀ s, v = .text s → Text.OneLine s
  | .joined separator v => Text.OneLine separator ∧ ∀ s ∈ textsIn v, Text.OneLine s
  | _ => True

/-! ## Texts that are put together -/

theorem oneLine_text_of_mem {vs : List Value} (h : ∀ s ∈ textsIn (.list vs), Text.OneLine s)
    {v : Value} (hv : v ∈ vs) : ∀ s, v = .text s → Text.OneLine s := by
  rintro s rfl
  exact h s (List.mem_filterMap.mpr ⟨_, hv, rfl⟩)

theorem oneLine_items {v : Value} {vs : List Value} (h : ∀ s ∈ textsIn v, Text.OneLine s)
    (hvs : v.items = .ok vs) : ∀ s ∈ textsIn (.list vs), Text.OneLine s := by
  intro s hs
  obtain ⟨u, hu, hs⟩ := List.mem_filterMap.mp hs
  cases v with
  | list items =>
    cases hvs
    exact h s (List.mem_filterMap.mpr ⟨u, hu, hs⟩)
  | text t =>
    cases hvs
    obtain ⟨symbol, hsymbol, rfl⟩ := List.mem_map.mp hu
    cases hs
    rw [Text.OneLine, String.toList_ofList]
    exact fun hc => h t List.mem_cons_self (Text.mem_of_mem_symbols hsymbol hc)
  | object fields =>
    cases hvs
    obtain ⟨f, hf, rfl⟩ := List.mem_map.mp hu
    cases hs
    exact h f.1 (List.mem_map_of_mem hf)
  | _ => cases hvs

theorem oneLine_joinedText {separator s : String} {v : Value} (h : Text.OneLine separator)
    (hv : ∀ t ∈ textsIn v, Text.OneLine t) (hs : joinedText separator v = .ok s) :
    Text.OneLine s := by
  obtain ⟨texts, htexts, hs⟩ := bind_eq_ok.mp hs
  cases hs
  obtain ⟨vs, hvs, hmap⟩ := bind_eq_ok.mp (shaped_eq_ok.mp htexts)
  refine oneLine_intercalate h fun t ht => ?_
  refine oneLine_text_of_mem (oneLine_items hv hvs) ?_ t rfl
  rw [eq_texts_of_mapM_asOperand hmap]
  exact List.mem_map_of_mem ht

theorem oneLine_joinedAnnotations {annotations : Value} {s : String}
    (h : ∀ t ∈ textsIn annotations, Text.OneLine t)
    (hs : Operation.joinedAnnotations annotations = .ok s) : Text.OneLine s := by
  unfold Operation.joinedAnnotations at hs
  split at hs
  · cases hs
    exact h _ List.mem_cons_self
  · exact oneLine_joinedText (by decide) h hs

theorem oneLine_modifierText {v : Value} {s : String} (h : modifierText v = .ok s) :
    Text.OneLine s := by
  unfold modifierText at h
  split at h
  · cases h
    have hkeyword : ∀ m : Java.Modifier, Text.OneLine (m.keyword ++ " ") := fun m => by
      cases m <;> decide
    rw [Text.OneLine, String.toList_join, List.flatMap_map]
    intro hfeed
    obtain ⟨m, -, hm⟩ := List.mem_flatMap.mp hfeed
    exact hkeyword m hm
  · cases h

/-! ## Parts of operations -/

namespace Operation

theorem oneLine_generatedLine {marker : Value} {provenance : String}
    (hmarker : Text.OneLine marker.display) (hprovenance : Text.OneLine provenance) :
    ∀ a ∈ generatedLine marker provenance, a.OneLine := by
  have hline : Text.OneLine ("@" ++ marker.display ++ "(\"" ++ provenance ++ "\")") := by
    simp only [oneLine_append, hmarker, hprovenance]
    decide
  unfold generatedLine
  split
  · simpa [Action.OneLine] using hline
  · simp

theorem oneLine_commentLines (text : Value) : ∀ a ∈ commentLines text, a.OneLine := by
  unfold commentLines
  split
  · intro a ha
    obtain ⟨line, hline, ha⟩ := List.mem_flatMap.mp ha
    have hwritten : Text.OneLine (stripRight (" * " ++ line)) :=
      oneLine_stripRight (oneLine_append.mpr ⟨by decide, oneLine_of_mem_splitLines hline⟩)
    simp only [commentLine, List.mem_cons, List.not_mem_nil, or_false] at ha
    rcases ha with rfl | rfl | rfl
    · trivial
    · exact hwritten
    · trivial
  · simp [Action.OneLine]

theorem oneLine_throwsFrom {thrown : List Value}
    (h : ∀ v ∈ thrown, ∀ s, v = .text s → Text.OneLine s) :
    ∀ a ∈ throwsFrom thrown, a.OneLine := by
  fun_induction throwsFrom thrown with
  | case1 => simp
  | case2 t => simpa [Action.OneLine] using h t List.mem_cons_self
  | case3 t rest _ ih =>
    obtain ⟨ht, hrest⟩ := List.forall_mem_cons.mp h
    simp only [List.cons_append, List.nil_append, List.forall_mem_cons]
    exact ⟨trivial, ht, (by decide : Text.OneLine ","), trivial, ih hrest⟩

theorem oneLine_throwsActions {thrown : List Value}
    (h : ∀ s ∈ textsIn (.list thrown), Text.OneLine s) :
    ∀ a ∈ throwsActions thrown, a.OneLine := by
  unfold throwsActions
  split
  · simp
  · simp only [List.cons_append, List.nil_append, List.forall_mem_cons]
    exact ⟨(by decide : Text.OneLine " throws"), trivial,
      oneLine_throwsFrom fun v hv => oneLine_text_of_mem h hv⟩

theorem oneLine_argumentLines {arguments : List Value}
    (h : ∀ v ∈ arguments, ∀ s, v = .text s → Text.OneLine s) :
    ∀ a ∈ argumentLines arguments, a.OneLine := by
  fun_induction argumentLines arguments with
  | case1 => simp
  | case2 t => simpa [Action.OneLine] using h t List.mem_cons_self
  | case3 t rest _ ih =>
    obtain ⟨ht, hrest⟩ := List.forall_mem_cons.mp h
    simp only [List.cons_append, List.nil_append, List.forall_mem_cons]
    exact ⟨trivial, trivial, ht, (by decide : Text.OneLine ","), ih hrest⟩

theorem oneLine_extendsActions {extended : Value}
    (h : ∀ s ∈ textsIn extended, Text.OneLine s) :
    ∀ a ∈ extendsActions extended, a.OneLine := by
  unfold extendsActions
  split
  · simp [Action.OneLine]
  · simp
  · next names _ hnames =>
    simp only [List.forall_mem_cons]
    exact ⟨(by decide : Text.OneLine " extends "),
      ⟨(by decide : Text.OneLine ", "), oneLine_items h hnames⟩, by simp⟩

theorem oneLine_parameterLine {annotations ms : Value} {declared : String}
    (h : ∀ s ∈ textsIn annotations, Text.OneLine s) (hdeclared : Text.OneLine declared) :
    ∀ a ∈ parameterLine annotations ms declared, a.OneLine := by
  unfold parameterLine
  split
  · simp [Action.OneLine]
  · next s hs =>
    have hannotations := oneLine_joinedAnnotations h hs
    have hblank : Text.OneLine " " := by decide
    split <;> simp [Action.OneLine, hannotations, hblank, hdeclared]

/-! ## Operations -/

theorem oneLine_callActions {inStatement : Bool} {target : String} (h : Text.OneLine target) :
    ∀ a ∈ callActions inStatement target, a.OneLine := by
  have hopening : Text.OneLine (target ++ "(") := oneLine_append.mpr ⟨h, by decide⟩
  cases inStatement <;> simpa [callActions, Action.OneLine] using hopening

theorem oneLine_valueSuffix {value : Option String} (h : ∀ s ∈ value.toList, Text.OneLine s) :
    Text.OneLine (valueSuffix value) := by
  cases value with
  | none => decide
  | some s => exact oneLine_append.mpr ⟨by decide, h s List.mem_cons_self⟩

/-- What an operation writes within a line stays on it. -/
theorem oneLine_actions {style : Style} {frame : Frame} {op : Operation}
    (hmarker : Text.OneLine style.generatedMarker.display) (h : op.OneLine) :
    ∀ a ∈ op.actions style frame, a.OneLine := by
  cases op with
  | headerComment text =>
    have hlines := oneLine_commentLines text
    simp only [actions, List.forall_mem_append]
    exact ⟨⟨by simp +decide [Action.OneLine], hlines⟩, by simp +decide [Action.OneLine]⟩
  | packageDeclaration name =>
    have hname : Text.OneLine name := h name List.mem_cons_self
    simp only [actions]
    split <;> simp +decide [Action.OneLine, oneLine_append, hname]
  | annotate text | raw text =>
    have htext : ∀ s, text = .text s → Text.OneLine s := fun s hs =>
      h s (by simp [hs, texts, textsIn])
    simpa [actions, Action.OneLine] using htext
  | argument value =>
    have hvalue : ∀ s, value = .text s → Text.OneLine s := fun s hs =>
      h s (by simp [hs, texts, textsIn])
    simp only [actions]
    split <;> simpa +decide [Action.OneLine] using hvalue
  | classStart name provenance ms =>
    have hname : Text.OneLine name := h name (by simp [texts])
    have hprovenance : Text.OneLine provenance := h provenance (by simp [texts])
    simp only [actions, List.forall_mem_append]
    exact ⟨oneLine_generatedLine hmarker hprovenance,
      by simp +decide [Action.OneLine, oneLine_append, hname]⟩
  | classExtends name =>
    have hname : Text.OneLine name := h name List.mem_cons_self
    simp only [actions]
    split
    · simp [misuse, Action.OneLine]
    · split <;> simp +decide [misuse, Action.OneLine, oneLine_append, hname]
  | classImplements names =>
    have hnames : ∀ s ∈ textsIn (.list names), Text.OneLine s := h
    simp only [actions]
    split
    · simp [misuse, Action.OneLine]
    · split
      · simp
      · simpa +decide [Action.OneLine] using hnames
  | interfaceStart name provenance ms extended =>
    have hname : Text.OneLine name := h name (by simp [texts])
    have hprovenance : Text.OneLine provenance := h provenance (by simp [texts])
    have hextended : ∀ s ∈ textsIn extended, Text.OneLine s := fun s hs => h s (by simp [texts, hs])
    simp only [actions, List.forall_mem_append]
    exact ⟨⟨⟨oneLine_generatedLine hmarker hprovenance,
      by simp +decide [Action.OneLine, oneLine_append, hname]⟩, oneLine_extendsActions hextended⟩,
      by simp +decide [Action.OneLine]⟩
  | field type name ms value =>
    have htype : Text.OneLine type := h type (by simp [texts])
    have hname : Text.OneLine name := h name (by simp [texts])
    have hvalue : Text.OneLine (valueSuffix value) :=
      oneLine_valueSuffix fun s hs => h s (by simp [texts, hs])
    simp +decide [actions, Action.OneLine, oneLine_append, htype, hname, hvalue]
  | constructorStart name ms =>
    have hname : Text.OneLine name := h name List.mem_cons_self
    simp +decide [actions, Action.OneLine, oneLine_append, hname]
  | methodStart type name ms | declarationStart type name ms =>
    have htype : Text.OneLine type := h type (by simp [texts])
    have hname : Text.OneLine name := h name (by simp [texts])
    simp +decide [actions, Action.OneLine, oneLine_append, htype, hname]
  | parameter annotations type name ms =>
    have htype : Text.OneLine type := h type (by simp [texts])
    have hname : Text.OneLine name := h name (by simp [texts])
    have hline : ∀ a ∈ parameterLine annotations ms (type ++ " " ++ name), a.OneLine :=
      oneLine_parameterLine (fun s hs => h s (by simp [texts, hs]))
        (by simp +decide [oneLine_append, htype, hname])
    simp only [actions, List.forall_mem_append]
    refine ⟨⟨?_, by simp [Action.OneLine]⟩, hline⟩
    split <;> simp +decide [Action.OneLine]
  | bodyStart thrown =>
    have hthrown := oneLine_throwsActions h
    simp only [actions]
    split
    · simp [misuse, Action.OneLine]
    · simp only [List.forall_mem_append]
      exact ⟨⟨by simp +decide [Action.OneLine], hthrown⟩, by simp +decide [Action.OneLine]⟩
  | bodiless thrown =>
    have hthrown := oneLine_throwsActions h
    simp only [actions, List.forall_mem_append]
    exact ⟨⟨by simp +decide [Action.OneLine], hthrown⟩, by simp +decide [Action.OneLine]⟩
  | superCallStart name =>
    exact oneLine_callActions (oneLine_append.mpr ⟨by decide, h name List.mem_cons_self⟩)
  | callStart name => exact oneLine_callActions (h name List.mem_cons_self)
  | callEnd =>
    simp only [actions]
    split <;> simp +decide [Action.OneLine]
  | declaration type name value ms =>
    have htype : Text.OneLine type := h type (by simp [texts])
    have hname : Text.OneLine name := h name (by simp [texts])
    have hvalue : Text.OneLine value := h value (by simp [texts])
    simp +decide [actions, Action.OneLine, oneLine_append, htype, hname, hvalue]
  | assignment target value =>
    have htarget : Text.OneLine target := h target (by simp [texts])
    have hvalue : Text.OneLine value := h value (by simp [texts])
    simp +decide [actions, Action.OneLine, oneLine_append, htarget, hvalue]
  | returnValue value =>
    have hvalue : ∀ s ∈ value.toList, Text.OneLine s := h
    cases value with
    | none => simp +decide [actions, Action.OneLine]
    | some s =>
      have hs : Text.OneLine s := hvalue s List.mem_cons_self
      simp +decide [actions, Action.OneLine, oneLine_append, hs]
  | newInstance name arguments =>
    have hname : Text.OneLine name := h name (by simp [texts])
    have harguments : ∀ a ∈ argumentLines arguments, a.OneLine :=
      oneLine_argumentLines fun v hv =>
        oneLine_text_of_mem (fun s hs => h s (by simp [texts, hs])) hv
    simp only [actions]
    split
    · simp [misuse, Action.OneLine]
    · simp only [List.forall_mem_append]
      exact ⟨⟨by simp +decide [Action.OneLine, oneLine_append, hname], harguments⟩,
        by simp +decide [Action.OneLine]⟩
  | loopStart type name iterable ms =>
    have htype : Text.OneLine type := h type (by simp [texts])
    have hname : Text.OneLine name := h name (by simp [texts])
    have hiterable : Text.OneLine iterable := h iterable (by simp [texts])
    simp +decide [actions, Action.OneLine, oneLine_append, htype, hname, hiterable]
  | classEnd | interfaceEnd | blockEnd | superConstructorStart | returnStart | statementEnd
  | loopEnd => simp +decide [actions, Action.OneLine]

end Operation

end Emitter
end JavaCompanion
