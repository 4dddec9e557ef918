/-
The final layout of lines.

Code in its final layout is lines again, with a line end behind each (`layout_of_lined`).  Blanks at
the end of a line are dropped and empty lines collapse whatever the indentation is, so codes that
are the same line by line are so in their final layout (`layout_of_sameLines`).
-/
import JavaCompanion.Generation.Layout
import JavaCompanion.Proofs.Text.LineEnds
import Mathlib.Data.List.DropRight

namespace JavaCompanion
namespace Generation

open Text

variable {alike : Prop} {l l' : LineEnd} {t t' : String} {lines lines' : List (List Char)}

/-! ## Lines without the padding behind them -/

theorem rdropWhile_cons {α : Type} (p : α → Bool) (a : α) (as : List α) : (a :: as).rdropWhile p
    = if as.rdropWhile p = [] then (if p a then [] else [a]) else a :: as.rdropWhile p := by
  unfold List.rdropWhile
  rw [List.reverse_cons, List.dropWhile_append]
  by_cases hnil : as.reverse.dropWhile p = []
  · rw [hnil]
    cases ha : p a <;> simp [ha]
  · have hempty : (as.reverse.dropWhile p).isEmpty = false := by simpa using hnil
    simp [hempty, hnil]

theorem trimPadding_cons (c : Char) (cs : List Char) : trimPadding (c :: cs)
    = if trimPadding cs = [] then (if isPadding c then [] else [c]) else c :: trimPadding cs :=
  rdropWhile_cons isPadding c cs

theorem isPrefix_trimPadding (cs : List Char) : trimPadding cs <+: cs :=
  List.rdropWhile_prefix isPadding cs

theorem unindented_trimPadding (cs : List Char) :
    unindented (trimPadding cs) = trimPadding (unindented cs) := by
  induction cs with
  | nil => rfl
  | cons c rest ih =>
    rw [trimPadding_cons]
    by_cases hc : c = ' '
    · subst hc
      have hdrop : unindented (' ' :: rest) = unindented rest := rfl
      rw [hdrop, ← ih]
      by_cases hnil : trimPadding rest = []
      · rw [if_pos hnil, hnil]
        rfl
      · rw [if_neg hnil]
        rfl
    · have hkeep : ∀ more, unindented (c :: more) = c :: more := fun more => by
        simp [unindented, hc]
      rw [hkeep rest, trimPadding_cons]
      split
      · split
        · rfl
        · exact hkeep []
      · exact hkeep _

theorem trimPadding_eq_nil {cs : List Char} :
    trimPadding cs = [] ↔ trimPadding (unindented cs) = [] := by
  induction cs with
  | nil => exact Iff.rfl
  | cons c rest ih =>
    by_cases hc : c = ' '
    · subst hc
      have hdrop : unindented (' ' :: rest) = unindented rest := rfl
      rw [hdrop, ← ih, trimPadding_cons]
      by_cases hnil : trimPadding rest = [] <;> simp [hnil, isPadding]
    · have hkeep : unindented (c :: rest) = c :: rest := by simp [unindented, hc]
      rw [hkeep]

/-- Lines in their final layout that are the same are also empty together. -/
structure SameLaid (alike : Prop) (line line' : List Char) : Prop where
  same : SameLine alike line line'
  isEmpty_eq : line.isEmpty = line'.isEmpty

theorem sameLaid_trimPadding {line line' : List Char} (h : SameLine alike line line') :
    SameLaid alike (trimPadding line) (trimPadding line') where
  same := ⟨by rw [unindented_trimPadding, unindented_trimPadding, h.unindented_eq],
    fun halike => by rw [h.eq_of_alike halike]⟩
  isEmpty_eq := by
    rw [Bool.eq_iff_iff, List.isEmpty_iff, List.isEmpty_iff, trimPadding_eq_nil,
      @trimPadding_eq_nil line', h.unindented_eq]

/-! ## Empty lines -/

theorem sameLaid_collapse (afterEmpty : Bool) (h : List.Forall₂ (SameLaid alike) lines lines') :
    List.Forall₂ (SameLaid alike) (collapse afterEmpty lines) (collapse afterEmpty lines') := by
  induction h generalizing afterEmpty with
  | nil => exact .nil
  | @cons line line' rest rest' hline hrest ih =>
    rw [collapse, collapse, ← hline.isEmpty_eq]
    split
    · split
      · exact ih true
      · exact .cons ⟨.refl alike [], rfl⟩ (ih true)
    · exact .cons hline (ih false)

theorem sameLaid_dropWhile (h : List.Forall₂ (SameLaid alike) lines lines') :
    List.Forall₂ (SameLaid alike) (lines.dropWhile List.isEmpty)
      (lines'.dropWhile List.isEmpty) := by
  induction h with
  | nil => exact .nil
  | @cons line line' rest rest' hline hrest ih =>
    rw [List.dropWhile_cons, List.dropWhile_cons, ← hline.isEmpty_eq]
    split
    · exact ih
    · exact .cons hline hrest

theorem sameLaid_laidOut (h : List.Forall₂ (SameLine alike) lines lines') :
    List.Forall₂ (SameLaid alike) (laidOut lines) (laidOut lines') := by
  have htrimmed : List.Forall₂ (SameLaid alike) (lines.map trimPadding) (lines'.map trimPadding) :=
    List.forall₂_map_left_iff.mpr (List.forall₂_map_right_iff.mpr
      (h.imp fun _ _ => sameLaid_trimPadding))
  exact List.rel_reverse (sameLaid_dropWhile (List.rel_reverse (sameLaid_collapse false htrimmed)))

theorem mem_collapse {afterEmpty : Bool} {line : List Char} (h : line ∈ collapse afterEmpty lines) :
    line = [] ∨ line ∈ lines := by
  induction lines generalizing afterEmpty with
  | nil => exact nomatch h
  | cons first rest ih =>
    have hmore : ∀ b, line ∈ collapse b rest → line = [] ∨ line ∈ first :: rest := fun b hmem =>
      (ih hmem).imp_right (List.mem_cons_of_mem first)
    rw [collapse] at h
    split at h
    · split at h
      · exact hmore true h
      · rcases List.mem_cons.mp h with hnil | hmem
        · exact .inl hnil
        · exact hmore true hmem
    · rcases List.mem_cons.mp h with rfl | hmem
      · exact .inr List.mem_cons_self
      · exact hmore false hmem

/-! ## Layouts -/

/-- The lines of a layout: one, if nothing is left. -/
def laidLines (lines : List (List Char)) : List (List Char) :=
  if laidOut lines = [] then [[]] else laidOut lines

/-- The lines of a layout are empty or lines of the code without their padding. -/
theorem forall_laidLines {P : List Char → Prop} (hnil : P [])
    (htrim : ∀ line ∈ lines, P (trimPadding line)) : ∀ line ∈ laidLines lines, P line := by
  unfold laidLines
  split
  · rwa [List.forall_mem_singleton]
  · intro line hline
    have hmem := (List.dropWhile_sublist _).mem (List.mem_reverse.mp hline)
    rcases mem_collapse (List.mem_reverse.mp hmem) with rfl | hmem
    · exact hnil
    · obtain ⟨source, hsource, rfl⟩ := List.mem_map.mp hmem
      exact htrim source hsource

theorem joinLines_append {ls : List (List Char)} (h : ls ≠ []) :
    joinLines l.chars ls ++ l.chars = ended l ls := by
  induction ls with
  | nil => exact absurd rfl h
  | cons line rest ih =>
    cases rest with
    | nil => simp [joinLines]
    | cons next more =>
      rw [joinLines, ended_cons, ← ih (List.cons_ne_nil next more), List.append_assoc]
      exact nofun

theorem layout_eq (l : LineEnd) (code : String) :
    layout l.text code = String.ofList (ended l (laidLines (pieces l.chars code.toList))) := by
  show String.ofList (joinLines l.chars (laidOut (pieces l.chars code.toList)) ++ l.chars) = _
  unfold laidLines
  by_cases hnil : laidOut (pieces l.chars code.toList) = []
  · rw [if_pos hnil, hnil]
    simp [joinLines]
  · rw [if_neg hnil, joinLines_append hnil]

theorem layout_of_lined {last : List Char} (h : Lined l t lines last) :
    layout l.text t = String.ofList (ended l (laidLines (lines ++ [last]))) := by
  rw [layout_eq, h.toList_eq, pieces_ended]
  · exact fun line hline => not_infix_of_notMem (h.lines line hline)
  · exact not_infix_of_notMem h.last

/-- Codes that are the same line by line are so in their final layout. -/
theorem layout_of_sameLines {begun : Bool} (h : SameLines alike l l' begun t t') :
    ∃ ls ls', layout l.text t = String.ofList (ended l ls)
      ∧ layout l'.text t' = String.ofList (ended l' ls')
      ∧ (∀ line ∈ ls, '\n' ∉ line) ∧ (∀ line ∈ ls', '\n' ∉ line)
      ∧ List.Forall₂ (SameLine alike) ls ls' := by
  obtain ⟨lines, lines', last, last', ht, ht', hlines, hlast, -⟩ := h
  have hfeed : ∀ {l : LineEnd} {t : String} {lines : List (List Char)} {last : List Char},
      Lined l t lines last → ∀ line ∈ laidLines (lines ++ [last]), '\n' ∉ line := by
    intro l t lines last ht
    refine forall_laidLines List.not_mem_nil fun line hline hfeed => ?_
    exact List.forall_mem_append.mpr ⟨ht.lines, List.forall_mem_singleton.mpr ht.last⟩ line hline
      ((isPrefix_trimPadding line).subset hfeed)
  have hlaid := sameLaid_laidOut (List.rel_append hlines (.cons hlast .nil))
  refine ⟨_, _, layout_of_lined ht, layout_of_lined ht', hfeed ht, hfeed ht', ?_⟩
  have hnil : laidOut (lines ++ [last]) = [] ↔ laidOut (lines' ++ [last']) = [] := by
    rw [← List.length_eq_zero_iff, ← List.length_eq_zero_iff, hlaid.length_eq]
  unfold laidLines
  by_cases hempty : laidOut (lines ++ [last]) = []
  · rw [if_pos hempty, if_pos (hnil.mp hempty)]
    exact .cons (.refl alike []) .nil
  · rw [if_neg hempty, if_neg (mt hnil.mpr hempty)]
    exact hlaid.imp fun _ _ hline => hline.same

end Generation
end JavaCompanion
