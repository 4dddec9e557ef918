/-
The normal form of laid out code.

A layout is put together from the lines that are not blank, each with an empty line before it where
blank lines stood there (`laidOut_eq`).  Cut at its line ends it is these lines again, so laying it
out once more changes nothing.  Code of blank lines only has no such lines, and a single empty line
is its layout (`layout_tidy`).
-/
import JavaCompanion.Proofs.Generation.Layout
import Mathlib.Data.List.Chain

namespace JavaCompanion
namespace Generation

open Text

variable {afterBlank : Bool} {line : List Char} {lines : List (List Char)}
  {entries : List (Bool × List Char)}

/-! ## Blank lines -/

/-- Whether a line holds nothing but padding. -/
def isBlankLine (line : List Char) : Bool := line.all isPadding

theorem isBlankLine_iff : isBlankLine line = true ↔ trimPadding line = [] := by
  rw [isBlankLine, List.all_eq_true]
  exact (List.rdropWhile_eq_nil_iff (p := isPadding)).symm

theorem trimPadding_trimPadding (line : List Char) :
    trimPadding (trimPadding line) = trimPadding line :=
  List.rdropWhile_idempotent isPadding line

theorem not_isPadding_of_getLast? {c : Char} (h : c ∈ (trimPadding line).getLast?) :
    isPadding c = false := by
  obtain ⟨hne, rfl⟩ := List.mem_getLast?_eq_getLast h
  exact Bool.eq_false_iff.mpr (List.rdropWhile_last_not isPadding line hne)

/-! ## Lines that are not blank -/

/-- The lines that are not blank, without the padding behind them, each with whether blank lines
stand directly before it. -/
def spaced : Bool → List (List Char) → List (Bool × List Char)
  | _, [] => []
  | afterBlank, line :: rest =>
    if isBlankLine line then spaced true rest
    else (afterBlank, trimPadding line) :: spaced false rest

/-- A line, with an empty one before it if blank lines stand there. -/
def withGap (entry : Bool × List Char) : List (List Char) :=
  if entry.1 then [[], entry.2] else [entry.2]

/-- Lines that are there and have no padding behind them. -/
def AreFilled (entries : List (Bool × List Char)) : Prop :=
  ∀ entry ∈ entries, entry.2 ≠ [] ∧ trimPadding entry.2 = entry.2

theorem areFilled_spaced (afterBlank : Bool) (lines : List (List Char)) :
    AreFilled (spaced afterBlank lines) := by
  induction lines generalizing afterBlank with
  | nil => exact nofun
  | cons line rest ih =>
    rw [spaced]
    split
    · exact ih true
    · next hblank =>
      refine List.forall_mem_cons.mpr ⟨⟨?_, trimPadding_trimPadding line⟩, ih false⟩
      exact fun hnil => hblank (isBlankLine_iff.mpr hnil)

theorem map_snd_spaced (afterBlank : Bool) (lines : List (List Char)) :
    (spaced afterBlank lines).map (·.2) = (lines.filter (!isBlankLine ·)).map trimPadding := by
  induction lines generalizing afterBlank with
  | nil => rfl
  | cons line rest ih => cases h : isBlankLine line <;> simp [spaced, h, ih]

theorem spaced_append_blank (h : isBlankLine line = true) (afterBlank : Bool)
    (lines : List (List Char)) :
    spaced afterBlank (lines ++ [line]) = spaced afterBlank lines := by
  induction lines generalizing afterBlank with
  | nil => simp [spaced, h]
  | cons first rest ih => simp [spaced, ih]

theorem spaced_eq_nil_iff : spaced afterBlank lines = [] ↔ ∀ line ∈ lines, isBlankLine line := by
  induction lines generalizing afterBlank with
  | nil => simp [spaced]
  | cons line rest ih => cases h : isBlankLine line <;> simp [spaced, h, ih]

/-! ## A layout is put together from them -/

theorem dropEmptyEnd_cons (line : List Char) (rest : List (List Char)) :
    dropEmptyEnd (line :: rest)
      = if dropEmptyEnd rest = [] then (if line.isEmpty then [] else [line])
        else line :: dropEmptyEnd rest :=
  rdropWhile_cons List.isEmpty line rest

/-- A line that is not empty stays, and so does an empty one before it. -/
theorem dropEmptyEnd_cons_of_ne (h : line ≠ []) (rest : List (List Char)) :
    dropEmptyEnd (line :: rest) = line :: dropEmptyEnd rest := by
  have hempty : line.isEmpty = false := by simpa using h
  rw [dropEmptyEnd_cons, hempty]
  split
  · next hnil => rw [hnil, if_neg Bool.false_ne_true]
  · rfl

/-- After a line the empty lines are still to come.  After an empty line that has been kept the
next one is dropped, and the one kept goes too if nothing follows. -/
theorem dropEmptyEnd_collapse (lines : List (List Char)) :
    dropEmptyEnd (collapse false (lines.map trimPadding)) = (spaced false lines).flatMap withGap
      ∧ dropEmptyEnd ([] :: collapse true (lines.map trimPadding))
        = (spaced true lines).flatMap withGap := by
  induction lines with
  | nil => exact ⟨rfl, rfl⟩
  | cons line rest ih =>
    cases hblank : isBlankLine line with
    | true =>
      have hnil : trimPadding line = [] := isBlankLine_iff.mp hblank
      simp only [List.map_cons, hnil, collapse, spaced, hblank, List.isEmpty_nil, if_true,
        Bool.false_eq_true, if_false]
      exact ⟨ih.2, ih.2⟩
    | false =>
      have hne : trimPadding line ≠ [] := by
        rw [Ne, ← isBlankLine_iff, hblank]
        exact Bool.false_ne_true
      have hempty : (trimPadding line).isEmpty = false := by simpa using hne
      have hkept : dropEmptyEnd (trimPadding line :: collapse false (rest.map trimPadding))
          = trimPadding line :: (spaced false rest).flatMap withGap := by
        rw [dropEmptyEnd_cons_of_ne hne, ih.1]
      simp only [List.map_cons, collapse, spaced, hblank, hempty, Bool.false_eq_true, if_false]
      constructor
      · rw [hkept]
        rfl
      · rw [dropEmptyEnd_cons, hkept, if_neg (List.cons_ne_nil _ _)]
        rfl

theorem laidOut_eq (lines : List (List Char)) :
    laidOut lines = (spaced false lines).flatMap withGap :=
  (dropEmptyEnd_collapse lines).1

/-! ## Lines that are laid out -/

theorem AreFilled.tail {entry : Bool × List Char} (h : AreFilled (entry :: entries)) :
    AreFilled entries :=
  fun other hother => h other (List.mem_cons_of_mem entry hother)

theorem spaced_withGap (h : AreFilled entries) :
    spaced false (entries.flatMap withGap) = entries := by
  induction entries with
  | nil => rfl
  | cons entry rest ih =>
    obtain ⟨gap, line⟩ := entry
    obtain ⟨hne, htrim⟩ := h _ List.mem_cons_self
    have hblank : isBlankLine line = false := by
      rw [← Bool.not_eq_true, isBlankLine_iff, htrim]
      exact hne
    have hempty : isBlankLine [] = true := rfl
    rw [List.flatMap_cons]
    cases gap <;> simp [withGap, spaced, hblank, hempty, htrim, ih h.tail]

theorem filter_withGap (h : AreFilled entries) :
    (entries.flatMap withGap).filter (!·.isEmpty) = entries.map (·.2) := by
  induction entries with
  | nil => rfl
  | cons entry rest ih =>
    obtain ⟨gap, line⟩ := entry
    have hne : line ≠ [] := (h _ List.mem_cons_self).1
    rw [List.flatMap_cons, List.filter_append, ih h.tail]
    cases gap <;> simp [withGap, hne]

theorem mem_withGap (h : AreFilled entries) (hline : line ∈ entries.flatMap withGap) :
    line = [] ∨ trimPadding line = line := by
  obtain ⟨entry, hentry, hmem⟩ := List.mem_flatMap.mp hline
  have htrim := (h entry hentry).2
  unfold withGap at hmem
  split at hmem
  · rcases List.mem_cons.mp hmem with rfl | hmem
    · exact .inl rfl
    · rw [List.mem_singleton.mp hmem]
      exact .inr htrim
  · rw [List.mem_singleton.mp hmem]
    exact .inr htrim

theorem isChain_withGap (h : AreFilled entries) :
    (entries.flatMap withGap).IsChain fun line next => line ≠ [] ∨ next ≠ [] := by
  induction entries with
  | nil => exact .nil
  | cons entry rest ih =>
    obtain ⟨gap, line⟩ := entry
    have hne : line ≠ [] := (h _ List.mem_cons_self).1
    have hline : (line :: rest.flatMap withGap).IsChain fun line next => line ≠ [] ∨ next ≠ [] :=
      List.isChain_cons.mpr ⟨fun _ _ => .inl hne, ih h.tail⟩
    cases gap with
    | false => exact hline
    | true => exact List.isChain_cons_cons.mpr ⟨.inr hne, hline⟩

theorem getLast?_withGap (h : AreFilled entries) :
    ∀ last ∈ (entries.flatMap withGap).getLast?, last ≠ [] := by
  induction entries with
  | nil => exact nofun
  | cons entry rest ih =>
    obtain ⟨gap, line⟩ := entry
    have hne : line ≠ [] := (h _ List.mem_cons_self).1
    have hgap : (withGap (gap, line)).getLast? = some line := by cases gap <;> rfl
    intro last hlast
    rw [List.flatMap_cons, List.getLast?_append, hgap] at hlast
    rcases Option.or_eq_some_iff.mp hlast with hlast | ⟨-, hlast⟩
    · exact ih h.tail last hlast
    · cases hlast
      exact hne

/-- The lines that code of these lines is laid out in. -/
structure Tidy (source lines : List (List Char)) : Prop where
  trimmed : ∀ line ∈ lines, ∀ c ∈ line.getLast?, isPadding c = false
  single : lines.IsChain fun line next => line ≠ [] ∨ next ≠ []
  filled_eq : lines.filter (!·.isEmpty) = (source.filter (!isBlankLine ·)).map trimPadding
  spaced_eq : spaced false lines = spaced false source
  last_filled : (∃ line ∈ source, isBlankLine line = false) → ∀ last ∈ lines.getLast?, last ≠ []
  eq_of_blank : (∀ line ∈ source, isBlankLine line) → lines = [[]]

theorem tidy_laidLines (source : List (List Char)) : Tidy source (laidLines source) := by
  have hfilled := areFilled_spaced false source
  unfold laidLines
  rw [laidOut_eq]
  by_cases hblank : ∀ line ∈ source, isBlankLine line
  · have hnone : spaced false source = [] := spaced_eq_nil_iff.mpr hblank
    rw [hnone, List.flatMap_nil, if_pos rfl]
    refine ⟨by simp, List.isChain_singleton _, ?_, ?_, ?_, fun _ => rfl⟩
    · rw [← map_snd_spaced false, hnone]
      rfl
    · rw [hnone]
      rfl
    · rintro ⟨line, hline, hfalse⟩
      rw [hblank line hline] at hfalse
      exact Bool.noConfusion hfalse
  · have hne : (spaced false source).flatMap withGap ≠ [] := by
      intro hnil
      have hspaced := spaced_withGap hfilled
      rw [hnil] at hspaced
      exact hblank (spaced_eq_nil_iff.mp hspaced.symm)
    rw [if_neg hne]
    refine ⟨fun line hline c hc => ?_, isChain_withGap hfilled, ?_, spaced_withGap hfilled,
      fun _ => getLast?_withGap hfilled, fun h => absurd h hblank⟩
    · rcases mem_withGap hfilled hline with rfl | htrim
      · exact nomatch hc
      · rw [← htrim] at hc
        exact not_isPadding_of_getLast? hc
    · rw [filter_withGap hfilled, map_snd_spaced]

/-! ## Code in its final layout -/

variable {l : LineEnd} {code : String}

theorem pieces_layout (l : LineEnd) (code : String) :
    pieces l.chars (layout l.text code).toList
      = laidLines (pieces l.chars code.toList) ++ [[]] := by
  have hnil : ¬ l.chars <:+: [] := not_infix_of_notMem List.not_mem_nil
  have hlines : ∀ line ∈ laidLines (pieces l.chars code.toList), ¬ l.chars <:+: line :=
    forall_laidLines hnil fun line hline hpart =>
      not_infix_of_mem_pieces hline (hpart.trans (isPrefix_trimPadding line).isInfix)
  rw [layout_eq, String.toList_ofList, ← pieces_ended hlines hnil, List.append_nil]

theorem layout_layout (l : LineEnd) (code : String) :
    layout l.text (layout l.text code) = layout l.text code := by
  have hspaced := (tidy_laidLines (pieces l.chars code.toList)).spaced_eq
  have hlaid : laidOut (pieces l.chars (layout l.text code).toList)
      = laidOut (pieces l.chars code.toList) := by
    rw [pieces_layout, laidOut_eq, laidOut_eq, spaced_append_blank rfl, hspaced]
  exact congrArg (fun ls => String.ofList (joinLines l.chars ls ++ l.chars)) hlaid

theorem layoutWith_text (l : LineEnd) (code : String) :
    layoutWith (.text l.text) code = .ok (layout l.text code) := by
  cases l <;> rfl

/-- Laid out code consists of lines with a line end behind each.  They are the lines of the code
that are not blank, without the padding behind them, with one empty line where the code has blank
lines before them.  Laying the result out changes nothing. -/
theorem layout_tidy (l : LineEnd) (code : String) :
    ∃ t lines, layoutWith (.text l.text) code = .ok t
      ∧ pieces l.chars t.toList = lines ++ [[]]
      ∧ Tidy (pieces l.chars code.toList) lines
      ∧ layoutWith (.text l.text) t = .ok t := by
  refine ⟨_, _, layoutWith_text l code, pieces_layout l code, tidy_laidLines _, ?_⟩
  rw [layoutWith_text, layout_layout]

/-- The empty text is laid out in one empty line. -/
theorem empty_line_left : ¬ ∀ (l : LineEnd) (code : String),
    ∃ t lines, layoutWith (.text l.text) code = .ok t
      ∧ pieces l.chars t.toList = lines ++ [[]] ∧ lines.getLast? ≠ some [] := by
  intro h
  obtain ⟨t, lines, ht, hlines, hlast⟩ := h .lf ""
  cases ht
  have hone : lines ++ [[]] = [[]] ++ [[]] := hlines.symm
  rw [List.append_cancel_right hone] at hlast
  exact hlast rfl

end Generation
end JavaCompanion
