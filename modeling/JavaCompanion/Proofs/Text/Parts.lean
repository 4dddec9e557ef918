/-
Texts taken apart: a beginning and the rest, and the parts between one character.

The parts of a text are the lists that the library splits it into (`parts_eq_splitOn`): joined by
the character they are the text again, and parts without the character are those of the text that
joins them.  A text has all parts of another one for its first parts exactly if it is that text or
goes on with the character behind it (`splitAt_prefix_iff`).
-/
import JavaCompanion.Text.Split
import Mathlib.Data.List.Infix

namespace JavaCompanion
namespace Text

variable {c : Char} {cs : List Char} {s t : String}

/-- A character that does not separate the texts stands in one of them. -/
theorem mem_intercalate {separator : String} {texts : List String} (h : c ∉ separator.toList) :
    c ∈ (separator.intercalate texts).toList ↔ ∃ s ∈ texts, c ∈ s.toList := by
  induction texts with
  | nil => simp
  | cons s rest ih =>
    by_cases hrest : rest = []
    · simp [hrest]
    · rw [String.intercalate_cons_of_ne_nil hrest]
      simp only [String.toList_append, List.mem_append, h, or_false, ih, List.exists_mem_cons_iff]

/-! ## Beginnings -/

theorem isPrefixOf_toList_iff {s t : String} :
    s.toList.isPrefixOf t.toList = true ↔ ∃ rest, t = s ++ rest := by
  rw [List.isPrefixOf_iff_prefix]
  constructor
  · rintro ⟨rest, hrest⟩
    refine ⟨String.ofList rest, ?_⟩
    rw [← String.toList_inj, String.toList_append, String.toList_ofList, hrest]
  · rintro ⟨rest, rfl⟩
    rw [String.toList_append]
    exact List.prefix_append s.toList rest.toList

/-- The longest beginning of a class is cut off where the first other character stands. -/
theorem takeWhile_dropWhile_append {p : Char → Bool} {word rest : List Char}
    (hword : ∀ c ∈ word, p c = true) (hrest : ∀ c ∈ rest.head?, p c = false) :
    (word ++ rest).takeWhile p = word ∧ (word ++ rest).dropWhile p = rest := by
  have hnone : rest.takeWhile p = [] ∧ rest.dropWhile p = rest := by
    cases rest with
    | nil => exact ⟨rfl, rfl⟩
    | cons c more =>
      have hc : p c = false := hrest c rfl
      simp [hc]
  rw [List.takeWhile_append_of_pos hword, List.dropWhile_append_of_pos hword, hnone.1, hnone.2,
    List.append_nil]
  exact ⟨rfl, rfl⟩

/-! ## Parts -/

theorem parts_eq_splitOn (c : Char) (cs : List Char) : parts c cs = cs.splitOn c := by
  induction cs with
  | nil => rw [List.splitOn_nil, parts]
  | cons d rest ih =>
    rw [List.splitOn_cons_eq_if_modifyHead, ← ih, parts]
    simp only [beq_iff_eq]
    split
    · rfl
    · cases hrest : parts c rest with
      | nil => exact absurd hrest (parts_ne_nil c rest)
      | cons part more => rfl

theorem parts_of_not_mem (h : c ∉ cs) : parts c cs = [cs] := by
  rw [parts_eq_splitOn, List.splitOn_eq_singleton h]

theorem splitAt_ne_nil (c : Char) (s : String) : splitAt c s ≠ [] := by
  simpa [splitAt] using parts_ne_nil c s.toList

theorem map_toList_splitAt (c : Char) (s : String) :
    (splitAt c s).map String.toList = s.toList.splitOn c := by
  simp [splitAt, parts_eq_splitOn]

theorem intercalate_splitAt (c : Char) (s : String) :
    (String.singleton c).intercalate (splitAt c s) = s := by
  rw [← String.toList_inj, String.toList_intercalate, map_toList_splitAt,
    String.toList_singleton, List.intercalate_splitOn]

theorem splitAt_injective (h : splitAt c s = splitAt c t) : s = t := by
  rw [← intercalate_splitAt c s, h, intercalate_splitAt]

theorem splitAt_intercalate {names : List String} (hne : names ≠ [])
    (h : ∀ name ∈ names, c ∉ name.toList) :
    splitAt c ((String.singleton c).intercalate names) = names := by
  have hparts : ([c].intercalate (names.map String.toList)).splitOn c
      = names.map String.toList :=
    List.splitOn_intercalate c (by simpa using h) (by simpa using hne)
  rw [splitAt, parts_eq_splitOn, String.toList_intercalate, String.toList_singleton, hparts]
  simp

theorem splitAt_append (s t : String) :
    splitAt c (s ++ String.singleton c ++ t) = splitAt c s ++ splitAt c t := by
  simp [splitAt, parts_eq_splitOn, List.splitOn_append_cons_self]

/-- Behind the last cut a text goes on with everything that holds no cut. -/
theorem parts_append_of_not_mem {ds : List Char} (h : c ∉ ds) :
    parts c (cs ++ ds) = (parts c cs).dropLast ++ [(parts c cs).getLast?.getD [] ++ ds] := by
  induction cs with
  | nil => exact parts_of_not_mem h
  | cons d rest ih =>
    have hne := parts_ne_nil c rest
    rw [List.cons_append, parts, parts, ih]
    cases hrest : parts c rest with
    | nil => exact absurd hrest hne
    | cons part more =>
      split
      · rfl
      · cases more <;> rfl

theorem splitAt_append_of_not_mem (h : c ∉ t.toList) :
    splitAt c (s ++ t) = (splitAt c s).dropLast ++ [(splitAt c s).getLast?.getD "" ++ t] := by
  have hne := parts_ne_nil c s.toList
  simp [splitAt, parts_append_of_not_mem h, List.getLast?_eq_some_getLast hne, List.map_dropLast]

/-- With another character in place of the one that separates, the parts are the same. -/
theorem splitAt_swapChar {old new : Char} (h : new ∉ s.toList) :
    splitAt new (swapChar old new s) = splitAt old s := by
  have hparts : ∀ cs : List Char, new ∉ cs →
      parts new (cs.map fun d => if d = old then new else d) = parts old cs := by
    intro cs hcs
    induction cs with
    | nil => rfl
    | cons d rest ih =>
      rw [List.mem_cons, not_or] at hcs
      rw [List.map_cons, parts, parts, ih hcs.2]
      by_cases hd : d = old
      · rw [if_pos hd, if_pos rfl, if_pos hd]
      · rw [if_neg hd, if_neg (Ne.symm hcs.1), if_neg hd]
  rw [splitAt, swapChar, String.toList_ofList, hparts s.toList h, splitAt]

/-- The first parts of a text make up another text where that ends at one of the cuts. -/
theorem splitAt_prefix_iff :
    splitAt c s <+: splitAt c t ↔ t = s ∨ ∃ rest, t = s ++ String.singleton c ++ rest := by
  constructor
  · rintro ⟨more, hmore⟩
    rw [← intercalate_splitAt c t, ← hmore]
    by_cases hnil : more = []
    · rw [hnil, List.append_nil, intercalate_splitAt]
      exact .inl rfl
    · rw [String.intercalate_append_of_ne_nil (splitAt_ne_nil c s) hnil, intercalate_splitAt]
      exact .inr ⟨_, rfl⟩
  · rintro (rfl | ⟨rest, rfl⟩)
    · exact List.prefix_rfl
    · rw [splitAt_append]
      exact List.prefix_append _ _

end Text
end JavaCompanion
