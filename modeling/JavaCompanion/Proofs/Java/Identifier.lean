/-
What identifiers are made of.

Every character of an identifier is one of ASCII.  A subject does not begin in lower case, so
the bean convention leaves it as it is wherever it stands behind a verb
(`capitalize_of_isSubject`), and where a subject stands alone its first letter can be told from
what the convention makes of it (`eq_of_decapitalize_eq`).
-/
import JavaCompanion.Extraction.Mutators

namespace JavaCompanion
namespace Java

theorem ascii_of_isNamePart {c : Char} (h : isNamePart c = true) : c.toNat < 128 := by
  simp only [isNamePart, isNameStart, Bool.or_eq_true, Bool.and_eq_true, decide_eq_true_eq] at h
  rcases h with (((⟨-, h⟩ | ⟨-, h⟩) | rfl) | rfl) | ⟨-, h⟩
  · have hle : c.toNat ≤ 90 := h
    omega
  · have hle : c.toNat ≤ 122 := h
    omega
  · decide
  · decide
  · have hle : c.toNat ≤ 57 := h
    omega

theorem mem_of_continuesName {cs : List Char} (h : continuesName cs = true) :
    ∀ c ∈ cs, isNamePart c = true ∨ c = '\n' := by
  induction cs with
  | nil => exact nofun
  | cons c rest ih =>
    unfold continuesName at h
    split at h
    · next hnil => exact nomatch hnil
    · next hfeed =>
      rw [hfeed]
      exact fun d hd => .inr (List.mem_singleton.mp hd)
    · next d more _ hcons =>
      cases hcons
      rw [Bool.and_eq_true] at h
      exact List.forall_mem_cons.mpr ⟨.inl h.1, ih h.2⟩

theorem mem_of_isIdentifier {s : String} (h : isIdentifier s = true) :
    s.toList ≠ [] ∧ ∀ c ∈ s.toList, isNamePart c = true ∨ c = '\n' := by
  rw [isIdentifier, Bool.and_eq_true] at h
  have hshape := h.1
  cases hs : s.toList with
  | nil =>
    rw [hs] at hshape
    exact nomatch hshape
  | cons c rest =>
    rw [hs, isNameShaped, Bool.and_eq_true] at hshape
    exact ⟨List.cons_ne_nil c rest, List.forall_mem_cons.mpr
      ⟨.inl (by rw [isNamePart, hshape.1, Bool.true_or]), mem_of_continuesName hshape.2⟩⟩

theorem not_mem_of_isIdentifier {s : String} (h : isIdentifier s = true) {c : Char}
    (hc : isNamePart c = false) (hfeed : c ≠ '\n') : c ∉ s.toList := by
  intro hmem
  rcases (mem_of_isIdentifier h).2 c hmem with hpart | hline
  · rw [hc] at hpart
    exact nomatch hpart
  · exact hfeed hline

theorem not_reserved_of_isIdentifier {s : String} (h : isIdentifier s = true) :
    s ∉ reservedWords := by
  rw [isIdentifier, Bool.and_eq_true, Bool.not_eq_true'] at h
  simpa using h.2

theorem ascii_of_isIdentifier {s : String} (h : isIdentifier s = true) :
    ∀ c ∈ s.toList, c.toNat < 128 := by
  intro c hc
  rcases (mem_of_isIdentifier h).2 c hc with hpart | rfl
  · exact ascii_of_isNamePart hpart
  · decide

theorem toUpper_of_not_isLower {c : Char} (h : c.isLower = false) : c.toUpper = c := by
  have hnot : ¬ ('a'.val ≤ c.val ∧ c.val ≤ 'z'.val) := by
    intro hrange
    have hlower : c.isLower = true :=
      Bool.and_eq_true_iff.mpr ⟨decide_eq_true hrange.1, decide_eq_true hrange.2⟩
    rw [h] at hlower
    exact Bool.false_ne_true hlower
  exact dif_neg hnot

theorem capitalize_of_isSubject {s : String} (h : Extraction.isSubject s = true)
    (hascii : ∀ c ∈ s.toList, c.toNat < 128) : capitalize s = s := by
  unfold Extraction.isSubject at h
  unfold capitalize
  cases hs : s.toList with
  | nil =>
    rw [hs] at h
    exact nomatch h
  | cons c rest =>
    rw [hs] at h hascii
    have hc : c.toNat < 128 := hascii c List.mem_cons_self
    have hlower : c.isLower = false := by simpa [Text.isLower, hc] using h
    have hupper : Text.upperChar c = [c] := by
      rw [Text.upperChar, if_pos hc, toUpper_of_not_isLower hlower]
    show String.ofList (Text.upperChar c ++ rest) = s
    rw [hupper, List.singleton_append, ← hs, String.ofList_toList]

/-! ## Subjects that stand alone -/

theorem toUpper_toLower_of_not_isLower {c : Char} (hc : c.toNat < 128) (h : c.isLower = false) :
    c.toLower.toUpper = c := by
  have hall : ∀ n : Fin 128, (Char.ofNat n).isLower = false →
      (Char.ofNat n).toLower.toUpper = Char.ofNat n := by decide
  have hn := hall ⟨c.toNat, hc⟩
  rw [Char.ofNat_toNat] at hn
  exact hn h

theorem isUpper_toLower {c : Char} (hc : c.toNat < 128) : c.toLower.isUpper = false := by
  have hall : ∀ n : Fin 128, (Char.ofNat n).toLower.isUpper = false := by decide
  have hn := hall ⟨c.toNat, hc⟩
  rwa [Char.ofNat_toNat] at hn

/-- A name keeps its first letter, which is then in upper case, or has it in lower case. -/
theorem decapitalize_cases {s : String} {c : Char} {rest : List Char} (hs : s.toList = c :: rest)
    (hc : c.toNat < 128) :
    ((decapitalize s).toList = c :: rest ∧ c.isUpper = true)
      ∨ (decapitalize s).toList = c.toLower :: rest := by
  obtain ⟨abbreviated, heq⟩ : ∃ abbreviated, decapitalize s
      = if Text.isUpper c && abbreviated then s
        else String.ofList (Text.lowerFrom [] [c] ++ rest) :=
    ⟨_, by rw [decapitalize, hs]⟩
  rw [heq]
  split
  · next hkeep =>
    rw [Bool.and_eq_true, Text.isUpper, if_pos hc] at hkeep
    exact .inl ⟨hs, hkeep.1⟩
  · right
    have hsigma : c.toNat ≠ 0x3a3 := by omega
    rw [String.toList_ofList]
    simp [Text.lowerFrom, Text.lowerChar, hsigma, hc]

/-- No two subjects are made one by the convention: the letter that is lowered was no lower case
letter before, and is none in upper case after. -/
theorem eq_of_decapitalize_eq {s t : String} (hs : Extraction.isSubject s = true)
    (ht : Extraction.isSubject t = true) (hsascii : ∀ c ∈ s.toList, c.toNat < 128)
    (htascii : ∀ c ∈ t.toList, c.toNat < 128) (h : decapitalize s = decapitalize t) : s = t := by
  unfold Extraction.isSubject at hs ht
  cases hslist : s.toList with
  | nil =>
    rw [hslist] at hs
    exact nomatch hs
  | cons c rest =>
    cases htlist : t.toList with
    | nil =>
      rw [htlist] at ht
      exact nomatch ht
    | cons d more =>
      rw [hslist] at hs hsascii
      rw [htlist] at ht htascii
      have hc : c.toNat < 128 := hsascii c List.mem_cons_self
      have hd : d.toNat < 128 := htascii d List.mem_cons_self
      have hclower : c.isLower = false := by simpa [Text.isLower, hc] using hs
      have hdlower : d.isLower = false := by simpa [Text.isLower, hd] using ht
      have hlist : (decapitalize s).toList = (decapitalize t).toList := congrArg String.toList h
      rw [← String.toList_inj, hslist, htlist]
      rcases decapitalize_cases hslist hc with ⟨hskept, hcupper⟩ | hslowered <;>
        rcases decapitalize_cases htlist hd with ⟨htkept, hdupper⟩ | htlowered
      · rw [← hskept, ← htkept, hlist]
      · -- A letter in upper case is not what another letter is lowered to.
        rw [hskept, htlowered, List.cons.injEq] at hlist
        rw [hlist.1, isUpper_toLower hd] at hcupper
        exact absurd hcupper Bool.false_ne_true
      · rw [hslowered, htkept, List.cons.injEq] at hlist
        rw [← hlist.1, isUpper_toLower hc] at hdupper
        exact absurd hdupper Bool.false_ne_true
      · rw [hslowered, htlowered, List.cons.injEq] at hlist
        rw [hlist.2, ← toUpper_toLower_of_not_isLower hc hclower, hlist.1,
          toUpper_toLower_of_not_isLower hd hdlower]

end Java
end JavaCompanion
