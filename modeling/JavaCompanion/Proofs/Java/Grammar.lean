/-
The grammar of names.

A word is a letter, an underscore or a dollar sign, followed by any number of these and of digits.
An identifier is a word that the language has not reserved, and a qualified name is one or more
identifiers joined by dots.

The tests let one line feed pass behind a word, and behind a reserved word as well, for with the
line feed it is none of the reserved ones.  Apart from that they accept exactly what the grammar
makes (`tests_follow_grammar`).
-/
import JavaCompanion.Proofs.Java.Identifier
import JavaCompanion.Proofs.Text.LineEnds

namespace JavaCompanion
namespace Java

/-! ## The grammar -/

/-- A letter of ASCII, an underscore or a dollar sign. -/
def BeginsWord (c : Char) : Prop := c.isAlpha = true ∨ c = '_' ∨ c = '$'

inductive IsWord : List Char → Prop where
  | first {c : Char} (h : BeginsWord c) : IsWord [c]
  | next {cs : List Char} {c : Char} (hcs : IsWord cs) (h : BeginsWord c ∨ c.isDigit = true) :
    IsWord (cs ++ [c])

def IsIdentifier (s : String) : Prop := IsWord s.toList ∧ s ∉ reservedWords

/-- One or more texts of the kind, joined by dots. -/
def IsDotted (kind : String → Prop) (s : String) : Prop :=
  ∃ names : List String, names ≠ [] ∧ (∀ name ∈ names, kind name) ∧ s = ".".intercalate names

theorem IsDotted.imp {kind kind' : String → Prop} {s : String} (h : IsDotted kind s)
    (himp : ∀ name, kind name → kind' name) : IsDotted kind' s := by
  obtain ⟨names, hne, hnames, heq⟩ := h
  exact ⟨names, hne, fun name hname => himp name (hnames name hname), heq⟩

/-! ## Words -/

theorem isAlpha_iff {c : Char} :
    c.isAlpha = true ↔ ('A' ≤ c ∧ c ≤ 'Z') ∨ ('a' ≤ c ∧ c ≤ 'z') := by
  show (decide ('A' ≤ c ∧ c ≤ 'Z') || (decide ('a' ≤ c) && decide (c ≤ 'z'))) = true ↔ _
  simp only [Bool.or_eq_true, Bool.and_eq_true, decide_eq_true_eq]

theorem isNameStart_iff {c : Char} : isNameStart c = true ↔ BeginsWord c := by
  rw [BeginsWord, isAlpha_iff]
  simp only [isNameStart, Bool.or_eq_true, Bool.and_eq_true, decide_eq_true_eq, or_assoc]

theorem isNamePart_iff {c : Char} : isNamePart c = true ↔ BeginsWord c ∨ c.isDigit = true := by
  rw [isNamePart, Bool.or_eq_true, isNameStart_iff]
  unfold Char.isDigit
  simp only [Bool.and_eq_true, decide_eq_true_eq]
  rfl

theorem isWord_iff {cs : List Char} : IsWord cs ↔
    ∃ c rest, cs = c :: rest ∧ isNameStart c = true ∧ ∀ d ∈ rest, isNamePart d = true := by
  constructor
  · intro h
    induction h with
    | @first c h => exact ⟨c, [], rfl, isNameStart_iff.mpr h, nofun⟩
    | @next cs d hcs h ih =>
      obtain ⟨c, rest, rfl, hc, hrest⟩ := ih
      refine ⟨c, rest ++ [d], rfl, hc, fun e he => ?_⟩
      rcases List.mem_append.mp he with he | he
      · exact hrest e he
      · exact List.mem_singleton.mp he ▸ isNamePart_iff.mpr h
  · rintro ⟨c, rest, rfl, hc, hrest⟩
    induction rest using List.reverseRecOn with
    | nil => exact .first (isNameStart_iff.mp hc)
    | append_singleton rest d ih =>
      rw [← List.cons_append]
      apply IsWord.next
      · exact ih fun e he => hrest e (List.mem_append_left [d] he)
      · exact isNamePart_iff.mp (hrest d (List.mem_append_right rest List.mem_cons_self))

theorem continuesName_cons {c : Char} {rest : List Char} (h : rest ≠ []) :
    continuesName (c :: rest) = (isNamePart c && continuesName rest) := by
  rw [continuesName.eq_def]
  split
  · next hnil => exact nomatch hnil
  · next hfeed =>
    cases hfeed
    exact absurd rfl h
  · next hcons =>
    cases hcons
    rfl

/-- What follows the first character of a name may end with a line feed. -/
theorem continuesName_iff {cs : List Char} : continuesName cs = true ↔
    ∃ rest, (∀ d ∈ rest, isNamePart d = true) ∧ (cs = rest ∨ cs = rest ++ ['\n']) := by
  constructor
  · intro h
    fun_induction continuesName cs with
    | case1 => exact ⟨[], nofun, .inl rfl⟩
    | case2 => exact ⟨[], nofun, .inr rfl⟩
    | case3 d more hmore ih =>
      obtain ⟨hd, hmore⟩ := Bool.and_eq_true_iff.mp h
      obtain ⟨rest, hrest, heq⟩ := ih hmore
      refine ⟨d :: rest, List.forall_mem_cons.mpr ⟨hd, hrest⟩, ?_⟩
      rcases heq with rfl | rfl
      · exact .inl rfl
      · exact .inr rfl
  · rintro ⟨rest, hrest, rfl | rfl⟩
    · exact continuesName_of_all (List.all_eq_true.mpr hrest)
    · induction rest with
      | nil => rfl
      | cons d more ih =>
        obtain ⟨hd, hmore⟩ := List.forall_mem_cons.mp hrest
        have hne : more ++ ['\n'] ≠ [] := List.append_ne_nil_of_right_ne_nil more (by decide)
        rw [List.cons_append, continuesName_cons hne, hd, ih hmore]
        rfl

theorem isNameShaped_iff {cs : List Char} : isNameShaped cs = true ↔
    ∃ word, IsWord word ∧ (cs = word ∨ cs = word ++ ['\n']) := by
  constructor
  · intro h
    cases cs with
    | nil => exact nomatch h
    | cons c more =>
      obtain ⟨hc, hmore⟩ := Bool.and_eq_true_iff.mp h
      obtain ⟨rest, hrest, heq⟩ := continuesName_iff.mp hmore
      refine ⟨c :: rest, isWord_iff.mpr ⟨c, rest, rfl, hc, hrest⟩, ?_⟩
      rcases heq with rfl | rfl
      · exact .inl rfl
      · exact .inr rfl
  · rintro ⟨word, hword, heq⟩
    obtain ⟨c, rest, rfl, hc, hrest⟩ := isWord_iff.mp hword
    have hshape : ∀ more, (more = rest ∨ more = rest ++ ['\n']) →
        isNameShaped (c :: more) = true := by
      intro more hmore
      rw [isNameShaped, hc, continuesName_iff.mpr ⟨rest, hrest, hmore⟩]
      rfl
    rcases heq with rfl | rfl
    · exact hshape rest (.inl rfl)
    · exact hshape (rest ++ ['\n']) (.inr rfl)

/-! ## The tests -/

/-- What passes for an identifier: one of the grammar, or any word with a line feed behind it. -/
def PassesForIdentifier (s : String) : Prop :=
  IsIdentifier s ∨ ∃ word, IsWord word ∧ s.toList = word ++ ['\n']

theorem feed_notMem_of_isWord {cs : List Char} (h : IsWord cs) : '\n' ∉ cs := by
  intro hfeed
  obtain ⟨c, rest, rfl, hc, hrest⟩ := isWord_iff.mp h
  rcases List.mem_cons.mp hfeed with rfl | hmem
  · exact nomatch hc
  · exact nomatch hrest '\n' hmem

theorem feed_notMem_reservedWords : ∀ word ∈ reservedWords, '\n' ∉ word.toList := by decide

theorem isIdentifier_iff {s : String} : isIdentifier s = true ↔ PassesForIdentifier s := by
  rw [isIdentifier, Bool.and_eq_true, Bool.not_eq_true', isNameShaped_iff]
  simp only [List.contains_eq_mem, decide_eq_false_iff_not]
  constructor
  · rintro ⟨⟨word, hword, heq | heq⟩, hreserved⟩
    · exact .inl ⟨heq ▸ hword, hreserved⟩
    · exact .inr ⟨word, hword, heq⟩
  · rintro (⟨hword, hreserved⟩ | ⟨word, hword, heq⟩)
    · exact ⟨⟨s.toList, hword, .inl rfl⟩, hreserved⟩
    · refine ⟨⟨word, hword, .inr heq⟩, fun hmem => ?_⟩
      apply feed_notMem_reservedWords s hmem
      rw [heq]
      exact List.mem_append_right word List.mem_cons_self

theorem isQualifiedName_iff {s : String} :
    isQualifiedName s = true ↔ IsDotted (fun name => isIdentifier name = true) s := by
  rw [isQualifiedName, List.all_eq_true]
  constructor
  · intro h
    exact ⟨Text.splitAt '.' s, Text.splitAt_ne_nil '.' s, h, (Text.intercalate_splitAt '.' s).symm⟩
  · rintro ⟨names, hne, hnames, rfl⟩
    have hdots : ∀ name ∈ names, '.' ∉ name.toList := fun name hname =>
      not_mem_of_isIdentifier (hnames name hname) rfl (by decide)
    rw [show "." = String.singleton '.' from rfl, Text.splitAt_intercalate hne hdots]
    exact hnames

/-- On one line nothing but an identifier passes for one. -/
theorem isIdentifier_of_passes {s : String} (h : PassesForIdentifier s) (hline : Text.OneLine s) :
    IsIdentifier s := by
  rcases h with h | ⟨word, -, heq⟩
  · exact h
  · refine absurd ?_ hline
    rw [heq]
    exact List.mem_append_right word List.mem_cons_self

theorem oneLine_of_isDotted {s : String} (h : IsDotted IsIdentifier s) : Text.OneLine s := by
  obtain ⟨names, -, hnames, rfl⟩ := h
  apply Text.oneLine_intercalate (by decide)
  intro name hname
  exact feed_notMem_of_isWord (hnames name hname).1

theorem isDotted_of_oneLine {s : String} (h : IsDotted PassesForIdentifier s)
    (hline : Text.OneLine s) : IsDotted IsIdentifier s := by
  obtain ⟨names, hne, hnames, rfl⟩ := h
  refine ⟨names, hne, fun name hname => isIdentifier_of_passes (hnames name hname) ?_, rfl⟩
  intro hfeed
  exact hline ((Text.mem_intercalate (by decide)).mpr ⟨name, hname, hfeed⟩)

/-- The tests accept what the grammar makes, and besides that a line feed behind any word.  On one
line they accept what the grammar makes and nothing else. -/
theorem tests_follow_grammar (s : String) :
    (isIdentifier s = true ↔ PassesForIdentifier s)
      ∧ (isQualifiedName s = true ↔ IsDotted PassesForIdentifier s)
      ∧ (IsIdentifier s ↔ isIdentifier s = true ∧ Text.OneLine s)
      ∧ (IsDotted IsIdentifier s ↔ isQualifiedName s = true ∧ Text.OneLine s) := by
  have hqualified : isQualifiedName s = true ↔ IsDotted PassesForIdentifier s := by
    simp only [isQualifiedName_iff, isIdentifier_iff]
  refine ⟨isIdentifier_iff, hqualified, ?_, ?_⟩
  · rw [isIdentifier_iff]
    exact ⟨fun h => ⟨.inl h, feed_notMem_of_isWord h.1⟩, fun h => isIdentifier_of_passes h.1 h.2⟩
  · rw [hqualified]
    constructor
    · intro h
      exact ⟨h.imp fun _ => .inl, oneLine_of_isDotted h⟩
    · rintro ⟨h, hline⟩
      exact isDotted_of_oneLine h hline

/-- No word contains a line feed, but one is accepted behind a word, also behind a reserved one, and
in the middle of a qualified name. -/
theorem line_feed_accepted :
    isIdentifier "id\n" = true ∧ ¬ IsIdentifier "id\n"
      ∧ isIdentifier "class\n" = true ∧ "class" ∈ reservedWords
      ∧ isQualifiedName "com\n.example" = true ∧ ¬ IsDotted IsIdentifier "com\n.example" :=
  ⟨by decide, fun h => absurd (feed_notMem_of_isWord h.1) (by decide), by decide, by decide,
    by decide, fun h => absurd (oneLine_of_isDotted h) (by decide)⟩

end Java
end JavaCompanion
