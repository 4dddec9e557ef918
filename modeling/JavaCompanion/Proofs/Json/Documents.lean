/-
What JSON texts hold, and what is read from them.

A text that is written has no carriage return, as the ones in its texts are escaped, so a file
of it reads as it was written (`decodeLines_bytes`).  An object that is read has no name
twice, at any depth (`Proper`).
-/
import JavaCompanion.FileTree.Encoding
import JavaCompanion.Json.Reader
import JavaCompanion.Json.Writer
import JavaCompanion.Proofs.Outcome
import JavaCompanion.Proofs.Text.Surrogate
import JavaCompanion.Proofs.Value.Fields

namespace JavaCompanion

/-! ## Files of texts -/

namespace FileTree

theorem decode_toUTF8 (s : String) : decode s.toUTF8 = some (Text.spelled s) := by
  rw [decode, String.fromUTF8?, String.toUTF8_eq_toByteArray, dif_pos s.isValidUTF8]
  rfl

/-- A text is found again in its bytes. -/
theorem decode_bytes {s : String} {bytes : ByteArray} (h : Text.bytes? s = some bytes) :
    decode bytes = some s := by
  obtain ⟨cs, hcs, rfl⟩ := Option.map_eq_some_iff.mp h
  rw [decode_toUTF8, Text.spelled, String.toList_ofList, Text.spelled_of_characters? hcs,
    String.ofList_toList]

theorem foldBreaks_eq_self {cs : List Char} (h : '\r' ∉ cs) : Text.foldBreaks cs = cs := by
  induction cs with
  | nil => rfl
  | cons c rest ih =>
    have hc : c ≠ '\r' := fun hc => h (hc ▸ List.mem_cons_self)
    rw [Text.foldBreaks, ih fun hrest => h (List.mem_cons_of_mem c hrest)]
    · exact fun _ heq => absurd heq hc
    · exact hc

theorem decodeLines_bytes {s : String} {bytes : ByteArray} (hbytes : Text.bytes? s = some bytes)
    (h : '\r' ∉ s.toList) : decodeLines bytes = some s := by
  rw [decodeLines, decode_bytes hbytes, Option.map_some, foldBreaks_eq_self h,
    String.ofList_toList]

end FileTree

namespace Json

open Number

/-! ## What is written -/

/-- No character of the text is a carriage return. -/
def NoReturn (s : String) : Prop := '\r' ∉ s.toList

instance (s : String) : Decidable (NoReturn s) := inferInstanceAs (Decidable ('\r' ∉ s.toList))

theorem NoReturn.append {s t : String} (hs : NoReturn s) (ht : NoReturn t) :
    NoReturn (s ++ t) := by
  rw [NoReturn, String.toList_append, List.mem_append]
  exact fun h => h.elim hs ht

theorem noReturn_ofList {cs : List Char} (h : '\r' ∉ cs) : NoReturn (String.ofList cs) := by
  rw [NoReturn, String.toList_ofList]
  exact h

theorem not_mem_toDigits (n : Nat) : '\r' ∉ Nat.toDigits 10 n := fun h => by
  have hdigit := Nat.isDigit_of_mem_toDigits (b := 10) (by decide) (by decide) h
  exact absurd hdigit (by decide)

theorem noReturn_int (n : Int) : NoReturn (toString n) := by
  have hnat : ∀ m : Nat, NoReturn (Nat.repr m) := fun m => by
    rw [Nat.repr_eq_ofList_toDigits]
    exact noReturn_ofList (not_mem_toDigits m)
  cases n with
  | ofNat m => exact hnat m
  | negSucc m => exact NoReturn.append (by decide) (hnat (m + 1))

theorem not_mem_zeros (n : Nat) : '\r' ∉ zeros n := fun h =>
  absurd (List.eq_of_mem_replicate h) (by decide)

theorem not_mem_positional {digits : List Char} (h : '\r' ∉ digits) (e : Int) :
    '\r' ∉ positional digits e := by
  have htake : ∀ n, '\r' ∉ digits.take n := fun n hmem => h (List.mem_of_mem_take hmem)
  have hdrop : ∀ n, '\r' ∉ digits.drop n := fun n hmem => h (List.mem_of_mem_drop hmem)
  unfold positional
  split
  · simp [h, not_mem_zeros]
  · dsimp only
    split
    · simp [htake, hdrop]
    · simp [h, not_mem_zeros]

theorem not_mem_exponentText (e : Int) : '\r' ∉ exponentText e := by
  unfold exponentText
  split <;> simp [not_mem_zeros, not_mem_toDigits]

theorem not_mem_scientific {digits : List Char} (h : '\r' ∉ digits) (lead : Int) :
    '\r' ∉ scientific digits lead := by
  cases digits with
  | nil => exact h
  | cons d rest =>
    rw [List.mem_cons, not_or] at h
    rw [scientific, List.mem_append, not_or]
    refine ⟨?_, not_mem_exponentText lead⟩
    split <;> simp [h.1, h.2]

theorem not_mem_decimalText (digits : Nat) (e : Int) : '\r' ∉ decimalText digits e := by
  unfold decimalText
  dsimp only
  split
  · exact not_mem_positional (not_mem_toDigits _) _
  · exact not_mem_scientific (not_mem_toDigits _) _

theorem noReturn_number (x : Binary64) : NoReturn (writtenNumber x) := by
  cases x with
  | nan => decide
  | infinite negative => cases negative <;> decide
  | finite negative m e =>
    have hbody : '\r' ∉ if m = 0 then ['0', '.', '0'] else
        decimalText (shortest m e).1 (shortest m e).2 := by
      split
      · decide
      · exact not_mem_decimalText _ _
    refine noReturn_ofList ?_
    dsimp only
    split
    · exact fun h => (List.mem_cons.mp h).elim (by decide) hbody
    · exact hbody

theorem not_mem_hexDigits (width n : Nat) : '\r' ∉ Text.hexDigits width n := by
  induction width generalizing n with
  | zero => exact List.not_mem_nil
  | succ width ih =>
    have hdigit : ∀ d < 16, '\r' ≠ Nat.digitChar d := by decide
    rw [Text.hexDigits, List.mem_append, List.mem_singleton]
    exact fun h => h.elim (ih (n / 16)) (hdigit (n % 16) (Nat.mod_lt n (by decide)))

theorem not_mem_escapedChar (c : Char) : '\r' ∉ escapedChar c := by
  by_cases hc : c = '\r'
  · rw [hc]
    decide
  · unfold escapedChar
    repeat' split
    all_goals simp [not_mem_hexDigits, Ne.symm hc]

theorem noReturn_text (s : String) : NoReturn (writtenText s) := by
  refine noReturn_ofList ?_
  have hescaped : '\r' ∉ s.toList.flatMap escapedChar := fun h => by
    obtain ⟨c, -, hc⟩ := List.mem_flatMap.mp h
    exact not_mem_escapedChar c hc
  simp [hescaped]

theorem noReturn_lineAt (level : Nat) : NoReturn (lineAt level) := by
  refine NoReturn.append (by decide) (noReturn_ofList fun h => ?_)
  exact absurd (List.eq_of_mem_replicate h) (by decide)

mutual
theorem noReturn_indented (level : Nat) : ∀ v : Value, NoReturn (indented level v)
  | .null => (by decide : NoReturn "null")
  | .bool true => (by decide : NoReturn "true")
  | .bool false => (by decide : NoReturn "false")
  | .int n => noReturn_int n
  | .float x => noReturn_number x
  | .text s => noReturn_text s
  | .list [] => (by decide : NoReturn "[]")
  | .list (v :: rest) =>
    .append (.append (.append (by decide) (noReturn_indentedItems _ _))
      (noReturn_lineAt level)) (by decide)
  | .object [] => (by decide : NoReturn "\x7b\x7d")
  | .object (f :: rest) =>
    .append (.append (.append (by decide) (noReturn_indentedMembers _ _))
      (noReturn_lineAt level)) (by decide)

theorem noReturn_indentedItems (level : Nat) :
    ∀ vs : List Value, NoReturn (indentedItems level vs)
  | [] => (by decide : NoReturn "")
  | [v] => .append (noReturn_lineAt level) (noReturn_indented level v)
  | v :: w :: rest =>
    .append (.append (.append (noReturn_lineAt level) (noReturn_indented level v))
      (by decide)) (noReturn_indentedItems level (w :: rest))

theorem noReturn_indentedMembers (level : Nat) :
    ∀ fs : List (String × Value), NoReturn (indentedMembers level fs)
  | [] => (by decide : NoReturn "")
  | [(name, v)] =>
    .append (.append (.append (noReturn_lineAt level) (noReturn_text name))
      (by decide)) (noReturn_indented level v)
  | (name, v) :: f :: rest =>
    .append (.append (.append (.append (.append (noReturn_lineAt level) (noReturn_text name))
      (by decide)) (noReturn_indented level v)) (by decide))
      (noReturn_indentedMembers level (f :: rest))
end

theorem noReturn_write (v : Value) : NoReturn (write v) := noReturn_indented 0 v

/-! ## What is read -/

/-- No object of the value, at any depth, has a name twice. -/
inductive Proper : Value → Prop
  | scalar {v : Value} (h : v.isCollection = false) : Proper v
  | list {vs : List Value} (h : ∀ v ∈ vs, Proper v) : Proper (.list vs)
  | object {fs : Fields} (hnames : (Fields.names fs).Nodup) (h : ∀ f ∈ fs, Proper f.2) :
      Proper (.object fs)

theorem isCollection_of_unsignedNumber {negative : Bool} {cs : List Char}
    {found : Value × List Char} (h : unsignedNumber negative cs = .ok (some found)) :
    found.1.isCollection = false := by
  unfold unsignedNumber at h
  split at h
  · exact nomatch h
  · dsimp only at h
    split at h
    · split at h
      · exact nomatch h
      · cases h
        rfl
    · cases h
      rfl

theorem isCollection_of_word {cs : List Char} {found : Value × List Char}
    (h : word cs = some found) : found.1.isCollection = false := by
  obtain ⟨w, hw, rfl⟩ := Option.map_eq_some_iff.mp h
  have hall : ∀ w ∈ wordValues, w.2.isCollection = false := by decide
  exact hall w (List.mem_of_find?_eq_some hw)

theorem isCollection_of_scalar {cs : List Char} {found : Value × List Char}
    (h : scalar cs = .ok found) : found.1.isCollection = false := by
  unfold scalar at h
  split at h
  · exact nomatch h
  · next hnumber =>
    cases h
    unfold number at hnumber
    split at hnumber <;> exact isCollection_of_unsignedNumber hnumber
  · split at h
    · next hword =>
      cases h
      exact isCollection_of_word hword
    · exact nomatch h

/-- A part of a text that stands for a value reads as a proper one, if the parts of a
collection read before are proper. -/
theorem proper_of_parts (fuel : Nat) :
    (∀ depth cs found, value depth fuel cs = .ok found → Proper found.1)
    ∧ (∀ depth read cs found, (∀ v ∈ read, Proper v) → items depth fuel read cs = .ok found →
        Proper found.1)
    ∧ (∀ depth read cs found, (Fields.names read).Nodup → (∀ f ∈ read, Proper f.2) →
        members depth fuel read cs = .ok found → Proper found.1) := by
  induction fuel with
  | zero => exact ⟨fun _ _ _ h => (nomatch h), fun _ _ _ _ _ h => (nomatch h),
      fun _ _ _ _ _ _ h => (nomatch h)⟩
  | succ fuel ih =>
    obtain ⟨hvalue, hitems, hmembers⟩ := ih
    refine ⟨fun depth cs found h => ?_, fun depth read cs found hread h => ?_,
      fun depth read cs found hnames hread h => ?_⟩
    · unfold value at h
      split at h
      · obtain ⟨⟨s, rest⟩, -, h⟩ := bind_eq_ok.mp h
        cases h
        exact .scalar rfl
      · split at h
        · exact nomatch h
        · split at h
          · cases h
            exact .list (List.forall_mem_nil _)
          · exact hitems _ _ _ _ (List.forall_mem_nil _) h
      · split at h
        · exact nomatch h
        · split at h
          · cases h
            exact .object List.nodup_nil (List.forall_mem_nil _)
          · exact hmembers _ [] _ _ List.nodup_nil (List.forall_mem_nil _) h
      · exact .scalar (isCollection_of_scalar h)
    · unfold items at h
      obtain ⟨⟨v, rest⟩, hv, h⟩ := bind_eq_ok.mp h
      have hall : ∀ w ∈ v :: read, Proper w := by
        intro w hw
        rcases List.mem_cons.mp hw with rfl | hw
        · exact hvalue _ _ _ hv
        · exact hread w hw
      dsimp only at h
      split at h
      · cases h
        exact .list fun w hw => hall w (List.mem_reverse.mp hw)
      · exact hitems _ _ _ _ hall h
      · exact nomatch h
    · unfold members at h
      split at h
      · obtain ⟨⟨name, rest⟩, -, h⟩ := bind_eq_ok.mp h
        dsimp only at h
        split at h
        · obtain ⟨⟨v, rest⟩, hv, h⟩ := bind_eq_ok.mp h
          have hnames' := Fields.nodup_names_put hnames name v
          have hall : ∀ f ∈ Fields.put name v read, Proper f.2 := by
            intro f hf
            rcases Fields.mem_put hf with hf | rfl
            · exact hread f hf
            · exact hvalue _ _ _ hv
          dsimp only at h
          split at h
          · cases h
            exact .object hnames' hall
          · exact hmembers _ _ _ _ hnames' hall h
          · exact nomatch h
        · exact nomatch h
      · exact nomatch h

theorem proper_of_read {s : String} {v : Value} (h : read s = .ok v) : Proper v := by
  have hdocument : document s.toList = .ok v := by
    unfold read at h
    dsimp only at h
    split at h
    · next hdocument =>
      cases h
      exact hdocument
    all_goals exact nomatch h
  unfold document at hdocument
  split at hdocument
  · exact nomatch hdocument
  · obtain ⟨⟨w, rest⟩, hw, h⟩ := bind_eq_ok.mp hdocument
    dsimp only at h
    split at h
    · cases h
      exact (proper_of_parts _).1 _ _ _ hw
    · exact nomatch h

end Json
end JavaCompanion
