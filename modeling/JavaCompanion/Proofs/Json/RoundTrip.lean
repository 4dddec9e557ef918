/-
What is written as JSON is read back.

Reading goes along the text that was written and stops where the value ends: the text of a
value, followed by anything that cannot continue a number, gives the value and leaves what
follows (`reads`).  This holds within the limits of the reader, on digits and on nesting, and
for numbers with a point as far as their decimal texts read back (`Readable`).
-/
import JavaCompanion.Proofs.Json.Documents
import JavaCompanion.Proofs.Text.Parts
import Mathlib.Data.List.TakeDrop

namespace JavaCompanion
namespace Json

open Number Text

/-! ## Texts -/

theorem hexQuad_hexDigits {n : Nat} (h : n < 32) : ∃ a b c d,
    hexDigits 4 n = [a, b, c, d] ∧ hexQuad a b c d = some n := by
  refine ⟨_, _, _, _, rfl, ?_⟩
  revert n
  decide

/-- One character of a text, as it is written, is read and joins those read before. -/
theorem textFrom_escapedChar (start : Nat) (read : List Char) (c e : Char) (rest : List Char) :
    textFrom start none read (escapedChar c ++ e :: rest)
      = textFrom start none (c :: read) (e :: rest) := by
  unfold escapedChar
  split
  · next h => subst h; rfl
  split
  · next h => subst h; rfl
  split
  · next h => subst h; rfl
  split
  · next h => subst h; rfl
  split
  · next h => subst h; rfl
  split
  · next h => subst h; rfl
  split
  · next h => subst h; rfl
  · split
    · next h =>
      obtain ⟨a, b, x, y, hdigits, hquad⟩ := hexQuad_hexDigits h
      rw [hdigits]
      show textFrom start none read ('\\' :: 'u' :: a :: b :: x :: y :: e :: rest) = _
      have hunit : takeUnit none read c.toNat = (none, c :: read) := by
        have hhigh : isHighSurrogate c.toNat = false := by
          simp only [isHighSurrogate, Bool.and_eq_false_iff, decide_eq_false_iff_not]
          omega
        have hlow : isLowSurrogate c.toNat = false := by
          simp only [isLowSurrogate, Bool.and_eq_false_iff, decide_eq_false_iff_not]
          omega
        have hspelled : spelledUnit c.toNat = [c] := by
          have hmark : c ≠ surrogateMark := by
            rintro rfl
            exact absurd h (by decide)
          rw [spelledUnit, hhigh, hlow, Char.ofNat_toNat, spelledChar, if_neg hmark]
          rfl
        rw [takeUnit, hhigh, hlow, hspelled]
        rfl
      rw [textFrom, hquad]
      dsimp only
      rw [hunit]
    · next hquote hslash _ _ _ _ _ hcontrol =>
      rw [List.singleton_append, textFrom, if_neg hcontrol]
      · rfl
      all_goals simp [hquote, hslash]

theorem textFrom_escaped (start : Nat) (read cs rest : List Char) :
    textFrom start none read (cs.flatMap escapedChar ++ '"' :: rest)
      = .ok (String.ofList (read.reverse ++ cs), rest) := by
  induction cs generalizing read with
  | nil =>
    rw [List.flatMap_nil, List.nil_append, textFrom, List.append_nil]
    rfl
  | cons c more ih =>
    obtain ⟨e, tail, htail⟩ : ∃ e tail, more.flatMap escapedChar ++ '"' :: rest = e :: tail := by
      cases more.flatMap escapedChar with
      | nil => exact ⟨_, _, rfl⟩
      | cons e tail => exact ⟨_, _, rfl⟩
    rw [List.flatMap_cons, List.append_assoc, htail, textFrom_escapedChar, ← htail, ih]
    simp

/-! ## Whole numbers -/

/-- Whether a character goes on with a number that stands before it. -/
def continuesNumber (c : Char) : Bool := c.isDigit || c = '.' || c = 'e' || c = 'E'

/-- What follows a value does not go on with it. -/
def Stops (cs : List Char) : Prop := ∀ c ∈ cs.head?, continuesNumber c = false

theorem span_digits {ds rest : List Char} (hds : ∀ c ∈ ds, c.isDigit = true) (hrest : Stops rest) :
    (ds ++ rest).span Char.isDigit = (ds, rest) := by
  have hnone : ∀ c ∈ rest.head?, c.isDigit = false := by
    intro c hc
    have hstops := hrest c hc
    simp only [continuesNumber, Bool.or_eq_false_iff] at hstops
    exact hstops.1.1.1
  obtain ⟨htake, hdrop⟩ := Text.takeWhile_dropWhile_append hds hnone
  rw [List.span_eq_takeWhile_dropWhile, htake, hdrop]

theorem isDigit_of_mem {n : Nat} : ∀ c ∈ Nat.toDigits 10 n, c.isDigit = true := fun _ hc =>
  Nat.isDigit_of_mem_toDigits (by decide) (by decide) hc

theorem natOfDigits_toDigits (n : Nat) : natOfDigits (Nat.toDigits 10 n) = n := by
  have h : Nat.ofDigitChars 10 (Nat.toDigits 10 n) 0 = n := Nat.ofDigitChars_ten_toDigits
  simp only [Nat.ofDigitChars, Nat.mul_comm 10] at h
  exact h

/-- The digits of a positive number do not begin with a zero. -/
theorem toDigits_head {n : Nat} (h : 0 < n) : ∃ d ds, Nat.toDigits 10 n = d :: ds ∧ d ≠ '0' := by
  induction n using Nat.strongRecOn with
  | _ n ih =>
    by_cases hsmall : n < 10
    · refine ⟨_, [], Nat.toDigits_of_lt_base hsmall, ?_⟩
      have hall : ∀ d < 10, 0 < d → Nat.digitChar d ≠ '0' := by decide
      exact hall n hsmall h
    · obtain ⟨d, ds, hds, hd⟩ := ih (n / 10) (by omega) (by omega)
      rw [Nat.toDigits_of_base_le (by decide) (by omega), hds]
      exact ⟨d, ds ++ [(n % 10).digitChar], rfl, hd⟩

theorem wholeDigits_toDigits (n : Nat) {rest : List Char} (h : Stops rest) :
    wholeDigits (Nat.toDigits 10 n ++ rest) = (Nat.toDigits 10 n, rest) := by
  rcases Nat.eq_zero_or_pos n with rfl | hpos
  · rfl
  · obtain ⟨d, ds, hds, hd⟩ := toDigits_head hpos
    have hspan := span_digits (isDigit_of_mem (n := n)) h
    rw [hds] at hspan ⊢
    rw [List.cons_append, wholeDigits]
    · exact hspan
    · intro more hmore
      exact hd (List.cons.inj hmore).1

theorem fractionDigits_of_stops {rest : List Char} (h : Stops rest) :
    fractionDigits rest = none := by
  cases rest with
  | nil => rfl
  | cons c more =>
    have hc := h c rfl
    rw [fractionDigits]
    rintro more' heq
    rw [(List.cons.inj heq).1] at hc
    exact absurd hc (by decide)

theorem exponentPart_of_stops {rest : List Char} (h : Stops rest) : exponentPart rest = none := by
  cases rest with
  | nil => rfl
  | cons c more =>
    have hc := h c rfl
    simp only [continuesNumber, Bool.or_eq_false_iff] at hc
    unfold exponentPart
    dsimp only
    rw [hc.1.2, hc.2]
    rfl

theorem unsignedNumber_toDigits (negative : Bool) {n : Nat} {rest : List Char} (h : Stops rest)
    (hlimit : (Nat.toDigits 10 n).length ≤ digitLimit) :
    unsignedNumber negative (Nat.toDigits 10 n ++ rest)
      = .ok (some (.int (if negative then -(n : Int) else n), rest)) := by
  unfold unsignedNumber
  rw [wholeDigits_toDigits n h]
  cases hds : Nat.toDigits 10 n with
  | nil => exact absurd hds Nat.toDigits_ne_nil
  | cons d ds =>
    dsimp only
    rw [fractionDigits_of_stops h, Option.getD_none]
    dsimp only
    rw [exponentPart_of_stops h]
    dsimp only
    rw [← hds, if_neg (Nat.not_lt.mpr hlimit), natOfDigits_toDigits]

/-! ## Scalars -/

/-- Where a value begins that is neither a text nor a collection. -/
def startsScalar (c : Char) : Bool := c.isDigit || c = '-' || c.isAlpha

/-- The texts that begin with a character of some kind. -/
def Begins (p : Char → Bool) (cs : List Char) : Prop := ∃ c more, cs = c :: more ∧ p c = true

theorem begins_toDigits (n : Nat) : Begins startsScalar (Nat.toDigits 10 n) := by
  cases hds : Nat.toDigits 10 n with
  | nil => exact absurd hds Nat.toDigits_ne_nil
  | cons d ds =>
    have hd : d.isDigit = true := isDigit_of_mem d (hds ▸ List.mem_cons_self)
    exact ⟨d, ds, rfl, by simp [startsScalar, hd]⟩

theorem Begins.append {p : Char → Bool} {cs : List Char} (h : Begins p cs) (more : List Char) :
    Begins p (cs ++ more) := by
  obtain ⟨c, rest, rfl, hc⟩ := h
  exact ⟨c, rest ++ more, rfl, hc⟩

theorem value_eq_scalar (depth fuel : Nat) {cs : List Char} (h : Begins startsScalar cs) :
    value depth (fuel + 1) cs = scalar cs := by
  obtain ⟨c, more, rfl, hc⟩ := h
  rw [value]
  all_goals
    rintro rest heq
    rw [(List.cons.inj heq).1] at hc
    exact absurd hc (by decide)

theorem toList_toString_ofNat (n : Nat) :
    (toString (Int.ofNat n)).toList = Nat.toDigits 10 n := Nat.toList_repr

theorem toList_toString_negSucc (n : Nat) :
    (toString (Int.negSucc n)).toList = '-' :: Nat.toDigits 10 (n + 1) := by
  show ("-" ++ Nat.repr (n + 1)).toList = _
  rw [String.toList_append, Nat.toList_repr]
  rfl

theorem begins_int (i : Int) : Begins startsScalar (toString i).toList := by
  cases i with
  | ofNat n =>
    rw [toList_toString_ofNat]
    exact begins_toDigits n
  | negSucc n =>
    rw [toList_toString_negSucc]
    exact ⟨'-', _, rfl, rfl⟩

theorem scalar_int {i : Int} {rest : List Char} (h : Stops rest)
    (hlimit : (Nat.toDigits 10 i.natAbs).length ≤ digitLimit) :
    scalar ((toString i).toList ++ rest) = .ok (.int i, rest) := by
  have hnumber : number ((toString i).toList ++ rest) = .ok (some (.int i, rest)) := by
    cases i with
    | ofNat n =>
      rw [toList_toString_ofNat]
      cases hds : Nat.toDigits 10 n with
      | nil => exact absurd hds Nat.toDigits_ne_nil
      | cons d ds =>
        have hd : d ≠ '-' := by
          rintro rfl
          exact absurd (isDigit_of_mem (n := n) '-' (hds ▸ List.mem_cons_self)) (by decide)
        rw [List.cons_append, number]
        · rw [← List.cons_append, ← hds]
          exact unsignedNumber_toDigits false h hlimit
        · intro more heq
          exact hd (List.cons.inj heq).1
    | negSucc n =>
      rw [toList_toString_negSucc]
      exact unsignedNumber_toDigits true h hlimit
  rw [scalar, hnumber]

theorem begins_positional {ds : List Char} (h : Begins startsScalar ds) (e : Int) :
    Begins startsScalar (positional ds e) := by
  obtain ⟨d, more, rfl, hd⟩ := h
  unfold positional
  split
  · exact ⟨d, _, rfl, hd⟩
  · dsimp only
    split
    · next hplaces =>
      obtain ⟨n, hn⟩ : ∃ n, (d :: more).length - e.natAbs = n + 1 :=
        Nat.exists_eq_add_one.mpr (by omega)
      rw [hn]
      exact ⟨d, _, rfl, hd⟩
    · exact ⟨'0', _, rfl, rfl⟩

theorem begins_scientific {ds : List Char} (h : Begins startsScalar ds) (lead : Int) :
    Begins startsScalar (scientific ds lead) := by
  obtain ⟨d, more, rfl, hd⟩ := h
  unfold scientific
  split
  · next heq => exact nomatch heq
  · next heq =>
    cases heq
    split <;> exact ⟨d, _, rfl, hd⟩

theorem begins_number (x : Binary64) : Begins startsScalar (writtenNumber x).toList := by
  cases x with
  | nan => exact ⟨'N', _, rfl, rfl⟩
  | infinite negative => cases negative <;> exact ⟨_, _, rfl, rfl⟩
  | finite negative m e =>
    have hbody : Begins startsScalar (if m = 0 then ['0', '.', '0'] else
        decimalText (shortest m e).1 (shortest m e).2) := by
      split
      · exact ⟨'0', _, rfl, rfl⟩
      · unfold decimalText
        dsimp only
        split
        · exact begins_positional (begins_toDigits _) _
        · exact begins_scientific (begins_toDigits _) _
    show Begins startsScalar (String.ofList _).toList
    rw [String.toList_ofList]
    split
    · exact ⟨'-', _, rfl, rfl⟩
    · exact hbody

/-! ## Values -/

/-- The decimal text of the number reads back, wherever it stands. -/
def ReadsBack (x : Binary64) : Prop :=
  ∀ rest, Stops rest → scalar ((writtenNumber x).toList ++ rest) = .ok (.float x, rest)

/-- The value is within the limits of the reader, with so many levels left for its lists and
objects, and its numbers with a point read back. -/
inductive Readable : Nat → Value → Prop
  | null {n : Nat} : Readable n .null
  | bool {n : Nat} (b : Bool) : Readable n (.bool b)
  | int {n : Nat} {i : Int} (h : (Nat.toDigits 10 i.natAbs).length ≤ digitLimit) :
      Readable n (.int i)
  | float {n : Nat} {x : Binary64} (h : ReadsBack x) : Readable n (.float x)
  | text {n : Nat} (s : String) : Readable n (.text s)
  | list {n : Nat} {vs : List Value} (h : ∀ v ∈ vs, Readable n v) : Readable (n + 1) (.list vs)
  | object {n : Nat} {fs : Fields} (hnames : (Fields.names fs).Nodup)
      (h : ∀ f ∈ fs, Readable n f.2) : Readable (n + 1) (.object fs)

/-- The reading of a value gives it, and stops behind it. -/
def Reads (levels level : Nat) (v : Value) : Prop :=
  ∀ depth fuel rest, depth + levels ≤ nestingLimit → (indented level v).toList.length ≤ fuel →
    Stops rest → value depth fuel ((indented level v).toList ++ rest) = .ok (v, rest)

theorem toList_text (s : String) :
    (writtenText s).toList = '"' :: s.toList.flatMap escapedChar ++ ['"'] :=
  String.toList_ofList

theorem reads_scalar {levels level : Nat} {v : Value}
    (hbegins : Begins startsScalar (indented level v).toList)
    (h : ∀ rest, Stops rest → scalar ((indented level v).toList ++ rest) = .ok (v, rest)) :
    Reads levels level v := by
  intro depth fuel rest _ hfuel hrest
  obtain ⟨c, more, hchars, -⟩ := id hbegins
  cases fuel with
  | zero =>
    rw [hchars] at hfuel
    exact absurd hfuel (Nat.not_succ_le_zero _)
  | succ fuel =>
    rw [value_eq_scalar depth fuel (hbegins.append rest)]
    exact h rest hrest

theorem reads_text (levels level : Nat) (s : String) : Reads levels level (.text s) := by
  intro depth fuel rest _ hfuel _
  show value depth fuel ((writtenText s).toList ++ rest) = _
  replace hfuel : (writtenText s).toList.length ≤ fuel := hfuel
  rw [toList_text] at hfuel ⊢
  cases fuel with
  | zero => exact absurd hfuel (Nat.not_succ_le_zero _)
  | succ fuel =>
    rw [List.cons_append, List.cons_append, List.append_assoc, value, List.singleton_append,
      textFrom_escaped]
    show Except.ok (Value.text (String.ofList s.toList), rest) = _
    rw [String.ofList_toList]

/-! ## Collections -/

/-- Where a value begins. -/
def startsValue (c : Char) : Bool := startsScalar c || c = '"' || c = '[' || c = '\x7b'

theorem startsValue_of_startsScalar {cs : List Char} (h : Begins startsScalar cs) :
    Begins startsValue cs := by
  obtain ⟨c, more, rfl, hc⟩ := h
  exact ⟨c, more, rfl, by simp [startsValue, hc]⟩

theorem toList_lineAt (level : Nat) :
    (lineAt level).toList = '\n' :: List.replicate (2 * level) ' ' := by
  simp [lineAt]

theorem toList_list (level : Nat) (v : Value) (rest : List Value) :
    (indented level (.list (v :: rest))).toList
      = '[' :: ((indentedItems (level + 1) (v :: rest)).toList ++ (lineAt level).toList
        ++ [']']) := by
  rw [indented]
  · simp
  · exact List.cons_ne_nil v rest

theorem toList_object (level : Nat) (f : String × Value) (rest : Fields) :
    (indented level (.object (f :: rest))).toList
      = '\x7b' :: ((indentedMembers (level + 1) (f :: rest)).toList ++ (lineAt level).toList
          ++ ['\x7d']) := by
  rw [indented]
  · simp
  · exact List.cons_ne_nil f rest

theorem toList_items (level : Nat) (v w : Value) (rest : List Value) :
    (indentedItems level (v :: w :: rest)).toList
      = (lineAt level).toList ++ (indented level v).toList
        ++ ',' :: (indentedItems level (w :: rest)).toList := by
  rw [indentedItems]
  · simp
  · exact List.cons_ne_nil w rest

theorem toList_members (level : Nat) (name : String) (v : Value) (f : String × Value)
    (rest : Fields) :
    (indentedMembers level ((name, v) :: f :: rest)).toList
      = (lineAt level).toList ++ (writtenText name).toList
        ++ ':' :: ' ' :: (indented level v).toList
        ++ ',' :: (indentedMembers level (f :: rest)).toList := by
  rw [indentedMembers]
  · simp
  · exact List.cons_ne_nil f rest

theorem begins_value (level : Nat) (v : Value) : Begins startsValue (indented level v).toList := by
  cases v with
  | null => exact ⟨'n', "ull".toList, by rw [indented]; decide, by decide⟩
  | bool b =>
    cases b with
    | true => exact ⟨'t', "rue".toList, by rw [indented]; decide, by decide⟩
    | false => exact ⟨'f', "alse".toList, by rw [indented]; decide, by decide⟩
  | int i => exact startsValue_of_startsScalar (begins_int i)
  | float x => exact startsValue_of_startsScalar (begins_number x)
  | text s => exact ⟨'"', _, toList_text s, rfl⟩
  | list vs =>
    cases vs with
    | nil => exact ⟨'[', [']'], by rw [indented]; decide, by decide⟩
    | cons v rest => exact ⟨'[', _, toList_list level v rest, rfl⟩
  | object fs =>
    cases fs with
    | nil => exact ⟨'\x7b', ['\x7d'], by rw [indented]; decide, by decide⟩
    | cons f rest => exact ⟨'\x7b', _, toList_object level f rest, rfl⟩

theorem skipBlanks_lineAt (level : Nat) (cs : List Char) :
    skipBlanks ((lineAt level).toList ++ cs) = skipBlanks cs := by
  have hall : ∀ c ∈ (lineAt level).toList, isBlank c = true := by
    intro c hc
    rw [toList_lineAt] at hc
    rcases List.mem_cons.mp hc with rfl | hc
    · rfl
    · rw [List.eq_of_mem_replicate hc]
      rfl
  exact List.dropWhile_append_of_pos hall

theorem skipBlanks_of_begins {cs : List Char} (h : Begins startsValue cs) : skipBlanks cs = cs := by
  obtain ⟨c, more, rfl, hc⟩ := h
  refine List.dropWhile_cons_of_neg ?_
  intro hblank
  simp only [isBlank, Bool.or_eq_true, decide_eq_true_eq] at hblank
  rcases hblank with ((rfl | rfl) | rfl) | rfl <;> exact absurd hc (by decide)

theorem stops_lineAt (level : Nat) (cs : List Char) : Stops ((lineAt level).toList ++ cs) := by
  rw [toList_lineAt]
  intro c hc
  cases hc
  rfl

/-- The items of a list, each on its line, up to the bracket that `tail` leads to. -/
theorem items_written {levels level : Nat} (depth : Nat) (hdepth : depth + levels ≤ nestingLimit)
    {tail rest : List Char} (htail : skipBlanks tail = ']' :: rest) (hstops : Stops tail)
    {vs : List Value} (hne : vs ≠ []) (h : ∀ v ∈ vs, Reads levels level v) (fuel : Nat)
    (hfuel : (indentedItems level vs).toList.length ≤ fuel) (read : List Value) :
    items depth fuel read (skipBlanks ((indentedItems level vs).toList ++ tail))
      = .ok (.list (read.reverse ++ vs), rest) := by
  induction vs generalizing fuel read with
  | nil => exact absurd rfl hne
  | cons v more ih =>
    have hbegins := begins_value level v
    have hv := h v List.mem_cons_self
    cases more with
    | nil =>
      have hchars : (indentedItems level [v]).toList
          = (lineAt level).toList ++ (indented level v).toList := String.toList_append
      rw [hchars, toList_lineAt] at hfuel
      rw [hchars, List.append_assoc, skipBlanks_lineAt, skipBlanks_of_begins (hbegins.append _)]
      simp only [List.length_append, List.length_cons] at hfuel
      obtain ⟨fuel, rfl⟩ : ∃ f, fuel = f + 1 := Nat.exists_eq_add_one.mpr (by omega)
      rw [items, hv depth fuel tail hdepth (by omega) hstops, ok_bind]
      dsimp only
      rw [htail, List.reverse_cons]
      rfl
    | cons w others =>
      rw [toList_items, toList_lineAt] at hfuel
      rw [toList_items, List.append_assoc, List.append_assoc, skipBlanks_lineAt,
        skipBlanks_of_begins (hbegins.append _)]
      simp only [List.length_append, List.length_cons] at hfuel
      obtain ⟨fuel, rfl⟩ : ∃ f, fuel = f + 1 := Nat.exists_eq_add_one.mpr (by omega)
      have hcomma : Stops (',' :: (indentedItems level (w :: others)).toList ++ tail) := by
        intro c hc
        cases hc
        rfl
      rw [items, hv depth fuel _ hdepth (by omega) hcomma]
      show items depth fuel (v :: read)
        (skipBlanks ((indentedItems level (w :: others)).toList ++ tail)) = _
      rw [ih (List.cons_ne_nil w others) (fun u hu => h u (List.mem_cons_of_mem v hu)) fuel
        (by omega), List.reverse_cons, List.append_assoc]
      rfl

theorem skipBlanks_items (level : Nat) (v : Value) (rest : List Value) (tail : List Char) :
    Begins startsValue (skipBlanks ((indentedItems level (v :: rest)).toList ++ tail)) := by
  obtain ⟨others, hchars⟩ : ∃ others, (indentedItems level (v :: rest)).toList
      = (lineAt level).toList ++ ((indented level v).toList ++ others) := by
    cases rest with
    | nil => exact ⟨[], by rw [List.append_nil]; exact String.toList_append⟩
    | cons w rest => exact ⟨_, by rw [toList_items, List.append_assoc]⟩
  have hbegins := ((begins_value level v).append others).append tail
  rw [hchars, List.append_assoc, skipBlanks_lineAt, skipBlanks_of_begins hbegins]
  exact hbegins

theorem reads_list {levels level : Nat} {vs : List Value}
    (h : ∀ v ∈ vs, Reads levels (level + 1) v) : Reads (levels + 1) level (.list vs) := by
  intro depth fuel rest hdepth hfuel _
  cases vs with
  | nil =>
    have hchars : (indented level (.list [])).toList = ['[', ']'] := by
      rw [indented]
      decide
    rw [hchars] at hfuel ⊢
    obtain ⟨fuel, rfl⟩ : ∃ f, fuel = f + 1 := Nat.exists_eq_add_one.mpr (by simp at hfuel; omega)
    rw [List.cons_append, value, if_neg (by omega)]
    rfl
  | cons v more =>
    rw [toList_list] at hfuel ⊢
    simp only [List.length_append, List.length_cons] at hfuel
    obtain ⟨fuel, rfl⟩ : ∃ f, fuel = f + 1 := Nat.exists_eq_add_one.mpr (by omega)
    have htail : skipBlanks ((lineAt level).toList ++ ']' :: rest) = ']' :: rest :=
      skipBlanks_lineAt level _
    have hitems := items_written (depth + 1) (by omega) htail (stops_lineAt level _)
      (List.cons_ne_nil v more) h fuel (by omega) []
    obtain ⟨c, others, hskip, hc⟩ :=
      skipBlanks_items (level + 1) v more ((lineAt level).toList ++ ']' :: rest)
    rw [List.cons_append, List.append_assoc, List.append_assoc, List.singleton_append, value,
      if_neg (by omega)]
    rw [hskip] at hitems ⊢
    split
    · next heq =>
      rw [(List.cons.inj heq).1] at hc
      exact absurd hc (by decide)
    · exact hitems

/-- One member is read, and what follows it decides how the reading goes on. -/
theorem members_member {levels level depth : Nat} (fuel : Nat)
    (hdepth : depth + levels ≤ nestingLimit) (name : String) {v : Value} (hv : Reads levels level v)
    (hfuel : (indented level v).toList.length ≤ fuel) {after : List Char} (hafter : Stops after)
    (read : Fields) :
    members depth (fuel + 1) read (skipBlanks ((lineAt level).toList ++ ((writtenText name).toList
        ++ ':' :: ' ' :: ((indented level v).toList ++ after))))
      = match skipBlanks after with
        | '\x7d' :: rest => .ok (.object (Fields.put name v read), rest)
        | ',' :: rest => members depth fuel (Fields.put name v read) (skipBlanks rest)
        | rest => failAt .comma rest := by
  have hquote : Begins startsValue ((writtenText name).toList
      ++ ':' :: ' ' :: ((indented level v).toList ++ after)) := by
    rw [toList_text]
    exact ⟨'"', _, rfl, rfl⟩
  have hblank : skipBlanks (' ' :: ((indented level v).toList ++ after))
      = (indented level v).toList ++ after :=
    skipBlanks_of_begins ((begins_value level v).append after)
  rw [skipBlanks_lineAt, skipBlanks_of_begins hquote, toList_text, List.cons_append,
    List.cons_append, List.append_assoc, members, List.singleton_append, textFrom_escaped,
    List.reverse_nil, List.nil_append, String.ofList_toList]
  rw [ok_bind]
  show (value depth fuel (skipBlanks (' ' :: ((indented level v).toList ++ after))) >>= _) = _
  rw [hblank, hv depth fuel after hdepth hfuel hafter]
  rfl

/-- The members of an object, each on its line, up to the brace that `tail` leads to. -/
theorem members_written {levels level : Nat} (depth : Nat) (hdepth : depth + levels ≤ nestingLimit)
    {tail rest : List Char} (htail : skipBlanks tail = '\x7d' :: rest) (hstops : Stops tail)
    {fs : Fields} (hne : fs ≠ []) (h : ∀ f ∈ fs, Reads levels level f.2) (fuel : Nat)
    (hfuel : (indentedMembers level fs).toList.length ≤ fuel) (read : Fields)
    (hnames : (Fields.names fs).Nodup)
    (hapart : ∀ name ∈ Fields.names fs, name ∉ Fields.names read) :
    members depth fuel read (skipBlanks ((indentedMembers level fs).toList ++ tail))
      = .ok (.object (read ++ fs), rest) := by
  induction fs generalizing fuel read with
  | nil => exact absurd rfl hne
  | cons f more ih =>
    obtain ⟨name, v⟩ := f
    obtain ⟨hname, hmore⟩ := List.nodup_cons.mp hnames
    have hput : Fields.put name v read = read ++ [(name, v)] :=
      Fields.put_eq_append (hapart name List.mem_cons_self) v
    have hv : Reads levels level v := h (name, v) List.mem_cons_self
    cases more with
    | nil =>
      have hchars : (indentedMembers level [(name, v)]).toList = (lineAt level).toList
          ++ ((writtenText name).toList ++ ':' :: ' ' :: (indented level v).toList) := by
        rw [indentedMembers]
        simp
      rw [hchars, toList_lineAt] at hfuel
      simp only [List.length_append, List.length_cons] at hfuel
      obtain ⟨fuel, rfl⟩ : ∃ f, fuel = f + 1 := Nat.exists_eq_add_one.mpr (by omega)
      have hstep := members_member fuel hdepth name hv (by omega) hstops read
      rw [hchars, List.append_assoc, List.append_assoc, List.cons_append, List.cons_append, hstep,
        htail, hput]
      rfl
    | cons g others =>
      rw [toList_members, toList_lineAt] at hfuel
      simp only [List.length_append, List.length_cons] at hfuel
      obtain ⟨fuel, rfl⟩ : ∃ f, fuel = f + 1 := Nat.exists_eq_add_one.mpr (by omega)
      have hcomma : Stops (',' :: ((indentedMembers level (g :: others)).toList ++ tail)) := by
        intro c hc
        cases hc
        rfl
      have hstep := members_member fuel hdepth name hv (by omega) hcomma read
      have hapart' : ∀ n ∈ Fields.names (g :: others), n ∉ Fields.names (read ++ [(name, v)]) := by
        intro n hn hmem
        rw [Fields.names, List.map_append, List.mem_append, List.map_singleton,
          List.mem_singleton] at hmem
        rcases hmem with hold | rfl
        · exact hapart n (List.mem_cons_of_mem name hn) hold
        · exact hname hn
      have hrest := ih (List.cons_ne_nil g others)
        (fun u hu => h u (List.mem_cons_of_mem (name, v) hu)) fuel (by omega) _ hmore hapart'
      rw [toList_members]
      simp only [List.append_assoc, List.cons_append]
      rw [hstep, hput]
      show members depth fuel (read ++ [(name, v)])
        (skipBlanks ((indentedMembers level (g :: others)).toList ++ tail)) = _
      rw [hrest, List.append_assoc]
      rfl

theorem skipBlanks_members (level : Nat) (f : String × Value) (rest : Fields) (tail : List Char) :
    ∃ more, skipBlanks ((indentedMembers level (f :: rest)).toList ++ tail) = '"' :: more := by
  obtain ⟨name, v⟩ := f
  obtain ⟨others, hchars⟩ : ∃ others, (indentedMembers level ((name, v) :: rest)).toList
      = (lineAt level).toList ++ ((writtenText name).toList ++ others) := by
    cases rest with
    | nil =>
      refine ⟨':' :: ' ' :: (indented level v).toList, ?_⟩
      rw [indentedMembers]
      simp
    | cons w rest => exact ⟨_, by rw [toList_members, List.append_assoc, List.append_assoc]⟩
  rw [hchars, List.append_assoc, skipBlanks_lineAt, toList_text]
  exact ⟨_, rfl⟩

theorem reads_object {levels level : Nat} {fs : Fields} (hnames : (Fields.names fs).Nodup)
    (h : ∀ f ∈ fs, Reads levels (level + 1) f.2) : Reads (levels + 1) level (.object fs) := by
  intro depth fuel rest hdepth hfuel _
  cases fs with
  | nil =>
    have hchars : (indented level (.object [])).toList = ['\x7b', '\x7d'] := by
      rw [indented]
      decide
    rw [hchars] at hfuel ⊢
    obtain ⟨fuel, rfl⟩ : ∃ f, fuel = f + 1 := Nat.exists_eq_add_one.mpr (by simp at hfuel; omega)
    rw [List.cons_append, value, if_neg (by omega)]
    rfl
  | cons f more =>
    rw [toList_object] at hfuel ⊢
    simp only [List.length_append, List.length_cons] at hfuel
    obtain ⟨fuel, rfl⟩ : ∃ f, fuel = f + 1 := Nat.exists_eq_add_one.mpr (by omega)
    have htail : skipBlanks ((lineAt level).toList ++ '\x7d' :: rest) = '\x7d' :: rest :=
      skipBlanks_lineAt level _
    have hmembers := members_written (depth + 1) (by omega) htail (stops_lineAt level _)
      (List.cons_ne_nil f more) h fuel (by omega) [] hnames (fun _ _ => List.not_mem_nil)
    obtain ⟨others, hskip⟩ :=
      skipBlanks_members (level + 1) f more ((lineAt level).toList ++ '\x7d' :: rest)
    rw [List.cons_append, List.append_assoc, List.append_assoc, List.singleton_append, value,
      if_neg (by omega)]
    rw [hskip] at hmembers ⊢
    exact hmembers

/-! ## Documents -/

theorem reads_null (levels level : Nat) : Reads levels level .null := by
  have hchars : (indented level .null).toList = ['n', 'u', 'l', 'l'] := by
    rw [indented]
    decide
  refine reads_scalar ?_ fun rest _ => ?_
  · rw [hchars]
    exact ⟨'n', _, rfl, rfl⟩
  · rw [hchars]
    rfl

theorem reads_bool (levels level : Nat) (b : Bool) : Reads levels level (.bool b) := by
  cases b with
  | true =>
    have hchars : (indented level (.bool true)).toList = ['t', 'r', 'u', 'e'] := by
      rw [indented]
      decide
    refine reads_scalar ?_ fun rest _ => ?_
    · rw [hchars]
      exact ⟨'t', _, rfl, rfl⟩
    · rw [hchars]
      rfl
  | false =>
    have hchars : (indented level (.bool false)).toList = ['f', 'a', 'l', 's', 'e'] := by
      rw [indented]
      decide
    refine reads_scalar ?_ fun rest _ => ?_
    · rw [hchars]
      exact ⟨'f', _, rfl, rfl⟩
    · rw [hchars]
      rfl

/-- Every value that is readable is read along its text. -/
theorem reads {levels : Nat} {v : Value} (h : Readable levels v) (level : Nat) :
    Reads levels level v := by
  induction h generalizing level with
  | null => exact reads_null _ level
  | bool b => exact reads_bool _ level b
  | int h => exact reads_scalar (begins_int _) fun rest hrest => scalar_int hrest h
  | float h => exact reads_scalar (begins_number _) h
  | text s => exact reads_text _ level s
  | list _ ih => exact reads_list fun v hv => ih v hv (level + 1)
  | object hnames _ ih => exact reads_object hnames fun f hf => ih f hf (level + 1)

/-- What is written as JSON is read back as it was. -/
theorem read_write {v : Value} (h : Readable nestingLimit v) : read (write v) = .ok v := by
  have hreads : value 0 ((write v).toList.length + 1) (write v).toList = .ok (v, []) := by
    have hvalue := reads h 0 0 ((write v).toList.length + 1) [] (by omega) (Nat.le_succ _) nofun
    rw [List.append_nil] at hvalue
    exact hvalue
  have hbegins : Begins startsValue (write v).toList := begins_value 0 v
  have hdocument : document (write v).toList = .ok v := by
    rw [document]
    · rw [skipBlanks_of_begins hbegins, hreads]
      rfl
    · intro more heq
      obtain ⟨c, rest, hchars, hc⟩ := hbegins
      rw [hchars] at heq
      rw [(List.cons.inj heq).1] at hc
      exact absurd hc (by decide)
  rw [read, hdocument]

end Json
end JavaCompanion
