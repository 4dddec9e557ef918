/-
Surrogates in texts.

Characters beyond the first 65536 are written as two code units of sixteen bits, a high surrogate
and a low one.  A surrogate without its partner is no character, but texts can hold it: an escape
in JSON may write it, and an argument has one for each byte that is no UTF-8.  Every text is
spelled with characters alone.  A surrogate on its own is spelled by a mark and a character that
stands for it, and the mark, where it is meant itself, by two of it.  The characters are chosen so
that spelled texts are in the order of the texts.
-/
namespace JavaCompanion
namespace Text

def isHighSurrogate (n : Nat) : Bool := 0xd800 ≤ n && n < 0xdc00

def isLowSurrogate (n : Nat) : Bool := 0xdc00 ≤ n && n < 0xe000

def joinSurrogates (high low : Nat) : Char :=
  Char.ofNat (0x10000 + (high - 0xd800) * 0x400 + (low - 0xdc00))

/-! ## Spelling -/

/-- The character before all surrogates. -/
def surrogateMark : Char := '\ud7ff'

/-- How far the characters that stand for surrogates are from these. -/
def surrogateShift : Nat := 0x800

def spelledChar (c : Char) : List Char := if c = surrogateMark then [c, c] else [c]

/-- The spelling of a code point or of a single code unit. -/
def spelledUnit (n : Nat) : List Char :=
  if isHighSurrogate n || isLowSurrogate n then [surrogateMark, Char.ofNat (n + surrogateShift)]
  else spelledChar (Char.ofNat n)

/-- A text of characters alone, as it is spelled. -/
def spelled (s : String) : String := String.ofList (s.toList.flatMap spelledChar)

/-! ## Reading a spelling -/

/-- The spellings of the characters and of the surrogates in a text, one by one. -/
def symbols : List Char → List (List Char)
  | [] => []
  | c :: rest =>
    if c = surrogateMark then
      match rest with
      | d :: rest => [c, d] :: symbols rest
      | [] => [[c]]
    else [c] :: symbols rest

/-- The code point that is spelled. -/
def codeOf : List Char → Nat
  | [_, d] => if d = surrogateMark then d.toNat else d.toNat - surrogateShift
  | [c] => c.toNat
  | _ => 0

/-- The characters of a text, if it has no surrogates on their own. -/
def characters? : List Char → Option (List Char)
  | [] => some []
  | c :: rest =>
    if c = surrogateMark then
      match rest with
      | d :: rest => if d = surrogateMark then (characters? rest).map (c :: ·) else none
      | [] => none
    else (characters? rest).map (c :: ·)

/-- The bytes of a text in UTF-8, if it has no surrogates on their own. -/
def bytes? (s : String) : Option ByteArray :=
  (characters? s.toList).map fun cs => (String.ofList cs).toUTF8

end Text
end JavaCompanion
