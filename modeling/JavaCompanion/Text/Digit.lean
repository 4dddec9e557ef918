/-
Decimal digits of every script, and hexadecimal digits.
-/
import JavaCompanion.Text.Blank

namespace JavaCompanion
namespace Text

/-- The zeros of all scripts; the other nine digits of a script follow its zero. -/
def zeroDigits : List Nat :=
  [ 0x30, 0x660, 0x6f0, 0x7c0, 0x966, 0x9e6, 0xa66, 0xae6, 0xb66, 0xbe6, 0xc66, 0xce6, 0xd66,
    0xde6, 0xe50, 0xed0, 0xf20, 0x1040, 0x1090, 0x17e0, 0x1810, 0x1946, 0x19d0, 0x1a80, 0x1a90,
    0x1b50, 0x1bb0, 0x1c40, 0x1c50, 0xa620, 0xa8d0, 0xa900, 0xa9d0, 0xa9f0, 0xaa50, 0xabf0,
    0xff10, 0x104a0, 0x10d30, 0x11066, 0x110f0, 0x11136, 0x111d0, 0x112f0, 0x11450, 0x114d0,
    0x11650, 0x116c0, 0x11730, 0x118e0, 0x11950, 0x11c50, 0x11d50, 0x11da0, 0x16a60, 0x16ac0,
    0x16b50, 0x1d7ce, 0x1d7d8, 0x1d7e2, 0x1d7ec, 0x1d7f6, 0x1e140, 0x1e2f0, 0x1e950, 0x1fbf0 ]

def digitValue? (c : Char) : Option Nat :=
  (zeroDigits.find? fun z => z ≤ c.toNat && c.toNat < z + 10).map fun z => c.toNat - z

def isDecimalDigit (c : Char) : Bool := (digitValue? c).isSome

/-- The greatest number of decimal digits with which a whole number is read. -/
def digitLimit : Nat := 4300

/-- The number that digits write, where a single underscore may stand between two of them.
The flag says whether an underscore may come next. -/
def digitsFrom (n : Nat) (afterDigit : Bool) : List Char → Option Nat
  | [] => if afterDigit then some n else none
  | '_' :: rest => if afterDigit then digitsFrom n false rest else none
  | c :: rest =>
    match digitValue? c with
    | some d => digitsFrom (10 * n + d) true rest
    | none => none

/-- The whole number that a text writes, with a sign or without one. -/
def integer? (cs : List Char) : Option Int :=
  match cs with
  | '-' :: rest => (digitsFrom 0 false rest).map fun n => -(Int.ofNat n)
  | '+' :: rest => (digitsFrom 0 false rest).map Int.ofNat
  | _ => (digitsFrom 0 false cs).map Int.ofNat

/-- The blanks that may stand around a number: all but the information separators. -/
def isBlankAroundNumber (c : Char) : Bool := isBlank c && !(28 ≤ c.toNat && c.toNat ≤ 31)

/-- The whole number that a text writes, with blanks around it or without, and within the
limit of digits. -/
def integerOf? (s : String) : Option Int :=
  let cs := dropEndWhile isBlankAroundNumber (s.toList.dropWhile isBlankAroundNumber)
  if cs.countP isDecimalDigit ≤ digitLimit then integer? cs else none

def hexValue? (c : Char) : Option Nat :=
  if '0' ≤ c ∧ c ≤ '9' then some (c.toNat - '0'.toNat)
  else if 'a' ≤ c ∧ c ≤ 'f' then some (c.toNat - 'a'.toNat + 10)
  else if 'A' ≤ c ∧ c ≤ 'F' then some (c.toNat - 'A'.toNat + 10)
  else none

end Text
end JavaCompanion
