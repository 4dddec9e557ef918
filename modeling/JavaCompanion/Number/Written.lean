/-
The text of a binary64 number.

The digits are the shortest that read back.  A number is written positionally while its
leading digit has an exponent from -4 to 15, and then always shows a digit after the point;
otherwise it is written with an exponent of a sign and at least two digits.
-/
import JavaCompanion.Number.Shortest

namespace JavaCompanion
namespace Number

/-- Digits without the zeros at their end, and how many zeros those were. -/
def stripZeros : Nat → Nat → Nat × Nat
  | 0, n => (n, 0)
  | fuel + 1, n =>
    if n ≠ 0 ∧ n % 10 = 0 then
      let (m, k) := stripZeros fuel (n / 10)
      (m, k + 1)
    else (n, 0)

/-- Decimals with their leading digit at these exponents are written positionally. -/
def positionalFrom : Int := -4

def positionalTo : Int := 15

def zeros (n : Nat) : List Char := List.replicate n '0'

/-- The text of `digits · 10 ^ e` with a point, for digits that do not end in zero. -/
def positional (digits : List Char) (e : Int) : List Char :=
  if 0 ≤ e then digits ++ zeros e.toNat ++ ['.', '0']
  else
    let places := e.natAbs
    if places < digits.length then
      digits.take (digits.length - places) ++ '.' :: digits.drop (digits.length - places)
    else '0' :: '.' :: zeros (places - digits.length) ++ digits

def exponentText (e : Int) : List Char :=
  let digits := Nat.toDigits 10 e.natAbs
  'e' :: (if e < 0 then '-' else '+') :: zeros (2 - digits.length) ++ digits

def scientific (digits : List Char) (lead : Int) : List Char :=
  match digits with
  | [] => []
  | d :: rest => (if rest.isEmpty then [d] else d :: '.' :: rest) ++ exponentText lead

/-- The text of the decimal `digits · 10 ^ e`. -/
def decimalText (digits : Nat) (e : Int) : List Char :=
  let (digits, dropped) := stripZeros 20 digits
  let e := e + dropped
  let ds := Nat.toDigits 10 digits
  let lead := e + ds.length - 1
  if positionalFrom ≤ lead ∧ lead ≤ positionalTo then positional ds e else scientific ds lead

def Binary64.written : Binary64 → String
  | .nan => "nan"
  | .infinite negative => if negative then "-inf" else "inf"
  | .finite negative m e =>
    let body := if m = 0 then ['0', '.', '0'] else
      let (digits, at10) := shortest m e
      decimalText digits at10
    String.ofList (if negative then '-' :: body else body)

end Number
end JavaCompanion
