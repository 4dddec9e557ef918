/-
Numbers in binary64, held exactly.

A finite number is `± significand · 2 ^ exponent`, with a significand below `2 ^ 53` and an
exponent of at least `-1074`; the significand has all 53 bits unless the exponent is that
least one.  Reading a decimal rounds to the nearest such number, a tie to the even
significand, and is done in exact integer arithmetic.
-/
namespace JavaCompanion
namespace Number

/-- `base ^ |e|`. -/
def power (base : Nat) (e : Int) : Nat := base.pow e.natAbs

inductive Binary64 where
  | nan
  | infinite (negative : Bool)
  | finite (negative : Bool) (significand : Nat) (exponent : Int)
  deriving DecidableEq, Repr, Inhabited

namespace Binary64

def leastExponent : Int := -1074

def greatestExponent : Int := 971

/-- The least significand that has all 53 bits. -/
def leastFull : Nat := Nat.pow 2 52

def zero (negative : Bool) : Binary64 := .finite negative 0 leastExponent

def negated : Binary64 → Binary64
  | .nan => .nan
  | .infinite negative => .infinite !negative
  | .finite negative m e => .finite (!negative) m e

def isZero : Binary64 → Bool
  | .finite _ m _ => m == 0
  | _ => false

/-- The nearest integer to `num / den`, a tie going to the even one. -/
def roundQuotient (num den : Nat) : Nat :=
  let q := num / den
  let r := num % den
  if 2 * r < den then q
  else if den < 2 * r then q + 1
  else if q % 2 = 0 then q else q + 1

/-- `num / den` divided by `2 ^ e`, as a quotient of two integers again. -/
def scaleDown (num den : Nat) (e : Int) : Nat × Nat :=
  if e < 0 then (num * power 2 e, den) else (num, den * power 2 e)

/-- The number nearest to the quotient of two positive integers. -/
def ofQuotient (negative : Bool) (num den : Nat) : Binary64 :=
  let guess := max ((Nat.log2 num : Int) - (Nat.log2 den : Int) - 53) leastExponent
  let (n, d) := scaleDown num den guess
  let e := if 2 * leastFull ≤ n / d then guess + 1 else guess
  let (n, d) := scaleDown num den e
  let m := roundQuotient n d
  let (m, e) := if m = 2 * leastFull then (leastFull, e + 1) else (m, e)
  if greatestExponent < e then .infinite negative else .finite negative m e

/-- The number nearest to `digits · 10 ^ exponent`.  A decimal point far to either side
decides at once: beyond the exponent 310 everything is infinite, below -330 zero. -/
def ofDecimal (negative : Bool) (digits : Nat) (exponent : Int) : Binary64 :=
  let size : Int := (Nat.toDigits 10 digits).length
  if digits = 0 then zero negative
  else if 310 < size + exponent then .infinite negative
  else if size + exponent < -330 then zero negative
  else if exponent < 0 then ofQuotient negative digits (power 10 exponent)
  else ofQuotient negative (digits * power 10 exponent) 1

def equalsInt (x : Binary64) (n : Int) : Bool :=
  match x with
  | .finite negative m e =>
    if e < 0 then
      (if negative then -(m : Int) else m) == n * (power 2 e : Int)
    else (if negative then -(m : Int) else m) * (power 2 e : Int) == n
  | _ => false

/-- Equality as numbers: nothing equals a NaN, and the two zeros are equal. -/
def same (x y : Binary64) : Bool :=
  match x, y with
  | .nan, _ | _, .nan => false
  | _, _ => x == y || (x.isZero && y.isZero)

end Binary64

end Number
end JavaCompanion
