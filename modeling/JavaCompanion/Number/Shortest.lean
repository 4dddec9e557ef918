/-
The shortest decimal that reads back.

A binary64 number is the nearest one for every decimal in an interval around it.  The
decimal text of a number has the fewest digits for which such a decimal exists; of several
with that many digits it is the nearest to the number, and of two equally near the even one.
For each count of digits it is enough to look at the two neighbours of the number on that
decimal grid: if any point of the grid lies in the interval, one of them does.
-/
import JavaCompanion.Number.Binary64

namespace JavaCompanion
namespace Number

structure Quotient where
  num : Nat
  den : Nat

namespace Quotient

def lt (a b : Quotient) : Bool := a.num * b.den < b.num * a.den

def le (a b : Quotient) : Bool := a.num * b.den ≤ b.num * a.den

/-- `n · base ^ e`. -/
def ofPower (n base : Nat) (e : Int) : Quotient :=
  if e < 0 then ⟨n, power base e⟩ else ⟨n * power base e, 1⟩

def divPower (a : Quotient) (base : Nat) (e : Int) : Quotient :=
  if e < 0 then ⟨a.num * power base e, a.den⟩
  else ⟨a.num, a.den * power base e⟩

end Quotient

/-- The decimals that read as the number `m · 2 ^ e`: those between two bounds, the bounds
themselves only if the significand is even. -/
structure ReadInterval where
  low : Quotient
  high : Quotient
  closed : Bool

/-- Both bounds lie half a step away.  Below a power of two the steps are half as wide. -/
def readInterval (m : Nat) (e : Int) : ReadInterval where
  low :=
    if m = Binary64.leastFull ∧ Binary64.leastExponent < e then .ofPower (4 * m - 1) 2 (e - 2)
    else .ofPower (2 * m - 1) 2 (e - 1)
  high := .ofPower (2 * m + 1) 2 (e - 1)
  closed := m % 2 == 0

def ReadInterval.contains (i : ReadInterval) (x : Quotient) : Bool :=
  if i.closed then i.low.le x && x.le i.high else i.low.lt x && x.lt i.high

/-- The exponent of the leading decimal digit of a number, searched upwards from `e`. -/
def leadingExponent (x : Quotient) : Nat → Int → Int
  | 0, e => e
  | fuel + 1, e =>
    if (Quotient.ofPower 1 10 (e + 1)).le x then leadingExponent x fuel (e + 1) else e

/-- The neighbour on the grid of multiples of `10 ^ e` that reads back, if one does. -/
def gridNeighbour (i : ReadInterval) (x : Quotient) (e : Int) : Option Nat :=
  let scaled := x.divPower 10 e
  let below := scaled.num / scaled.den
  let rest := scaled.num % scaled.den
  let lowIn := i.contains (.ofPower below 10 e)
  let highIn := i.contains (.ofPower (below + 1) 10 e)
  match lowIn, highIn with
  | false, false => none
  | true, false => some below
  | false, true => some (below + 1)
  | true, true =>
    if 2 * rest < scaled.den then some below
    else if scaled.den < 2 * rest then some (below + 1)
    else if below % 2 = 0 then some below else some (below + 1)

/-- The digits, and the exponent of the last one, of the shortest decimal for a number whose
leading digit has the exponent `lead`, trying `count` digits and then more. -/
def shortestFrom (i : ReadInterval) (x : Quotient) (lead : Int) : Nat → Nat → Nat × Int
  | 0, count =>
    let e := lead - count + 1
    let scaled := x.divPower 10 e
    (scaled.num / scaled.den, e)
  | fuel + 1, count =>
    let e := lead - count + 1
    match gridNeighbour i x e with
    | some digits => (digits, e)
    | none => shortestFrom i x lead fuel (count + 1)

/-- The shortest decimal `digits · 10 ^ exponent` that reads as `m · 2 ^ e`.  Seventeen
digits are always enough. -/
def shortest (m : Nat) (e : Int) : Nat × Int :=
  let x := Quotient.ofPower m 2 e
  shortestFrom (readInterval m e) x (leadingExponent x 640 (-330)) 17 1

end Number
end JavaCompanion
