/-
Sets of characters given by ranges of code points, and maps given by shifts.

The tables that use them cover the characters beyond ASCII.  For ASCII each property
is written out where it is defined, so that it can be read and evaluated without a table.
-/
namespace JavaCompanion
namespace Text

/-- Whether one of the inclusive ranges holds the code point. -/
def inRanges (ranges : List (Nat × Nat)) (n : Nat) : Bool :=
  ranges.any fun r => r.1 ≤ n && n ≤ r.2

/-- The first and the last code point that move, the step between two of them, and the
distance. -/
abbrev CaseShift := Nat × Nat × Nat × Int

def CaseShift.applies (s : CaseShift) (n : Nat) : Bool :=
  s.1 ≤ n && n ≤ s.2.1 && (n - s.1) % s.2.2.1 == 0

/-- The code point after the first shift that applies to it. -/
def shifted (shifts : List CaseShift) (n : Nat) : Nat :=
  match shifts.find? (CaseShift.applies · n) with
  | some s => (Int.ofNat n + s.2.2.2).toNat
  | none => n

end Text
end JavaCompanion
