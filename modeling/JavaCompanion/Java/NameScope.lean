/-
Names that are still free.

A scope knows the reserved words and the names in use.  A preferred name that is reserved gets
the separator appended; a name in use gets the separator and a counter, starting from one, and
the first that is free is taken.  As the candidates are all different, one of the first
`n + 1` is free when `n` names are in use, and the search ends there.
-/
import JavaCompanion.Java.Identifier

namespace JavaCompanion
namespace Java

structure NameScope where
  reserved : List String := reservedWords
  used : List String := []

namespace NameScope

def isUsed (s : NameScope) (name : String) : Bool := s.used.contains name

/-- Marks a name as taken. -/
def add (s : NameScope) (name : String) : NameScope :=
  if s.isUsed name then s else { s with used := name :: s.used }

/-- The separator used where none is chosen. -/
def defaultSeparator : String := "_"

/-- Frees every name. -/
def reset (s : NameScope) : NameScope := { s with used := [] }

/-- The name from which the candidates are built. -/
def base (s : NameScope) (name separator : String) : String :=
  if s.reserved.contains name then name ++ separator else name

def candidate (base separator : String) : Nat → String
  | 0 => base
  | n + 1 => base ++ separator ++ toString (n + 1)

/-- The first free candidate from the `n`-th on, looking at no more than the fuel allows. -/
def firstFree (s : NameScope) (base separator : String) : Nat → Nat → String
  | 0, n => candidate base separator n
  | fuel + 1, n =>
    if s.isUsed (candidate base separator n) then firstFree s base separator fuel (n + 1)
    else candidate base separator n

/-- A free variant of the name, and the scope in which it is taken. -/
def claim (s : NameScope) (name separator : String) : String × NameScope :=
  let free := s.firstFree (s.base name separator) separator s.used.length 0
  (free, s.add free)

@[simp] theorem isUsed_reset (s : NameScope) (name : String) :
    s.reset.isUsed name = false := rfl

theorem isUsed_add_self (s : NameScope) (name : String) : (s.add name).isUsed name = true := by
  unfold add
  split
  · next h => exact h
  · simp [isUsed]

theorem isUsed_add_of_ne {name other : String} (h : other ≠ name) (s : NameScope) :
    (s.add name).isUsed other = s.isUsed other := by
  unfold add
  split
  · rfl
  · simp [isUsed, h]

theorem isUsed_claim (s : NameScope) (name separator : String) :
    (s.claim name separator).2.isUsed (s.claim name separator).1 = true :=
  isUsed_add_self s _

end NameScope

end Java
end JavaCompanion
