/-
Cutting text at a separator, and joining it again.
-/
namespace JavaCompanion
namespace Text

/-- The pieces between the occurrences of `sep`, read from the left without overlap.  The
first `skip` characters belong to an occurrence that has been cut already. -/
def piecesFrom (sep : List Char) : Nat → List Char → List (List Char)
  | _, [] => [[]]
  | skip + 1, _ :: rest => piecesFrom sep skip rest
  | 0, c :: rest =>
    if sep.isPrefixOf (c :: rest) then [] :: piecesFrom sep (sep.length - 1) rest
    else
      match piecesFrom sep 0 rest with
      | [] => [[c]]
      | piece :: pieces => (c :: piece) :: pieces

/-- The pieces of `cs` between the occurrences of a separator that is not empty. -/
def pieces (sep cs : List Char) : List (List Char) := piecesFrom sep 0 cs

/-- The parts of a text between the occurrences of one character. -/
def parts (c : Char) : List Char → List (List Char)
  | [] => [[]]
  | d :: rest =>
    if d = c then [] :: parts c rest
    else
      match parts c rest with
      | [] => [[d]]
      | piece :: pieces => (d :: piece) :: pieces

def splitAt (c : Char) (s : String) : List String := (parts c s.toList).map String.ofList

/-- What stands before the first occurrence of the character, all of the text if there is
none. -/
def before (c : Char) (s : String) : String := String.ofList (s.toList.takeWhile (· != c))

/-- What stands after the last occurrence of the character, all of the text if there is
none. -/
def afterLast (c : Char) (s : String) : String :=
  String.ofList (s.toList.reverse.takeWhile (· != c)).reverse

/-- The text with one character in place of another. -/
def swapChar (old new : Char) (s : String) : String :=
  String.ofList (s.toList.map fun c => if c = old then new else c)

theorem parts_ne_nil (c : Char) (cs : List Char) : parts c cs ≠ [] := by
  induction cs with
  | nil => simp [parts]
  | cons d rest ih =>
    by_cases h : d = c
    · simp [parts, h]
    · cases hp : parts c rest with
      | nil => exact absurd hp ih
      | cons p ps => simp [parts, h, hp]

/-- Whether the characters of a part stand somewhere in a row among others. -/
def standsIn (part : List Char) : List Char → Bool
  | [] => part.isEmpty
  | c :: rest => part.isPrefixOf (c :: rest) || standsIn part rest

def occursIn (part s : String) : Bool := standsIn part.toList s.toList

end Text
end JavaCompanion
