/-
Writing JSON.

Every item and every member stands on a line of its own, indented by two spaces for each
level; empty collections stay on one line.  Characters beyond ASCII stand for themselves;
only the quote, the backslash and the controls are escaped.
-/
import JavaCompanion.Number.Written
import JavaCompanion.Text.Digit
import JavaCompanion.Text.Quoted
import JavaCompanion.Value.Basic

namespace JavaCompanion
namespace Json

open Number

def escapedChar (c : Char) : List Char :=
  if c = '"' then ['\\', '"']
  else if c = '\\' then ['\\', '\\']
  else if c = '\n' then ['\\', 'n']
  else if c = '\r' then ['\\', 'r']
  else if c = '\t' then ['\\', 't']
  else if c = '\x08' then ['\\', 'b']
  else if c = '\x0c' then ['\\', 'f']
  else if c.toNat < 32 then '\\' :: 'u' :: Text.hexDigits 4 c.toNat
  else [c]

def writtenText (s : String) : String :=
  String.ofList ('"' :: s.toList.flatMap escapedChar ++ ['"'])

def writtenNumber : Binary64 → String
  | .nan => "NaN"
  | .infinite negative => if negative then "-Infinity" else "Infinity"
  | x => x.written

def lineAt (level : Nat) : String := "\n" ++ String.ofList (List.replicate (2 * level) ' ')

mutual
/-- A value whose own lines stand at the given level. -/
def indented (level : Nat) : Value → String
  | .null => "null"
  | .bool b => if b then "true" else "false"
  | .int n => toString n
  | .float x => writtenNumber x
  | .text s => writtenText s
  | .list [] => "[]"
  | .list vs => "[" ++ indentedItems (level + 1) vs ++ lineAt level ++ "]"
  | .object [] => "\x7b\x7d"
  | .object fs => "\x7b" ++ indentedMembers (level + 1) fs ++ lineAt level ++ "\x7d"

def indentedItems (level : Nat) : List Value → String
  | [] => ""
  | [v] => lineAt level ++ indented level v
  | v :: rest => lineAt level ++ indented level v ++ "," ++ indentedItems level rest

def indentedMembers (level : Nat) : List (String × Value) → String
  | [] => ""
  | [(name, v)] => lineAt level ++ writtenText name ++ ": " ++ indented level v
  | (name, v) :: rest =>
    lineAt level ++ writtenText name ++ ": " ++ indented level v ++ ","
      ++ indentedMembers level rest
end

def write (v : Value) : String := indented 0 v

/-! ## Piece by piece

A text is handed over piece by piece.  What has been handed over before a piece that cannot be
made or cannot be expressed stays written. -/

structure Piece where
  text : String
  /-- The digits of the whole number in the piece. -/
  digits : Nat := 0

/-- Why a piece is not written. -/
inductive Stop where
  | tooManyDigits
  /-- A surrogate on its own. -/
  | surrogate
  deriving DecidableEq, Repr

def Piece.stop? (p : Piece) : Option Stop :=
  if Text.digitLimit < p.digits then some .tooManyDigits
  else if (Text.characters? p.text.toList).isNone then some .surrogate
  else none

/-- Pieces behind a text, which is one with a piece that stands alone. -/
def led (before : String) : List Piece → List Piece
  | [p] => [{ p with text := before ++ p.text }]
  | ps => { text := before } :: ps

mutual
def pieces (level : Nat) : Value → List Piece
  | .int n => [{ text := toString n, digits := (Value.int n).digits }]
  | .list (v :: rest) =>
    led ("[" ++ lineAt (level + 1)) (pieces (level + 1) v) ++ furtherItems (level + 1) rest
      ++ [{ text := lineAt level }, { text := "]" }]
  | .object (f :: rest) =>
    { text := "\x7b" ++ lineAt (level + 1) } :: memberPieces (level + 1) f
      ++ furtherMembers (level + 1) rest ++ [{ text := lineAt level }, { text := "\x7d" }]
  | v => [{ text := indented level v }]

def furtherItems (level : Nat) : List Value → List Piece
  | [] => []
  | v :: rest => led ("," ++ lineAt level) (pieces level v) ++ furtherItems level rest

def memberPieces (level : Nat) : String × Value → List Piece
  | (name, v) => { text := writtenText name } :: { text := ": " } :: pieces level v

def furtherMembers (level : Nat) : List (String × Value) → List Piece
  | [] => []
  | f :: rest =>
    { text := "," ++ lineAt level } :: memberPieces level f ++ furtherMembers level rest
end

/-- What is written of a value. -/
def handedOver (v : Value) : String :=
  String.join (((pieces 0 v).takeWhile fun p => p.stop?.isNone).map (·.text))

/-- What the writing of a value is stopped by. -/
def stop? (v : Value) : Option Stop := (pieces 0 v).findSome? Piece.stop?

end Json
end JavaCompanion
