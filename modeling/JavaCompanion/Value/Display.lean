/-
The text of a raw value in messages and in generated sources.

`display` shows a text as it is; everything inside a collection, and every value in
`quoted` form, shows its texts in quotes.  Whole numbers of too many digits and values that are
nested too deeply have no text that a program can make (`isShowable`).
-/
import JavaCompanion.Number.Written
import JavaCompanion.Text.Digit
import JavaCompanion.Text.Quoted
import JavaCompanion.Value.Basic

namespace JavaCompanion
namespace Value

mutual
def quoted : Value → String
  | .null => "None"
  | .bool b => if b then "True" else "False"
  | .int n => toString n
  | .float x => x.written
  | .text s => Text.quoted s
  | .list items => "[" ++ quotedItems items ++ "]"
  | .object fields => "\x7b" ++ quotedFields fields ++ "\x7d"

/-- The items of a list, separated by commas. -/
def quotedItems : List Value → String
  | [] => ""
  | [v] => quoted v
  | v :: rest => quoted v ++ ", " ++ quotedItems rest

/-- The fields of an object, separated by commas. -/
def quotedFields : List (String × Value) → String
  | [] => ""
  | [(name, v)] => Text.quoted name ++ ": " ++ quoted v
  | (name, v) :: rest => Text.quoted name ++ ": " ++ quoted v ++ ", " ++ quotedFields rest
end

def display : Value → String
  | .text s => s
  | v => quoted v

/-- How many lists and objects inside each other are shown. -/
def showLimit : Nat := 960

/-- Whether the text of a value can be made. -/
def isShowable (v : Value) : Bool :=
  v.height 0 1 ≤ showLimit && v.digits ≤ Text.digitLimit

/-- Entries under the texts of their keys, a later entry winning over an earlier one. -/
def namedEntries (entries : Entries) : Fields :=
  Fields.putAll [] (entries.map fun e => (e.1.display, e.2))

end Value
end JavaCompanion
