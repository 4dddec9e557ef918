/-
The bean convention applied to raw values.

A name that is no text is refused, with these exceptions: a value that counts as absent stays
as it is where the first letter goes to lower case, and so does a list that begins with two
texts in upper case.
-/
import JavaCompanion.Java.Bean
import JavaCompanion.Value.Basic

namespace JavaCompanion
namespace Java

def capitalizeValue (v : Value) : Except Mismatch Value :=
  match v with
  | .text s => .ok (.text (capitalize s))
  | .list _ => .error (.member v)
  | _ => .error (.operand v)

/-- Whether an item of a name that is a list is a text in upper case. -/
def isUpperItem (v : Value) : Except Mismatch Bool := do return Text.isUpperText (← v.asMember)

def decapitalizeList (items : List Value) : Except Mismatch Value := do
  match items with
  | [] => return .list []
  | first :: rest =>
    let abbreviated ← match rest with
      | [] => pure false
      | second :: _ => do if ← isUpperItem first then isUpperItem second else pure false
    if abbreviated then return .list items
    let _ ← first.asMember
    .error (.operand (.list items))

def decapitalizeValue (v : Value) : Except Mismatch Value :=
  match v with
  | .text s => .ok (.text (decapitalize s))
  | .list items => decapitalizeList items
  | .object (_ :: _) => .error (.entry v)
  | _ => if v.truthy then .error (.operand v) else .ok v

end Java
end JavaCompanion
