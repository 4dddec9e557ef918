/-
Scopes of free names for raw values.

A name that is no text is free unless an equal value is in use; the names tried after it are
texts.  A collection is no name.
-/
import JavaCompanion.Java.NameScope
import JavaCompanion.Script.Arguments

namespace JavaCompanion
namespace Script

open Java

structure Scope where
  reserved : List Value := reservedWords.map .text
  used : List Value := []

namespace Scope

def asName (v : Value) : Except Mismatch Value :=
  if v.isCollection then .error (.operand v) else .ok v

/-- The scope whose reserved words and names in use are those of two collections.  Where no
words are given, those of the language are reserved. -/
def of (reserved used : Value) : Except Mismatch Scope := do
  let names ← if used.truthy then used.items else pure []
  let names ← names.mapM asName
  if reserved.isNull then return { used := names }
  return { reserved := ← (← reserved.items).mapM asName, used := names }

def isUsed (s : Scope) (name : Value) : Bool := s.used.any (·.same name)

def add (s : Scope) (name : Value) : Scope :=
  if s.isUsed name then s else { s with used := name :: s.used }

/-- The names in use that are texts. -/
def texts (s : Scope) : NameScope := { used := s.used.filterMap Value.text? }

/-- The first free candidate for a name. -/
def free (s : Scope) (base : Value) (separator : String) : Value :=
  if s.isUsed base then
    .text (s.texts.firstFree base.display separator s.texts.used.length 1)
  else base

/-- A free variant of a name, and the scope in which it is taken. -/
def claim (s : Scope) (name : Value) (separator : String) : Value × Scope :=
  let base := if s.reserved.any (·.same name) then .text (name.display ++ separator) else name
  let found := s.free base separator
  (found, s.add found)

def call (s : Scope) (operation : String) (arguments : List Value) :
    Except Mismatch (Value × Scope) := do
  let bind := Arguments.bind { positional := arguments }
  match operation with
  | "sanitize" =>
    let b ← bind
      [.required "name", .optional "separator" (.text NameScope.defaultSeparator)]
    return s.claim (← asName (b.valueOf "name")) (b.textOf "separator")
  | "add" => return (.null, s.add (← asName ((← bind [.required "name"]).valueOf "name")))
  | "reset" =>
    let _ ← bind []
    return (.null, { s with used := [] })
  | "is_used" =>
    return (.bool (s.isUsed (← asName ((← bind [.required "name"]).valueOf "name"))), s)
  | _ => .error (.member (.text operation))

theorem isUsed_reset (s : Scope) (name : Value) :
    isUsed { s with used := [] } name = false := rfl

end Scope
end Script
end JavaCompanion
