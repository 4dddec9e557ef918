/-
The naming operations, called by name.

A name that is no text is refused or taken as the operation on texts leaves it.
-/
import JavaCompanion.Java.RawName
import JavaCompanion.Observable.Plan
import JavaCompanion.Script.Arguments

namespace JavaCompanion
namespace Script

open Java

/-- The parameters of a naming operation, if there is one of that name. -/
def namingParameters? (operation : String) : Option (List Parameter) :=
  if ["is_java_identifier", "is_qualified_name", "capitalize", "decapitalize", "box_type",
      "raw_type", "listener_interface_name", "listener_field_name", "listener_callback_name",
      "fire_method_name"].contains operation then
    some [.required "name"]
  else if operation = "strip_prefix" then some [.required "name", .required "prefix"]
  else if operation = "is_provider_type" then
    some [.required "name", .optional "provider" .null]
  else if operation = "wrap_provider" then
    some [.required "name", .optional "provider" (.text defaultProvider)]
  else none

/-- The reference type for a raw value; no collection can be looked up. -/
def boxValue (v : Value) : Except Mismatch Value :=
  match v with
  | .text s => .ok (.text (box s))
  | .list _ | .object _ => .error (.operand v)
  | _ => .ok v

/-- A name made of a name in bean form, with what stands before and behind it. -/
def affixed (before : String) (name : Except Mismatch Value) (behind : String) :
    Except Mismatch Value := do
  return .text (before ++ (← name).display ++ behind)

/-- The result of a naming operation for bound parameters. -/
def namingResult (operation : String) (bound : Fields) : Except Mismatch Value := do
  let name := bound.valueOf "name"
  match operation with
  | "is_java_identifier" => return .bool (← isIdentifierValue name)
  | "is_qualified_name" => return .bool (← isQualifiedValue name)
  | "capitalize" => capitalizeValue name
  | "decapitalize" => decapitalizeValue name
  | "strip_prefix" =>
    let s ← name.asMember
    match remainder? s (← (bound.valueOf "prefix").asOperand) with
    | some rest => return .text rest
    | none => return .null
  | "box_type" => boxValue name
  | "raw_type" => return .text (rawType (← name.asMember))
  | "listener_interface_name" => affixed "" (capitalizeValue name) "Listener"
  | "listener_field_name" => affixed "" (decapitalizeValue name) "Listeners"
  | "listener_callback_name" => affixed "" (decapitalizeValue name) "Changed"
  | "fire_method_name" => affixed "fire" (capitalizeValue name) "Listener"
  | "is_provider_type" =>
    return .bool (isProvider (← name.asMember) (bound.valueOf "provider"))
  | _ => return .text (wrapProvider (← name.asMember) (bound.valueOf "provider"))

def naming (operation : String) (arguments : List Value) : Except Mismatch Value :=
  match namingParameters? operation with
  | none => .error (.member (.text operation))
  | some ps => do namingResult operation (← Arguments.bind { positional := arguments } ps)

end Script
end JavaCompanion
