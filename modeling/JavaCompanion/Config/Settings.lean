/-
What the settings of all generators have in common.

The values of an annotation are the settings of one type.  They may only name options that
the generator has, and may give the generated class a name.  Where they are silent, the
options of the run decide.
-/
import JavaCompanion.Config.Basic
import JavaCompanion.Java.Identifier

namespace JavaCompanion
namespace Config

/-- The options that no generator of this kind has, in alphabetical order. -/
def unknownOptions (known : List String) (values : Fields) : List String :=
  ((Fields.names values).filter fun name => !known.contains name).mergeSort fun a b => a ≤ b

def checkOptions (generator : String) (known : List String) (values : Fields) :
    Except Fault Unit :=
  match unknownOptions known values with
  | [] => .ok ()
  | names => refuse (.unknownOptions generator names)

/-- The name chosen for the generated class, if one is. -/
def chosenName (generator : String) (values : Fields) : Except Fault (Option Value) :=
  match Fields.get? values "name" with
  | none => .ok none
  | some name =>
    if !name.truthy then .ok none
    else do
      checkShowable name
      if Java.isIdentifier name.display then return some name
      else refuse (.invalidName generator name)

/-- A value of the annotation, of the options if the annotation is silent, or else the one
that stands for both. -/
def chosen (values : Fields) (options : Value) (name optionName : String) (absent : Value) :
    Except Fault Value :=
  let fallback : Except Fault Value :=
    if !options.truthy then .ok absent
    else
      match options with
      | .object fields => .ok ((Fields.get? fields optionName).getD absent)
      | _ => .error (.mismatch (.member options))
  match Fields.get? values name with
  | some v => do
    discard fallback
    return v
  | none => fallback

def flag (values : Fields) (name : String) (absent : Bool) : Except Fault Bool :=
  boolean name ((Fields.get? values name).getD (.bool absent))

/-- Values that may be absent altogether. -/
def orNone (v : Value) : Except Fault Fields :=
  if v.truthy then shaped v.asFields else .ok []

end Config
end JavaCompanion
