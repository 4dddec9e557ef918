/-
The mutators of an element, each with the accessor that reads its value back.

A method is one if its name begins with a verb and goes on with a subject that does not
begin in lower case, so that `settle` sets nothing.  A method that cannot be overridden or
has no body is passed over with a warning; any other must take one parameter, have an
accessor that is not private, and be the only one for its subject.
-/
import JavaCompanion.Extraction.Signatures
import JavaCompanion.Java.Bean
import JavaCompanion.Java.TypeName
import JavaCompanion.Log.Record

namespace JavaCompanion
namespace Extraction

open Descriptor Java

/-- Which of several verbs that a name begins with count. -/
inductive Policy where
  | first
  | all
  deriving DecidableEq, Repr

def Policy.word : Policy → String
  | .first => "first"
  | .all => "all"

/-! ## Verbs and subjects -/

/-- Whether a subject follows a verb: it does not go on in lower case. -/
def isSubject (s : String) : Bool :=
  match s.toList with
  | [] => false
  | c :: _ => !Text.isLower c

def subject? (name verb : String) : Option String := (remainder? name verb).filter isSubject

/-- Every verb that the name begins with, with the subject it leaves. -/
def splits (name : String) (verbs : List String) : List (String × String) :=
  verbs.filterMap fun verb => (subject? name verb).map fun s => (verb, s)

/-- As `splits`, for the name of a member, which is looked at only if there is a verb. -/
def splitsOf (name : Value) (verbs : List String) : Except Mismatch (List (String × String)) :=
  if verbs.isEmpty then .ok [] else do return splits (← name.asMember) verbs

/-! ## Accessors -/

def accessorNames (subject valueType : String) : List String :=
  if booleanTypes.contains valueType then ["get" ++ subject, "is" ++ subject]
  else ["get" ++ subject]

/-- The first method without parameters that has the name. -/
def getter? (methods : List Method) (name : String) : Option Method :=
  methods.find? fun m => m.parameters.isEmpty && m.name.text? == some name

def findAccessor (methods : List Method) (subject valueType : String) : Option Method :=
  (accessorNames subject valueType).findSome? (getter? methods)

/-- Methods without parameters are looked up by name, which no collection can be. -/
def checkNames (methods : List Method) : Except Mismatch Unit :=
  match methods.find? fun m => m.parameters.isEmpty && m.name.isCollection with
  | some m => .error (.operand m.name)
  | none => .ok ()

/-! ## Mutators -/

structure Found where
  mutators : List Mutator := []
  warnings : List String := []

def severalVerbs (owner name : String) (policy : Policy) (found : List (String × String)) :
    String :=
  owner ++ "." ++ name ++ " matches several prefixes ("
    ++ String.intercalate ", " (found.map fun s => Text.quoted s.1) ++ "); using "
    ++ (match policy with | .first => "the first" | .all => "all of them")

def otherType (owner : String) (accessor : Method) (name valueType : String) : String :=
  owner ++ "." ++ accessor.name.display ++ " returns " ++ accessor.returnType ++ " but " ++ name
    ++ " takes " ++ valueType

/-- Adds the mutator of one verb. -/
def pair (owner : String) (methods : List Method) (m : Method) (p : Parameter) (found : Found)
    (split : String × String) : Except Fault Found := do
  shaped (checkNames methods)
  let name := m.name.display
  match findAccessor methods split.2 p.type with
  | none => refuse (.noAccessor owner name split.2)
  | some accessor =>
    if accessor.modifiers.contains .«private» then
      refuse (.privateAccessor owner accessor.name.display name)
    else
      match found.mutators.find? (·.subject == split.2) with
      | some other => refuse (.sharedSubject owner other.method.name.display name split.2)
      | none =>
        .ok {
          mutators := found.mutators ++
            [{ method := m, verb := split.1, subject := split.2, accessor, parameter := p }]
          warnings := found.warnings ++
            (if accessor.returnType = p.type then []
             else [otherType owner accessor name p.type]) }

def addMethod (owner : String) (methods : List Method) (verbs : List String) (policy : Policy)
    (found : Found) (m : Method) : Except Fault Found := do
  let all ← shaped (splitsOf m.name verbs)
  let name := m.name.display
  if all.isEmpty then return found
  let found := if 1 < all.length then
      { found with warnings := found.warnings ++ [severalVerbs owner name policy all] }
    else found
  let chosen := match policy with
    | .first => all.take 1
    | .all => all
  let passOver (why : String) : Found :=
    { found with warnings := found.warnings ++ [owner ++ "." ++ name ++ why] }
  if !m.isOverridable then return passOver " cannot be overridden and is not observed"
  if m.isAbstract then return passOver " is abstract and is not observed"
  match m.parameters with
  | [p] => chosen.foldlM (pair owner methods m p) found
  | ps => refuse (.parameterCount owner name ps.length)

/-- The mutators in source order, and the warnings. -/
def mutators (e : Element) (verbs : List String) (policy : Policy) (control : Value) :
    Except Fault Found := do
  let methods ← shaped (methods e control)
  methods.foldlM (addMethod e.qualifiedName methods verbs policy) {}

/-- What is logged when the mutators of an element have been found. -/
def foundRecord (owner : String) (count : Nat) : Log.Record :=
  ⟨.debug, Log.extractionLogger,
    "Extracted " ++ toString count ++ " mutator(s) from " ++ owner⟩

end Extraction
end JavaCompanion
