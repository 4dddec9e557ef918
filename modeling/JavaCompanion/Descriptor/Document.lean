/-
From descriptor documents to elements.

A document is an object with the list `types`, a bare list of type entries, or one entry.
Entries are read member by member, and the first fault ends the reading; within a member the
kind comes first, then the name, the modifiers, and the rest in the order of a signature.
-/
import JavaCompanion.Descriptor.Element
import JavaCompanion.Fault

namespace JavaCompanion
namespace Descriptor

/-- A field of an entry, with the value that stands for its absence. -/
def fieldOr (fields : Fields) (name : String) (absent : Value) : Value :=
  (Fields.get? fields name).getD absent

def malformed (f : Malformed) : Except Fault α := .error (.descriptor f)

/-! ## Annotations and parameters -/

def annotationOfText (s : String) : Except Fault AnnotationUse :=
  match AnnotationUse.ofText? s with
  | some a => .ok a
  | none => malformed (.notAnnotated s)

/-- An annotation given as a text, or as an object with its type, its text or both. -/
def annotationUse (v : Value) : Except Fault AnnotationUse :=
  match v with
  | .text s => annotationOfText s
  | .object fields =>
    match fieldOr fields "type" .null, fieldOr fields "text" .null with
    | .null, .null => malformed (.emptyAnnotationEntry v)
    | type, .null => .ok ⟨type, .text ("@" ++ type.display)⟩
    | .null, text => do annotationOfText (← shaped text.asMember)
    | type, text => .ok ⟨type, text⟩
  | _ => malformed (.annotationEntry v)

/-- The members of a collection, each read in turn. -/
def each (read : Value → Except Fault α) (v : Value) : Except Fault (List α) := do
  let items ← shaped v.items
  items.mapM read

def variable_ (v : Value) : Except Fault Variable :=
  match v with
  | .object fields =>
    match Fields.get? fields "type", Fields.get? fields "name" with
    | some type, some name => do
      let annotations ← each annotationUse (fieldOr fields "annotations" (.list []))
      return ⟨type.display, name.display, annotations⟩
    | _, _ => malformed (.parameterEntry v)
  | _ => malformed (.parameterEntry v)

/-! ## Members -/

def constructorName : Value := .text "<init>"

def memberName (owner : String) (kind : MemberKind) (v : Value) (fields : Fields) :
    Except Fault Value :=
  match kind with
  | .constructor => .ok constructorName
  | _ =>
    let name := fieldOr fields "name" .null
    if name.truthy then .ok name else malformed (.unnamedMember owner v)

def memberModifiers (owner : String) (name : Value) (fields : Fields) :
    Except Fault (List Java.Modifier) :=
  match Java.modifierSetOf (fieldOr fields "modifiers" (.list [])) with
  | .ok ms => .ok ms
  | .error (.mismatch m) => .error (.mismatch m)
  | .error (.unknown spelling) => malformed (.memberModifier owner name spelling)

def member (owner : String) (v : Value) : Except Fault Member :=
  match v with
  | .object fields => do
    let kind ← match MemberKind.ofValue? (fieldOr fields "kind" (.text "method")) with
      | some kind => .ok kind
      | none => malformed (.memberKind owner (fieldOr fields "kind" .null))
    let name ← memberName owner kind v fields
    let modifiers ← memberModifiers owner name fields
    let parameters ← each variable_ (fieldOr fields "parameters" (.list []))
    let thrown ← shaped (fieldOr fields "thrown" (.list [])).items
    return {
      kind, name, parameters, modifiers
      returnType := (fieldOr fields "return_type" (.text "void")).display
      thrown := thrown.map Value.display }
  | _ => malformed (.memberEntry owner v)

/-! ## Types -/

/-- The annotations of a type.  A value that is no object stands for an annotation without
values, `false` for one that is not applied. -/
def appliedAnnotations (fields : Fields) : List (String × Fields) :=
  fields.filterMap fun f =>
    match f.2 with
    | .bool false => none
    | .object values => some (f.1, values)
    | _ => some (f.1, [])

def orEmpty (v empty : Value) : Value := if v.truthy then v else empty

def element (v : Value) : Except Fault Element :=
  match v with
  | .object fields => do
    let name := fieldOr fields "name" .null
    if !name.truthy then malformed (.unnamedType v)
    let package := (orEmpty (fieldOr fields "package" (.text "")) (.text "")).display
    let annotations ←
      match orEmpty (fieldOr fields "annotations" (.object [])) (.object []) with
      | .object values => .ok values
      | _ => malformed (.typeAnnotations name)
    let owner := if package = "" then name.display else package ++ "." ++ name.display
    let members ← each (member owner) (fieldOr fields "members" (.list []))
    return { simpleName := name.display, package, members,
             annotations := appliedAnnotations annotations }
  | _ => malformed (.typeEntry v)

def entries (document : Value) : Except Fault (List Value) :=
  match document with
  | .object fields =>
    match Fields.get? fields "types" with
    | some (.list items) => .ok items
    | some _ => malformed .typesNoList
    | none => .ok [document]
  | .list items => .ok items
  | _ => malformed .document

def elements (document : Value) : Except Fault (List Element) := do
  (← entries document).mapM element

/-- The elements of a document from a known source, which its faults name. -/
def elementsOf (source : String) (document : Value) : Except Fault (List Element) :=
  match elements document with
  | .error (.descriptor f) => malformed (.inSource source f)
  | result => result

end Descriptor
end JavaCompanion
