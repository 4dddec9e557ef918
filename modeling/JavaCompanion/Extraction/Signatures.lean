/-
Signatures of the members of an element.

Annotations of the control namespace steer the generators and are no part of a signature:
they are left out of every parameter.  Names are checked apart, before anything is generated.
-/
import JavaCompanion.Descriptor.Element
import JavaCompanion.Fault
import JavaCompanion.Java.Signature

namespace JavaCompanion
namespace Extraction

open Descriptor Java

/-! ## Parameters -/

/-- The texts of the annotations outside the control namespace. -/
def payload (control : Value) : List AnnotationUse → Except Mismatch (List Value)
  | [] => .ok []
  | a :: rest => do
    let controls ← a.inNamespace control
    let texts ← payload control rest
    return if controls then texts else a.text :: texts

/-- Whether a parameter carries the marker, if there is one. -/
def carries (marker : Option String) (v : Variable) : Bool :=
  match marker with
  | some type => type != "" && v.annotations.any fun a => a.typeName.same (.text type)
  | none => false

def parameter (control : Value) (marker : Option String) (v : Variable) :
    Except Mismatch Parameter := do
  let annotations ← payload control v.annotations
  return { type := v.type, name := v.name, annotations, unbound := carries marker v }

/-! ## Members -/

/-- The constructors in source order, where the marker flags unbound parameters. -/
def constructors (e : Element) (control : Value) (marker : Option String) :
    Except Mismatch (List Constructor) :=
  (e.membersOf .constructor).mapM fun m => do
    let parameters ← m.parameters.mapM (parameter control marker)
    return { parameters, thrown := m.thrown }

def methods (e : Element) (control : Value) : Except Mismatch (List Method) :=
  (e.membersOf .method).mapM fun m => do
    let parameters ← m.parameters.mapM (parameter control none)
    return { name := m.name, returnType := m.returnType, parameters, thrown := m.thrown,
             modifiers := m.modifiers }

/-! ## Names -/

def refuse (f : ExtractionFault) : Except Fault α := .error (.extraction f)

def validateParameters (owner : String) (m : Member) : List Variable → Except Fault Unit
  | [] => .ok ()
  | v :: rest =>
    if isIdentifier v.name then validateParameters owner m rest
    else refuse (.invalidParameter owner m.name v.name)

def validateMember (owner : String) (m : Member) : Except Fault Unit := do
  if m.kind = .method then
    if !(← shaped (isIdentifierValue m.name)) then refuse (.invalidMethod owner m.name)
  validateParameters owner m m.parameters

def validateMembers (owner : String) : List Member → Except Fault Unit
  | [] => .ok ()
  | m :: rest => do
    validateMember owner m
    validateMembers owner rest

/-- Checks that the element can be generated for: every name of it is one in Java. -/
def validate (e : Element) : Except Fault Unit := do
  if !isIdentifier e.simpleName then refuse (.invalidType e.simpleName)
  if e.package != "" && !isQualifiedName e.package then
    refuse (.invalidPackage e.simpleName e.package)
  validateMembers e.qualifiedName e.members

end Extraction
end JavaCompanion
