/-
The types a descriptor describes.

An element is what generators may know of a type: its members, their parameters, and which
annotations with which values are applied to it.
-/
import JavaCompanion.Descriptor.AnnotationUse
import JavaCompanion.Java.Modifier

namespace JavaCompanion
namespace Descriptor

structure Variable where
  type : String
  name : String
  annotations : List AnnotationUse := []

inductive MemberKind where
  | constructor
  | method
  | field
  deriving DecidableEq, Repr

namespace MemberKind

def all : List MemberKind := [.constructor, .method, .field]

def word : MemberKind → String
  | .constructor => "constructor"
  | .method => "method"
  | .field => "field"

def ofValue? (v : Value) : Option MemberKind := all.find? fun k => v.text? == some k.word

end MemberKind

/-- A constructor, a method or a field.  The name is whatever the descriptor gives. -/
structure Member where
  kind : MemberKind
  name : Value
  returnType : String := "void"
  parameters : List Variable := []
  thrown : List String := []
  modifiers : List Java.Modifier := []

structure Element where
  simpleName : String
  package : String := ""
  members : List Member := []
  annotations : List (String × Fields) := []

namespace Element

def qualifiedName (e : Element) : String :=
  if e.package = "" then e.simpleName else e.package ++ "." ++ e.simpleName

def annotationValues? (e : Element) (key : String) : Option Fields :=
  (e.annotations.find? (·.1 == key)).map (·.2)

def isAnnotated (e : Element) (key : String) : Bool := e.annotations.any (·.1 == key)

def membersOf (e : Element) (kind : MemberKind) : List Member :=
  e.members.filter (·.kind == kind)

theorem mem_membersOf {e : Element} {kind : MemberKind} {m : Member} :
    m ∈ e.membersOf kind ↔ m ∈ e.members ∧ m.kind = kind := by
  simp [membersOf]

theorem annotationValues?_isSome (e : Element) (key : String) :
    (e.annotationValues? key).isSome = e.isAnnotated key := by
  simp only [annotationValues?, isAnnotated, Option.isSome_map]
  induction e.annotations with
  | nil => rfl
  | cons a rest ih =>
    by_cases h : (a.1 == key) = true
    · simp [h]
    · simpa [h] using ih

end Element

end Descriptor
end JavaCompanion
