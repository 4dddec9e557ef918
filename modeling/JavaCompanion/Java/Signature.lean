/-
The callables of a type, as far as their signatures go.

A parameter is what its text says: two parameters are interchangeable exactly when they are
written alike, wherever they were declared and whether or not they are marked unbound.
The annotations of a parameter come from a descriptor and may turn out not to be texts; a
step that needs the text of such a parameter reports it.
-/
import JavaCompanion.Java.Modifier

namespace JavaCompanion
namespace Java

structure Parameter where
  type : String
  name : String
  annotations : List Value := []
  unbound : Bool := false

namespace Parameter

def annotationText (p : Parameter) : String :=
  String.intercalate " " (p.annotations.map Value.display)

def text (p : Parameter) : String :=
  if p.annotationText = "" then p.type ++ " " ++ p.name
  else p.annotationText ++ " " ++ p.type ++ " " ++ p.name

/-- Whether two parameters are written alike. -/
def same (p q : Parameter) : Bool := p.text == q.text

/-- The text of a parameter whose annotations all are texts. -/
def text? (p : Parameter) : Except Mismatch String :=
  if p.annotations.all Value.isText then .ok p.text else .error (.operand (.list p.annotations))

end Parameter

def parameterList (ps : List Parameter) : String :=
  "(" ++ String.intercalate ", " (ps.map Parameter.text) ++ ")"

def throwsClause : List String → String
  | [] => ""
  | thrown => " throws " ++ String.intercalate ", " thrown

structure Constructor where
  parameters : List Parameter := []
  thrown : List String := []

def Constructor.text (c : Constructor) : String :=
  "<init>" ++ parameterList c.parameters ++ throwsClause c.thrown

structure Method where
  name : Value
  returnType : String := "void"
  parameters : List Parameter := []
  thrown : List String := []
  modifiers : List Modifier := []

namespace Method

def isVoid (m : Method) : Bool := m.returnType == "void"

/-- Modifiers that keep a method from being overridden. -/
def closing : List Modifier := [.«private», .static, .final]

def isOverridable (m : Method) : Bool := !m.modifiers.any closing.contains

def isAbstract (m : Method) : Bool := m.modifiers.contains .«abstract»

def text (m : Method) : String :=
  String.join ((Modifier.toSet m.modifiers).map fun k => k.keyword ++ " ")
    ++ m.returnType ++ " " ++ m.name.display ++ parameterList m.parameters
    ++ throwsClause m.thrown

end Method

/-- A method that changes a value, with the verb and the subject of its name, the method that
reads the value back, and the parameter that brings the new one. -/
structure Mutator where
  method : Method
  verb : String
  subject : String
  accessor : Method
  parameter : Parameter

namespace Mutator

def valueType (m : Mutator) : String := m.parameter.type

/-- The type of the value as the accessor gives it. -/
def stateType (m : Mutator) : String := m.accessor.returnType

end Mutator

/-- Whether every parameter of a method is written in texts. -/
def Method.text? (m : Method) : Except Mismatch String := do
  for p in m.parameters do
    discard p.text?
  return m.text

def Constructor.text? (c : Constructor) : Except Mismatch String := do
  for p in c.parameters do
    discard p.text?
  return c.text

end Java
end JavaCompanion
