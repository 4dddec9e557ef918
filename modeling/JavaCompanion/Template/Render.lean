/-
A basic engine for templates.

It knows printed expressions and branches, and a few filters and tests.  Variables must be
defined where they are used.  A filter or a test outside of any branch must be known before
anything is rendered; inside a branch it is looked up when it is reached.
-/
import JavaCompanion.Template.Evaluation
import JavaCompanion.Template.Renderer
import JavaCompanion.Template.Syntax

namespace JavaCompanion
namespace Template

/-- The cause that is found before anything is rendered. -/
def check : List Node → Except Cause Unit
  | [] => .ok ()
  | .print e :: rest =>
    match unknownName? e with
    | some cause => .error cause
    | none => check rest
  | _ :: rest => check rest

/-! ## Nodes -/

mutual
def renderNode (c : Context) : Node → Except Failure String
  | .literal cs => .ok (String.ofList cs)
  | .print e => do (← evaluate c e).display
  | .branch condition yes no => do
    if ← (← evaluate c condition).truthy then renderNodes c yes else renderNodes c no

def renderNodes (c : Context) : List Node → Except Failure String
  | [] => .ok ""
  | n :: rest => do
    let first ← renderNode c n
    return first ++ (← renderNodes c rest)
end

/-! ## Templates -/

/-- A rendering, with the words for what the template is refused for.  A number that is too long
to be read is a value of the wrong content. -/
def orUnrendered : Except Failure α → Except Unrendered α
  | .ok a => .ok a
  | .error (.cause .tooManyDigits) => .error (.stopped .tooManyDigits)
  | .error (.cause c) => .error (.refused c.message)
  | .error (.mismatch m) => .error (.stopped (.mismatch m))

def orCause : Except Cause α → Except Failure α
  | .ok a => .ok a
  | .error c => .error (.cause c)

/-- What a source comes to that stands for the template of that name, or for none.  The name by
which a template calls itself cannot be given as a variable. -/
def rendered (template : Option String) (source : String) (bindings : Fields) :
    Except Unrendered String :=
  orUnrendered do
    let found ← orCause (read source)
    orCause (check found)
    match Fields.get? bindings "self" with
    | some v => .error (.mismatch (.operand v))
    | none => renderNodes { template, bindings } found

def render (template : Option String) (source : String) (bindings : Fields) :
    Except Fault String :=
  orFault (Unrendered.fault template) (rendered template source bindings)

/-- The basic engine, for the template of a header. -/
def basic : Renderer := fun source bindings =>
  match source.asOperand with
  | .ok s => rendered (some "header") s bindings
  | .error m => .error (.stopped (.mismatch m))

/-! ## Templates by name -/

/-- The templates of an engine, each under its name. -/
structure Engine where
  templates : Fields := []

namespace Engine

def add (e : Engine) (name : String) (source : Value) : Engine :=
  { e with templates := Fields.put name source e.templates }

def has (e : Engine) (name : String) : Bool := Fields.has e.templates name

def render (e : Engine) (name : String) (bindings : Fields) : Except Fault String :=
  match Fields.get? e.templates name with
  | none => .error (.template ⟨some name, name⟩)
  | some source => do Template.render (some name) (← shaped source.asOperand) bindings

end Engine

/-- The engine with the configured header, or the default one if none is. -/
def headerEngine (header : Value) : Engine := Engine.add {} "header" (headerTemplate header)

end Template
end JavaCompanion
