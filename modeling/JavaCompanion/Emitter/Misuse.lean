/-
Operations of an emitter that come at the wrong place.

An open construct is known by its context; the top level of a file has none.
-/
import JavaCompanion.Text.Blank

namespace JavaCompanion
namespace Emitter

/-- What an emitter can be inside of. -/
inductive Context where
  | classHeader
  | classBody
  | interfaceBody
  | parameters
  | arguments
  | methodBody
  | loopBody
  | statement
  deriving DecidableEq, Repr

def Context.name : Context → String
  | .classHeader => "class header"
  | .classBody => "class body"
  | .interfaceBody => "interface body"
  | .parameters => "parameter list"
  | .arguments => "argument list"
  | .methodBody => "method body"
  | .loopBody => "loop body"
  | .statement => "statement"

/-- A context, or the top level of the file. -/
abbrev Place := Option Context

def placeName : Place → String
  | some c => c.name
  | none => "top level"

inductive Misuse where
  | misplaced (operation : String) (expected : List Place) (found : Place)
  | alreadyExtends (label : String)
  | implementsFirst
  | alreadyImplements (label : String)
  /-- A body for a method of an interface. -/
  | bodyInInterface (label : String)
  | secondExpression (label : String)
  /-- The constructs still open, outermost first, each with its label. -/
  | unclosed (open_ : List (Context × String))
  /-- The text belongs to someone else. -/
  | foreignText
  deriving DecidableEq, Repr

def Misuse.message : Misuse → String
  | .misplaced operation expected found =>
    operation ++ ": expected " ++ String.intercalate " or " (expected.map placeName)
      ++ ", but the writer is at " ++ placeName found
  | .alreadyExtends label => "Class " ++ label ++ " already extends a type"
  | .implementsFirst => "extends must be written before implements"
  | .alreadyImplements label => "Class " ++ label ++ " already has an implements clause"
  | .bodyInInterface label =>
    label ++ " is declared in an interface; use write_interface_method_declaration_end"
  | .secondExpression label => "Statement " ++ label ++ " already has an expression"
  | .unclosed open_ =>
    "Unclosed constructs: "
      ++ String.intercalate ", " (open_.map fun o => Text.strip (o.1.name ++ " " ++ o.2))
  | .foreignText => "getvalue() needs a writer that owns its buffer"

end Emitter
end JavaCompanion
