/-
Settings, plans and generated files as data.
-/
import JavaCompanion.Generation.Source
import JavaCompanion.View.Signature

namespace JavaCompanion

namespace Factory

def Settings.view (s : Settings) : Value :=
  .object
    [ ("inject", .bool s.inject), ("singleton", .bool s.singleton),
      ("providers", .bool s.providers), ("name", s.name.getD .null),
      ("modifiers", Java.keywords (Java.Modifier.toSet s.modifiers)),
      ("method_modifiers", Java.keywords (Java.Modifier.toSet s.methodModifiers)) ]

def Binding.view (b : Binding) : Value :=
  .object
    [ ("parameter", .text b.parameter.text), ("field_name", .text b.fieldName),
      ("field_type", .text b.fieldType), ("dereference", .bool b.dereference),
      ("reference", .text b.reference) ]

def CreationMethod.view (m : CreationMethod) : Value :=
  .object
    [ ("parameters", .texts (m.parameters.map (·.text))), ("arguments", .texts m.arguments),
      ("thrown", .texts m.thrown) ]

/-- What a plan holds beyond its outline. -/
def Plan.details (p : Plan) : Fields :=
  [ ("target", .text p.target), ("method_name", .text p.methodName),
    ("settings", p.settings.view), ("bound", .list (p.bound.map (·.view))),
    ("creation_methods", .list (p.creationMethods.map (·.view))) ]

end Factory

namespace Observable

def Settings.view (s : Settings) : Value :=
  .object
    [ ("name", s.name.getD .null), ("method_prefixes", .texts s.verbs),
      ("old_value", .bool s.oldValue), ("prefix_match", .text s.policy.word) ]

/-- A wrapped method with the subjects that its wrapper reports. -/
def wrappedView (w : Observed × List Observed) : Except Mismatch Value := do
  let m ← w.1.mutator.method.text?
  return .list [.text m, .texts ((w.1 :: w.2).map (·.subject))]

/-- What a plan holds beyond its outline. -/
def Plan.details (p : Plan) : Except Mismatch Fields := do
  let cs ← p.constructors.mapM (·.text?)
  let os ← p.observed.mapM (·.view)
  let ws ← p.wrapped.mapM wrappedView
  return [ ("parent", .text p.parent), ("settings", p.settings.view),
    ("constructors", .texts cs), ("observed", .list os), ("wrapped_methods", .list ws) ]

end Observable

namespace Generation

def Outline.view (o : Outline) : Except Mismatch Fields := do
  let path ← o.outputPath
  return [ ("package", .text o.package), ("class_name", o.className),
    ("source", .text o.source), ("provenance", .text o.provenance),
    ("warnings", .texts o.warnings), ("qualified_name", o.qualifiedName),
    ("output_path", .text path) ]

def Plan.view (p : Plan) : Except Mismatch Value := do
  let outline ← p.outline.view
  match p with
  | .factory p => return .object (outline ++ p.details)
  | .observable p => return .object (outline ++ (← p.details))

def Metadata.view (m : Metadata) : Value :=
  .object
    [ ("generator", .text m.generator), ("source", .text m.source),
      ("output", .text m.output), ("provenance", .text m.provenance),
      ("line_count", .int m.lineCount) ]

def GeneratedFile.view (f : GeneratedFile) : Fields :=
  [ ("code", .text f.code), ("qualified_name", f.qualifiedName),
    ("warnings", .texts f.warnings), ("metadata", f.metadata.view) ]

end Generation
end JavaCompanion
