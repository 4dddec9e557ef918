/-
From plans to source files: a header comment, the package, and the planned class, brought
into its final layout.
-/
import JavaCompanion.Generation.Kind
import JavaCompanion.Generation.Layout
import JavaCompanion.Template.Renderer

namespace JavaCompanion
namespace Generation

namespace Generator

def style (g : Generator) : Emitter.Style where
  indentWidth := g.config.indentWidth
  lineEnding := g.config.lineEnding
  generatedMarker := g.config.generatedMarker
  textLimit := g.textLimit

/-- What a header template may refer to. -/
def headerContext (g : Generator) (o : Outline) : Fields :=
  [ ("generator", .text g.kind.provenance), ("source", .text o.source),
    ("class_name", o.className), ("package", .text o.package) ]

/-- The text of the header, as the engine renders it. -/
def header (g : Generator) (r : Template.Renderer) (o : Outline) : Except Fault String := do
  let rendered ← orFault (Template.Unrendered.fault (some "header"))
    (r (Template.headerTemplate g.config.headerTemplate) (g.headerContext o))
  return Text.strip rendered

/-- The header comment, unless comments are off, and the package. -/
def preamble (g : Generator) (r : Template.Renderer) (o : Outline) :
    Except Fault (List Emitter.Operation) := do
  let comment ← if g.config.addComments.truthy then do
      pure [.headerComment (.text (← g.header r o)), .raw g.config.lineEnding]
    else pure []
  return comment ++ [.packageDeclaration o.package]

def plan (g : Generator) (e : Descriptor.Element) : Except Fault Plan := g.kind.plan g.config e

/-- The source of a planned file. -/
def source (g : Generator) (r : Template.Renderer) (p : Plan) : Except Fault String := do
  let opening ← g.preamble r p.outline
  let emitter ← Emitter.emit { style := g.style } opening
  let emitter ← g.kind.write g.config p emitter
  layoutWith g.config.lineEnding (← emitter.result)

end Generator

/-! ## Results -/

structure Metadata where
  generator : String
  source : String
  output : String
  provenance : String
  lineCount : Nat

structure GeneratedFile where
  code : String
  qualifiedName : Value
  warnings : List String
  metadata : Metadata

/-- A generated file, or the fault for which there is none. -/
inductive Result where
  | generated (file : GeneratedFile)
  | failed (f : Fault)

/-- Faults of the type, of its settings or of the header make a failed result; every other
fault stops the run. -/
def isReported : Fault → Bool
  | .extraction _ | .config _ | .template _ | .units _ => true
  | _ => false

def fileOf (g : Generator) (e : Descriptor.Element) (p : Plan) (code : String) :
    Except Fault GeneratedFile := do
  let o := p.outline
  let output ← shaped o.outputPath
  return {
    code, qualifiedName := o.qualifiedName, warnings := o.warnings
    metadata := {
      generator := g.kind.name, source := e.qualifiedName, output
      provenance := o.provenance
      lineCount := countLines g.config.lineEnding.display code } }

end Generation
end JavaCompanion
