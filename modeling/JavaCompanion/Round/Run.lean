/-
Running a round: every generator over the types that carry its annotation.

A type that fails is reported and does not stop the others.  What no type is to blame for,
such as an emitter that is used in a wrong way, stops the round; sources written and
diagnostics reported until then stay.
-/
import JavaCompanion.Catalogue.Create
import JavaCompanion.Descriptor.Document
import JavaCompanion.Generation.Run
import JavaCompanion.Round.Report

namespace JavaCompanion
namespace Round

open Generation

def report (d : Diagnostic) : Step Unit :=
  modify fun s => { s with diagnostics := s.diagnostics ++ [d] }.log d.record

def about (e : Descriptor.Element) (severity : Severity) (message : String) : Diagnostic :=
  { severity, message, element := some e.qualifiedName }

/-- The outcome for a type that failed, which is reported. -/
def failure (g : Generator) (e : Descriptor.Element) (qualifiedName message : String) :
    Step Outcome := do
  report (about e .error message)
  return {
    generator := g.kind.name, source := e.qualifiedName, qualifiedName
    failure := some message }

def failedText (verb : String) (g : Generator) (f : Fault) : String :=
  "Unable to " ++ verb ++ " " ++ g.kind.name ++ " file: " ++ f.message?.getD ""

def wroteRecord (p : FileTree.Path) : Log.Record :=
  ⟨.debug, Log.roundLogger, "Wrote " ++ p.text⟩

/-- Makes an attempt to write a source what the session holds from now on. -/
def keep (a : Output.Attempt) : Step Unit :=
  modify fun s => { s with filer := a.filer, tree := a.tree }

def write (g : Generator) (e : Descriptor.Element) (name code : String) : Step Outcome := do
  let s ← get
  let a := Output.create s.filer s.tree name [e.qualifiedName] [code] false
  keep a
  match a.fault with
  | some (.output f) => failure g e name (failedText "write" g (.output f))
  | some f => Step.fail f
  | none =>
    if let some p := a.path then Step.log (wroteRecord p)
    return { generator := g.kind.name, source := e.qualifiedName, qualifiedName := name }

def outcome (g : Generator) (e : Descriptor.Element) : Step Outcome := do
  match ← g.result e with
  | .failed f => failure g e "" (failedText "generate" g f)
  | .generated file =>
    file.warnings.forM fun w => report (about e .warning w)
    write g e file.qualifiedName.display file.code

/-- The generators with the types they handle, generator by generator. -/
def assignments (gs : List Generator) (es : List Descriptor.Element) :
    List (Generator × Descriptor.Element) :=
  gs.flatMap fun g => (es.filter (·.isAnnotated g.kind.annotationKey)).map fun e => (g, e)

def completeRecord (r : Report) : Log.Record :=
  ⟨.info, Log.roundLogger,
    "Round complete: " ++ toString r.generated.length ++ " generated, "
      ++ toString r.failed.length ++ " failed"⟩

/-- Runs a round.  When processing is over there is nothing left to do. -/
def process (gs : List Generator) (es : List Descriptor.Element) (isOver : Bool) :
    Step Report := do
  if isOver then return {}
  let r : Report := ⟨← (assignments gs es).mapM fun a => outcome a.1 a.2⟩
  Step.log (completeRecord r)
  return r

/-- The sources for a document, kept in memory, each with the name of its type.  All
generators run unless some are named. -/
def sources (document : Value) (names : List String) (given : Catalogue.Given) :
    Step (List (String × String)) := do
  let all := (← Catalogue.current).names
  let gs ← (if names.isEmpty then all else names).mapM fun name => Catalogue.create name given
  modify fun s => { s with filer := {}, diagnostics := [] }
  let r ← process gs (← Step.lift (Descriptor.elements document)) false
  if !r.succeeded then Step.fail (.units r.failures)
  return (← get).filer.sources

end Round
end JavaCompanion
