/-
Generating one file, with its records in the log.
-/
import JavaCompanion.Generation.Source
import JavaCompanion.Session

namespace JavaCompanion
namespace Generation

def failedRecord (g : Generator) (e : Descriptor.Element) (f : Fault) : Log.Record :=
  ⟨.debug, Log.generatorLogger,
    "Generation of " ++ e.qualifiedName ++ " by " ++ g.kind.name ++ " failed: "
      ++ f.message?.getD ""⟩

namespace Generator

/-- Plans a file, and logs about it. -/
def planStep (g : Generator) (e : Descriptor.Element) : Step Plan := do
  let p ← Step.lift (g.plan e)
  Step.logAll p.records
  return p

/-- The source of the file for an element. -/
def generate (g : Generator) (e : Descriptor.Element) : Step String := do
  let r ← Step.renderer
  let p ← g.planStep e
  Step.lift (g.source r p)

/-- The file for an element, where faults that are reported become a failed result. -/
def result (g : Generator) (e : Descriptor.Element) : Step Result := do
  let r ← Step.renderer
  let planned : Step (Plan × String) := do
    let p ← g.planStep e
    return (p, ← Step.lift (g.source r p))
  match ← Step.attempt planned with
  | .ok (p, code) => return .generated (← Step.lift (fileOf g e p code))
  | .error f =>
    if isReported f then
      Step.log (failedRecord g e f)
      return .failed f
    else Step.fail f

end Generator

end Generation
end JavaCompanion
