/-
The log, written to under the names of levels, and the lines of a log file.
-/
import JavaCompanion.Log.Setup
import JavaCompanion.Text.Lines

namespace JavaCompanion
namespace Log

/-- The level of records under the name of a level. -/
def recordLevel? (name : String) : Option Level :=
  (levelNames.find? (·.1 == Text.upper name)).bind fun l =>
    Level.all.find? (·.number == l.2)

/-- Logs a message.  No record is made for a level at which none are kept. -/
def emit (level : String) (name message : String) : Step Unit :=
  match recordLevel? level with
  | some l => Step.log ⟨l, loggerName name, message⟩
  | none => pure ()

/-- A line of a log file without the stamp before it. -/
def unstamped (stamp line : String) : String :=
  if stamp.toList.isPrefixOf line.toList then
    String.ofList (line.toList.drop stamp.toList.length)
  else line

/-- The lines of a log file, without their stamps. -/
def fileLines (file : String) : Step (List String) := do
  match (← Step.tree).read (settled (.ofString file)) with
  | .error reason => Step.fail (.system ⟨reason, file⟩)
  | .ok bytes =>
    let stamp := (← get).stamp
    return (Text.splitLines (FileTree.shown bytes)).map (unstamped stamp)

theorem recordLevel?_name (l : Level) : recordLevel? l.name = some l := by
  cases l <;> rfl

end Log
end JavaCompanion
