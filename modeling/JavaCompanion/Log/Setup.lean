/-
Setting up the log: from which level on records are kept, and in which file.
-/
import JavaCompanion.Session
import JavaCompanion.Text.Case

namespace JavaCompanion
namespace Log

/-- The names of levels, some with more than one. -/
def levelNames : List (String × Nat) :=
  [ ("NOTSET", 0), ("DEBUG", 10), ("INFO", 20), ("WARN", 30), ("WARNING", 30), ("ERROR", 40),
    ("FATAL", 50), ("CRITICAL", 50) ]

def defaultLevel : Nat := Level.number .warning

def levelVariable : String := "COMPANION_GEN_LOG_LEVEL"

/-- The number of a level, whatever the case of its name; unknown names mean the default.
Two names mean something that is no number. -/
def levelNumber (name : String) : Except Fault Nat :=
  let key := Text.upper name
  if key = "BASIC_FORMAT" then .error (.level name)
  else if key = "_STYLES" then .error (.mismatch (.operand (.text name)))
  else .ok (((levelNames.find? (·.1 == key)).map (·.2)).getD defaultLevel)

/-- The least level that is kept under a level; level zero leaves the choice to the default. -/
def threshold (level : Nat) : Nat := if level = 0 then defaultLevel else level

/-- A path without double dots, as far as there are parts for them to take back. -/
def settled (p : FileTree.Path) : FileTree.Path :=
  { p with parts := p.parts.foldl (fun acc part =>
      if part = ".." && acc.getLast?.any (· != "..") then acc.dropLast else acc ++ [part]) [] }

/-- Opens a log file, which is continued if it is there. -/
def openLog (name : String) (level : Nat) : Step Unit := do
  let p := settled (.ofString name)
  match (← Step.tree).openFile p true with
  | .error reason => Step.fail (.system ⟨reason, p.text⟩)
  | .ok (t, place) =>
    modify fun s => { s with tree := t, logFile := some { level := threshold level, place } }

/-- The file that a raw value names; what counts as absent names none. -/
def fileOf (v : Value) : Except Mismatch (Option String) :=
  if v.truthy then do return some (← v.asOperand) else .ok none

/-- Sets up the log and gives the number of its level.  A level that is not given is taken
from the environment.  An earlier log file is closed before a new one is opened. -/
def setup (level : Value) (environment : Option String) (file : Value) : Step Nat := do
  let level ← if level.isNull then pure (environment.getD (Level.name .warning))
    else Step.lift (shaped level.asMember)
  let number ← Step.lift (levelNumber level)
  modify fun s => { s with logFile := none }
  if let some name := ← Step.lift (shaped (fileOf file)) then openLog name number
  return number

theorem levelNumber_name (l : Level) : levelNumber l.name = .ok l.number := by
  cases l <;> rfl

end Log
end JavaCompanion
