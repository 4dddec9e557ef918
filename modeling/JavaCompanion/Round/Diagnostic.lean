/-
Diagnostics: what is reported about the types of a run, and how gravely.
-/
import JavaCompanion.Log.Record

namespace JavaCompanion
namespace Round

inductive Severity where
  | error
  | warning
  | note
  deriving DecidableEq, Repr

namespace Severity

def all : List Severity := [.error, .warning, .note]

def word : Severity → String
  | .error => "error"
  | .warning => "warning"
  | .note => "note"

def level : Severity → Log.Level
  | .error => .error
  | .warning => .warning
  | .note => .info

end Severity

structure Diagnostic where
  severity : Severity
  message : String
  /-- The type that is the cause, if one is. -/
  element : Option String := none
  deriving DecidableEq, Repr

namespace Diagnostic

def place : Option String → String
  | some element => if element = "" then "" else element ++ ": "
  | none => ""

def text (d : Diagnostic) : String := d.severity.word ++ ": " ++ place d.element ++ d.message

def record (d : Diagnostic) : Log.Record := ⟨d.severity.level, Log.roundLogger, d.text⟩

end Diagnostic

def ofSeverity (s : Severity) (ds : List Diagnostic) : List Diagnostic :=
  ds.filter (·.severity == s)

def hasErrors (ds : List Diagnostic) : Bool := !(ofSeverity .error ds).isEmpty

end Round
end JavaCompanion
