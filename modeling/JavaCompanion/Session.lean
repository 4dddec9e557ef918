/-
What a run works on besides its input: the files, the catalogue of generators, where sources
go, the diagnostics, the engines for templates, the network, the log and the console.

A step may change the session and may fail; what it has changed before it fails stays.
-/
import JavaCompanion.Catalogue.Basic
import JavaCompanion.Console.Screen
import JavaCompanion.Loading.Reply
import JavaCompanion.Output.Filer
import JavaCompanion.Round.Diagnostic
import JavaCompanion.Template.Render

namespace JavaCompanion

/-- Which records are written to a log file, and to which. -/
structure LogFile where
  /-- The least level that is written. -/
  level : Nat
  place : List String

structure Session where
  tree : FileTree := {}
  catalogue : Catalogue := .builtIn
  filer : Output.Filer := {}
  /-- The diagnostics so far, in the order of their reporting. -/
  diagnostics : List Round.Diagnostic := []
  /-- The engine at each of the headers to come. -/
  renderers : Template.Renderers := fun _ => Template.basic
  /-- How texts get on the console. -/
  screen : Console.Screen := Console.basic
  /-- How many calls inside each other are left for copying a configuration. -/
  callsLeft : Nat := 994
  /-- What any request is answered with. -/
  reply : Loading.Reply := .failed .connection ""
  /-- The requests so far, each with the seconds it may take. -/
  requests : List (String × Value) := []
  logFile : Option LogFile := none
  /-- What stands before each record in a log file. -/
  stamp : String := ""
  /-- Every record so far, the latest first. -/
  records : List Log.Record := []
  /-- The lines on the console, in their order. -/
  console : List String := []

abbrev Step (α : Type) := ExceptT Fault (StateM Session) α

namespace Log.Record

/-- The line of a record in a log file, after the stamp. -/
def line (r : Record) : String :=
  r.logger ++ " - " ++ r.level.name ++ " - " ++ r.message ++ "\n"

end Log.Record

namespace Session

/-- Takes a record to the log.  A line with a surrogate in it does not get into a log file. -/
def log (s : Session) (r : Log.Record) : Session :=
  let s := { s with records := r :: s.records }
  match s.logFile with
  | some f =>
    match (Text.bytes? (s.stamp ++ r.line)).filter fun _ => f.level ≤ r.level.number with
    | some bytes => { s with tree := s.tree.append f.place bytes }
    | none => s
  | none => s

def logAll (s : Session) (rs : List Log.Record) : Session := rs.foldl log s

/-- The session with one header less to come. -/
def headed (s : Session) : Session := { s with renderers := s.renderers.after 1 }

end Session

namespace Step

def fail (f : Fault) : Step α := throw f

def lift (x : Except Fault α) : Step α :=
  match x with
  | .ok a => pure a
  | .error f => throw f

def log (r : Log.Record) : Step Unit := modify (·.log r)

def logAll (rs : List Log.Record) : Step Unit := modify (·.logAll rs)

/-- A step with its outcome as a value, so that what follows goes on. -/
def attempt (x : Step α) : Step (Except Fault α) :=
  ExceptT.mk (x.run >>= fun r => pure (.ok r))

/-- The engine for the next header. -/
def renderer : Step Template.Renderer := do
  let s ← get
  set s.headed
  return s.renderers 0

def print (line : String) : Step Unit :=
  modify fun s => { s with console := s.console ++ [line] }

def tree : Step FileTree := do return (← get).tree

def setTree (t : FileTree) : Step Unit := modify fun s => { s with tree := t }

end Step

end JavaCompanion
