/-
Where generated sources go.

Each qualified name can be claimed once in a run.  A claimed name becomes a file below the
output directory, or a text in memory.  The claim is made first, so it stands also when the
file cannot be created.
-/
import JavaCompanion.Fault
import JavaCompanion.FileTree.Basic
import JavaCompanion.FileTree.Encoding
import JavaCompanion.Java.Identifier

namespace JavaCompanion
namespace Output

inductive Medium where
  | memory
  | disk
  deriving DecidableEq, Repr

structure Filer where
  medium : Medium := .memory
  directory : FileTree.Path := {}
  extension : String := ".java"
  /-- The encoding of files, if the name given is that of one. -/
  encoding : Option FileTree.Encoding := some .utf8
  /-- The claimed names, each with the types it was generated from. -/
  created : List (String × List String) := []
  /-- The texts in memory, in the order in which they were finished. -/
  sources : List (String × String) := []

namespace Filer

/-- The path for a qualified name, unless no name or no suffix can be made of it. -/
def pathFor? (f : Filer) (name : String) : Option FileTree.Path :=
  let parts := (Text.splitAt '.' name).map FileTree.Path.ofString
  (parts.foldl FileTree.Path.join f.directory).withSuffix? f.extension

def isClaimed (f : Filer) (name : String) : Bool := f.created.any (·.1 == name)

def claim (f : Filer) (name : String) (origins : List String) : Except OutputFault Filer :=
  if !Java.isQualifiedName name then .error (.invalidName name)
  else if f.isClaimed name then .error (.claimed name)
  else .ok { f with created := f.created ++ [(name, origins)] }

end Filer

/-! ## Writing one source -/

/-- What is left of an attempt to write a source. -/
structure Attempt where
  filer : Filer
  tree : FileTree
  /-- Whether there was a stream to write to. -/
  opened : Bool
  /-- Where the source went, if that was the disk. -/
  path : Option FileTree.Path := none
  fault : Option Fault := none

/-- Makes the directories of a path and opens it for writing. -/
def openAt (t : FileTree) (p : FileTree.Path) :
    FileTree × Except FileTree.Reason (List String) :=
  match t.makeDirectories p.parent with
  | (t, .error reason) => (t, .error reason)
  | (t, .ok _) =>
    match t.openFile p false with
    | .ok (t, place) => (t, .ok place)
    | .error reason => (t, .error reason)

/-- Writes texts one after another, up to the first that the encoding cannot express.  The
mark of the encoding comes with the first. -/
def writeTexts (encoding : FileTree.Encoding) (t : FileTree) (place : List String) :
    List String → FileTree × Option Fault
  | [] => (t, none)
  | s :: rest =>
    match encoding.encode s with
    | some bytes =>
      writeTexts encoding.unmarked (t.append place (encoding.mark ++ bytes)) place rest
    | none => (t, some .unencodable)

def interruption (interrupted : Bool) : Option Fault :=
  if interrupted then some .interrupted else none

def writeToDisk (f : Filer) (t : FileTree) (p : FileTree.Path) (texts : List String)
    (interrupted : Bool) : Attempt :=
  match openAt t p with
  | (t, .error reason) =>
    { filer := f, tree := t, opened := false
      fault := some (.ofReason (.output (.refused p.text reason)) reason p.text) }
  | (t, .ok place) =>
    match f.encoding with
    | none => { filer := f, tree := t, opened := false, fault := some .unknownEncoding }
    | some encoding =>
      let (t, stop) := writeTexts encoding t place texts
      { filer := f, tree := t, opened := true, path := some p
        fault := stop <|> interruption interrupted }

def writeToMemory (f : Filer) (t : FileTree) (name : String) (texts : List String)
    (interrupted : Bool) : Attempt :=
  if interrupted then { filer := f, tree := t, opened := true, fault := some .interrupted }
  else
    { filer := { f with sources := f.sources ++ [(name, String.join texts)] }
      tree := t, opened := true }

/-- Creates the source of a qualified name from texts, unless the writing is interrupted. -/
def create (f : Filer) (t : FileTree) (name : String) (origins texts : List String)
    (interrupted : Bool) : Attempt :=
  match f.claim name origins with
  | .error fault => { filer := f, tree := t, opened := false, fault := some (.output fault) }
  | .ok f =>
    match f.medium with
    | .memory => writeToMemory f t name texts interrupted
    | .disk =>
      match f.pathFor? name with
      | none => { filer := f, tree := t, opened := false, fault := some (.unusablePath name) }
      | some p => writeToDisk f t p texts interrupted

theorem Filer.isClaimed_claim {f g : Filer} {name : String} {origins : List String}
    (h : f.claim name origins = .ok g) : g.isClaimed name = true := by
  unfold Filer.claim at h
  split at h
  · cases h
  · split at h
    · cases h
    · cases h
      simp [Filer.isClaimed]

end Output
end JavaCompanion
