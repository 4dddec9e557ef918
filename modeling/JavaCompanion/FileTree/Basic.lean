/-
A tree of files.

Every file and directory stands under its path from the directory where the program runs.
Places outside of that directory begin with double dots, or with a slash if they are reached
from the root of the file system.  Operations refuse for the reasons of a real file system,
and which of two reasons is given follows from looking a path up part by part.  What the program
may do with a place is given with the tree, and no operation changes it.
-/
import JavaCompanion.FileTree.Path
import JavaCompanion.FileTree.Refusal

namespace JavaCompanion

namespace FileTree

inductive Entry where
  | file (bytes : ByteArray)
  | directory

/-- What there are rights for. -/
inductive Use where
  /-- To look for something in a directory. -/
  | enter
  | read
  /-- To write to a file, or to make something in a directory. -/
  | write
  deriving DecidableEq, Repr

end FileTree

open FileTree in
structure FileTree where
  entries : List (List String × Entry) := []
  /-- Whether the program has the right to a use of a place. -/
  permits : Use → List String → Bool := fun _ _ => true

namespace FileTree

/-- Whether a place is the root of the file system. -/
def isRoot (place : List String) : Bool := place = ["/"]

/-- Whether a place is where the program runs, or a directory above. -/
def isAbove (place : List String) : Bool := place.all (· = "..")

/-- The entry at a place; the directories from which all paths start are always there. -/
def entryAt? (t : FileTree) (place : List String) : Option Entry :=
  if isRoot place || isAbove place then some .directory
  else (t.entries.find? (·.1 == place)).map (·.2)

/-- The directory that a place is in. -/
def enclosing (place : List String) : List String :=
  if isRoot place then place
  else if isAbove place then place ++ [".."]
  else place.dropLast

def put (t : FileTree) (place : List String) (e : Entry) : FileTree :=
  { t with entries := t.entries.filter (·.1 != place) ++ [(place, e)] }

/-- The most bytes that a name may have. -/
def nameLimit : Nat := 255

/-- Looks up the parts one after another, from a directory on. -/
def walk (t : FileTree) (place : List String) : List String → Except Reason (List String)
  | [] => .ok place
  | part :: rest =>
    match t.entryAt? place with
    | none => .error .noEntry
    | some (.file _) => .error .notDirectory
    | some .directory =>
      if !t.permits .enter place then .error .denied
      else if nameLimit < (byteCount? part.toList).getD 0 then .error .nameTooLong
      else if part = ".." then walk t (enclosing place) rest
      else walk t (place ++ [part]) rest

/-- A path must have fewer bytes than this. -/
def pathLimit : Nat := 4096

/-- Where a path leads, whether or not something is there. -/
def placeOf (t : FileTree) (p : Path) : Except Reason (List String) :=
  match byteCount? p.text.toList with
  | none => .error .surrogate
  | some count =>
    if p.text.toList.contains '\x00' then .error .nullCharacter
    else if pathLimit ≤ count then .error .nameTooLong
    else t.walk (if p.root = "" then [] else ["/"]) p.parts

/-- Where a path leads to something, with what is there. -/
def lookUp (t : FileTree) (p : Path) : Except Reason (List String × Entry) := do
  let place ← t.placeOf p
  match t.entryAt? place with
  | some e => .ok (place, e)
  | none => .error .noEntry

/-- Whether something is there.  Some refusals leave that open. -/
def isThere (t : FileTree) (p : Path) : Except Reason Bool :=
  match t.lookUp p with
  | .ok _ => .ok true
  | .error r => if r.isAbsence then .ok false else .error r

def read (t : FileTree) (p : Path) : Except Reason ByteArray := do
  let (place, e) ← t.lookUp p
  if !t.permits .read place then .error .denied
  else
    match e with
    | .file bytes => .ok bytes
    | .directory => .error .isDirectory

/-- Opens a file for writing: what was in it is gone, or kept if it is to be continued. -/
def openFile (t : FileTree) (p : Path) (keep : Bool) : Except Reason (FileTree × List String) := do
  let place ← t.placeOf p
  match t.entryAt? place with
  | some .directory => .error .isDirectory
  | some (.file bytes) =>
    if t.permits .write place then
      .ok (t.put place (.file (if keep then bytes else .empty)), place)
    else .error .denied
  | none =>
    if t.permits .write (enclosing place) then .ok (t.put place (.file .empty), place)
    else .error .denied

def append (t : FileTree) (place : List String) (bytes : ByteArray) : FileTree :=
  match t.entryAt? place with
  | some (.file old) => t.put place (.file (old ++ bytes))
  | _ => t.put place (.file bytes)

/-! ## Directories -/

/-- Makes the directory at a place unless one is there. -/
def makeAt (t : FileTree) (place : List String) : FileTree × Except Reason (List String) :=
  match t.entryAt? place with
  | none =>
    if t.permits .write (enclosing place) then (t.put place .directory, .ok place)
    else (t, .error .denied)
  | some .directory => (t, .ok place)
  | some (.file _) => (t, .error .alreadyThere)

/-- Makes a directory with all directories above it, where those may be there already, and
gives its place.  The tree is the one left, also after a refusal.  The fuel bounds the number
of directories that are missing. -/
def makeAll : Nat → FileTree → Path → FileTree × Except Reason (List String)
  | fuel, t, p =>
    match t.placeOf p, fuel with
    | .ok place, _ => t.makeAt place
    | .error .noEntry, fuel + 1 =>
      match makeAll fuel t p.parent with
      | (t, .error r) => (t, .error r)
      | (t, .ok place) =>
        match t.walk place [p.name] with
        | .ok place => t.makeAt place
        | .error r => (t, .error r)
    | .error .noEntry, 0 => (t, .error .tooDeep)
    | .error r, _ => (t, .error r)

/-- The most directories that can be made at once. -/
def depthLimit : Nat := 960

def makeDirectories (t : FileTree) (p : Path) : FileTree × Except Reason (List String) :=
  makeAll depthLimit t p

/-! ## Trees from and to lists -/

/-- The tree with an entry, and with the directories above it. -/
def plant (t : FileTree) (name : String) (e : Entry) : FileTree :=
  let p := Path.ofString name
  (t.makeDirectories p.parent).1.put p.parts e

def files (t : FileTree) : List (List String × ByteArray) :=
  t.entries.filterMap fun e =>
    match e.2 with
    | .file bytes => some (e.1, bytes)
    | .directory => none

/-- The files that are new or have changed since an earlier state, each with its place. -/
def changedFiles (before after : FileTree) : List (List String × ByteArray) :=
  after.files.filter fun f =>
    match before.entryAt? f.1 with
    | some (.file bytes) => bytes != f.2
    | _ => true

/-- Whether a place is below the directory where the program runs. -/
def isInside (place : List String) : Bool := place.head?.all fun part => part != "/" && part != ".."

/-- The changed files below the directory where the program runs, in the order of their
paths. -/
def changes (before after : FileTree) : List (String × ByteArray) :=
  let inside := (changedFiles before after).filter fun f => isInside f.1
  (inside.map fun f => (String.intercalate "/" f.1, f.2)).mergeSort fun a b => a.1 ≤ b.1

end FileTree
end JavaCompanion
