/-
The program: it runs on the files that its arguments name.

Those files are read first, the run itself works on a tree of files, and what it has changed
in the tree is written at the end.  There is no access to the network.
-/
import JavaCompanion.CommandLine.Run

namespace JavaCompanion
namespace Program

open FileTree

/-- The paths that arguments may name: whole words, and values behind equals signs. -/
def namedPaths (args : List String) : List String :=
  args.flatMap fun s =>
    match CommandLine.splitEquals s with
    | some (_, value) => [s, value]
    | none => [s]

/-- The beginnings of a path, the shortest first, and the path itself. -/
def beginnings (p : Path) : List Path :=
  (List.range (p.parts.length + 1)).map fun n => { p with parts := p.parts.take n }

/-- Adds an entry where a path leads. -/
def plantAt (t : FileTree) (p : Path) (e : Entry) : FileTree :=
  match t.placeOf p with
  | .ok place => if (t.entryAt? place).isSome then t else t.put place e
  | .error _ => t

def isPresent (p : Path) : IO Bool := do
  try
    discard (IO.FS.realPath p.text)
    return true
  catch _ => return false

def isDirectory (p : Path) : IO Bool := do
  if ← isPresent p then (← IO.FS.realPath p.text).isDir else return false

/-- Adds what stands at a path, and all files below it.  The fuel bounds the depth. -/
def snapshot : Nat → FileTree → Path → IO FileTree
  | 0, t, _ => return t
  | fuel + 1, t, p => do
    if ← isDirectory p then
      (← (← IO.FS.realPath p.text).readDir).foldlM (fun t entry =>
          snapshot fuel t { p with parts := p.parts ++ [entry.fileName] })
        (plantAt t p .directory)
    else if ← isPresent p then return plantAt t p (.file (← IO.FS.readBinFile p.text))
    else return t

/-- Adds what stands at a path, with the directories that lead to it. -/
def snapshotPath (t : FileTree) (name : String) : IO FileTree := do
  let p := Path.ofString name
  if p.parts.isEmpty then return t
  let t ← (beginnings p).dropLast.foldlM (fun t q => do
    return if ← isDirectory q then plantAt t q .directory else t) t
  snapshot 64 t p

def pathOf (place : List String) : Path :=
  match place with
  | "/" :: parts => { root := "/", parts }
  | parts => { parts }

def writeFile (f : List String × ByteArray) : IO Unit := do
  let p := pathOf f.1
  IO.FS.createDirAll p.parent.text
  IO.FS.writeBinFile p.text f.2

/-- The rest of a stream. -/
partial def readAll (s : IO.FS.Stream) (acc : String) : IO String := do
  let line ← s.getLine
  if line.isEmpty then return acc else readAll s (acc ++ line)

def standardInput (args : List String) : IO String := do
  if args.any (·.startsWith "--s") then readAll (← IO.getStdin) "" else return ""

def run (args : List String) : IO UInt32 := do
  let tree ← (namedPaths args).foldlM snapshotPath {}
  let invocation : CommandLine.Invocation :=
    { arguments := args.map Text.spelled
      environmentLevel := (← IO.getEnv Log.levelVariable).map Text.spelled
      input := Text.spelled (← standardInput args) }
  let (result, session) := (CommandLine.run invocation).run { tree }
  (changedFiles tree session.tree).forM writeFile
  session.console.forM fun line => IO.println line
  match result with
  | .error f =>
    IO.eprintln (f.message?.getD "The run was ended by a value that cannot be used.")
    return 1
  | .ok e =>
    e.shown.toList.forM fun line => IO.println line
    e.misuse.toList.forM fun line => IO.eprintln line
    return UInt32.ofNat e.code

end Program
end JavaCompanion

def main (args : List String) : IO UInt32 := JavaCompanion.Program.run args
