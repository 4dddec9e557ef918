/-
Paths of files.

A path is a list of parts between slashes, from the root of the file system or from where the
program runs.  Empty parts and single dots say nothing and are left out; double dots stay,
as what they mean depends on the files.
-/
import JavaCompanion.Text.Split
import JavaCompanion.Text.Surrogate

namespace JavaCompanion
namespace FileTree

/-- Whether a surrogate stands for a byte that is no UTF-8. -/
def isByte (code : Nat) : Bool := 0xdc80 ≤ code && code ≤ 0xdcff

/-- How many bytes a text is to a file system, if all of it can be bytes. -/
def byteCount? : List Char → Option Nat
  | [] => some 0
  | c :: rest =>
    if c = Text.surrogateMark then
      match rest with
      | d :: rest =>
        if d = Text.surrogateMark then (byteCount? rest).map (· + d.utf8Size)
        else if isByte (Text.codeOf [c, d]) then (byteCount? rest).map (· + 1)
        else none
      | [] => none
    else (byteCount? rest).map (· + c.utf8Size)

structure Path where
  /-- What an absolute path begins with. -/
  root : String := ""
  parts : List String := []
  deriving DecidableEq, Repr

namespace Path

/-- The root that a text names: two slashes are a root of their own, any other number of
slashes is the common one. -/
def rootOf (cs : List Char) : String :=
  match (cs.takeWhile (· = '/')).length with
  | 0 => ""
  | 2 => "//"
  | _ => "/"

def isStep (part : String) : Bool := part != "" && part != "."

def ofString (s : String) : Path where
  root := rootOf s.toList
  parts := (Text.splitAt '/' s).filter isStep

/-- The path of `q` as seen from `p`. -/
def join (p q : Path) : Path := if q.root = "" then { p with parts := p.parts ++ q.parts } else q

def text (p : Path) : String :=
  let body := String.intercalate "/" p.parts
  if p.root = "" && p.parts.isEmpty then "." else p.root ++ body

/-- The last part, empty if there is none. -/
def name (p : Path) : String := p.parts.getLast?.getD ""

def parent (p : Path) : Path := { p with parts := p.parts.dropLast }

/-! ## Suffixes -/

/-- Splits a name before its last dot, unless that is its first or last character. -/
def splitSuffix (name : String) : String × String :=
  let back := name.toList.reverse
  let ending := back.takeWhile (· != '.')
  let front := back.dropWhile (· != '.')
  match front with
  | '.' :: stem =>
    if ending.isEmpty || stem.isEmpty then (name, "")
    else (String.ofList stem.reverse, String.ofList ('.' :: ending.reverse))
  | _ => (name, "")

def suffix (p : Path) : String := (splitSuffix p.name).2

/-- Whether a text can end a name: empty, or a dot with something after it and no slash. -/
def isSuffix (s : String) : Bool :=
  s = "" || (s.startsWith "." && s != "." && !s.toList.contains '/')

/-- The path with another suffix of its last part, if there is a last part and the suffix can
be one. -/
def withSuffix? (p : Path) (suffix : String) : Option Path :=
  if isSuffix suffix && p.name != "" then
    some { p with parts := p.parts.dropLast ++ [(splitSuffix p.name).1 ++ suffix] }
  else none

theorem join_of_relative {p q : Path} (h : q.root = "") :
    p.join q = { p with parts := p.parts ++ q.parts } := by
  simp [join, h]

end Path

end FileTree
end JavaCompanion
