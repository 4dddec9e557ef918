/-
Why a file system refuses an operation.
-/
import JavaCompanion.Text.Quoted

namespace JavaCompanion
namespace FileTree

inductive Reason where
  | noEntry
  | denied
  | alreadyThere
  | notDirectory
  | isDirectory
  | nameTooLong
  /-- A path with a null character in it, which never reaches the file system. -/
  | nullCharacter
  /-- A path with a surrogate in it that no byte stands for; it does not get there either. -/
  | surrogate
  /-- More directories inside each other than can be made at once. -/
  | tooDeep
  deriving DecidableEq, Repr

def Reason.number : Reason → Nat
  | .noEntry => 2
  | .denied => 13
  | .alreadyThere => 17
  | .notDirectory => 20
  | .isDirectory => 21
  | .nameTooLong => 36
  | .nullCharacter | .surrogate => 22
  | .tooDeep => 40

def Reason.text : Reason → String
  | .noEntry => "No such file or directory"
  | .denied => "Permission denied"
  | .alreadyThere => "File exists"
  | .notDirectory => "Not a directory"
  | .isDirectory => "Is a directory"
  | .nameTooLong => "File name too long"
  | .nullCharacter => "embedded null byte"
  | .surrogate => "surrogates not allowed"
  | .tooDeep => "Too many levels"

/-- Whether it is the file system that refuses. -/
def Reason.isOfSystem : Reason → Bool
  | .nullCharacter | .surrogate | .tooDeep => false
  | _ => true

/-- Whether nothing counts as being at a path that is refused for the reason. -/
def Reason.isAbsence : Reason → Bool
  | .noEntry | .notDirectory | .nullCharacter | .surrogate => true
  | _ => false

/-- A reason with the path that was asked for. -/
structure Refusal where
  reason : Reason
  path : String

def Refusal.message (r : Refusal) : String :=
  "[Errno " ++ toString r.reason.number ++ "] " ++ r.reason.text ++ ": " ++ Text.quoted r.path

end FileTree
end JavaCompanion
