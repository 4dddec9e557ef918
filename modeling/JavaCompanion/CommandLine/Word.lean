/-
Words of a command line: which are options, and which are arguments.

An option may be written by any beginning of its long name that no other option shares.  A
value may follow a long name behind an equals sign, and a short name directly.  Behind two
dashes alone every word is an argument.
-/
import JavaCompanion.CommandLine.Grammar
import JavaCompanion.Text.Digit

namespace JavaCompanion
namespace CommandLine

inductive Role (κ : Type) where
  | separator
  | argument
  /-- An option with the name it is meant by, and the text in the same word behind it.  Of
  some the grammar knows nothing. -/
  | option (flag : Option (Flag κ)) (name : String) (attached : Option String)

structure Word (κ : Type) where
  text : String
  role : Role κ

namespace Word

def isOption (w : Word κ) : Bool :=
  match w.role with
  | .option _ _ _ => true
  | _ => false

def isArgument (w : Word κ) : Bool :=
  match w.role with
  | .argument => true
  | _ => false

def isSeparator (w : Word κ) : Bool :=
  match w.role with
  | .separator => true
  | _ => false

end Word

/-- The text before and behind the first equals sign. -/
def splitEquals (s : String) : Option (String × String) :=
  match s.toList.dropWhile (· != '=') with
  | [] => none
  | _ :: value => some (String.ofList (s.toList.takeWhile (· != '=')), String.ofList value)

/-- A negative number; a line feed may end it. -/
def isNegativeNumber (s : String) : Bool :=
  match s.toList with
  | '-' :: cs =>
    let cs := if cs.getLast? = some '\n' then cs.dropLast else cs
    match cs.dropWhile Text.isDecimalDigit with
    | [] => !cs.isEmpty
    | '.' :: places => !places.isEmpty && places.all Text.isDecimalDigit
    | _ => false
  | _ => false

/-- The options that a long word may mean. -/
def longCandidates (g : Grammar κ) (s : String) : List (Flag κ × String × Option String) :=
  let parts := splitEquals s
  let front := (parts.map (·.1)).getD s
  (g.spellings.filter (·.1.startsWith front)).map fun c => (c.2, c.1, parts.map (·.2))

/-- The options that a word with one dash may mean. -/
def shortCandidates (g : Grammar κ) (s : String) : List (Flag κ × String × Option String) :=
  let short := String.ofList (s.toList.take 2)
  g.spellings.filterMap fun c =>
    if c.1 = short then some (c.2, c.1, some (String.ofList (s.toList.drop 2)))
    else if c.1.startsWith s then some (c.2, c.1, none)
    else none

def candidates (g : Grammar κ) (s : String) : List (Flag κ × String × Option String) :=
  if s.startsWith "--" then longCandidates g s else shortCandidates g s

/-- The option that a word with an equals sign names in full. -/
def byEquals? (g : Grammar κ) (s : String) : Option (Role κ) := do
  let (front, value) ← splitEquals s
  let f ← g.flag? front
  return .option f front (some value)

/-- The role of a word in front of the separator. -/
def roleOf (g : Grammar κ) (s : String) : Except Misuse (Role κ) :=
  if !s.startsWith "-" then .ok .argument
  else
    match g.flag? s with
    | some f => .ok (.option f s none)
    | none =>
      if s = "-" then .ok .argument
      else
        match byEquals? g s, candidates g s with
        | some role, _ => .ok role
        | none, [(f, name, attached)] => .ok (.option f name attached)
        | none, [] =>
          if isNegativeNumber s || s.toList.contains ' ' then .ok .argument
          else .ok (.option none s none)
        | none, several => .error (.ambiguous s (several.map (·.2.1)))

/-- The words of a command line.  One that may mean several options is refused, even where
it would never be read. -/
def words (g : Grammar κ) : List String → Except Misuse (List (Word κ))
  | [] => .ok []
  | s :: rest =>
    if s = "--" then .ok (⟨s, .separator⟩ :: rest.map fun t => ⟨t, .argument⟩)
    else do
      let role ← roleOf g s
      return ⟨s, role⟩ :: (← words g rest)

end CommandLine
end JavaCompanion
