/-
What a command line may hold: options with or without values, and arguments besides.
-/
import JavaCompanion.Text.Quoted

namespace JavaCompanion
namespace CommandLine

/-- An option.  The key tells a program which of its options it is. -/
structure Flag (κ : Type) where
  key : κ
  names : List String
  /-- What stands for the value in the usage.  An option without it takes no value. -/
  placeholder : Option String := none

namespace Flag

def takesValue (f : Flag κ) : Bool := f.placeholder.isSome

/-- How an option is called in messages. -/
def title (f : Flag κ) : String := String.intercalate "/" f.names

def usage (f : Flag κ) : String :=
  let value := match f.placeholder with
    | some p => " " ++ p
    | none => ""
  "[" ++ f.names.head?.getD "" ++ value ++ "]"

end Flag

/-- The arguments besides the options. -/
inductive Positional where
  | nothing
  | atMostOne (name : String)
  | one (name : String)
  /-- One of several words, together with everything behind it. -/
  | command (name : String) (choices : List String)
  deriving Repr

def alternatives (words : List String) : String :=
  "\x7b" ++ String.intercalate "," words ++ "\x7d"

def Positional.usage : Positional → List String
  | .nothing => []
  | .atMostOne name => ["[" ++ name ++ "]"]
  | .one name => [name]
  | .command _ choices => [alternatives choices, "..."]

structure Grammar (κ : Type) where
  program : String
  flags : List (Flag κ)
  positional : Positional := .nothing

namespace Grammar

def spellings (g : Grammar κ) : List (String × Flag κ) :=
  g.flags.flatMap fun f => f.names.map fun name => (name, f)

/-- The option of exactly that name. -/
def flag? (g : Grammar κ) (name : String) : Option (Flag κ) :=
  (g.spellings.find? (·.1 == name)).map (·.2)

def usage (g : Grammar κ) : String :=
  String.intercalate " " (["usage:", g.program] ++ g.flags.map (·.usage) ++ g.positional.usage)

end Grammar

/-! ## Misuse -/

/-- Why a command line cannot be understood. -/
inductive Misuse where
  | ambiguous (spelled : String) (candidates : List String)
  | valueExpected (option : String)
  | valueIgnored (option text : String)
  | noNumber (option text : String)
  | noChoice (argument text : String) (choices : List String)
  | excluded (argument other : String)
  | missing (arguments : List String)
  | noneOf (arguments : List String)
  | unrecognized (arguments : List String)
  deriving Repr

def Misuse.message : Misuse → String
  | .ambiguous spelled candidates =>
    "ambiguous option: " ++ spelled ++ " could match " ++ String.intercalate ", " candidates
  | .valueExpected option => "argument " ++ option ++ ": expected one argument"
  | .valueIgnored option text =>
    "argument " ++ option ++ ": ignored explicit argument " ++ Text.quoted text
  | .noNumber option text =>
    "argument " ++ option ++ ": invalid int value: " ++ Text.quoted text
  | .noChoice argument text choices =>
    "argument " ++ argument ++ ": invalid choice: " ++ Text.quoted text ++ " (choose from "
      ++ String.intercalate ", " (choices.map Text.quoted) ++ ")"
  | .excluded argument other =>
    "argument " ++ argument ++ ": not allowed with argument " ++ other
  | .missing arguments =>
    "the following arguments are required: " ++ String.intercalate ", " arguments
  | .noneOf arguments =>
    "one of the arguments " ++ String.intercalate " " arguments ++ " is required"
  | .unrecognized arguments => "unrecognized arguments: " ++ String.intercalate " " arguments

end CommandLine
end JavaCompanion
