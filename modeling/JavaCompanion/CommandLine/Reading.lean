/-
Reading a command line: which options it gives, with which values, and which arguments.

The words are read from the left, and every find is acted on at once: an option that ends
the program does so before anything behind it can be found wrong.
-/
import JavaCompanion.CommandLine.Word
import JavaCompanion.Value.Basic

namespace JavaCompanion
namespace CommandLine

inductive Found (κ : Type) where
  | option (f : Flag κ) (value : Value)
  | arguments (texts : List String)

/-- Why reading ends before its end. -/
inductive Stop where
  /-- The line is what was asked for. -/
  | shown (line : String)
  | misuse (program : String) (m : Misuse)

/-- What is found in a list of words, until something is wrong. -/
structure Findings (κ : Type) where
  found : List (Found κ) := []
  /-- Words that nothing takes. -/
  extras : List String := []
  wrong : Option Misuse := none

namespace Findings

def after (found : List (Found κ)) (extras : List String) (fs : Findings κ) : Findings κ :=
  { fs with found := found ++ fs.found, extras := extras ++ fs.extras }

end Findings

/-! ## Arguments -/

/-- How many of the words the arguments of a grammar take, if they fit. -/
def argumentCount? (p : Positional) (ws : List (Word κ)) : Option Nat :=
  let lead := (ws.takeWhile (·.isSeparator)).length
  let first := (ws.drop lead).head?.any (·.isArgument)
  let trail := ((ws.drop (lead + 1)).takeWhile (·.isSeparator)).length
  match p with
  | .nothing => none
  | .atMostOne _ => some (if first then lead + 1 + trail else lead)
  | .one _ => if first then some (lead + 1 + trail) else none
  | .command _ _ => if first then some ws.length else none

/-- The arguments among words that they take: the separator is left out, but kept before a
command. -/
def argumentsOf (p : Positional) (ws : List (Word κ)) : List String :=
  let texts := ws.map (·.text)
  match p with
  | .command _ _ => texts
  | _ => texts.erase "--"

/-! ## Options -/

/-- What one word gives that holds an option: the finds, and whether the next word is a value
and belongs to it. -/
structure Taken (κ : Type) where
  found : List (Found κ) := []
  takesNext : Bool := false

/-- The value in the same word as an option.  Two dashes alone are taken for the separator,
and nothing is left of the value. -/
def attachedValue (text : String) : Value := if text = "--" then .list [] else .text text

/-- Reads an option whose name is `name`, given the word behind it.  Short options without
values may be joined in one word, where an equals sign counts for nothing; the fuel bounds
their number. -/
def takeOption (g : Grammar κ) (next : Option String) :
    Nat → Flag κ → String → Option String → Except Misuse (Taken κ)
  | _, f, _, none =>
    if f.takesValue then
      match next with
      | some value => .ok { found := [.option f (.text value)], takesNext := true }
      | none => .error (.valueExpected f.title)
    else .ok { found := [.option f .null] }
  | 0, f, _, some text => .error (.valueIgnored f.title text)
  | fuel + 1, f, name, some text =>
    if f.takesValue then .ok { found := [.option f (attachedValue text)] }
    else if name.startsWith "--" then .error (.valueIgnored f.title text)
    else
      match text.toList with
      | [] => .error (.valueIgnored f.title text)
      | c :: more =>
        let joined := String.ofList ['-', c]
        match g.flag? joined with
        | none => .error (.valueIgnored f.title text)
        | some other => do
          let t ← takeOption g next fuel other joined
            (if more.isEmpty then none else some (String.ofList more))
          return { t with found := .option f .null :: t.found }

/-! ## Whole lines -/

/-- Reads words behind the last option. -/
def readTail (p : Positional) (ws : List (Word κ)) : Findings κ :=
  match argumentCount? p ws with
  | some n =>
    { found := [.arguments (argumentsOf p (ws.take n))], extras := (ws.drop n).map (·.text) }
  | none => { extras := ws.map (·.text) }

/-- Reads words, where `p` tells which arguments are still to come.  The fuel bounds the
number of words. -/
def readWords (g : Grammar κ) : Nat → Positional → List (Word κ) → Findings κ
  | 0, p, ws => readTail p ws
  | fuel + 1, p, ws =>
    if !ws.any (·.isOption) then readTail p ws
    else
      match ws with
      | [] => {}
      | w :: rest =>
        match w.role with
        | .option none _ _ => (readWords g fuel p rest).after [] [w.text]
        | .option (some f) name attached =>
          let next := (rest.head?.filter (·.isArgument)).map (·.text)
          match takeOption g next w.text.length f name attached with
          | .error m => { wrong := some m }
          | .ok t =>
            (readWords g fuel p (if t.takesNext then rest.drop 1 else rest)).after t.found []
        | _ =>
          match argumentCount? p ws with
          | some n =>
            (readWords g fuel .nothing (ws.drop n)).after
              [.arguments (argumentsOf p (ws.take n))] []
          | none => (readWords g fuel p rest).after [] [w.text]

def Found.isArguments : Found κ → Bool
  | .arguments _ => true
  | _ => false

def missing (p : Positional) (found : List (Found κ)) : List String :=
  match p with
  | .one name => if found.any (·.isArguments) then [] else [name]
  | _ => []

/-- Reads a command line, acting on each find.  The words that nothing takes are left to the
caller. -/
def read (g : Grammar κ) (act : σ → Found κ → Except Stop σ) (start : σ) (args : List String) :
    Except Stop (σ × List String) :=
  let refuse {α : Type} (m : Misuse) : Except Stop α := .error (.misuse g.program m)
  match words g args with
  | .error m => refuse m
  | .ok ws => do
    let fs := readWords g ws.length g.positional ws
    let s ← fs.found.foldlM act start
    if let some m := fs.wrong then refuse m
    match missing g.positional fs.found with
    | [] => return (s, fs.extras)
    | names => refuse (.missing names)

end CommandLine
end JavaCompanion
