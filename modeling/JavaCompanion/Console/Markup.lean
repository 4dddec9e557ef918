/-
Markup in console texts.

A tag in square brackets styles what follows it, up to the tag with a slash that closes it; a
slash alone closes the latest tag.  Two spellings of a style make the same tag.  A tag that
begins with an at sign is handled by a name, with arguments that have to be literals.  Tags
are not shown, and names between colons are shown as pictures.  A backslash before a bracket
keeps a tag from being one.
-/
import JavaCompanion.Console.Emoji
import JavaCompanion.Console.Literal
import JavaCompanion.Console.Style

namespace JavaCompanion
namespace Console

open Text

inductive Piece where
  | plain (cs : List Char)
  | tag (cs : List Char)
  deriving Repr

def startsTag (c : Char) : Bool := ('a' ≤ c && c ≤ 'z') || c = '#' || c = '/' || c = '@'

/-- The tag whose opening bracket stands before the characters, if there is one, and how
many characters it takes with its closing bracket. -/
def tagBody? (cs : List Char) : Option (List Char × Nat) :=
  let body := cs.takeWhile (· != ']')
  match body with
  | c :: _ =>
    if startsTag c && !body.contains '[' && body.length < cs.length then
      some (body, body.length + 1)
    else none
  | [] => none

/-- A tag with the backslashes before it: what it gives, and how many characters it takes. -/
def tagAt? (cs : List Char) : Option (List Piece × Nat) :=
  let slashes := (cs.takeWhile (· = '\\')).length
  match cs.drop slashes with
  | '[' :: rest =>
    (tagBody? rest).map fun t =>
      let kept := Piece.plain (List.replicate (slashes / 2) '\\')
      let piece := if slashes % 2 = 1 then .plain ('[' :: t.1 ++ [']']) else .tag t.1
      ([kept, piece], slashes + 1 + t.2)
  | _ => none

/-- A piece before others, where neighbouring characters make one piece. -/
def consChar (c : Char) : List Piece → List Piece
  | .plain cs :: rest => .plain (c :: cs) :: rest
  | pieces => .plain [c] :: pieces

/-- The pieces of a text.  The first `skip` characters belong to a tag that has been read. -/
def piecesFrom : Nat → List Char → List Piece
  | _, [] => []
  | skip + 1, _ :: rest => piecesFrom skip rest
  | 0, c :: rest =>
    match tagAt? (c :: rest) with
    | some (found, n) => found ++ piecesFrom (n - 1) rest
    | none => consChar c (piecesFrom 0 rest)

/-- A bracket shown without the backslash before it. -/
def unescaped : List Char → List Char
  | [] => []
  | '\\' :: '[' :: rest => '[' :: unescaped rest
  | c :: rest => c :: unescaped rest

/-! ## Tags -/

/-- Why a text with markup cannot be shown. -/
inductive Unshown where
  /-- A tag is closed that is not open, or its arguments are no literals. -/
  | badTag
  | badColor
  deriving DecidableEq, Repr

/-- A tag by the normal form of its name, with what stands behind an equals sign. -/
structure Tag where
  name : String
  parameters : Option String
  deriving DecidableEq, Repr

namespace Tag

/-- The name and the parameters of a tag, as they are written. -/
def ofChars (cs : List Char) : Tag where
  name := String.ofList (cs.takeWhile (· != '='))
  parameters :=
    match cs.dropWhile (· != '=') with
    | [] => none
    | _ :: parameters => some (String.ofList parameters)

def style (t : Tag) : String :=
  match t.parameters with
  | some parameters => t.name ++ " " ++ parameters
  | none => t.name

def isHandled (t : Tag) : Bool := t.name.startsWith "@"

end Tag

/-- The normal form of a name of a tag. -/
def normalName (name : String) : Except Unshown String :=
  match normalStyle name with
  | .ok name => .ok name
  | .error _ => .error .badColor

/-- The arguments in parentheses behind a name, if a text has this form. -/
def handlerArguments? (s : String) : Option (Option String) :=
  match s.toList.dropWhile fun c => isWordChar c || c = '.' with
  | [] => some none
  | '(' :: rest =>
    if rest.getLast? = some ')' && !rest.contains '\n' then
      some (some (String.ofList ('(' :: rest)))
    else none
  | _ => none

/-- Whether the parameters of a handled tag are a name, a name with literals for arguments, or
a literal. -/
def isHandler (parameters : String) : Bool :=
  match handlerArguments? (strip parameters) with
  | some none => true
  | some (some arguments) => isLiteral arguments
  | none => isLiteral (strip parameters)

/-- Checks a tag when it is closed. -/
def checkClosed (t : Tag) : Except Unshown Unit :=
  if t.isHandled && t.parameters.any fun p => p != "" && !isHandler p then .error .badTag
  else .ok ()

/-- The tags that are open, innermost first, and those that have been closed. -/
structure Tags where
  opened : List Tag := []
  closed : List Tag := []

def Tags.close (s : Tags) (t : Tag) : Except Unshown Tags := do
  checkClosed t
  return { opened := s.opened.erase t, closed := t :: s.closed }

def Tags.meet (s : Tags) (cs : List Char) : Except Unshown Tags := do
  let t := Tag.ofChars cs
  match t.name.toList with
  | '/' :: name =>
    let name := strip (String.ofList name)
    if name = "" then
      match s.opened with
      | [] => .error .badTag
      | latest :: _ => s.close latest
    else
      let name ← normalName name
      match s.opened.find? (·.name == name) with
      | some t => s.close t
      | none => .error .badTag
  | _ => do return { s with opened := { t with name := ← normalName t.name } :: s.opened }

/-- What is shown of pieces, and the tags at their end. -/
def shownFrom (tags : Tags) : List Piece → Except Unshown (List Char × Tags)
  | [] => .ok ([], tags)
  | .plain cs :: rest => do
    let (shown, tags) ← shownFrom tags rest
    return (withPictures (unescaped cs) ++ shown, tags)
  | .tag cs :: rest => do shownFrom (← tags.meet cs) rest

/-- Whether a style asks for a colour one part of which is no number. -/
def hasBadColor (t : Tag) : Bool :=
  match styleOf t.style with
  | .error .noNumber => !t.isHandled
  | _ => false

/-! ## Texts -/

/-- Controls that a console would act on. -/
def isConsoleControl (c : Char) : Bool := [7, 8, 11, 12, 13].contains c.toNat

def withoutControls (s : String) : String :=
  String.ofList (s.toList.filter (!isConsoleControl ·))

/-- What is shown of a text with markup. -/
def shown (s : String) : Except Unshown String :=
  if !s.toList.contains '[' then
    .ok (withoutControls (String.ofList (withPictures s.toList)))
  else do
    let (cs, tags) ← shownFrom {} (piecesFrom 0 s.toList)
    if (tags.opened ++ tags.closed).any hasBadColor then .error .badColor
    else return withoutControls (String.ofList cs)

end Console
end JavaCompanion
