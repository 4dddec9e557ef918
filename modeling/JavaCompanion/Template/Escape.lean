/-
Escapes in the quoted texts of templates.

A backslash begins an escape: a letter for a control character, up to three octal digits,
two, four or eight hexadecimal digits behind `x`, `u` or `U`, or a character's name in
braces behind `N`.  A backslash before a line break hides the break; one before any other
character stands for itself.  A character beyond ASCII counts as its own escape, so behind a
backslash that escape is spelled out.
-/
import JavaCompanion.Template.Cause
import JavaCompanion.Text.CharacterName
import JavaCompanion.Text.Digit
import JavaCompanion.Text.Surrogate

namespace JavaCompanion
namespace Template

open Text

/-- The characters that a single letter or sign behind a backslash stands for. -/
def shortEscapes : List (Char × Char) :=
  [ ('\\', '\\'), ('\'', '\''), ('"', '"'), ('a', '\x07'), ('b', '\x08'), ('f', '\x0c'),
    ('n', '\n'), ('r', '\r'), ('t', '\t'), ('v', '\x0b') ]

def isOctal (c : Char) : Bool := '0' ≤ c && c ≤ '7'

/-- The value of digits in a base, the most significant first. -/
def valueOf (base : Nat) (digits : List Char) : Nat :=
  digits.foldl (fun n c => base * n + (hexValue? c).getD 0) 0

/-- The number that exactly `width` hexadecimal digits write, and what follows them. -/
def hexNumber? (width : Nat) (cs : List Char) : Option (Nat × List Char) :=
  let digits := (cs.take width).takeWhile fun c => (hexValue? c).isSome
  if digits.length = width then some (valueOf 16 digits, cs.drop width) else none

/-- The text that a quoted text with escapes stands for.  The fuel bounds the number of its
characters. -/
def unescape : Nat → List Char → Except Cause (List Char)
  | 0, cs => .ok cs
  | fuel + 1, cs =>
    let goOn (spelling : List Char) (rest : List Char) : Except Cause (List Char) := do
      return spelling ++ (← unescape fuel rest)
    let hex (width : Nat) (rest : List Char) : Except Cause (Nat × List Char) :=
      match hexNumber? width rest with
      | some found => .ok found
      | none => .error (.cutEscape width)
    match cs with
    | [] => .ok []
    | ['\\'] => .ok ['\\']
    | '\\' :: '\n' :: rest => unescape fuel rest
    | '\\' :: 'x' :: rest => do
      let (n, rest) ← hex 2 rest
      goOn (spelledUnit n) rest
    | '\\' :: 'u' :: rest => do
      let (n, rest) ← hex 4 rest
      match rest with
      | '\\' :: 'u' :: more =>
        match hexNumber? 4 more with
        | some (low, more) =>
          if isHighSurrogate n && isLowSurrogate low then goOn [joinSurrogates n low] more
          else goOn (spelledUnit n) rest
        | none => goOn (spelledUnit n) rest
      | _ => goOn (spelledUnit n) rest
    | '\\' :: 'U' :: rest => do
      let (n, rest) ← hex 8 rest
      if 0x110000 ≤ n then .error .farEscape else goOn (spelledUnit n) rest
    | '\\' :: 'N' :: '{' :: rest =>
      let name := rest.takeWhile (· != '}')
      if name.isEmpty || name.length = rest.length then .error .malformedNameEscape
      else
        match codePointNamed? (String.ofList name) with
        | some n => goOn (spelledUnit n) (rest.drop (name.length + 1))
        | none => .error .unknownCharacterName
    | '\\' :: 'N' :: _ => .error .malformedNameEscape
    | '\\' :: c :: rest =>
      match shortEscapes.find? (·.1 == c) with
      | some entry => goOn [entry.2] rest
      | none =>
        if isOctal c then
          let digits := c :: (rest.take 2).takeWhile isOctal
          goOn [Char.ofNat (valueOf 8 digits)] (rest.drop (digits.length - 1))
        else if c.toNat < 128 then goOn ['\\', c] rest
        else
          let symbol := (symbols (c :: rest)).head?.getD [c]
          goOn (codePointEscape (codeOf symbol)) ((c :: rest).drop symbol.length)
    | c :: rest => goOn [c] rest

end Template
end JavaCompanion
