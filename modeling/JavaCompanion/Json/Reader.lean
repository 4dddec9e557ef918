/-
Reading JSON.

Every step takes the characters that are left and gives back those that are left after it.
A fault counts the characters left at its place, which is all that is needed to find the place in
the whole text.  Three spellings that are not of the standard are read too:
`NaN`, `Infinity` and `-Infinity`.
-/
import JavaCompanion.Json.Error
import JavaCompanion.Text.Digit
import JavaCompanion.Text.Surrogate
import JavaCompanion.Value.Basic

namespace JavaCompanion
namespace Json

open Number Text

inductive Fault where
  /-- A cause, and how many characters are left at its place. -/
  | malformed (cause : Cause) (left : Nat)
  | tooManyDigits (count : Nat)
  | tooDeep

def failAt (cause : Cause) (cs : List Char) : Except Fault α :=
  .error (.malformed cause cs.length)

def isBlank (c : Char) : Bool := c = ' ' || c = '\t' || c = '\n' || c = '\r'

def skipBlanks (cs : List Char) : List Char := cs.dropWhile isBlank

/-! ## Texts -/

def hexQuad (a b c d : Char) : Option Nat := do
  let a ← hexValue? a
  let b ← hexValue? b
  let c ← hexValue? c
  let d ← hexValue? d
  return ((a * 16 + b) * 16 + c) * 16 + d

def simpleEscape : Char → Option Char
  | '"' => some '"'
  | '\\' => some '\\'
  | '/' => some '/'
  | 'b' => some '\x08'
  | 'f' => some '\x0c'
  | 'n' => some '\n'
  | 'r' => some '\r'
  | 't' => some '\t'
  | _ => none

/-- The characters read so far, last first, when a high surrogate waits for its partner in vain. -/
def settle (waiting : Option Nat) (read : List Char) : List Char :=
  match waiting with
  | some high => (spelledUnit high).reverse ++ read
  | none => read

/-- One code unit more, joined to a high surrogate that waits for it. -/
def takeUnit (waiting : Option Nat) (read : List Char) (n : Nat) : Option Nat × List Char :=
  match waiting.filter fun _ => isLowSurrogate n with
  | some high => (none, joinSurrogates high n :: read)
  | none =>
    let read := settle waiting read
    if isHighSurrogate n then (some n, read) else (none, (spelledUnit n).reverse ++ read)

/-- The rest of a text whose opening quote had `start` characters from it on. -/
def textFrom (start : Nat) (waiting : Option Nat) (read : List Char) :
    List Char → Except Fault (String × List Char)
  | [] => .error (.malformed .unterminated start)
  | '"' :: rest => .ok (String.ofList (settle waiting read).reverse, rest)
  | ['\\'] => .error (.malformed .unterminated start)
  | '\\' :: 'u' :: a :: b :: c :: d :: e :: rest =>
    match hexQuad a b c d with
    | none => failAt .unicodeEscape ('u' :: a :: b :: c :: d :: e :: rest)
    | some n =>
      let (waiting, read) := takeUnit waiting read n
      textFrom start waiting read (e :: rest)
  | '\\' :: c :: rest =>
    match simpleEscape c with
    | some d => textFrom start none (d :: settle waiting read) rest
    | none =>
      if c = 'u' then failAt .unicodeEscape (c :: rest) else failAt .escape ('\\' :: c :: rest)
  | c :: rest =>
    if c.toNat < 32 then failAt .controlCharacter (c :: rest)
    else textFrom start none (c :: settle waiting read) rest

/-! ## Numbers -/

def natOfDigits (cs : List Char) : Nat := cs.foldl (fun n c => n * 10 + (c.toNat - '0'.toNat)) 0

/-- The digits of the whole part: a zero alone, or digits that do not begin with one. -/
def wholeDigits (cs : List Char) : List Char × List Char :=
  match cs with
  | '0' :: rest => (['0'], rest)
  | _ => cs.span Char.isDigit

/-- The digits after a point, if a point with digits follows. -/
def fractionDigits (cs : List Char) : Option (List Char × List Char) :=
  match cs with
  | '.' :: rest =>
    match rest.span Char.isDigit with
    | ([], _) => none
    | found => some found
  | _ => none

def unsignedExponent (negative : Bool) (cs : List Char) : Option (Int × List Char) :=
  match cs.span Char.isDigit with
  | ([], _) => none
  | (digits, rest) =>
    let n : Int := natOfDigits digits
    some (if negative then -n else n, rest)

/-- The exponent, if a mark with digits follows. -/
def exponentPart (cs : List Char) : Option (Int × List Char) :=
  match cs with
  | mark :: rest =>
    if mark = 'e' || mark = 'E' then
      match rest with
      | '-' :: digits => unsignedExponent true digits
      | '+' :: digits => unsignedExponent false digits
      | _ => unsignedExponent false rest
    else none
  | [] => none

/-- A number without its sign.  A fraction or an exponent makes it a binary64 number; the
digits of a whole number are limited. -/
def unsignedNumber (negative : Bool) (cs : List Char) :
    Except Fault (Option (Value × List Char)) :=
  match wholeDigits cs with
  | ([], _) => .ok none
  | (whole, rest) =>
    let (fraction, rest') := (fractionDigits rest).getD ([], rest)
    match fraction, exponentPart rest' with
    | [], none =>
      let n : Int := natOfDigits whole
      if digitLimit < whole.length then .error (.tooManyDigits whole.length)
      else .ok (some (.int (if negative then -n else n), rest))
    | _, found =>
      let (exponent, rest'') := found.getD (0, rest')
      let digits := natOfDigits (whole ++ fraction)
      .ok (some (.float (.ofDecimal negative digits (exponent - fraction.length)), rest''))

def number (cs : List Char) : Except Fault (Option (Value × List Char)) :=
  match cs with
  | '-' :: rest => unsignedNumber true rest
  | _ => unsignedNumber false cs

/-! ## Values -/

/-- The values that are written as words. -/
def wordValues : List (List Char × Value) :=
  [("null".toList, .null), ("true".toList, .bool true), ("false".toList, .bool false),
    ("NaN".toList, .float .nan), ("Infinity".toList, .float (.infinite false)),
    ("-Infinity".toList, .float (.infinite true))]

def word (cs : List Char) : Option (Value × List Char) :=
  (wordValues.find? fun w => w.1.isPrefixOf cs).map fun w => (w.2, cs.drop w.1.length)

def scalar (cs : List Char) : Except Fault (Value × List Char) :=
  match number cs with
  | .error f => .error f
  | .ok (some found) => .ok found
  | .ok none =>
    match word cs with
    | some found => .ok found
    | none => failAt .value cs

/-- How many lists and objects may stand inside each other. -/
def nestingLimit : Nat := 990

mutual
/-- A value that starts at once, inside of `depth` lists and objects.  The fuel bounds the
steps; the number of characters is always enough, as each step takes one of its own. -/
def value (depth : Nat) : Nat → List Char → Except Fault (Value × List Char)
  | 0, cs => failAt .value cs
  | fuel + 1, cs =>
    match cs with
    | '"' :: rest => do
      let (s, rest) ← textFrom cs.length none [] rest
      return (.text s, rest)
    | '[' :: rest =>
      if nestingLimit ≤ depth then .error .tooDeep
      else match skipBlanks rest with
      | ']' :: rest => .ok (.list [], rest)
      | rest => items (depth + 1) fuel [] rest
    | '\x7b' :: rest =>
      if nestingLimit ≤ depth then .error .tooDeep
      else match skipBlanks rest with
      | '\x7d' :: rest => .ok (.object [], rest)
      | rest => members (depth + 1) fuel [] rest
    | _ => scalar cs

/-- The items from here to the end of a list, after those read already, last first. -/
def items (depth : Nat) : Nat → List Value → List Char → Except Fault (Value × List Char)
  | 0, _, cs => failAt .value cs
  | fuel + 1, read, cs => do
    let (v, rest) ← value depth fuel cs
    match skipBlanks rest with
    | ']' :: rest => return (.list (v :: read).reverse, rest)
    | ',' :: rest => items depth fuel (v :: read) (skipBlanks rest)
    | rest => failAt .comma rest

/-- The members from here to the end of an object, after those read already.  Of members
with one name the last gives the value and the first the place. -/
def members (depth : Nat) : Nat → Fields → List Char → Except Fault (Value × List Char)
  | 0, _, cs => failAt .value cs
  | fuel + 1, read, cs =>
    match cs with
    | '"' :: rest => do
      let (name, rest) ← textFrom cs.length none [] rest
      match skipBlanks rest with
      | ':' :: rest =>
        let (v, rest) ← value depth fuel (skipBlanks rest)
        let read := Fields.put name v read
        match skipBlanks rest with
        | '\x7d' :: rest => return (.object read, rest)
        | ',' :: rest => members depth fuel read (skipBlanks rest)
        | rest => failAt .comma rest
      | rest => failAt .colon rest
    | _ => failAt .memberName cs
end

/-- One value with nothing but blanks around it. -/
def document (cs : List Char) : Except Fault Value :=
  match cs with
  | '\ufeff' :: _ => failAt .byteOrderMark cs
  | _ => do
    let (v, rest) ← value 0 (cs.length + 1) (skipBlanks cs)
    match skipBlanks rest with
    | [] => return v
    | rest => failAt .extraData rest

def read (s : String) : Except Unread Value :=
  let cs := s.toList
  match document cs with
  | .ok v => .ok v
  | .error (.malformed cause left) =>
    .error (.malformed (.after cause (cs.take (cs.length - left))))
  | .error (.tooManyDigits count) => .error (.tooManyDigits count)
  | .error .tooDeep => .error .tooDeep

end Json
end JavaCompanion
