/-
The tokens of templates.

A template is literal text with tags in it: `{{ … }}` prints a value, `{% … %}` is a
statement and `{# … #}` a comment.  Inside the first two stand words, numbers, quoted texts
and signs.  A dash at either end of a tag takes away the blanks on that side of it; a plus
sign keeps them.  Between `{% raw %}` and `{% endraw %}` everything is literal.  While a
bracket is open inside a tag, the tag cannot end.

Where the text cannot be read any further the last token is a failure.  It comes after all
tokens before it, so that what is wrong with those is found first.
-/
import JavaCompanion.Template.Escape
import JavaCompanion.Text.Blank
import JavaCompanion.Text.Lines
import JavaCompanion.Text.Name
import JavaCompanion.Value.Basic

namespace JavaCompanion
namespace Template

open Text

/-- The two kinds of tags that are made of tokens. -/
inductive TagKind where
  | print
  | statement
  deriving DecidableEq

inductive Token where
  | literal (cs : List Char)
  | opening (kind : TagKind)
  | closing (kind : TagKind)
  | word (s : String)
  | quoted (s : String)
  | integer (n : Nat)
  | decimal (x : Number.Binary64)
  /-- An operator, a bracket or a separator. -/
  | sign (s : String)
  | failure (c : Cause)

def TagKind.name : TagKind → String
  | .print => "print statement"
  | .statement => "statement block"

def Token.shown : Token → String
  | .literal _ => "template data / text"
  | .opening kind => "begin of " ++ kind.name
  | .closing kind => "end of " ++ kind.name
  | .word s => s
  | .quoted _ => "string"
  | .integer _ => "integer"
  | .decimal _ => "float"
  | .sign s => s
  | .failure _ => ""

/-! ## Numbers -/

/-- Characters of a class, each of which may follow a single underscore. -/
def underscored (p : Char → Bool) : List Char → List Char × List Char
  | '_' :: c :: rest =>
    if p c then
      let (more, left) := underscored p rest
      (c :: more, left)
    else ([], '_' :: c :: rest)
  | c :: rest =>
    if p c then
      let (more, left) := underscored p rest
      (c :: more, left)
    else ([], c :: rest)
  | [] => ([], [])

/-- Digits, of which the first has no underscore before it. -/
def digitGroup (cs : List Char) : List Char × List Char :=
  match cs with
  | '_' :: _ => ([], cs)
  | _ => underscored isDecimalDigit cs

/-- The number that decimal digits of any script write. -/
def decimalValue (digits : List Char) : Nat :=
  digits.foldl (fun n c => 10 * n + (digitValue? c).getD 0) 0

/-- The exponent of a number and what follows it. -/
def exponentOf? (cs : List Char) : Option (Int × List Char) :=
  match cs with
  | [] => none
  | e :: rest =>
    if e = 'e' || e = 'E' then
      let (negative, rest) := match rest with
        | '-' :: rest => (true, rest)
        | '+' :: rest => (false, rest)
        | _ => (false, rest)
      match digitGroup rest with
      | ([], _) => none
      | (digits, rest) =>
        let n : Int := decimalValue digits
        some (if negative then -n else n, rest)
    else none

/-- The digits behind a point and what follows them. -/
def fractionOf? (cs : List Char) : Option (List Char × List Char) :=
  match cs with
  | '.' :: rest =>
    match digitGroup rest with
    | ([], _) => none
    | found => some found
  | _ => none

/-- A number with a fraction, an exponent or both. -/
def decimalToken? (cs : List Char) : Option (Token × List Char) := do
  let (whole, rest) := digitGroup cs
  if whole.isEmpty then failure
  let number (digits : List Char) (places : Nat) (e : Int) : Token :=
    .decimal (.ofDecimal false (decimalValue digits) (e - places))
  match fractionOf? rest with
  | some (fraction, rest) =>
    match exponentOf? rest with
    | some (e, rest) => return (number (whole ++ fraction) fraction.length e, rest)
    | none => return (number (whole ++ fraction) fraction.length 0, rest)
  | none =>
    let (e, rest) ← exponentOf? rest
    return (number whole 0 e, rest)

/-- The base that a letter behind a zero announces, and its digits. -/
def baseOf? (c : Char) : Option (Nat × (Char → Bool)) :=
  if c = 'b' || c = 'B' then some (2, fun d => d = '0' || d = '1')
  else if c = 'o' || c = 'O' then some (8, isOctal)
  else if c = 'x' || c = 'X' then
    some (16, fun d => (hexValue? d).isSome || isDecimalDigit d)
  else none

/-- The value of digits in a base above ten, or of decimal digits of any script. -/
def basedValue (base : Nat) (digits : List Char) : Nat :=
  digits.foldl
    (fun n c => base * n + ((hexValue? c).orElse fun _ => digitValue? c).getD 0) 0

/-- A whole number.  Only zeros may follow a zero at its beginning, unless a letter behind it
announces another base. -/
def integerToken? (cs : List Char) : Option (Token × List Char) :=
  let plain (digits : List Char) (rest : List Char) : Option (Token × List Char) :=
    if digitLimit < digits.length then some (.failure .tooManyDigits, rest)
    else some (.integer (decimalValue digits), rest)
  match cs with
  | [] => none
  | '0' :: rest =>
    let zeros := underscored (· == '0') rest
    let zero := plain ('0' :: zeros.1) zeros.2
    match rest with
    | [] => zero
    | c :: more =>
      match baseOf? c with
      | none => zero
      | some (base, isDigit) =>
        match underscored isDigit more with
        | ([], _) => zero
        | (digits, left) => some (.integer (basedValue base digits), left)
  | c :: rest =>
    if '1' ≤ c && c ≤ '9' then
      let (digits, left) := underscored isDecimalDigit rest
      plain (c :: digits) left
    else none

/-! ## Words, texts and signs -/

def wordToken? (cs : List Char) : Option (Token × List Char) :=
  let letters := cs.takeWhile isNameChar
  if letters.isEmpty then none
  else if isName letters then
    some (.word (String.ofList letters), cs.dropWhile isNameChar)
  else some (.failure .invalidName, [])

/-- The inside of a quoted text up to its end, its escapes as they stand, and what follows
the closing quote. -/
def quotedRest? (quote : Char) : List Char → Option (List Char × List Char)
  | [] => none
  | '\\' :: c :: rest => do
    let (inside, left) ← quotedRest? quote rest
    return ('\\' :: c :: inside, left)
  | c :: rest =>
    if c = quote then some ([], rest)
    else do
      let (inside, left) ← quotedRest? quote rest
      return (c :: inside, left)

def quotedToken? (cs : List Char) : Option (Token × List Char) :=
  match cs with
  | [] => none
  | c :: rest =>
    if c = '\'' || c = '"' then
      match quotedRest? c rest with
      | none => none
      | some (inside, left) =>
        match unescape inside.length inside with
        | .ok s => some (.quoted (String.ofList s), left)
        | .error cause => some (.failure cause, [])
    else none

/-- The signs, the longer ones first. -/
def signs : List String :=
  [ "//", "**", "==", "!=", ">=", "<=", "+", "-", "/", "*", "%", "~", "[", "]", "(", ")", "\x7b",
    "\x7d", ">", "<", "=", ".", ":", "|", ",", ";" ]

def signOf? (cs : List Char) : Option (String × List Char) :=
  match signs.find? fun s => s.toList.isPrefixOf cs with
  | some s => some (s, cs.drop s.length)
  | none => none

/-- The closing bracket of an opening one. -/
def closingBracket? (sign : String) : Option Char :=
  if sign = "(" then some ')'
  else if sign = "[" then some ']'
  else if sign = "\x7b" then some '}'
  else none

/-- The closing brackets that are awaited after a sign, the innermost first. -/
def afterSign (awaited : List Char) (sign : String) : Except Cause (List Char) :=
  match closingBracket? sign with
  | some c => .ok (c :: awaited)
  | none =>
    match sign.toList with
    | [c] =>
      if c = ')' || c = ']' || c = '}' then
        match awaited with
        | [] => .error (.unexpectedBracket c none)
        | expected :: outer =>
          if expected = c then .ok outer
          else .error (.unexpectedBracket c (some expected))
      else .ok awaited
    | _ => .ok awaited

/-! ## Tags -/

/-- What follows the end of a tag that stands here, if one does. -/
def tagEnd? (kind : TagKind) (cs : List Char) : Option (List Char) :=
  match kind, cs with
  | .print, '-' :: '}' :: '}' :: rest => some (trimLeft rest)
  | .print, '}' :: '}' :: rest => some rest
  | .statement, '-' :: '%' :: '}' :: rest => some (trimLeft rest)
  | .statement, '+' :: '%' :: '}' :: rest => some rest
  | .statement, '%' :: '}' :: rest => some rest
  | _, _ => none

/-- What follows a comment, from its inside on, if it ends. -/
def afterComment? : List Char → Option (List Char)
  | [] => none
  | '-' :: '#' :: '}' :: rest => some (trimLeft rest)
  | '+' :: '#' :: '}' :: rest => some rest
  | '#' :: '}' :: rest => some rest
  | _ :: rest => afterComment? rest

/-- The sign at the beginning of a tag that takes blanks away or keeps them, and the rest. -/
def edgeSign (cs : List Char) : Option Char × List Char :=
  match cs with
  | '-' :: rest => (some '-', rest)
  | '+' :: rest => (some '+', rest)
  | _ => (none, cs)

/-- What follows a statement tag that holds nothing but the word. -/
def wordTag? (word : List Char) (isEnd : List Char → Option (List Char)) (cs : List Char) :
    Option (List Char) :=
  let cs := trimLeft cs
  if word.isPrefixOf cs then isEnd (trimLeft (cs.drop word.length)) else none

/-- The end of the tag that begins a literal part. -/
def rawEnd? (cs : List Char) : Option (List Char) :=
  match cs with
  | '+' :: _ => none
  | _ => tagEnd? .statement cs

/-- The literal part up to its end, and what follows. -/
def rawRest? (read : List Char) : List Char → Option (List Char × List Char)
  | [] => none
  | '{' :: '%' :: rest =>
    let (edge, inside) := edgeSign rest
    match wordTag? "endraw".toList (tagEnd? .statement) inside with
    | some left =>
      let literal := read.reverse
      some (if edge = some '-' then trimRight literal else literal, left)
    | none => rawRest? ('{' :: read) ('%' :: rest)
  | c :: rest => rawRest? (c :: read) rest

/-! ## The run of tokens -/

/-- Where a template is read: in its literal text, or inside a tag with the closing brackets
that are awaited there. -/
inductive Place where
  | literal
  | tag (kind : TagKind) (awaited : List Char)

/-- Literal text in front of the tokens, without the blanks at its end if the tag that follows
takes them away. -/
def withLiteral (text : List Char) (edge : Option Char) (tokens : List Token) : List Token :=
  let text := if edge = some '-' then trimRight text else text
  if text.isEmpty then tokens else .literal text :: tokens

/-- The literal text before the first tag, and the tag with all that follows. -/
def beforeTag : List Char → List Char × List Char
  | [] => ([], [])
  | '{' :: c :: rest =>
    if c = '{' || c = '%' || c = '#' then ([], '{' :: c :: rest)
    else
      let (text, left) := beforeTag (c :: rest)
      ('{' :: text, left)
  | c :: rest =>
    let (text, left) := beforeTag rest
    (c :: text, left)

/-- One token inside of a tag that does not end here. -/
def tokenIn (size : Nat) (afterDot : Bool) (cs : List Char) : Token × List Char :=
  let found := (if afterDot then none else decimalToken? cs)
    <|> integerToken? cs <|> wordToken? cs <|> quotedToken? cs
    <|> (signOf? cs).map fun s => (Token.sign s.1, s.2)
  match found, cs with
  | some found, _ => found
  | none, c :: _ => (.failure (.unexpectedCharacter c (size - cs.length)), [])
  | none, [] => (.failure .invalidName, [])

/-- The tokens from a place on.  The fuel bounds their number. -/
def tokensFrom (size : Nat) : Nat → Place → Bool → List Char → List Token
  | 0, _, _, _ => []
  | fuel + 1, .literal, _, cs =>
    let (text, left) := beforeTag cs
    match left with
    | '{' :: '#' :: inside =>
      let (edge, inside) := edgeSign inside
      withLiteral text edge <|
        match inside, afterComment? inside with
        | _, some left => tokensFrom size fuel .literal false left
        | [], none => []
        | _, none => [.failure .unclosedComment]
    | '{' :: '%' :: inside =>
      let (edge, inside) := edgeSign inside
      withLiteral text edge <|
        match wordTag? "raw".toList rawEnd? inside with
        | some [] => []
        | some raw =>
          match rawRest? [] raw with
          | some (literal, left) =>
            withLiteral literal none (tokensFrom size fuel .literal false left)
          | none => [.failure .unclosedRaw]
        | none => .opening .statement :: tokensFrom size fuel (.tag .statement []) false inside
    | '{' :: '{' :: inside =>
      let (edge, inside) := edgeSign inside
      withLiteral text edge
        (.opening .print :: tokensFrom size fuel (.tag .print []) false inside)
    | _ => withLiteral text none []
  | fuel + 1, .tag kind awaited, afterDot, cs =>
    match cs with
    | [] => []
    | c :: rest =>
      match if awaited.isEmpty then tagEnd? kind cs else none with
      | some left => .closing kind :: tokensFrom size fuel .literal false left
      | none =>
        if isBlank c then tokensFrom size fuel (.tag kind awaited) false rest
        else
          let (token, left) := tokenIn size afterDot cs
          match token with
          | .failure cause => [.failure cause]
          | .sign s =>
            match afterSign awaited s with
            | .ok awaited => token :: tokensFrom size fuel (.tag kind awaited) (s == ".") left
            | .error cause => [.failure cause]
          | _ => token :: tokensFrom size fuel (.tag kind awaited) false left

/-- A text without one line feed at its end. -/
def dropLastBreak (cs : List Char) : List Char :=
  if cs.getLast? = some '\n' then cs.dropLast else cs

/-- The tokens of a template.  Line breaks of every kind count as line feeds, and one at the
end of the template is dropped. -/
def tokens (source : String) : List Token :=
  let cs := dropLastBreak (foldBreaks source.toList)
  tokensFrom cs.length (cs.length + 1) .literal false cs

end Template
end JavaCompanion
