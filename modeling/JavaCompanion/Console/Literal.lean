/-
Literal values in console texts.

A literal is a number, a text, one of a few words, or a collection of literals in parentheses
or braces.  A number may have a sign, and a real and an imaginary number make a sum.  A key or
a member of a set has to be a value that never changes.  Only whether a text is a literal
counts here, and not which one.
-/
import JavaCompanion.Text.CharacterName
import JavaCompanion.Text.Digit
import JavaCompanion.Text.Lines
import JavaCompanion.Text.Name

namespace JavaCompanion
namespace Console

open Text

inductive Token where
  | number (imaginary : Bool)
  | quoted (bytes : Bool)
  | word (s : String)
  | sign (c : Char)
  | ellipsis
  | lineEnd
  deriving DecidableEq, Repr

/-! ## Numbers -/

/-- Digits of a class, each of which may follow a single underscore; what follows them. -/
def afterDigits (isDigit : Char → Bool) : List Char → List Char
  | '_' :: c :: rest => if isDigit c then afterDigits isDigit rest else '_' :: c :: rest
  | c :: rest => if isDigit c then afterDigits isDigit rest else c :: rest
  | [] => []

/-- What follows digits that have to be there. -/
def digits? (isDigit : Char → Bool) (cs : List Char) : Option (List Char) :=
  match cs with
  | c :: rest => if isDigit c then some (afterDigits isDigit rest) else none
  | [] => none

def isBinary (c : Char) : Bool := c = '0' || c = '1'

def isOctalDigit (c : Char) : Bool := '0' ≤ c && c ≤ '7'

def isHexDigit (c : Char) : Bool := (hexValue? c).isSome

/-- What follows the digits of a number in another base than ten. -/
def basedNumber? (isDigit : Char → Bool) (cs : List Char) : Option (List Char) :=
  match cs with
  | '_' :: rest => digits? isDigit rest
  | _ => digits? isDigit cs

/-- What follows an exponent, if there is one. -/
def afterExponent (cs : List Char) : List Char :=
  match cs with
  | e :: rest =>
    if e = 'e' || e = 'E' then
      let unsigned := match rest with
        | '+' :: more | '-' :: more => more
        | _ => rest
      (digits? Char.isDigit unsigned).getD cs
    else cs
  | [] => cs

/-- What follows the places behind a point, if there are any. -/
def afterPlaces (cs : List Char) : List Char :=
  match cs with
  | '.' :: rest => (digits? Char.isDigit rest).getD rest
  | _ => cs

/-- Whether digits before the point write a whole number: no zero leads others, and there are
no more than can be read. -/
def isWhole (digits : List Char) : Bool :=
  (digits.head? != some '0' || digits.all fun c => c = '0' || c = '_')
    && digits.countP Char.isDigit ≤ digitLimit

/-- A decimal number and what follows it. -/
def decimalNumber? (cs : List Char) : Option (Bool × List Char) :=
  let rest := (digits? Char.isDigit cs).getD cs
  let whole := cs.take (cs.length - rest.length)
  let behind := afterExponent (afterPlaces rest)
  match behind with
  | j :: more =>
    if j = 'j' || j = 'J' then some (true, more)
    else if behind.length = rest.length && !isWhole whole then none
    else some (false, behind)
  | [] => if rest.isEmpty && !isWhole whole then none else some (false, [])

/-- A number and what follows it, where no letter follows it directly. -/
def number? (cs : List Char) : Option (Token × List Char) := do
  let (imaginary, rest) ← match cs with
    | '0' :: b :: rest =>
      if b = 'x' || b = 'X' then (basedNumber? isHexDigit rest).map (false, ·)
      else if b = 'o' || b = 'O' then (basedNumber? isOctalDigit rest).map (false, ·)
      else if b = 'b' || b = 'B' then (basedNumber? isBinary rest).map (false, ·)
      else decimalNumber? cs
    | _ => decimalNumber? cs
  if rest.head?.any isNameChar then none else some (.number imaginary, rest)

/-! ## Quoted texts -/

/-- A quoted text up to its closing quotes, and what follows them.  A text in single quotes
ends with its line. -/
def quotedBody? (quotes : List Char) : List Char → Option (List Char × List Char)
  | [] => none
  | '\\' :: c :: rest =>
    (quotedBody? quotes rest).map fun found => ('\\' :: c :: found.1, found.2)
  | c :: rest =>
    if quotes.isPrefixOf (c :: rest) then some ([], (c :: rest).drop quotes.length)
    else if c = '\n' && quotes.length = 1 then none
    else (quotedBody? quotes rest).map fun found => (c :: found.1, found.2)

/-- Whether hexadecimal digits stand at the beginning. -/
def hasHex (width : Nat) (cs : List Char) : Bool :=
  width ≤ cs.length && (cs.take width).all isHexDigit

/-- Whether the escapes in a text are complete. -/
def hasSoundEscapes (bytes : Bool) : List Char → Bool
  | [] => true
  | '\\' :: c :: rest =>
    (if c = 'x' then hasHex 2 rest
      else if bytes then true
      else if c = 'u' then hasHex 4 rest
      else if c = 'U' then
        hasHex 8 rest && (rest.take 8).foldl (fun n d => 16 * n + (hexValue? d).getD 0) 0
          < 0x110000
      else if c = 'N' then
        let name := (rest.drop 1).takeWhile (· != '\x7d')
        rest.head? = some '\x7b' && name.length + 1 < rest.length
          && (codePointNamed? (String.ofList name)).isSome
      else true)
    && hasSoundEscapes bytes rest
  | _ :: rest => hasSoundEscapes bytes rest

/-- The letters before the quotes of a text: whether it is one of bytes, and whether its
escapes count. -/
def quotedKind? (letters : String) : Option (Bool × Bool) :=
  match String.ofList (letters.toList.map Char.toLower) with
  | "" | "u" => some (false, true)
  | "r" => some (false, false)
  | "b" => some (true, true)
  | "br" | "rb" => some (true, false)
  | _ => none

/-- A quoted text behind some letters, and what follows it. -/
def quoted? (letters : String) (cs : List Char) : Option (Token × List Char) := do
  let (bytes, escaped) ← quotedKind? letters
  let quote ← cs.head?
  let triple := [quote, quote, quote]
  let quotes := if triple.isPrefixOf cs then triple else [quote]
  let (body, rest) ← quotedBody? quotes (cs.drop quotes.length)
  if bytes && body.any (fun c => 128 ≤ c.toNat) then none
  else if escaped && !hasSoundEscapes bytes body then none
  else some (.quoted bytes, rest)

/-! ## Tokens -/

def isOpening (c : Char) : Bool := c = '(' || c = '\x7b'

def isClosing (c : Char) : Bool := c = ')' || c = '\x7d'

/-- How deep brackets may stand in each other. -/
def bracketLimit : Nat := 200

/-- A token that is no bracket, and what follows it. -/
def token? (cs : List Char) : Option (Token × List Char) :=
  match cs with
  | [] => none
  | '.' :: '.' :: '.' :: rest => some (.ellipsis, rest)
  | c :: rest =>
    if c.isDigit || (c = '.' && rest.head?.any Char.isDigit) then number? cs
    else if c = '\'' || c = '"' then quoted? "" cs
    else if isNameStart c then
      let word := String.ofList (cs.takeWhile isNameChar)
      let behind := cs.dropWhile isNameChar
      if behind.head?.any fun d => d = '\'' || d = '"' then quoted? word behind
      else some (.word word, behind)
    else if [',', ':', '+', '-'].contains c then some (.sign c, rest)
    else none

/-- The tokens of a text, at a depth of brackets.  The fuel bounds their number. -/
def tokensFrom : Nat → Nat → List Char → Option (List Token)
  | 0, _, _ => none
  | fuel + 1, depth, cs =>
    match cs with
    | [] => if depth = 0 then some [] else none
    | '\\' :: '\n' :: rest => tokensFrom fuel depth rest
    | '#' :: rest => tokensFrom fuel depth (rest.dropWhile (· != '\n'))
    | c :: rest =>
      if c = ' ' || c = '\t' || c = '\x0c' then tokensFrom fuel depth rest
      else if c = '\n' then
        if depth = 0 then (tokensFrom fuel depth rest).map (.lineEnd :: ·)
        else tokensFrom fuel depth rest
      else if isOpening c then
        if bracketLimit ≤ depth then none
        else (tokensFrom fuel (depth + 1) rest).map (.sign c :: ·)
      else if isClosing c then
        if depth = 0 then none else (tokensFrom fuel (depth - 1) rest).map (.sign c :: ·)
      else do
        let (t, rest) ← token? cs
        return t :: (← tokensFrom fuel depth rest)

def tokens? (s : String) : Option (List Token) :=
  let cs := Text.foldBreaks s.toList
  tokensFrom (cs.length + 1) 0 (cs.dropWhile fun c => c = ' ' || c = '\t')

/-! ## Values -/

/-- What is known of a value: whether it is a number, with a sign or without, and whether it
never changes. -/
inductive Shape where
  | number (imaginary : Bool)
  | signed (imaginary : Bool)
  | other (constant : Bool)
  deriving DecidableEq, Repr

def Shape.isConstant : Shape → Bool
  | .other constant => constant
  | _ => true

/-- A real number on the left of a sum. -/
def Shape.isReal : Shape → Bool
  | .number imaginary | .signed imaginary => !imaginary
  | .other _ => false

/-- The texts of one kind that follow each other count as one. -/
def afterQuoted (bytes : Bool) : List Token → Option (List Token)
  | .quoted b :: rest => if b = bytes then afterQuoted bytes rest else none
  | ts => some ts

mutual
/-- One value without a sign. -/
def atomFrom : Nat → List Token → Option (Shape × List Token)
  | 0, _ => none
  | fuel + 1, ts =>
    match ts with
    | .number imaginary :: rest => some (.number imaginary, rest)
    | .quoted bytes :: rest => (afterQuoted bytes rest).map (.other true, ·)
    | .ellipsis :: rest => some (.other true, rest)
    | .word "set" :: .sign '(' :: .sign ')' :: rest => some (.other false, rest)
    | .word s :: rest =>
      if ["True", "False", "None"].contains s then some (.other true, rest) else none
    | .sign '(' :: .sign ')' :: rest => some (.other true, rest)
    | .sign '(' :: rest => do
      let (shape, rest) ← membersFrom fuel rest
      match rest with
      | .sign ')' :: rest => return (shape, rest)
      | _ => none
    | .sign '\x7b' :: .sign '\x7d' :: rest => some (.other false, rest)
    | .sign '\x7b' :: rest => do
      let (first, behind) ← sumFrom fuel rest
      match behind with
      | .sign ':' :: _ => entriesFrom fuel rest
      | _ =>
        let (shape, rest) ← membersFrom fuel rest
        match rest with
        | .sign '\x7d' :: rest =>
          if first.isConstant && shape.isConstant then return (.other false, rest) else none
        | _ => none
    | _ => none

/-- A value with a sign or without, or a sum. -/
def sumFrom : Nat → List Token → Option (Shape × List Token)
  | 0, _ => none
  | fuel + 1, ts => do
    let (left, rest) ← match ts with
      | .sign c :: rest =>
        if c = '+' || c = '-' then
          match atomFrom fuel rest with
          | some (.number imaginary, rest) => some (.signed imaginary, rest)
          | _ => none
        else atomFrom fuel ts
      | _ => atomFrom fuel ts
    match rest with
    | .sign c :: more =>
      if c = '+' || c = '-' then
        match atomFrom fuel more with
        | some (.number true, rest) =>
          if left.isReal && !(rest.head? == some (.sign '+') || rest.head? == some (.sign '-'))
          then return (.other true, rest)
          else none
        | _ => none
      else return (left, rest)
    | _ => return (left, rest)

/-- Values with commas between them; a single one without a comma stands for itself. -/
def membersFrom : Nat → List Token → Option (Shape × List Token)
  | 0, _ => none
  | fuel + 1, ts => do
    let (first, rest) ← sumFrom fuel ts
    match rest with
    | .sign ',' :: rest =>
      match rest with
      | .sign c :: _ =>
        if isClosing c then return (.other first.isConstant, rest)
        else
          let (others, rest) ← membersFrom fuel rest
          return (.other (first.isConstant && others.isConstant), rest)
      | [] | .lineEnd :: _ => return (.other first.isConstant, rest)
      | _ =>
        let (others, rest) ← membersFrom fuel rest
        return (.other (first.isConstant && others.isConstant), rest)
    | _ => return (first, rest)

/-- Keys with their values, up to the closing brace. -/
def entriesFrom : Nat → List Token → Option (Shape × List Token)
  | 0, _ => none
  | fuel + 1, ts => do
    let (key, rest) ← sumFrom fuel ts
    match rest with
    | .sign ':' :: rest =>
      let (_, rest) ← sumFrom fuel rest
      if !key.isConstant then none
      else
        match rest with
        | .sign '\x7d' :: rest | .sign ',' :: .sign '\x7d' :: rest => return (.other false, rest)
        | .sign ',' :: rest => entriesFrom fuel rest
        | _ => none
    | _ => none
end

/-- Whether a text is a literal. -/
def isLiteral (s : String) : Bool :=
  match tokens? s with
  | none => false
  | some ts =>
    match membersFrom (4 * ts.length + 4) (ts.dropWhile (· == .lineEnd)) with
    | some (_, rest) => rest.all (· == .lineEnd)
    | none => false

end Console
end JavaCompanion
