/-
Expressions in the tags of templates.

From the loosest binding to the tightest: a choice `a if c else b`, `or`, `and`, `not`, the
comparisons, `+` and `-`, the joining of texts by `~`, `*`, `/`, `//` and `%`, `**`, and a
sign in front of an operand.  Behind an operand stand members, elements, calls, filters
and tests.  Reading takes the tokens one after another; a failure among them is met when the
token before it is taken.
-/
import JavaCompanion.Template.Token

namespace JavaCompanion
namespace Template

inductive Relation where
  | equal
  | unequal
  | less
  | lessOrEqual
  | greater
  | greaterOrEqual
  | within
  | notWithin
  deriving DecidableEq

inductive Expression where
  | constant (v : Value)
  | variable (name : String)
  | negative (e : Expression)
  | positive (e : Expression)
  | negation (e : Expression)
  | conjunction (left right : Expression)
  | disjunction (left right : Expression)
  /-- The third expression is left out where only one case has a value. -/
  | choice (condition yes : Expression) (no : Option Expression)
  | comparison (first : Expression) (others : List (Relation × Expression))
  | joined (parts : List Expression)
  | arithmetic (operator : String) (left right : Expression)
  | sequence (items : List Expression)
  /-- Several expressions with commas between them, which print in parentheses. -/
  | tuple (items : List Expression)
  | dictionary (entries : List (Expression × Expression))
  | member (owner : Expression) (name : String)
  | element (owner key : Expression)
  | slice
  | call (callee : Expression) (arguments : List Expression)
  | filtered (subject : Expression) (name : String) (arguments : List Expression)
  | tested (subject : Expression) (name : String) (arguments : List Expression)

/-- Steps that take tokens. -/
abbrev Reading := StateT (List Token) (Except Cause)

namespace Reading

/-- The next token, if the template does not end. -/
def peek : Reading (Option Token) := do return (← get).head?

def goOn (rest : List Token) : Reading Unit :=
  match rest with
  | .failure c :: _ => throw c
  | _ => set rest

def advance : Reading Unit := do goOn (← get).tail

/-- The token behind the next one. -/
def look : Reading (Option Token) := do
  match (← get).tail with
  | .failure c :: _ => throw c
  | rest => return rest.head?

def isWord (s : String) : Option Token → Bool
  | some (.word t) => t == s
  | _ => false

def isSign (s : String) : Option Token → Bool
  | some (.sign t) => t == s
  | _ => false

def takeWord (s : String) : Reading Bool := do
  if isWord s (← peek) then
    advance
    return true
  else return false

def takeSign (s : String) : Reading Bool := do
  if isSign s (← peek) then
    advance
    return true
  else return false

def shownNext : Reading String := do
  return match ← peek with
    | some t => t.shown
    | none => "end of template"

/-- Takes the next token, which must be what is expected. -/
def expect (what : String) (fits : Token → Bool) : Reading Unit := do
  match ← peek with
  | none => throw (.expected what none)
  | some t => if fits t then advance else throw (.expected what (some t.shown))

def expectSign (s : String) : Reading Unit := expect s fun t => isSign s (some t)

def expectEnd (kind : TagKind) : Reading Unit :=
  expect (Token.closing kind).shown fun
    | .closing k => k == kind
    | _ => false

def anyWord : Reading String := do
  match ← peek with
  | some (.word s) =>
    advance
    return s
  | some t => throw (.expected "name" (some t.shown))
  | none => throw (.expected "name" none)

end Reading

open Reading

/-- The words that are constants and no variables. -/
def constants : List (String × Value) :=
  [ ("true", .bool true), ("True", .bool true), ("false", .bool false), ("False", .bool false),
    ("none", .null), ("None", .null) ]

def ofWord (s : String) : Expression :=
  match constants.find? (·.1 == s) with
  | some entry => .constant entry.2
  | none => .variable s

/-- The levels of operators between two operands that bind to the left. -/
inductive Level where
  | disjunction
  | conjunction
  | sum
  | product
  | power
  deriving DecidableEq

/-- What the next token makes of the operands on both sides of it. -/
def Level.operator? (level : Level) (t : Option Token) :
    Option (Expression → Expression → Expression) :=
  let among (operators : List String) : Option (Expression → Expression → Expression) :=
    match t with
    | some (.sign s) => if operators.contains s then some (.arithmetic s) else none
    | _ => none
  match level with
  | .disjunction => if isWord "or" t then some .disjunction else none
  | .conjunction => if isWord "and" t then some .conjunction else none
  | .sum => among ["+", "-"]
  | .product => among ["*", "/", "//", "%"]
  | .power => among ["**"]

def relationSigns : List (String × Relation) :=
  [ ("==", .equal), ("!=", .unequal), ("<", .less), ("<=", .lessOrEqual), (">", .greater),
    (">=", .greaterOrEqual) ]

/-- Takes the relation that comes next, if one does. -/
def relation? : Reading (Option Relation) := do
  match ← peek with
  | some (.sign s) =>
    match relationSigns.find? (·.1 == s) with
    | some entry =>
      advance
      return some entry.2
    | none => return none
  | some (.word "in") =>
    advance
    return some .within
  | some (.word "not") =>
    if isWord "in" (← look) then
      advance
      advance
      return some .notWithin
    else return none
  | _ => return none

/-- The texts that come next, joined to the first one. -/
def moreQuoted : Nat → String → Reading String
  | 0, s => return s
  | fuel + 1, s => do
    match ← peek with
    | some (.quoted t) =>
      advance
      moreQuoted fuel (s ++ t)
    | _ => return s

/-- The rest of a name with dots in it. -/
def dotted : Nat → String → Reading String
  | 0, s => return s
  | fuel + 1, s => do
    if ← takeSign "." then
      let part ← anyWord
      dotted fuel (s ++ "." ++ part)
    else return s

/-- Whether the next token ends a sequence of expressions. -/
def endsTuple : Option Token → Bool
  | some (.closing _) => true
  | t => isSign ")" t

/-- Whether the next token begins the argument of a test that stands without parentheses. -/
def beginsArgument : Option Token → Bool
  | some (.word s) => s != "else" && s != "or" && s != "and"
  | some (.quoted _) | some (.integer _) | some (.decimal _) => true
  | t => isSign "[" t || isSign "\x7b" t

/-- What has been given of the arguments of a call. -/
structure Given where
  byName : Bool := false
  spread : Bool := false
  spreadNames : Bool := false

mutual

/-- Expressions with commas between them; a single one stands for itself. -/
def tupleOf (withChoice inParentheses : Bool) : Nat → Reading Expression
  | 0 => throw .tooDeep
  | fuel + 1 => do
    let (items, isTuple) ← tupleItems withChoice fuel []
    match items, isTuple with
    | [e], false => return e
    | [], false =>
      if inParentheses then return .tuple [] else throw (.noExpression (← shownNext))
    | _, _ => return .tuple items

/-- The items of a tuple, and whether a comma stands behind one of them. -/
def tupleItems (withChoice : Bool) : Nat → List Expression → Reading (List Expression × Bool)
  | 0, _ => throw .tooDeep
  | fuel + 1, read => do
    if endsTuple (← peek) then return (read.reverse, !read.isEmpty)
    let e ← expression withChoice fuel
    if ← takeSign "," then tupleItems withChoice fuel (e :: read)
    else return ((e :: read).reverse, !read.isEmpty)

def expression (withChoice : Bool) : Nat → Reading Expression
  | 0 => throw .tooDeep
  | fuel + 1 => do
    let e ← operand .disjunction fuel
    if withChoice then choices fuel e else return e

def choices : Nat → Expression → Reading Expression
  | 0, _ => throw .tooDeep
  | fuel + 1, yes => do
    if ← takeWord "if" then
      let condition ← operand .disjunction fuel
      if ← takeWord "else" then
        let no ← expression true fuel
        choices fuel (.choice condition yes (some no))
      else choices fuel (.choice condition yes none)
    else return yes

/-- An expression of a level: operands with the operators of the level between them. -/
def operand (level : Level) : Nat → Reading Expression
  | 0 => throw .tooDeep
  | fuel + 1 => do moreOperands level fuel (← tighter level fuel)

def moreOperands (level : Level) : Nat → Expression → Reading Expression
  | 0, _ => throw .tooDeep
  | fuel + 1, left => do
    match level.operator? (← peek) with
    | none => return left
    | some join =>
      advance
      let right ← tighter level fuel
      moreOperands level fuel (join left right)

/-- An operand of the operators of a level. -/
def tighter (level : Level) : Nat → Reading Expression
  | 0 => throw .tooDeep
  | fuel + 1 =>
    match level with
    | .disjunction => operand .conjunction fuel
    | .conjunction => negated fuel
    | .sum => joinedParts fuel []
    | .product => operand .power fuel
    | .power => signed true fuel

def negated : Nat → Reading Expression
  | 0 => throw .tooDeep
  | fuel + 1 => do
    if ← takeWord "not" then return .negation (← negated fuel)
    let first ← operand .sum fuel
    match ← comparisons fuel [] with
    | [] => return first
    | others => return .comparison first others

def comparisons : Nat → List (Relation × Expression) → Reading (List (Relation × Expression))
  | 0, _ => throw .tooDeep
  | fuel + 1, read => do
    match ← relation? with
    | none => return read.reverse
    | some r =>
      let e ← operand .sum fuel
      comparisons fuel ((r, e) :: read)

def joinedParts : Nat → List Expression → Reading Expression
  | 0, _ => throw .tooDeep
  | fuel + 1, read => do
    let e ← operand .product fuel
    if ← takeSign "~" then joinedParts fuel (e :: read)
    else if read.isEmpty then return e
    else return .joined (e :: read).reverse

/-- An operand with its sign.  Filters apply to it with its sign. -/
def signed (withFilters : Bool) : Nat → Reading Expression
  | 0 => throw .tooDeep
  | fuel + 1 => do
    let e ←
      if ← takeSign "-" then Expression.negative <$> signed false fuel
      else if ← takeSign "+" then Expression.positive <$> signed false fuel
      else primary fuel
    let e ← members fuel e
    if withFilters then filters fuel e else return e

def primary : Nat → Reading Expression
  | 0 => throw .tooDeep
  | fuel + 1 => do
    match ← peek with
    | some (.word s) =>
      advance
      return ofWord s
    | some (.quoted s) =>
      advance
      return .constant (.text (← moreQuoted fuel s))
    | some (.integer n) =>
      advance
      return .constant (.int n)
    | some (.decimal x) =>
      advance
      return .constant (.float x)
    | some (.sign "(") =>
      advance
      let e ← tupleOf true true fuel
      expectSign ")"
      return e
    | some (.sign "[") =>
      advance
      return .sequence (← listItems fuel [])
    | some (.sign "\x7b") =>
      advance
      return .dictionary (← entries fuel [])
    | _ => throw (.misplaced (← shownNext))

/-- The items of a list and the bracket that ends it. -/
def listItems : Nat → List Expression → Reading (List Expression)
  | 0, _ => throw .tooDeep
  | fuel + 1, read => do
    if ← takeSign "]" then return read.reverse
    if !read.isEmpty then
      expectSign ","
      if ← takeSign "]" then return read.reverse
    let e ← expression true fuel
    listItems fuel (e :: read)

/-- The entries of a dictionary and the brace that ends it. -/
def entries : Nat → List (Expression × Expression) → Reading (List (Expression × Expression))
  | 0, _ => throw .tooDeep
  | fuel + 1, read => do
    if ← takeSign "\x7d" then return read.reverse
    if !read.isEmpty then
      expectSign ","
      if ← takeSign "\x7d" then return read.reverse
    let key ← expression true fuel
    expectSign ":"
    let value ← expression true fuel
    entries fuel ((key, value) :: read)

/-- Members, elements and calls behind an operand. -/
def members : Nat → Expression → Reading Expression
  | 0, _ => throw .tooDeep
  | fuel + 1, e => do
    match ← peek with
    | some (.sign ".") =>
      advance
      match ← peek with
      | none => throw .noMemberName
      | some t =>
        advance
        match t with
        | .word name => members fuel (Expression.member e name)
        | .integer n => members fuel (.element e (.constant (.int n)))
        | _ => throw .noMemberName
    | some (.sign "[") =>
      advance
      match ← keys fuel [] with
      | [key] => members fuel (.element e key)
      | keys => members fuel (.element e (.tuple keys))
    | some (.sign "(") =>
      let arguments ← callArguments fuel
      members fuel (.call e arguments)
    | _ => return e

/-- The keys between brackets, and the bracket that ends them. -/
def keys : Nat → List Expression → Reading (List Expression)
  | 0, _ => throw .tooDeep
  | fuel + 1, read => do
    if ← takeSign "]" then return read.reverse
    if !read.isEmpty then expectSign ","
    let key ← keyOrSlice fuel
    keys fuel (key :: read)

/-- A key, or up to three of them with colons in between. -/
def keyOrSlice : Nat → Reading Expression
  | 0 => throw .tooDeep
  | fuel + 1 => do
    let key ← if isSign ":" (← peek) then pure none else some <$> expression true fuel
    match key, ← takeSign ":" with
    | some key, false => return key
    | _, _ =>
      sliceBound fuel
      if ← takeSign ":" then sliceBound fuel
      return .slice

/-- A bound of a slice, which may be left out. -/
def sliceBound : Nat → Reading Unit
  | 0 => throw .tooDeep
  | fuel + 1 => do
    let next ← peek
    if isSign ":" next || isSign "]" next || isSign "," next then return ()
    let _ ← expression true fuel

/-- The arguments of a call with its parentheses. -/
def callArguments : Nat → Reading (List Expression)
  | 0 => throw .tooDeep
  | fuel + 1 => do
    expectSign "("
    moreArguments fuel {} []

def moreArguments : Nat → Given → List Expression → Reading (List Expression)
  | 0, _, _ => throw .tooDeep
  | fuel + 1, given, read => do
    if ← takeSign ")" then return read.reverse
    if !read.isEmpty then
      expectSign ","
      if ← takeSign ")" then return read.reverse
    if isSign "*" (← peek) then
      if given.spread || given.spreadNames then throw .invalidCall
      advance
      let e ← expression true fuel
      moreArguments fuel { given with spread := true } (e :: read)
    else if isSign "**" (← peek) then
      if given.spreadNames then throw .invalidCall
      advance
      let e ← expression true fuel
      moreArguments fuel { given with spreadNames := true } (e :: read)
    else
      let named ← match ← peek with
        | some (.word _) => isSign "=" <$> look
        | _ => pure false
      if named then
        if given.spreadNames then throw .invalidCall
        advance
        advance
        let e ← expression true fuel
        moreArguments fuel { given with byName := true } (e :: read)
      else
        if given.byName || given.spread || given.spreadNames then throw .invalidCall
        let e ← expression true fuel
        moreArguments fuel given (e :: read)

/-- Filters, tests and calls behind an operand. -/
def filters : Nat → Expression → Reading Expression
  | 0, _ => throw .tooDeep
  | fuel + 1, e => do
    match ← peek with
    | some (.sign "|") =>
      advance
      let name ← dotted fuel (← anyWord)
      let arguments ← if isSign "(" (← peek) then callArguments fuel else pure []
      filters fuel (.filtered e name arguments)
    | some (.word "is") =>
      advance
      filters fuel (← test fuel e)
    | some (.sign "(") =>
      let arguments ← callArguments fuel
      filters fuel (.call e arguments)
    | _ => return e

/-- The test behind the word that announces it. -/
def test : Nat → Expression → Reading Expression
  | 0, _ => throw .tooDeep
  | fuel + 1, subject => do
    let isNegated ← takeWord "not"
    let name ← dotted fuel (← anyWord)
    let next ← peek
    let arguments ←
      if isSign "(" next then callArguments fuel
      else if beginsArgument next then
        if isWord "is" next then throw .chainedTest
        let e ← members fuel (← primary fuel)
        pure [e]
      else pure []
    let found := Expression.tested subject name arguments
    return if isNegated then .negation found else found

end

/-- How many steps the reading of tokens can take one inside the other: for each token every
level once. -/
def depth (tokens : List Token) : Nat := 24 * (tokens.length + 2)

/-- One expression or several with commas between them. -/
def tupleExpression (withChoice : Bool) : Reading Expression := do
  tupleOf withChoice false (depth (← get))

end Template
end JavaCompanion
