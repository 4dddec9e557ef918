/-
Why a template of the basic language cannot be rendered.
-/
import JavaCompanion.Text.Quoted

namespace JavaCompanion
namespace Template

/-- What may close or continue the innermost branch that is open: before an else all three
tags, behind it only the last. -/
def closingTags (inElse : Bool) : List String :=
  if inElse then ["endif"] else ["elif", "else", "endif"]

inductive Cause where
  | undefined (variableName : String)
  /-- A filter nobody knows, found before anything is rendered. -/
  | unknownFilter (name : String)
  /-- A filter nobody knows, reached inside a branch. -/
  | missingFilter (name : String)
  /-- A test nobody knows. -/
  | unknownTest (name : String)
  /-- A value without the member that is asked for. -/
  | noMember (owner memberName : String)
  /-- A collection without the element that is asked for. -/
  | noElement (owner shownKey : String)
  /-- An expression that is well formed but has no value here. -/
  | unsupported (what : String)
  | unclosedComment
  | unclosedRaw
  /-- A bracket closes that is not open, while another one may be. -/
  | unexpectedBracket (found : Char) (awaited : Option Char)
  /-- A word with a character that no name can hold. -/
  | invalidName
  /-- An escape with fewer hexadecimal digits than it needs. -/
  | cutEscape (width : Nat)
  /-- An escape beyond the last code point. -/
  | farEscape
  | malformedNameEscape
  | unknownCharacterName
  /-- A whole number with more digits than can be read. -/
  | tooManyDigits
  /-- Expressions inside each other beyond any depth that tokens allow. -/
  | tooDeep
  /-- A test of a test. -/
  | chainedTest
  | invalidCall
  /-- A dot without a name or a number behind it. -/
  | noMemberName
  /-- The end of a tag where an expression should begin. -/
  | noExpression (found : String)
  /-- Something else where an expression should begin. -/
  | misplaced (found : String)
  | noTagName
  /-- Something that is not what must follow; nothing is found at the end of the template. -/
  | expected (what : String) (found : Option String)
  /-- A tag that means nothing here.  The open branches are given innermost first, each by
  whether its else has been seen. -/
  | unknownTag (name : String) (openBranches : List Bool)
  /-- The template ends inside a branch. -/
  | unclosedBranch (openBranches : List Bool)
  | unexpectedCharacter (c : Char) (offset : Nat)

def quotedChoice (tags : List String) : String :=
  String.intercalate " or " (tags.map Text.quoted)

/-- What a template with open branches is waiting for. -/
def awaited (tag : Option String) : List Bool → String
  | [] => ""
  | inElse :: outer =>
    let tags := closingTags inElse
    let nested := match tag with
      | some name => ((inElse :: outer).flatMap closingTags).contains name
      | none => false
    (if nested then
      " You probably made a nesting mistake. Jinja is expecting this tag, but currently "
        ++ "looking for " ++ quotedChoice tags ++ "."
    else " Jinja was looking for the following tags: " ++ quotedChoice tags ++ ".")
      ++ " The innermost block that needs to be closed is 'if'."

def Cause.message : Cause → String
  | .undefined name => Text.quoted name ++ " is undefined"
  | .unknownFilter name => "No filter named " ++ Text.quoted name ++ "."
  | .missingFilter name => "No filter named " ++ Text.quoted name ++ " found."
  | .unknownTest name => "No test named " ++ Text.quoted name ++ "."
  | .noMember owner memberName =>
    Text.quoted owner ++ " has no attribute " ++ Text.quoted memberName
  | .noElement owner shownKey => owner ++ " has no element " ++ shownKey
  | .unsupported what => what ++ " cannot be evaluated"
  | .unclosedComment => "Missing end of comment tag"
  | .unclosedRaw => "Missing end of raw directive"
  | .unexpectedBracket found none => "unexpected '" ++ String.singleton found ++ "'"
  | .unexpectedBracket found (some awaited) =>
    "unexpected '" ++ String.singleton found ++ "', expected '"
      ++ String.singleton awaited ++ "'"
  | .invalidName => "Invalid character in identifier"
  | .cutEscape width =>
    let letter := if width = 2 then "x" else if width = 4 then "u" else "U"
    "truncated \\" ++ letter ++ String.ofList (List.replicate width 'X') ++ " escape"
  | .farEscape => "illegal Unicode character"
  | .malformedNameEscape => "malformed \\N character escape"
  | .unknownCharacterName => "unknown Unicode character name"
  | .tooManyDigits => "too many digits"
  | .tooDeep => "nested too deeply"
  | .chainedTest => "You cannot chain multiple tests with is"
  | .invalidCall => "invalid syntax for function call expression"
  | .noMemberName => "expected name or number"
  | .noExpression found => "Expected an expression, got " ++ Text.quoted found
  | .misplaced found => "unexpected " ++ Text.quoted found
  | .noTagName => "tag name expected"
  | .expected what none => "unexpected end of template, expected " ++ Text.quoted what ++ "."
  | .expected what (some found) =>
    "expected token " ++ Text.quoted what ++ ", got " ++ Text.quoted found
  | .unknownTag name openBranches =>
    "Encountered unknown tag " ++ Text.quoted name ++ "." ++ awaited (some name) openBranches
  | .unclosedBranch openBranches => "Unexpected end of template." ++ awaited none openBranches
  | .unexpectedCharacter c offset =>
    "unexpected char " ++ Text.quoted (String.singleton c) ++ " at " ++ toString offset

end Template
end JavaCompanion
