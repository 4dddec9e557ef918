/-
Why a text is no JSON, and where, or why it is not read although it is.

A place is given three ways: line and column, both from one, and the count of characters
before it.
-/
import JavaCompanion.Text.Surrogate

namespace JavaCompanion
namespace Json

inductive Cause where
  | value
  | memberName
  | colon
  | comma
  | extraData
  | unterminated
  | controlCharacter
  | escape
  | unicodeEscape
  | byteOrderMark
  deriving DecidableEq, Repr

def Cause.message : Cause → String
  | .value => "Expecting value"
  | .memberName => "Expecting property name enclosed in double quotes"
  | .colon => "Expecting ':' delimiter"
  | .comma => "Expecting ',' delimiter"
  | .extraData => "Extra data"
  | .unterminated => "Unterminated string starting at"
  | .controlCharacter => "Invalid control character at"
  | .escape => "Invalid \\escape"
  | .unicodeEscape => "Invalid \\uXXXX escape"
  | .byteOrderMark => "Unexpected UTF-8 BOM (decode using utf-8-sig)"

/-- A cause with its place. -/
structure Malformed where
  cause : Cause
  line : Nat
  column : Nat
  offset : Nat
  deriving DecidableEq, Repr

/-- The cause at the end of the characters `passed`. -/
def Malformed.after (cause : Cause) (passed : List Char) : Malformed where
  cause := cause
  line := passed.count '\n' + 1
  column := (Text.symbols (passed.reverse.takeWhile (· != '\n')).reverse).length + 1
  offset := (Text.symbols passed).length

def Malformed.message (m : Malformed) : String :=
  m.cause.message ++ ": line " ++ toString m.line ++ " column " ++ toString m.column
    ++ " (char " ++ toString m.offset ++ ")"

/-- Why a text is not read: it is malformed, or it goes beyond a limit. -/
inductive Unread where
  | malformed (m : Malformed)
  /-- A whole number of so many digits. -/
  | tooManyDigits (count : Nat)
  /-- Too many lists and objects inside each other. -/
  | tooDeep
  deriving DecidableEq, Repr

end Json
end JavaCompanion
