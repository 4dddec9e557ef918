/-
Text in quotes, as it stands in messages.

The quote is the single one, unless the text holds single quotes and no double ones.  The
backslash, the quote in use, every character that is not printable and every surrogate are
escaped; the line feed, the carriage return and the tab have escapes of their own.
-/
import JavaCompanion.Text.PrintableTable
import JavaCompanion.Text.Surrogate

namespace JavaCompanion
namespace Text

def isPrintable (c : Char) : Bool :=
  if c.toNat < 127 then 32 ≤ c.toNat else inRanges printableRanges c.toNat

/-- The last `width` hexadecimal digits of a number. -/
def hexDigits : Nat → Nat → List Char
  | 0, _ => []
  | width + 1, n => hexDigits width (n / 16) ++ [Nat.digitChar (n % 16)]

def quoteFor (cs : List Char) : Char :=
  if cs.contains '\'' && !cs.contains '"' then '"' else '\''

/-- The escape of a code point, as short as its size allows. -/
def codePointEscape (n : Nat) : List Char :=
  if n < 0x100 then '\\' :: 'x' :: hexDigits 2 n
  else if n < 0x10000 then '\\' :: 'u' :: hexDigits 4 n
  else '\\' :: 'U' :: hexDigits 8 n

def escapeChar (quote c : Char) : List Char :=
  if c = quote || c = '\\' then ['\\', c]
  else if c = '\n' then ['\\', 'n']
  else if c = '\r' then ['\\', 'r']
  else if c = '\t' then ['\\', 't']
  else if isPrintable c then [c]
  else codePointEscape c.toNat

/-- What a character or a surrogate comes to between quotes. -/
def escapeSymbol (quote : Char) (symbol : List Char) : List Char :=
  match symbol with
  | [c] => escapeChar quote c
  | _ => codePointEscape (codeOf symbol)

def quotedChars (cs : List Char) : List Char :=
  let quote := quoteFor cs
  quote :: (symbols cs).flatMap (escapeSymbol quote) ++ [quote]

def quoted (s : String) : String := String.ofList (quotedChars s.toList)

end Text
end JavaCompanion
