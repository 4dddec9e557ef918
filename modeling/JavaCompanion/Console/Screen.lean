/-
The console.

How a text, a table, a panel or the lines of a source get on the console is for the library that
draws them to say.  Here it is any way to make lines of them (`Screen`), of which some may fail.
The basic screen reads markup, breaks lines and draws no frames.
-/
import JavaCompanion.Console.Table
import JavaCompanion.Fault

namespace JavaCompanion
namespace Console

/-- The lines that texts, tables, panels and source texts come to, if they can be shown. -/
structure Screen where
  text : String → Except Fault (List String)
  table : Table → Except Fault (List String)
  panel : Panel → Except Fault (List String)
  source : String → Except Fault (List String)

def ofUnshown : Unshown → Fault
  | .badTag => .markup
  | .badColor => .mismatch (.content .null)

/-- Lines on their way to the console, which takes no surrogates. -/
def sent (lines : Except Unshown (List String)) : Except Fault (List String) := do
  let lines ← orFault ofUnshown lines
  if lines.all fun line => (Text.characters? line.toList).isSome then return lines
  else .error .unencodable

def basic : Screen where
  text s := sent (textLines s)
  table t := sent t.lines
  panel p := sent p.lines
  source code := sent (.ok (sourceLines code))

end Console
end JavaCompanion
