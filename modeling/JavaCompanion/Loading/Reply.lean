/-
Replies of servers to requests for a document.
-/
import JavaCompanion.FileTree.Encoding
import JavaCompanion.Text.Case

namespace JavaCompanion
namespace Loading

/-- Why a request gets no reply. -/
inductive RequestFailure where
  | timeout
  | connection
  /-- A status that counts as a failure, without the reply it belongs to. -/
  | status
  | other
  deriving DecidableEq, Repr

inductive Reply where
  | failed (why : RequestFailure) (detail : String)
  | received (status : Int) (headers : List (String × String)) (body : String)
  /-- A reply whose body is refused without being read. -/
  | unreadable (status : Int) (headers : List (String × String)) (detail : String)

/-- What a header says, whatever the case of its name.  Of several the last counts. -/
def headerValue (headers : List (String × String)) (name : String) : String :=
  ((headers.reverse.find? fun h => Text.lower h.1 == Text.lower name).map (·.2)).getD ""

def isFailure (status : Int) : Bool := 400 ≤ status && status < 600

/-! ## Bodies -/

open FileTree in
/-- The encoding of a body that should be JSON, told by where null bytes stand among its first
four, or by the mark that it begins with. -/
def bodyEncoding? (bytes : List UInt8) : Option Encoding :=
  match bytes.take 4 |>.map (· == 0), bytes with
  | _, 0xef :: 0xbb :: 0xbf :: _ => some (.marked .utf8)
  | [false, false, false, false], _ => some .utf8
  | [true, false, true, false], _ => some (.utf16 .highFirst)
  | [false, true, false, true], _ => some (.utf16 .lowFirst)
  | [true, true, true, false], _ => some (.utf32 .highFirst)
  | [false, true, true, true], _ => some (.utf32 .lowFirst)
  | _, _ => none

/-- The text of a body: in the encoding that it seems to have, or else as it came. -/
def bodyText (body : String) : String :=
  ((Text.bytes? body).bind fun bytes =>
    (bodyEncoding? bytes.data.toList).bind fun e => e.decodeUnicode? bytes).getD body

end Loading
end JavaCompanion
