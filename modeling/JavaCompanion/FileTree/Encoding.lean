/-
Texts as bytes.
-/
import JavaCompanion.FileTree.CodePage
import JavaCompanion.Text.Lines
import JavaCompanion.Text.Quoted
import JavaCompanion.Text.Surrogate

namespace JavaCompanion
namespace FileTree

/-- The order of the bytes of a code unit. -/
inductive ByteOrder where
  | lowFirst
  | highFirst
  deriving DecidableEq, Repr

inductive Encoding where
  | utf8
  | utf16 (order : ByteOrder)
  | utf32 (order : ByteOrder)
  | ascii
  | latin1
  | paged (page : CodePage)
  /-- An encoding with its mark in front of the text. -/
  | marked (encoding : Encoding)

namespace Encoding

/-! ## Names -/

/-- The encodings other than pages, each under all of its names. -/
def named : List (List String × Encoding) :=
  [ (["utf_8", "u8", "utf", "utf8", "utf8_ucs2", "utf8_ucs4", "cp65001"], .utf8),
    (["utf_8_sig"], .marked .utf8),
    (["utf_16", "u16", "utf16"], .marked (.utf16 .lowFirst)),
    (["utf_16_le", "utf_16le", "unicodelittleunmarked"], .utf16 .lowFirst),
    (["utf_16_be", "utf_16be", "unicodebigunmarked"], .utf16 .highFirst),
    (["utf_32", "u32", "utf32"], .marked (.utf32 .lowFirst)),
    (["utf_32_le", "utf_32le"], .utf32 .lowFirst),
    (["utf_32_be", "utf_32be"], .utf32 .highFirst),
    (["ascii", "646", "ansi_x3.4_1968", "ansi_x3_4_1968", "ansi_x3.4_1986", "cp367", "csascii",
      "ibm367", "iso646_us", "iso_646.irv_1991", "iso_ir_6", "us", "us_ascii"], .ascii),
    (["latin_1", "8859", "cp819", "csisolatin1", "ibm819", "iso8859", "iso8859_1", "iso_8859_1",
      "iso_8859_1_1987", "iso_ir_100", "l1", "latin", "latin1"], .latin1) ]

/-- Letters, digits and dots, with one underscore between two runs of them. -/
def nameFrom (divided : Bool) : List Char → List Char
  | [] => []
  | c :: rest =>
    if c.isAlphanum || c = '.' then
      if divided then '_' :: c.toLower :: nameFrom false rest else c.toLower :: nameFrom false rest
    else nameFrom true rest

/-- The form of a name in which case and dividing marks make no difference. -/
def normalName (name : String) : String :=
  String.ofList (nameFrom false (name.toList.dropWhile fun c => !(c.isAlphanum || c = '.')))

/-- The encoding of that name, whatever its case and the dividing marks in it. -/
def ofName? (name : String) : Option Encoding :=
  let name := normalName name
  match named.find? (·.1.contains name) with
  | some entry => some entry.2
  | none => (CodePage.all.find? (·.names.contains name)).map .paged

/-! ## Bytes of texts -/

/-- The code units of a character in UTF-16. -/
def units16 (c : Char) : List Nat :=
  if c.toNat < 0x10000 then [c.toNat]
  else
    let n := c.toNat - 0x10000
    [0xd800 + n / 0x400, 0xdc00 + n % 0x400]

/-- A number as so many bytes, the lowest first. -/
def lowFirstBytes : Nat → Nat → List UInt8
  | 0, _ => []
  | width + 1, n => UInt8.ofNat (n % 256) :: lowFirstBytes width (n / 256)

def unitBytes (order : ByteOrder) (width n : Nat) : List UInt8 :=
  match order with
  | .lowFirst => lowFirstBytes width n
  | .highFirst => (lowFirstBytes width n).reverse

def bytes16 (order : ByteOrder) (cs : List Char) : ByteArray :=
  ⟨(cs.flatMap fun c => (units16 c).flatMap (unitBytes order 2)).toArray⟩

def bytes32 (order : ByteOrder) (cs : List Char) : ByteArray :=
  ⟨(cs.flatMap fun c => unitBytes order 4 c.toNat).toArray⟩

/-- The bytes of characters each of which is one byte. -/
def singleBytes (byteOf? : Nat → Option Nat) (cs : List Char) : Option ByteArray :=
  (cs.mapM fun c => (byteOf? c.toNat).map UInt8.ofNat).map fun bytes => ⟨bytes.toArray⟩

def codeBelow (bound n : Nat) : Option Nat := if n < bound then some n else none

/-- The bytes of characters, without a mark, if the encoding can express them. -/
def encodeChars : Encoding → List Char → Option ByteArray
  | .utf8, cs => some (String.ofList cs).toUTF8
  | .utf16 order, cs => some (bytes16 order cs)
  | .utf32 order, cs => some (bytes32 order cs)
  | .ascii, cs => singleBytes (codeBelow 0x80) cs
  | .latin1, cs => singleBytes (codeBelow 0x100) cs
  | .paged page, cs => singleBytes page.byteOf? cs
  | .marked e, cs => e.encodeChars cs

/-- The bytes of a text, without a mark, if the encoding can express it.  None expresses a
surrogate on its own. -/
def encode (e : Encoding) (s : String) : Option ByteArray :=
  (Text.characters? s.toList).bind e.encodeChars

/-- The same encoding, for what follows the mark. -/
def unmarked : Encoding → Encoding
  | .marked e => e.unmarked
  | e => e

/-- What stands in front of the first text that is written. -/
def mark : Encoding → ByteArray
  | .marked e => (e.encodeChars ['\ufeff']).getD .empty
  | _ => .empty

/-! ## Texts of bytes -/

/-- The numbers that so many bytes each make, if no byte is left over.  The fuel bounds the
number of bytes. -/
def numbers? (order : ByteOrder) (width : Nat) : Nat → List UInt8 → Option (List Nat)
  | _, [] => some []
  | 0, _ => none
  | fuel + 1, bytes =>
    let unit := bytes.take width
    if unit.length < width then none
    else
      let highFirst := match order with
        | .lowFirst => unit.reverse
        | .highFirst => unit
      (numbers? order width fuel (bytes.drop width)).map
        (highFirst.foldl (fun n b => 256 * n + b.toNat) 0 :: ·)

/-- The characters of code units of sixteen bits, if every surrogate has its partner. -/
def chars16? : List Nat → Option (List Char)
  | [] => some []
  | n :: rest =>
    if Text.isHighSurrogate n then
      match rest with
      | low :: rest =>
        if Text.isLowSurrogate low then (chars16? rest).map (Text.joinSurrogates n low :: ·)
        else none
      | [] => none
    else if Text.isLowSurrogate n then none
    else (chars16? rest).map (Char.ofNat n :: ·)

/-- The characters of code points, if all of them are characters. -/
def chars32? (ns : List Nat) : Option (List Char) :=
  ns.mapM fun n => if n.isValidChar then some (Char.ofNat n) else none

/-- The text of bytes in one of the Unicode encodings. -/
def decodeUnicode? (bytes : ByteArray) : Encoding → Option String
  | .utf8 => (String.fromUTF8? bytes).map Text.spelled
  | .utf16 order => do
    let units ← numbers? order 2 bytes.size bytes.data.toList
    return Text.spelled (String.ofList (← chars16? units))
  | .utf32 order => do
    let points ← numbers? order 4 bytes.size bytes.data.toList
    return Text.spelled (String.ofList (← chars32? points))
  | .marked e => do
    let s ← decodeUnicode? bytes e
    match s.toList with
    | '\ufeff' :: rest => return String.ofList rest
    | _ => return s
  | _ => none

end Encoding

def decode (bytes : ByteArray) : Option String := (String.fromUTF8? bytes).map Text.spelled

/-- The text of a file as it is read: every kind of line end counts as a line feed. -/
def decodeLines (bytes : ByteArray) : Option String :=
  (decode bytes).map fun s => String.ofList (Text.foldBreaks s.toList)

/-- The bytes as text for display; those that are no UTF-8 are shown by their numbers. -/
def shown (bytes : ByteArray) : String :=
  match decode bytes with
  | some s => s
  | none => String.ofList (showFrom bytes.size bytes.data.toList)
where
  /-- The characters of a list of bytes.  The fuel bounds their number. -/
  showFrom : Nat → List UInt8 → List Char
    | 0, _ => []
    | _, [] => []
    | fuel + 1, b :: rest =>
      match (List.range 4).findSome? fun n =>
          (String.fromUTF8? ⟨((b :: rest).take (n + 1)).toArray⟩).bind fun s =>
            match s.toList with
            | [c] => some (c, n)
            | _ => none with
      | some (c, n) => Text.spelledChar c ++ showFrom fuel (rest.drop n)
      | none => '\\' :: 'x' :: Text.hexDigits 2 b.toNat ++ showFrom fuel rest

end FileTree
end JavaCompanion
