/-
Addresses of documents on the network: a scheme, then a server behind two slashes.

A server may be given by number, in brackets.  What stands in brackets has to be such a
number; an address in which it is not cannot be read at all.
-/
import JavaCompanion.Text.Split

namespace JavaCompanion
namespace Loading

/-! ## Servers by number -/

def isHexDigit (c : Char) : Bool :=
  c.isDigit || ('a' ≤ c && c ≤ 'f') || ('A' ≤ c && c ≤ 'F')

/-- A group of a long number: up to four hexadecimal digits. -/
def isGroup (cs : List Char) : Bool := !cs.isEmpty && cs.length ≤ 4 && cs.all isHexDigit

def decimalValue (cs : List Char) : Nat := cs.foldl (fun n c => 10 * n + (c.toNat - '0'.toNat)) 0

/-- A part of a short number: at most 255, without leading zeros. -/
def isOctet (cs : List Char) : Bool :=
  !cs.isEmpty && cs.length ≤ 3 && cs.all Char.isDigit
    && (cs.length = 1 || cs.head? != some '0') && decimalValue cs ≤ 255

def isShortNumber (cs : List Char) : Bool :=
  let octets := Text.parts '.' cs
  octets.length = 4 && octets.all isOctet

/-- The groups between colons; a short number at the end counts as two groups. -/
def groupsBetween (cs : List Char) : List (List Char) :=
  let groups := Text.parts ':' cs
  match groups.getLast? with
  | some last => if isShortNumber last then groups.dropLast ++ [['0'], ['0']] else groups
  | none => groups

/-- The groups on one side of a gap; none stand where a colon touches the end. -/
def sideOfGap (groups : List (List Char)) : List (List Char) :=
  if groups = [[]] then [] else groups

/-- Eight groups, or fewer with one gap between colons for those that are left out. -/
def isLongNumber (cs : List Char) : Bool :=
  match groupsBetween cs with
  | first :: rest =>
    let inner := rest.dropLast
    match inner.dropWhile (!·.isEmpty) with
    | [] => (first :: rest).length = 8 && (first :: rest).all isGroup
    | _ :: more =>
      let sides := sideOfGap (first :: inner.takeWhile (!·.isEmpty))
        ++ sideOfGap (more ++ rest.drop inner.length)
      sides.length ≤ 7 && sides.all isGroup
  | [] => false

/-- A long number, with a zone behind a percent sign or without one. -/
def isZonedNumber (cs : List Char) : Bool :=
  isLongNumber (cs.takeWhile (· != '%'))
    && match cs.dropWhile (· != '%') with
      | [] => true
      | _ :: zone => !zone.isEmpty && !zone.contains '%'

/-- A number of a later version: `v`, the version, a dot and anything more. -/
def isFutureNumber (cs : List Char) : Bool :=
  match cs with
  | 'v' :: rest =>
    !(rest.takeWhile isHexDigit).isEmpty
      && match rest.dropWhile isHexDigit with
        | '.' :: more => !more.isEmpty
        | _ => false
  | _ => false

def isNumber (cs : List Char) : Bool :=
  if cs.head? = some 'v' then isFutureNumber cs else isZonedNumber cs

/-! ## Servers -/

/-- Characters that stand for others among which is one that ends a server or divides it. -/
def disguises : List Nat :=
  [ 0x2047, 0x2048, 0x2049, 0x2100, 0x2101, 0x2105, 0x2106, 0x2a74, 0xfe13, 0xfe16, 0xfe55,
    0xfe56, 0xfe5f, 0xfe6b, 0xff03, 0xff0f, 0xff1a, 0xff1f, 0xff20 ]

/-- The part of a server behind the last at-sign: its name or number, and perhaps a port. -/
def hostAndPort (server : List Char) : List Char := (server.reverse.takeWhile (· != '@')).reverse

/-- Brackets begin the host, and only a port may follow them.  Where they stand in front of
the at-sign alone, the host must be a number without them. -/
def hasBracketedNumber (server : List Char) : Bool :=
  let host := hostAndPort server
  match host with
  | '[' :: rest =>
    let port := (rest.dropWhile (· != ']')).drop 1
    (port.isEmpty || port.head? == some ':') && isNumber (rest.takeWhile (· != ']'))
  | _ => !host.contains '[' && isNumber (host.takeWhile (· != ':'))

def isServer (server : List Char) : Bool :=
  server.all (fun c => !disguises.contains c.toNat)
    && if server.contains '[' || server.contains ']'
      then server.contains '[' && server.contains ']' && hasBracketedNumber server
      else true

/-! ## Addresses -/

/-- An address as it is read: no blanks and controls before it, no tabs and line ends in
it. -/
def cleanedAddress (url : String) : List Char :=
  (url.toList.dropWhile fun c => c.toNat ≤ 32).filter fun c => c != '\t' && c != '\n' && c != '\r'

def isSchemeChar (c : Char) : Bool := c.isAlphanum || c = '+' || c = '-' || c = '.'

/-- The scheme of an address, and what follows it. -/
def splitScheme (cs : List Char) : List Char × List Char :=
  let scheme := cs.takeWhile (· != ':')
  match cs.dropWhile (· != ':'), scheme with
  | ':' :: rest, c :: _ =>
    if c.isAlpha && scheme.all isSchemeChar then (scheme, rest) else ([], cs)
  | _, _ => ([], cs)

/-- The server that an address names behind two slashes. -/
def serverOf (cs : List Char) : List Char :=
  match cs with
  | '/' :: '/' :: rest => rest.takeWhile fun c => c != '/' && c != '?' && c != '#'
  | _ => []

/-- Whether an address names a scheme and a server, if it can be read. -/
def isAddress? (url : String) : Option Bool :=
  let (scheme, rest) := splitScheme (cleanedAddress url)
  let server := serverOf rest
  if isServer server then some (!scheme.isEmpty && !server.isEmpty) else none

end Loading
end JavaCompanion
