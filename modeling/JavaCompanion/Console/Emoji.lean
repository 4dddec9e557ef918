/-
Pictures in console texts.

A name between two colons stands for a picture, whatever its case.  Behind the name it may be
said whether the picture is meant as text or as an emoji.  Names are read from the left, up to
the next colon; one that is unknown stays, with both of its colons.
-/
import JavaCompanion.Console.EmojiTable
import JavaCompanion.Text.Blank
import JavaCompanion.Text.Case
import JavaCompanion.Text.Split

namespace JavaCompanion
namespace Console

/-- The picture of an entry, if it is that of the name. -/
def pictureIn? (name : List Char) (entry : List Char) : Option (List Char) :=
  if (name ++ ['=']).isPrefixOf entry then some (entry.drop (name.length + 1)) else none

/-- The picture of a name. -/
def picture? (name : List Char) : Option (List Char) :=
  emojiLines.findSome? fun line => (Text.parts ' ' line.toList).findSome? (pictureIn? name)

/-- The two ways to mean a picture, each with the sign that says so. -/
def variants : List (List Char × Char) :=
  [("-emoji".toList, '\ufe0f'), ("-text".toList, '\ufe0e')]

/-- The picture for what stands between two colons. -/
def pictureOf? (body : List Char) : Option (List Char) :=
  let picture (name : List Char) : Option (List Char) :=
    picture? (Text.lower (String.ofList name)).toList
  match variants.find? fun v => v.1.isSuffixOf body with
  | some v => (picture (body.take (body.length - v.1.length))).map (· ++ [v.2])
  | none => picture body

/-- What stands up to the next colon, if no blank comes before it. -/
def colonBody? (cs : List Char) : Option (List Char) :=
  let body := cs.takeWhile (· != ':')
  if body.length < cs.length && !body.any Text.isBlank then some body else none

/-- A text with pictures for their names.  The first `skip` characters belong to a name that
has been read. -/
def withPicturesFrom : Nat → List Char → List Char
  | _, [] => []
  | skip + 1, _ :: rest => withPicturesFrom skip rest
  | 0, ':' :: rest =>
    match colonBody? rest with
    | some body =>
      (pictureOf? body).getD (':' :: body ++ [':']) ++ withPicturesFrom (body.length + 1) rest
    | none => ':' :: withPicturesFrom 0 rest
  | 0, c :: rest => c :: withPicturesFrom 0 rest

def withPictures (cs : List Char) : List Char := withPicturesFrom 0 cs

end Console
end JavaCompanion
