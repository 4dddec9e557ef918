/-
The characters that continue a word: letters, numbers and the underscore.
-/
import JavaCompanion.Text.WordTable

namespace JavaCompanion
namespace Text

def isWordChar (c : Char) : Bool :=
  if c.toNat < 128 then c.isAlphanum || c == '_' else inRanges wordRanges c.toNat

end Text
end JavaCompanion
