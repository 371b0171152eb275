import SealedToken.Text.Basic

namespace SealedToken

namespace CodePoint

def isBlank (c : CodePoint) : Bool :=
  (0x09 ≤ c.val && c.val ≤ 0x0D) || c.val = 0x20 || c.val = 0x85 || c.val = 0xA0 ||
    c.val = 0x1680 || (0x2000 ≤ c.val && c.val ≤ 0x200A) || c.val = 0x2028 || c.val = 0x2029 ||
    c.val = 0x202F || c.val = 0x205F || c.val = 0x3000

/-- The blanks, and the four controls that separate files, groups, records and units. -/
def isSpace (c : CodePoint) : Bool :=
  c.isBlank || (0x1C ≤ c.val && c.val ≤ 0x1F)

end CodePoint

namespace Text

def trimRight (p : CodePoint → Bool) (t : Text) : Text :=
  (t.reverse.dropWhile p).reverse

def trim (t : Text) : Text :=
  trimRight CodePoint.isBlank (t.dropWhile CodePoint.isBlank)

end Text

end SealedToken
