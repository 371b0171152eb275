import SealedToken.Text.Basic

namespace SealedToken

namespace CodePoint

def lower (c : CodePoint) : CodePoint :=
  if h : 0x41 ≤ c.val ∧ c.val ≤ 0x5A then ⟨c.val + 0x20, by omega⟩ else c

theorem val_lower (c : CodePoint) :
    c.lower.val = if 0x41 ≤ c.val ∧ c.val ≤ 0x5A then c.val + 0x20 else c.val := by
  unfold lower
  split <;> rfl

/-- `lower`, and the Kelvin sign, the one other code point whose lower case is an ASCII letter. -/
def foldName (c : CodePoint) : CodePoint :=
  if c.val = 0x212A then 0x6B else c.lower

end CodePoint

namespace Text

def lower (t : Text) : Text :=
  t.map CodePoint.lower

def sameName (s t : Text) : Bool :=
  s.map CodePoint.foldName == t.map CodePoint.foldName

end Text

end SealedToken
