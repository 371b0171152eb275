import SealedToken.Text.Basic

namespace SealedToken

abbrev Block := BitVec 128

namespace Block

def toBytes (b : Block) : Bytes :=
  (List.range 16).map fun i => UInt8.ofNat (b.toNat >>> (8 * (15 - i)))

/-- The block that begins with the given bytes; zeros follow if they are fewer than sixteen. -/
def ofBytes (bs : Bytes) : Block :=
  let padded : Bytes := (bs ++ List.replicate 16 0).take 16
  BitVec.ofNat 128 (padded.foldl (fun n b => 256 * n + b.toNat) 0)

def take : (count : Nat) → Bytes → List Block
  | 0, _ => []
  | count + 1, bs => ofBytes (bs.take 16) :: take count (bs.drop 16)

def split (bs : Bytes) : List Block :=
  take ((bs.length + 15) / 16) bs

theorem length_toBytes (b : Block) : b.toBytes.length = 16 := by
  simp [toBytes]

theorem length_flatMap_toBytes (bs : List Block) :
    (bs.flatMap toBytes).length = 16 * bs.length := by
  induction bs with
  | nil => rfl
  | cons b bs ih => simp only [List.flatMap_cons, List.length_append, length_toBytes, ih,
      List.length_cons]; omega

end Block

end SealedToken
