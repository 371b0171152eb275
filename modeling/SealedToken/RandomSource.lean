import SealedToken.Text.Basic

namespace SealedToken

/-- A source: its replies, and the numbers of bytes it has been asked for, the first one first. -/
structure RandomSource where
  reply : (asked : List Nat) → (n : Nat) → Bytes
  asked : List Nat := []

namespace RandomSource

def draw (s : RandomSource) (n : Nat) : Bytes × RandomSource :=
  (s.reply s.asked n, { s with asked := s.asked ++ [n] })

def counting : RandomSource where
  reply _ n := (List.range n).map UInt8.ofNat

def constant (b : UInt8) : RandomSource where
  reply _ n := List.replicate n b

def fixed (bs : Bytes) : RandomSource where
  reply _ _ := bs

def cycle (bs : Bytes) : RandomSource where
  reply asked n := (List.range n).map fun i => bs.getD ((asked.foldl (· + ·) 0 + i) % bs.length) 0

end RandomSource

end SealedToken
