import SealedToken.Cipher.Block

namespace SealedToken.Gcm

def mulStep (bit : Bool) (z v : Block) : Block × Block :=
  (if bit then z ^^^ v else z,
    if v.getLsbD 0 then (v >>> 1) ^^^ (0xE1#128 <<< 120) else v >>> 1)

def mulFrom (x : Block) : Nat → Block → Block → Block
  | 0, z, _ => z
  | n + 1, z, v => let (z, v) := mulStep (x.getLsbD n) z v; mulFrom x n z v

/-- The product in the field with 2^128 elements; the highest bit of a block is the constant
coefficient. -/
def mul (x y : Block) : Block :=
  mulFrom x 128 0 y

def hash (h : Block) (blocks : List Block) : Block :=
  blocks.foldl (fun y x => mul (y ^^^ x) h) 0

def lengthBlock (size : Nat) : Block :=
  BitVec.ofNat 128 (8 * size % Nat.pow 2 64)

/-- Adds to the last 32 bits, without a carry out of them. -/
def advance (b : Block) (n : Nat) : Block :=
  (b.extractLsb' 32 96 ++ (b.extractLsb' 0 32 + BitVec.ofNat 32 n) : BitVec (96 + 32))

/-- The first counter block: a nonce of twelve bytes is followed by the number one, any other is
hashed. -/
def firstCounter (cipher : Block → Block) (nonce : Bytes) : Block :=
  if nonce.length = 12 then Block.ofBytes (nonce ++ [0, 0, 0, 1])
  else hash (cipher 0) (Block.split nonce ++ [lengthBlock nonce.length])

def keystream (cipher : Block → Block) (counter : Block) (size : Nat) : Bytes :=
  ((List.range ((size + 15) / 16)).map fun i => cipher (advance counter (i + 1))).flatMap
    Block.toBytes

def mask (cipher : Block → Block) (counter : Block) (data : Bytes) : Bytes :=
  List.zipWith (· ^^^ ·) data (keystream cipher counter data.length)

def tag (cipher : Block → Block) (counter : Block) (body : Bytes) : Bytes :=
  (cipher counter ^^^ hash (cipher 0) (Block.split body ++ [lengthBlock body.length])).toBytes

def tagSize : Nat := 16

def close (cipher : Block → Block) (nonce plaintext : Bytes) : Bytes :=
  let counter := firstCounter cipher nonce
  let body := mask cipher counter plaintext
  body ++ tag cipher counter body

/-- The plaintext, if the last sixteen bytes are the tag of those before. -/
def open? (cipher : Block → Block) (nonce ciphertext : Bytes) : Option Bytes :=
  let counter := firstCounter cipher nonce
  let body := ciphertext.take (ciphertext.length - tagSize)
  if tagSize ≤ ciphertext.length ∧
      ciphertext.drop (ciphertext.length - tagSize) = tag cipher counter body then
    some (mask cipher counter body)
  else none

theorem length_keystream (cipher : Block → Block) (counter : Block) (size : Nat) :
    size ≤ (keystream cipher counter size).length := by
  rw [keystream, Block.length_flatMap_toBytes]
  simp only [List.length_map, List.length_range]
  omega

theorem length_mask (cipher : Block → Block) (counter : Block) (data : Bytes) :
    (mask cipher counter data).length = data.length := by
  rw [mask, List.length_zipWith]
  exact Nat.min_eq_left (length_keystream cipher counter data.length)

theorem zipWith_xor_xor (xs ys : Bytes) (h : xs.length ≤ ys.length) :
    List.zipWith (· ^^^ ·) (List.zipWith (· ^^^ ·) xs ys) ys = xs := by
  induction xs generalizing ys with
  | nil => rfl
  | cons x xs ih =>
    cases ys with
    | nil => simp at h
    | cons y ys =>
      simp only [List.zipWith_cons_cons, List.cons.injEq]
      exact ⟨by rw [UInt8.xor_assoc, UInt8.xor_self, UInt8.xor_zero],
        ih ys (Nat.le_of_succ_le_succ h)⟩

theorem mask_mask (cipher : Block → Block) (counter : Block) (data : Bytes) :
    mask cipher counter (mask cipher counter data) = data := by
  rw [mask, length_mask, mask]
  exact zipWith_xor_xor _ _ (length_keystream cipher counter data.length)

theorem length_tag (cipher : Block → Block) (counter : Block) (body : Bytes) :
    (tag cipher counter body).length = tagSize :=
  Block.length_toBytes _

theorem length_close (cipher : Block → Block) (nonce plaintext : Bytes) :
    (close cipher nonce plaintext).length = plaintext.length + tagSize := by
  simp only [close, List.length_append, length_mask, length_tag]

theorem open?_eq_some_iff {cipher : Block → Block} {nonce c p : Bytes} :
    open? cipher nonce c = some p ↔ close cipher nonce p = c := by
  constructor
  · intro h
    simp only [open?] at h
    split at h
    · next hc =>
      cases h
      simp only [close, mask_mask]
      rw [← hc.2, List.take_append_drop]
    · cases h
  · intro h
    subst h
    have size := length_close cipher nonce p
    have body := length_mask cipher (firstCounter cipher nonce) p
    simp only [open?, size, Nat.add_sub_cancel, Nat.le_add_left, true_and]
    rw [close, List.take_left' body, List.drop_left' body, if_pos rfl, mask_mask]

end SealedToken.Gcm
