import SealedToken.Cipher.Block

namespace SealedToken.Aes

def substitution : Vector Nat 16 := #v[
  0x637C777BF26B6FC53001672BFED7AB76, 0xCA82C97DFA5947F0ADD4A2AF9CA472C0,
  0xB7FD9326363FF7CC34A5E5F171D83115, 0x04C723C31896059A071280E2EB27B275,
  0x09832C1A1B6E5AA0523BD6B329E32F84, 0x53D100ED20FCB15B6ACBBE394A4C58CF,
  0xD0EFAAFB434D338545F9027F503C9FA8, 0x51A3408F929D38F5BCB6DA2110FFF3D2,
  0xCD0C13EC5F974417C4A77E3D645D1973, 0x60814FDC222A908846EEB814DE5E0BDB,
  0xE0323A0A4906245CC2D3AC629195E479, 0xE7C8376D8DD54EA96C56F4EA657AAE08,
  0xBA78252E1CA6B4C6E8DD741F4BBD8B8A, 0x703EB5664803F60E613557B986C11D9E,
  0xE1F8981169D98E949B1E87E9CE5528DF, 0x8CA1890DBFE6426841992D0FB054BB16]

def substitute (b : UInt8) : UInt8 :=
  have row_lt : b.toNat / 16 < 16 := by have := b.toNat_lt; omega
  UInt8.ofNat (substitution[b.toNat / 16] >>> (8 * (15 - b.toNat % 16)))

def double (b : UInt8) : UInt8 :=
  if b < 0x80 then b <<< 1 else (b <<< 1) ^^^ 0x1B

structure Word where
  a : UInt8
  b : UInt8
  c : UInt8
  d : UInt8
  deriving DecidableEq, Repr

namespace Word

def zero : Word := ⟨0, 0, 0, 0⟩

def xor (v w : Word) : Word :=
  ⟨v.a ^^^ w.a, v.b ^^^ w.b, v.c ^^^ w.c, v.d ^^^ w.d⟩

def substitute (w : Word) : Word :=
  ⟨Aes.substitute w.a, Aes.substitute w.b, Aes.substitute w.c, Aes.substitute w.d⟩

def rotate (w : Word) : Word :=
  ⟨w.b, w.c, w.d, w.a⟩

def mix (w : Word) : Word :=
  let sum := w.a ^^^ w.b ^^^ w.c ^^^ w.d
  ⟨w.a ^^^ sum ^^^ double (w.a ^^^ w.b), w.b ^^^ sum ^^^ double (w.b ^^^ w.c),
    w.c ^^^ sum ^^^ double (w.c ^^^ w.d), w.d ^^^ sum ^^^ double (w.d ^^^ w.a)⟩

def ofBytes : Bytes → List Word
  | a :: b :: c :: d :: bs => ⟨a, b, c, d⟩ :: ofBytes bs
  | _ => []

def toBytes (w : Word) : Bytes :=
  [w.a, w.b, w.c, w.d]

end Word

structure Square where
  p : Word
  q : Word
  r : Word
  s : Word
  deriving DecidableEq, Repr

namespace Square

def xor (x y : Square) : Square :=
  ⟨x.p.xor y.p, x.q.xor y.q, x.r.xor y.r, x.s.xor y.s⟩

def substitute (x : Square) : Square :=
  ⟨x.p.substitute, x.q.substitute, x.r.substitute, x.s.substitute⟩

def shiftRows (x : Square) : Square :=
  ⟨⟨x.p.a, x.q.b, x.r.c, x.s.d⟩, ⟨x.q.a, x.r.b, x.s.c, x.p.d⟩,
    ⟨x.r.a, x.s.b, x.p.c, x.q.d⟩, ⟨x.s.a, x.p.b, x.q.c, x.r.d⟩⟩

def mix (x : Square) : Square :=
  ⟨x.p.mix, x.q.mix, x.r.mix, x.s.mix⟩

def ofWords : List Word → List Square
  | p :: q :: r :: s :: ws => ⟨p, q, r, s⟩ :: ofWords ws
  | _ => []

def toBytes (x : Square) : Bytes :=
  x.p.toBytes ++ x.q.toBytes ++ x.r.toBytes ++ x.s.toBytes

end Square

/-- Appends `count` words to the schedule of a key of `size` words. The schedule is held last word
first, `index` is the number of the next word and `constant` the next round constant. -/
def extend (size : Nat) : (count index : Nat) → (constant : UInt8) → List Word → List Word
  | 0, _, _, words => words
  | count + 1, index, constant, words =>
    let last := words.headD Word.zero
    let first := words.getD (size - 1) Word.zero
    if index % size = 0 then
      let word := first.xor (last.rotate.substitute.xor ⟨constant, 0, 0, 0⟩)
      extend size count (index + 1) (double constant) (word :: words)
    else if size = 8 ∧ index % size = 4 then
      extend size count (index + 1) constant (first.xor last.substitute :: words)
    else
      extend size count (index + 1) constant (first.xor last :: words)

def schedule (key : Bytes) : List Square :=
  let words := Word.ofBytes key
  let size := words.length
  Square.ofWords (extend size (3 * size + 28) size 1 words.reverse).reverse

def rounds : List Square → Square → Square
  | [], x => x
  | [key], x => x.substitute.shiftRows.xor key
  | key :: keys, x => rounds keys (x.substitute.shiftRows.mix.xor key)

def encrypt (keys : List Square) (b : Block) : Block :=
  match keys, Square.ofWords (Word.ofBytes b.toBytes) with
  | key :: keys, x :: _ => Block.ofBytes (rounds keys (x.xor key)).toBytes
  | _, _ => b

end SealedToken.Aes
