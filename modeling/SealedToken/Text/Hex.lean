import SealedToken.Text.Case

namespace SealedToken.Hex

/-- Why a text is no hexadecimal text, in the order in which the reasons are looked for. -/
inductive Fault
  | notAscii
  | oddLength
  | notADigit
  deriving DecidableEq, Repr

def Fault.message : Fault → Text
  | .notAscii => "string argument should contain only ASCII characters"
  | .oddLength => "Odd-length string"
  | .notADigit => "Non-hexadecimal digit found"

def digit (n : Fin 16) : CodePoint :=
  if n.val < 10 then ⟨0x30 + n.val, by omega⟩ else ⟨0x57 + n.val, by omega⟩

def value? (c : CodePoint) : Option (Fin 16) :=
  if h : 0x30 ≤ c.val ∧ c.val ≤ 0x39 then some ⟨c.val - 0x30, by omega⟩
  else if h : 0x61 ≤ c.val ∧ c.val ≤ 0x66 then some ⟨c.val - 0x57, by omega⟩
  else if h : 0x41 ≤ c.val ∧ c.val ≤ 0x46 then some ⟨c.val - 0x37, by omega⟩
  else none

theorem high_lt (b : UInt8) : b.toNat / 16 < 16 := by
  have := b.toNat_lt
  omega

def high (b : UInt8) : Fin 16 :=
  ⟨b.toNat / 16, high_lt b⟩

def low (b : UInt8) : Fin 16 :=
  ⟨b.toNat % 16, by omega⟩

def byte (high low : Fin 16) : UInt8 :=
  UInt8.ofNat (high.val * 16 + low.val)

def encode : Bytes → Text
  | [] => []
  | b :: bs => digit (high b) :: digit (low b) :: encode bs

def pairs? : Text → Option Bytes
  | [] => some []
  | [_] => none
  | a :: b :: t =>
    match value? a, value? b, pairs? t with
    | some x, some y, some bs => some (byte x y :: bs)
    | _, _, _ => none

def decode (t : Text) : Except Fault Bytes :=
  if t.any (0x80 ≤ ·.val) then .error .notAscii
  else if t.length % 2 = 1 then .error .oddLength
  else match pairs? t with
    | some bs => .ok bs
    | none => .error .notADigit

theorem value?_digit (n : Fin 16) : value? (digit n) = some n := by
  revert n
  decide

theorem byte_high_low (b : UInt8) : byte (high b) (low b) = b := by
  simp only [byte, high, low]
  rw [show b.toNat / 16 * 16 + b.toNat % 16 = b.toNat by omega, UInt8.ofNat_toNat]

theorem high_byte (x y : Fin 16) : high (byte x y) = x := by
  apply Fin.ext
  simp only [high, byte, UInt8.toNat_ofNat']
  omega

theorem low_byte (x y : Fin 16) : low (byte x y) = y := by
  apply Fin.ext
  simp only [low, byte, UInt8.toNat_ofNat']
  omega

theorem length_encode (bs : Bytes) : (encode bs).length = 2 * bs.length := by
  induction bs with
  | nil => rfl
  | cons b bs ih => simp only [encode, List.length_cons, ih]; omega

theorem pairs?_encode (bs : Bytes) : pairs? (encode bs) = some bs := by
  induction bs with
  | nil => rfl
  | cons b bs ih => simp only [encode, pairs?, value?_digit, ih, byte_high_low]

theorem val_digit (n : Fin 16) :
    (digit n).val = if n.val < 10 then 0x30 + n.val else 0x57 + n.val := by
  unfold digit
  split <;> rfl

theorem value?_eq_some_iff {c : CodePoint} {n : Fin 16} :
    value? c = some n ↔ n.val < 10 ∧ c.val = 0x30 + n.val ∨
      10 ≤ n.val ∧ (c.val = 0x57 + n.val ∨ c.val = 0x37 + n.val) := by
  have bound := n.isLt
  unfold value?
  repeat' split
  all_goals simp only [Option.some.injEq, Fin.ext_iff, reduceCtorEq, false_iff]; omega

theorem digit_of_value? {c : CodePoint} {n : Fin 16} (h : value? c = some n) :
    digit n = c.lower := by
  have spelled := value?_eq_some_iff.mp h
  apply Fin.ext
  rw [val_digit, CodePoint.val_lower]
  split <;> split <;> omega

theorem encode_of_pairs? {t : Text} {bs : Bytes} (h : pairs? t = some bs) :
    encode bs = t.lower := by
  fun_induction pairs? t generalizing bs with
  | case1 => cases h; rfl
  | case2 => cases h
  | case3 a b t x y bs' ht hb ha ih =>
    cases h
    simp only [encode, high_byte, low_byte, Text.lower, List.map_cons, digit_of_value? ha,
      digit_of_value? hb, List.cons.injEq, true_and]
    exact ih ht
  | case4 => cases h

theorem val_digit_lt (n : Fin 16) : (digit n).val < 0x80 := by
  revert n
  decide

theorem any_encode (bs : Bytes) : (encode bs).any (0x80 ≤ ·.val) = false := by
  induction bs with
  | nil => rfl
  | cons b bs ih =>
    simp only [encode, List.any_cons, ih, Bool.or_false, Bool.or_eq_false_iff,
      decide_eq_false_iff_not, Nat.not_le]
    exact ⟨val_digit_lt _, val_digit_lt _⟩

theorem decode_encode (bs : Bytes) : decode (encode bs) = .ok bs := by
  rw [decode, any_encode, pairs?_encode, length_encode]
  simp

theorem encode_of_decode {t : Text} {bs : Bytes} (h : decode t = .ok bs) :
    encode bs = t.lower := by
  unfold decode at h
  split at h
  · cases h
  · split at h
    · cases h
    · split at h
      · next hp => cases h; exact encode_of_pairs? hp
      · cases h

end SealedToken.Hex
