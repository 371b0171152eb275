import SealedToken.Proofs.Text.Utf8

namespace SealedToken.Hex

theorem value?_lower (c : CodePoint) : value? c.lower = value? c := by
  apply Option.ext
  intro n
  rw [value?_eq_some_iff, value?_eq_some_iff, CodePoint.val_lower]
  split <;> omega

theorem pairs?_lower (t : Text) : pairs? t.lower = pairs? t := by
  induction t using pairs?.induct with
  | case1 => rfl
  | case2 c => rfl
  | case3 a b t x y bs ha hb ht ih =>
    change pairs? (a.lower :: b.lower :: Text.lower t) = _
    simp only [pairs?, value?_lower, ha, hb, ht, ih]
  | case4 a b t _ ih =>
    change pairs? (a.lower :: b.lower :: Text.lower t) = _
    simp only [pairs?, value?_lower, ih]

theorem ascii_lower (c : CodePoint) : 0x80 ≤ c.lower.val ↔ 0x80 ≤ c.val := by
  rw [CodePoint.val_lower]
  split <;> omega

theorem decode_lower (t : Text) : decode t.lower = decode t := by
  have ascii : t.lower.any (0x80 ≤ ·.val) = t.any (0x80 ≤ ·.val) := by
    simp only [Text.lower, List.any_map, Function.comp_def, ascii_lower]
  rw [decode, decode, ascii, pairs?_lower, Text.lower, List.length_map]

theorem decode_eq_ok_iff {t : Text} {bs : Bytes} : decode t = .ok bs ↔ t.lower = encode bs := by
  constructor
  · intro decoded
    exact (encode_of_decode decoded).symm
  · intro same
    rw [← decode_lower, same, decode_encode]

theorem decode_of_lower {t t' : Text} (same : t'.lower = t.lower) : decode t' = decode t := by
  rw [← decode_lower t', same, decode_lower]

theorem lower_of_decode {t t' : Text} {bs : Bytes} (decoded : decode t = .ok bs)
    (decoded' : decode t' = .ok bs) : t'.lower = t.lower := by
  rw [decode_eq_ok_iff.mp decoded, decode_eq_ok_iff.mp decoded']

theorem encode_inj_iff {bs bs' : Bytes} : encode bs = encode bs' ↔ bs = bs' := by
  constructor
  · intro same
    have decoded := decode_encode bs
    rw [same, decode_encode] at decoded
    exact (Except.ok.inj decoded).symm
  · intro same
    rw [same]

theorem lower_encode (bs : Bytes) : (encode bs).lower = encode bs :=
  decode_eq_ok_iff.mp (decode_encode bs)

theorem digit_cases (n : Fin 16) :
    0x30 ≤ (digit n).val ∧ (digit n).val ≤ 0x39 ∨ 0x61 ≤ (digit n).val ∧ (digit n).val ≤ 0x66 := by
  revert n
  decide

theorem encode_cases {bs : Bytes} {c : CodePoint} (member : c ∈ encode bs) :
    0x30 ≤ c.val ∧ c.val ≤ 0x39 ∨ 0x61 ≤ c.val ∧ c.val ≤ 0x66 := by
  induction bs with
  | nil => cases member
  | cons b bs ih =>
    rcases List.mem_cons.mp member with rfl | member
    · exact digit_cases _
    rcases List.mem_cons.mp member with rfl | member
    · exact digit_cases _
    · exact ih member

theorem ascii_encode {bs : Bytes} {c : CodePoint} (member : c ∈ encode bs) : c.val < 0x80 := by
  have digit := encode_cases member
  omega

theorem encodable_encode (bs : Bytes) : Utf8.encodable (encode bs) = true :=
  Utf8.encodable_of_ascii fun _ => ascii_encode

theorem length_bytes_encode (bs : Bytes) : (Utf8.bytes (encode bs)).length = 2 * bs.length := by
  rw [Utf8.length_bytes_of_ascii fun _ => ascii_encode, length_encode]

def IsDigit (c : CodePoint) : Prop :=
  0x30 ≤ c.val ∧ c.val ≤ 0x39 ∨ 0x41 ≤ c.val ∧ c.val ≤ 0x46 ∨ 0x61 ≤ c.val ∧ c.val ≤ 0x66

theorem isDigit_iff {c : CodePoint} : IsDigit c ↔ ∃ n, value? c = some n := by
  simp only [value?_eq_some_iff]
  constructor
  · intro digit
    rcases digit with decimal | upper | lower
    · exact ⟨⟨c.val - 0x30, by omega⟩, by simp only; omega⟩
    · exact ⟨⟨c.val - 0x37, by omega⟩, by simp only; omega⟩
    · exact ⟨⟨c.val - 0x57, by omega⟩, by simp only; omega⟩
  · rintro ⟨n, spelled⟩
    have bound := n.isLt
    unfold IsDigit
    omega

structure WellFormed (t : Text) : Prop where
  even : t.length % 2 = 0
  digits : ∀ c ∈ t, IsDigit c

theorem wellFormed_cons_cons {a b : CodePoint} {t : Text} :
    WellFormed (a :: b :: t) ↔ IsDigit a ∧ IsDigit b ∧ WellFormed t := by
  have size : (a :: b :: t).length % 2 = t.length % 2 := by
    simp only [List.length_cons]
    omega
  constructor
  · rintro ⟨even, digits⟩
    rw [size] at even
    simp only [List.forall_mem_cons] at digits
    exact ⟨digits.1, digits.2.1, even, digits.2.2⟩
  · rintro ⟨first, second, even, digits⟩
    refine ⟨size.trans even, ?_⟩
    simp only [List.forall_mem_cons]
    exact ⟨first, second, digits⟩

/-- The induction takes two digits at a time, as reading does. -/
theorem wellFormed_iff_pairs? {t : Text} : WellFormed t ↔ ∃ bs, pairs? t = some bs := by
  induction t using pairs?.induct with
  | case1 => exact ⟨fun _ => ⟨[], rfl⟩, fun _ => ⟨rfl, nofun⟩⟩
  | case2 c => exact ⟨fun formed => absurd formed.even Nat.one_ne_zero, nofun⟩
  | case3 a b t x y bs rest second first ih =>
    have formed : WellFormed (a :: b :: t) := wellFormed_cons_cons.mpr
      ⟨isDigit_iff.mpr ⟨x, first⟩, isDigit_iff.mpr ⟨y, second⟩, ih.mpr ⟨bs, rest⟩⟩
    have read : pairs? (a :: b :: t) = some (byte x y :: bs) := by
      simp only [pairs?, first, second, rest]
    exact ⟨fun _ => ⟨_, read⟩, fun _ => formed⟩
  | case4 a b t unread ih =>
    have refused : pairs? (a :: b :: t) = none := by simp only [pairs?]
    constructor
    · intro formed
      obtain ⟨first, second, rest⟩ := wellFormed_cons_cons.mp formed
      obtain ⟨x, first⟩ := isDigit_iff.mp first
      obtain ⟨y, second⟩ := isDigit_iff.mp second
      obtain ⟨bs, rest⟩ := ih.mp rest
      exact (unread x y bs first second rest).elim
    · rintro ⟨bs, read⟩
      rw [refused] at read
      cases read

/-- What a fault says of a text. Each is looked for only where those before it are not found. -/
def Fault.Found (t : Text) : Fault → Prop
  | notAscii => ∃ c ∈ t, 0x80 ≤ c.val
  | oddLength => (∀ c ∈ t, c.val < 0x80) ∧ t.length % 2 = 1
  | notADigit => (∀ c ∈ t, c.val < 0x80) ∧ t.length % 2 = 0 ∧ ∃ c ∈ t, ¬ IsDigit c

theorem IsDigit.ascii {c : CodePoint} (digit : IsDigit c) : c.val < 0x80 := by
  unfold IsDigit at digit
  omega

theorem any_eq_false_iff {t : Text} :
    t.any (0x80 ≤ ·.val) = false ↔ ∀ c ∈ t, c.val < 0x80 := by
  simp only [List.any_eq_false, decide_eq_true_eq, Nat.not_le]

theorem decode_of_wellFormed {t : Text} (formed : WellFormed t) : ∃ bs, decode t = .ok bs := by
  have ascii : t.any (0x80 ≤ ·.val) = false :=
    any_eq_false_iff.mpr fun c member => (formed.digits c member).ascii
  obtain ⟨bs, read⟩ := wellFormed_iff_pairs?.mp formed
  have even := formed.even
  refine ⟨bs, ?_⟩
  rw [decode, ascii, if_neg Bool.false_ne_true, if_neg (by omega), read]

theorem decode_of_found {t : Text} {fault : Fault} (found : fault.Found t) :
    decode t = .error fault := by
  cases fault with
  | notAscii =>
    obtain ⟨c, member, large⟩ := found
    have foreign : t.any (0x80 ≤ ·.val) = true :=
      List.any_eq_true.mpr ⟨c, member, decide_eq_true large⟩
    rw [decode, if_pos foreign]
  | oddLength =>
    obtain ⟨ascii, odd⟩ := found
    rw [decode, any_eq_false_iff.mpr ascii, if_neg Bool.false_ne_true, if_pos odd]
  | notADigit =>
    obtain ⟨ascii, even, c, member, other⟩ := found
    have unread : pairs? t = none := by
      apply Option.eq_none_iff_forall_ne_some.mpr
      intro bs read
      exact other ((wellFormed_iff_pairs?.mpr ⟨bs, read⟩).digits c member)
    rw [decode, any_eq_false_iff.mpr ascii, if_neg Bool.false_ne_true, if_neg (by omega), unread]

theorem wellFormed_or_found (t : Text) : WellFormed t ∨ ∃ fault : Fault, fault.Found t := by
  by_cases ascii : ∀ c ∈ t, c.val < 0x80
  · rcases Nat.mod_two_eq_zero_or_one t.length with even | odd
    · by_cases digits : ∀ c ∈ t, IsDigit c
      · exact .inl ⟨even, digits⟩
      · have other : ∃ c ∈ t, ¬ IsDigit c := by simpa using digits
        exact .inr ⟨.notADigit, ascii, even, other⟩
    · exact .inr ⟨.oddLength, ascii, odd⟩
  · have foreign : ∃ c ∈ t, 0x80 ≤ c.val := by simpa using ascii
    exact .inr ⟨.notAscii, foreign⟩

theorem exists_decode_iff {t : Text} : (∃ bs, decode t = .ok bs) ↔ WellFormed t := by
  constructor
  · rintro ⟨bs, decoded⟩
    rcases wellFormed_or_found t with formed | ⟨fault, found⟩
    · exact formed
    · rw [decode_of_found found] at decoded
      cases decoded
  · exact decode_of_wellFormed

theorem decode_eq_error_iff {t : Text} {fault : Fault} :
    decode t = .error fault ↔ fault.Found t := by
  constructor
  · intro refused
    rcases wellFormed_or_found t with formed | ⟨fault', found⟩
    · obtain ⟨bs, decoded⟩ := decode_of_wellFormed formed
      rw [decoded] at refused
      cases refused
    · rw [decode_of_found found] at refused
      cases refused
      exact found
  · exact decode_of_found

end SealedToken.Hex
