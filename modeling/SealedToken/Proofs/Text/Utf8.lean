import Mathlib.Data.List.TakeWhile
import SealedToken.Text.Utf8

namespace SealedToken.Utf8

theorem tails?_eq_some_iff {lead : UInt8} {n : Nat} :
    tails? lead = some n ↔
      n = 0 ∧ lead.toNat < 0x80 ∨ n = 1 ∧ 0xC2 ≤ lead.toNat ∧ lead.toNat < 0xE0 ∨
        n = 2 ∧ 0xE0 ≤ lead.toNat ∧ lead.toNat < 0xF0 ∨
        n = 3 ∧ 0xF0 ≤ lead.toNat ∧ lead.toNat < 0xF5 := by
  unfold tails?
  simp only [UInt8.lt_iff_toNat_lt, UInt8.reduceToNat]
  repeat' split
  all_goals simp only [Option.some.injEq, reduceCtorEq, false_iff]; omega

theorem second_eq_true_iff {lead b : UInt8} :
    second lead b = true ↔ 0x80 ≤ b.toNat ∧ b.toNat ≤ 0xBF ∧
      (lead.toNat = 0xE0 → 0xA0 ≤ b.toNat) ∧ (lead.toNat = 0xED → b.toNat ≤ 0x9F) ∧
      (lead.toNat = 0xF0 → 0x90 ≤ b.toNat) ∧ (lead.toNat = 0xF4 → b.toNat ≤ 0x8F) := by
  unfold second
  simp only [UInt8.le_iff_toNat_le, UInt8.reduceToNat, ← UInt8.toNat_inj]
  repeat' split
  all_goals simp only [Bool.and_eq_true, decide_eq_true_eq]; omega

theorem continuation_eq_true_iff {b : UInt8} :
    continuation b = true ↔ 0x80 ≤ b.toNat ∧ b.toNat ≤ 0xBF := by
  simp only [continuation, UInt8.le_iff_toNat_le, UInt8.reduceToNat, Bool.and_eq_true,
    decide_eq_true_eq]

def Follow (lead : UInt8) : Bytes → Prop
  | [] => True
  | b :: bs => second lead b = true ∧ ∀ c ∈ bs, continuation c = true

theorem continued_append (lead : UInt8) (tails bs : Bytes) :
    continued lead tails.length (tails ++ bs) = continued lead tails.length tails := by
  cases tails with
  | nil => cases bs <;> simp [continued]
  | cons b tails => simp [continued]

theorem continued_eq_length_iff {lead : UInt8} {tails : Bytes} :
    continued lead tails.length tails = tails.length ↔ Follow lead tails := by
  cases tails with
  | nil => simp [continued, Follow]
  | cons b tails =>
    have whole : (tails.takeWhile continuation).length = tails.length ↔
        ∀ c ∈ tails, continuation c = true := by
      constructor
      · intro same
        rw [← List.takeWhile_eq_self_iff]
        exact (List.takeWhile_prefix continuation).eq_of_length same
      · intro all
        rw [List.takeWhile_eq_self_iff.mpr all]
    by_cases h : second lead b = true
    · have continues : (decide (tails.length + 1 ≠ 0) && second lead b) = true := by
        rw [h, Bool.and_true]
        exact decide_eq_true (Nat.succ_ne_zero _)
      rw [List.length_cons, continued, if_pos continues, Nat.add_sub_cancel, List.take_length]
      simp only [Follow, h, true_and, ← whole]
      omega
    · simp [continued, Follow, h]

theorem continued_le_length (lead : UInt8) (n : Nat) (bs : Bytes) :
    continued lead n bs ≤ bs.length := by
  cases bs with
  | nil => simp [continued]
  | cons b bs =>
    have run := (List.takeWhile_prefix continuation (l := bs.take (n - 1))).length_le
    have taken := List.length_take_le' (n - 1) bs
    simp only [continued, List.length_cons]
    split <;> omega

structure Announced (lead : UInt8) (tails : Bytes) : Prop where
  count : tails? lead = some tails.length
  follow : Follow lead tails

def point (lead : UInt8) (tails : Bytes) : CodePoint :=
  Fin.ofNat _ (spelled lead tails.length tails)

theorem val_point_nil (lead : UInt8) : (point lead []).val = lead.toNat % 0x110000 := rfl

theorem val_point_one (lead b : UInt8) :
    (point lead [b]).val = (64 * (lead.toNat - 0xC0) + (b.toNat - 0x80)) % 0x110000 := rfl

theorem val_point_two (lead b c : UInt8) :
    (point lead [b, c]).val =
      (64 * (64 * (lead.toNat - 0xE0) + (b.toNat - 0x80)) + (c.toNat - 0x80)) % 0x110000 := rfl

theorem val_point_three (lead b c d : UInt8) :
    (point lead [b, c, d]).val =
      (64 * (64 * (64 * (lead.toNat - 0xF0) + (b.toNat - 0x80)) + (c.toNat - 0x80)) +
        (d.toNat - 0x80)) % 0x110000 := rfl

theorem toNat_lead {n : Nat} (bound : n < 256) : (UInt8.ofNat n).toNat = n :=
  UInt8.toNat_ofNat_of_lt' bound

theorem toNat_tail (n : Nat) : (UInt8.ofNat (0x80 + n % 64)).toNat = 0x80 + n % 64 :=
  toNat_lead (by omega)

/-- The bytes of a code point announce it. The cases are its lengths. -/
theorem announced_encodePoint {c : CodePoint} (scalar : c.isSurrogate = false) :
    ∃ lead tails, encodePoint c = lead :: tails ∧ Announced lead tails ∧ point lead tails = c := by
  have bound := c.isLt
  rw [CodePoint.isSurrogate_eq_false_iff] at scalar
  unfold encodePoint
  split
  · have lead : (UInt8.ofNat c.val).toNat = c.val := toNat_lead (by omega)
    refine ⟨_, _, rfl, ⟨tails?_eq_some_iff.mpr (.inl ⟨rfl, ?_⟩), True.intro⟩, Fin.ext ?_⟩
    · omega
    · rw [val_point_nil]
      omega
  split
  · have lead : (UInt8.ofNat (0xC0 + c.val / 64)).toNat = 0xC0 + c.val / 64 :=
      toNat_lead (by omega)
    refine ⟨_, _, rfl, ⟨tails?_eq_some_iff.mpr (.inr (.inl ⟨rfl, ?_⟩)), ?_⟩, Fin.ext ?_⟩
    · omega
    · simp only [Follow, second_eq_true_iff, lead, toNat_tail, List.not_mem_nil, false_implies,
        implies_true, and_true]
      omega
    · rw [val_point_one, lead, toNat_tail]
      omega
  split
  · have lead : (UInt8.ofNat (0xE0 + c.val / 4096)).toNat = 0xE0 + c.val / 4096 :=
      toNat_lead (by omega)
    refine ⟨_, _, rfl, ⟨tails?_eq_some_iff.mpr (.inr (.inr (.inl ⟨rfl, ?_⟩))), ?_⟩, Fin.ext ?_⟩
    · omega
    · simp only [Follow, second_eq_true_iff, lead, toNat_tail, List.forall_mem_cons,
        continuation_eq_true_iff, List.not_mem_nil, false_implies, implies_true, and_true]
      omega
    · rw [val_point_two, lead, toNat_tail, toNat_tail]
      omega
  · have lead : (UInt8.ofNat (0xF0 + c.val / 262144)).toNat = 0xF0 + c.val / 262144 :=
      toNat_lead (by omega)
    refine ⟨_, _, rfl, ⟨tails?_eq_some_iff.mpr (.inr (.inr (.inr ⟨rfl, ?_⟩))), ?_⟩, Fin.ext ?_⟩
    · omega
    · simp only [Follow, second_eq_true_iff, lead, toNat_tail, List.forall_mem_cons,
        continuation_eq_true_iff, List.not_mem_nil, false_implies, implies_true, and_true]
      omega
    · rw [val_point_three, lead, toNat_tail, toNat_tail, toNat_tail]
      omega

/-- What is announced is a code point of its own and its bytes are the ones read: the ranges of the
second byte leave out the longer spellings and the surrogates. -/
theorem Announced.encodePoint {lead : UInt8} {tails : Bytes} (announced : Announced lead tails) :
    (point lead tails).isSurrogate = false ∧ encodePoint (point lead tails) = lead :: tails := by
  obtain ⟨count, follow⟩ := announced
  rw [tails?_eq_some_iff] at count
  rw [CodePoint.isSurrogate_eq_false_iff]
  match tails with
  | [] =>
    simp only [List.length_nil] at count
    have val : (point lead []).val = lead.toNat := by
      rw [val_point_nil]
      omega
    refine ⟨by omega, ?_⟩
    rw [Utf8.encodePoint, if_pos (by omega), val, UInt8.ofNat_toNat]
  | [b] =>
    simp only [List.length_cons, List.length_nil] at count
    simp only [Follow, second_eq_true_iff] at follow
    have val : (point lead [b]).val = 64 * (lead.toNat - 0xC0) + (b.toNat - 0x80) := by
      rw [val_point_one]
      omega
    refine ⟨by omega, ?_⟩
    rw [Utf8.encodePoint, if_neg (by omega), if_pos (by omega), val]
    simp only [List.cons.injEq, and_true, ← UInt8.toNat_inj, UInt8.toNat_ofNat']
    omega
  | [b, c] =>
    simp only [List.length_cons, List.length_nil] at count
    simp only [Follow, second_eq_true_iff, List.forall_mem_cons, continuation_eq_true_iff] at follow
    have val : (point lead [b, c]).val =
        64 * (64 * (lead.toNat - 0xE0) + (b.toNat - 0x80)) + (c.toNat - 0x80) := by
      rw [val_point_two]
      omega
    refine ⟨by omega, ?_⟩
    rw [Utf8.encodePoint, if_neg (by omega), if_neg (by omega), if_pos (by omega), val]
    simp only [List.cons.injEq, and_true, ← UInt8.toNat_inj, UInt8.toNat_ofNat']
    omega
  | [b, c, d] =>
    simp only [List.length_cons, List.length_nil] at count
    simp only [Follow, second_eq_true_iff, List.forall_mem_cons, continuation_eq_true_iff] at follow
    have val : (point lead [b, c, d]).val =
        64 * (64 * (64 * (lead.toNat - 0xF0) + (b.toNat - 0x80)) + (c.toNat - 0x80)) +
          (d.toNat - 0x80) := by
      rw [val_point_three]
      omega
    refine ⟨by omega, ?_⟩
    rw [Utf8.encodePoint, if_neg (by omega), if_neg (by omega), if_neg (by omega), val]
    simp only [List.cons.injEq, and_true, ← UInt8.toNat_inj, UInt8.toNat_ofNat']
    omega
  | b :: c :: d :: e :: bs =>
    simp only [List.length_cons] at count
    omega

theorem spelled_append (lead : UInt8) (tails bs : Bytes) :
    spelled lead tails.length (tails ++ bs) = spelled lead tails.length tails := by
  simp [spelled]

theorem decodeFrom_append (pos : Nat) (tails bs : Bytes) :
    decodeFrom pos tails.length (tails ++ bs) = decodeFrom (pos + tails.length) 0 bs := by
  induction tails generalizing pos with
  | nil => rfl
  | cons b tails ih =>
    simp only [List.length_cons, List.cons_append, decodeFrom, ih]
    congr 1
    omega

theorem Announced.decodeFrom_cons {lead : UInt8} {tails : Bytes}
    (announced : Announced lead tails) (pos : Nat) (bs : Bytes) :
    decodeFrom pos 0 (lead :: (tails ++ bs)) =
      (point lead tails :: ·) <$> decodeFrom (pos + 1 + tails.length) 0 bs := by
  have proper := continued_eq_length_iff.mpr announced.follow
  simp only [decodeFrom, announced.count, continued_append, proper, spelled_append, ↓reduceIte,
    decodeFrom_append, point]

theorem announced_of_decodeFrom {pos : Nat} {lead : UInt8} {bs : Bytes} {t : Text}
    (decoded : decodeFrom pos 0 (lead :: bs) = .ok t) :
    ∃ tails rest u, bs = tails ++ rest ∧ Announced lead tails ∧ t = point lead tails :: u ∧
      decodeFrom (pos + 1 + tails.length) 0 rest = .ok u := by
  cases count : tails? lead with
  | none =>
    simp only [decodeFrom, count] at decoded
    cases decoded
  | some n =>
    by_cases proper : continued lead n bs = n
    · have bound := continued_le_length lead n bs
      obtain ⟨tails, rest, rfl, rfl⟩ : ∃ tails rest, bs = tails ++ rest ∧ tails.length = n :=
        ⟨bs.take n, bs.drop n, (List.take_append_drop n bs).symm, List.length_take_of_le (by omega)⟩
      rw [continued_append, continued_eq_length_iff] at proper
      have announced : Announced lead tails := ⟨count, proper⟩
      rw [announced.decodeFrom_cons] at decoded
      cases tail : decodeFrom (pos + 1 + tails.length) 0 rest with
      | error f =>
        rw [tail] at decoded
        cases decoded
      | ok u =>
        rw [tail] at decoded
        cases decoded
        exact ⟨tails, rest, u, rfl, announced, rfl, tail⟩
    · simp only [decodeFrom, count, proper, ↓reduceIte] at decoded
      split at decoded <;> cases decoded

theorem encode_eq_ok_iff {t : Text} {bs : Bytes} :
    encode t = .ok bs ↔ encodable t = true ∧ bytes t = bs := by
  unfold encode
  split <;> simp_all

theorem encodable_cons {c : CodePoint} {t : Text} :
    encodable (c :: t) = true ↔ c.isSurrogate = false ∧ encodable t = true := by
  simp [encodable]

theorem bytes_cons (c : CodePoint) (t : Text) : bytes (c :: t) = encodePoint c ++ bytes t :=
  List.flatMap_cons

theorem encodable_append {t u : Text} :
    encodable (t ++ u) = true ↔ encodable t = true ∧ encodable u = true := by
  simp [encodable]

theorem encodable_of_ascii {t : Text} (ascii : ∀ c ∈ t, c.val < 0x80) : encodable t = true := by
  rw [encodable, List.all_eq_true]
  intro c member
  have bound := ascii c member
  rw [Bool.not_eq_true', CodePoint.isSurrogate_eq_false_iff]
  omega

theorem bytes_append (t u : Text) : bytes (t ++ u) = bytes t ++ bytes u :=
  List.flatMap_append

theorem length_bytes_of_ascii {t : Text} (ascii : ∀ c ∈ t, c.val < 0x80) :
    (bytes t).length = t.length := by
  induction t with
  | nil => rfl
  | cons c t ih =>
    rw [List.forall_mem_cons] at ascii
    have rest := ih ascii.2
    rw [bytes_cons, encodePoint, if_pos ascii.1, List.length_append, rest, List.length_singleton,
      List.length_cons, Nat.add_comm]

theorem decodeFrom_bytes {t : Text} (encodable : encodable t = true) (pos : Nat) :
    decodeFrom pos 0 (bytes t) = .ok t := by
  induction t generalizing pos with
  | nil => rfl
  | cons c t ih =>
    rw [encodable_cons] at encodable
    obtain ⟨lead, tails, eq, announced, spells⟩ := announced_encodePoint encodable.1
    rw [bytes_cons, eq, List.cons_append, announced.decodeFrom_cons, ih encodable.2, spells]
    rfl

/-- The induction is on the number of bytes, since a code point takes several of them. -/
theorem bytes_of_decodeFrom {pos : Nat} {bs : Bytes} {t : Text}
    (decoded : decodeFrom pos 0 bs = .ok t) : encodable t = true ∧ bytes t = bs := by
  induction size : bs.length using Nat.strong_induction_on generalizing pos bs t with
  | _ n ih =>
    cases bs with
    | nil =>
      cases decoded
      exact ⟨rfl, rfl⟩
    | cons lead bs =>
      obtain ⟨tails, rest, u, rfl, announced, rfl, tail⟩ := announced_of_decodeFrom decoded
      obtain ⟨scalar, eq⟩ := announced.encodePoint
      have shorter : rest.length < n := by
        simp only [List.length_cons, List.length_append] at size
        omega
      obtain ⟨encodable, same⟩ := ih _ shorter tail rfl
      rw [encodable_cons, bytes_cons, eq, same]
      exact ⟨⟨scalar, encodable⟩, rfl⟩

theorem decode_eq_ok_iff {bs : Bytes} {t : Text} : decode bs = .ok t ↔ encode t = .ok bs := by
  rw [encode_eq_ok_iff]
  constructor
  · exact bytes_of_decodeFrom
  · rintro ⟨encodable, rfl⟩
    exact decodeFrom_bytes encodable 0

end SealedToken.Utf8
