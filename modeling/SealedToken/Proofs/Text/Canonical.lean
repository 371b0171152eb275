import Mathlib.Data.List.Induction
import SealedToken.Proofs.Text.Decimal

namespace SealedToken.Decimal

/-- Whether no digit follows a zero in front. -/
def Trimmed (ds : List (Fin 10)) : Prop :=
  ∀ d rest, ds = d :: rest → d.val = 0 → rest = []

/-- Whether a spelling has no plus, no superfluous zeros in front, and is not that of a negative
zero. -/
structure Canonical (t : Text) : Prop where
  unsigned : t.head? ≠ some plus
  trimmed : ∀ negative ds, Spells t negative ds → Trimmed ds
  notMinusZero : t ≠ "-0"

variable {n : Nat} {ds : List (Fin 10)} {d : Fin 10} {t : Text} {negative : Bool}

theorem lowFirst_digit (d : Fin 10) : lowFirst d.val = [d] := by
  rw [lowFirst, dif_pos d.isLt]

theorem lowFirst_append_digit (positive : 0 < n) (d : Fin 10) :
    lowFirst (10 * n + d.val) = d :: lowFirst n := by
  have large : ¬ 10 * n + d.val < 10 := by omega
  have quotient : (10 * n + d.val) / 10 = n := by omega
  have remainder : (⟨(10 * n + d.val) % 10, Nat.mod_lt _ (by decide)⟩ : Fin 10) = d := by
    apply Fin.ext
    change (10 * n + d.val) % 10 = d.val
    omega
  rw [lowFirst, dif_neg large, quotient, remainder]

theorem head_of_trimmed {c : Fin 10} {rest : List (Fin 10)} (trimmed : Trimmed (ds ++ [d]))
    (front : ds = c :: rest) : c.val ≠ 0 := by
  subst front
  intro zero
  have last := trimmed c (rest ++ [d]) rfl zero
  exact List.append_ne_nil_of_right_ne_nil rest (List.cons_ne_nil d []) last

/-- Digits without zeros in front are those of their value. The induction takes off the last digit,
which is the one that was read last. -/
theorem reverse_lowFirst_of_trimmed (trimmed : Trimmed ds) (nonempty : ds ≠ []) :
    (lowFirst (ofDigits ds)).reverse = ds := by
  induction ds using List.reverseRecOn with
  | nil => contradiction
  | append_singleton ds d ih =>
    rw [ofDigits_append_one]
    by_cases single : ds = []
    · subst single
      have value : 10 * ofDigits [] + d.val = d.val := Nat.zero_add d.val
      rw [value, lowFirst_digit]
      rfl
    · have trimmed' : Trimmed ds := fun c rest front zero =>
        absurd zero (head_of_trimmed trimmed front)
      have digits := ih trimmed' single
      have positive : 0 < ofDigits ds := by
        apply Nat.pos_of_ne_zero
        intro zero
        have single : lowFirst 0 = [0] := lowFirst_digit 0
        rw [zero, single] at digits
        exact head_of_trimmed trimmed digits.symm rfl
      rw [lowFirst_append_digit positive, List.reverse_cons, digits]

theorem trimmed_reverse_lowFirst (n : Nat) : Trimmed (lowFirst n).reverse := by
  fun_induction lowFirst n with
  | case1 n small =>
    intro d rest eq _
    cases eq
    rfl
  | case2 n large ih =>
    have nonempty : (lowFirst (n / 10)).reverse ≠ [] := by
      rw [Ne, List.reverse_eq_nil_iff]
      exact lowFirst_ne_nil _
    obtain ⟨c, front, digits⟩ := List.exists_cons_of_ne_nil nonempty
    have value := ofDigits_reverse_lowFirst (n / 10)
    intro d rest eq zero
    rw [List.reverse_cons, digits, List.cons_append] at eq
    obtain ⟨rfl, _⟩ := List.cons.inj eq
    have short : front = [] := ih c front digits zero
    rw [digits, short] at value
    have quotient : c.val = n / 10 := (Nat.zero_add c.val).symm.trans value
    omega

theorem head?_map_digit_ne_plus (ds : List (Fin 10)) : (ds.map digit).head? ≠ some plus := by
  cases ds with
  | nil => exact nofun
  | cons d ds =>
    intro sign
    exact (digit_ne_sign d).2 (Option.some.inj sign)

theorem canonical_ofInt (n : Int) : Canonical (ofInt n) := by
  have spells := spells_ofInt n
  refine ⟨?_, ?_, ?_⟩
  · unfold ofInt
    split
    · intro sign
      have same : minus = plus := Option.some.inj sign
      exact absurd same (by decide)
    · exact head?_map_digit_ne_plus _
  · intro negative ds spells'
    rw [← (spells.unique spells').2]
    exact trimmed_reverse_lowFirst _
  · intro minusZero
    rw [minusZero] at spells
    have spells' : Spells "-0" true [0] := .minus (List.cons_ne_nil 0 [])
    have same := spells.unique spells'
    have value := ofDigits_reverse_lowFirst n.natAbs
    rw [same.2] at value
    have zero : n.natAbs = 0 := value.symm
    have below := of_decide_eq_true same.1
    omega

theorem ofNat_ofDigits (trimmed : Trimmed ds) (nonempty : ds ≠ []) :
    ofNat (ofDigits ds) = ds.map digit := by
  rw [ofNat, reverse_lowFirst_of_trimmed trimmed nonempty]

theorem ofInt_eq_iff (spells : Spells t negative ds) :
    ofInt (signed negative (ofDigits ds)) = t ↔ Canonical t := by
  constructor
  · intro written
    rw [← written]
    exact canonical_ofInt _
  · intro canonical
    have trimmed := canonical.trimmed negative ds spells
    cases spells with
    | plain nonempty =>
      have digits := ofNat_ofDigits trimmed nonempty
      have positive : ¬ signed false (ofDigits ds) < 0 := Int.not_lt.mpr (Int.natCast_nonneg _)
      rw [ofInt, if_neg positive, natAbs_signed, digits]
    | plus => exact absurd rfl canonical.unsigned
    | minus nonempty =>
      have digits := ofNat_ofDigits trimmed nonempty
      have positive : ofDigits ds ≠ 0 := by
        intro zero
        have single : lowFirst 0 = [0] := lowFirst_digit 0
        rw [zero, ofNat, single] at digits
        apply canonical.notMinusZero
        rw [← digits]
        rfl
      have negative : signed true (ofDigits ds) < 0 := by
        change -(ofDigits ds : Int) < 0
        omega
      rw [ofInt, if_pos negative, natAbs_signed, digits]

end SealedToken.Decimal
