import Mathlib.Algebra.Group.Nat.Defs
import SealedToken.Text.Decimal

namespace SealedToken.Decimal

/-- The spellings `[+-]?[0-9]+`, with whether they have a minus and with their digits. -/
inductive Spells : Text → Bool → List (Fin 10) → Prop
  | plain {ds : List (Fin 10)} (nonempty : ds ≠ []) : Spells (ds.map digit) false ds
  | plus {ds : List (Fin 10)} (nonempty : ds ≠ []) : Spells (Decimal.plus :: ds.map digit) false ds
  | minus {ds : List (Fin 10)} (nonempty : ds ≠ []) : Spells (Decimal.minus :: ds.map digit) true ds

def Reads (t : Text) (n : Int) : Prop :=
  ∃ negative ds, Spells t negative ds ∧ ds.length ≤ maxDigits ∧ n = signed negative (ofDigits ds)

theorem val_digit (d : Fin 10) : (digit d).val = 0x30 + d.val := rfl

theorem digit_ne_sign (d : Fin 10) : digit d ≠ minus ∧ digit d ≠ plus := by
  revert d
  decide

theorem mapM_value?_eq_some_iff {t : Text} {ds : List (Fin 10)} :
    t.mapM value? = some ds ↔ t = ds.map digit := by
  constructor
  · intro values
    exact (map_of_mapM_value? values).symm
  · rintro rfl
    exact mapM_value?_map ds

theorem spelling?_of_splitSign {t rest : Text} {negative : Bool} {ds : List (Fin 10)}
    (split : splitSign t = (negative, rest)) (digits : rest = ds.map digit) (nonempty : ds ≠ []) :
    spelling? t = some (negative, ds) := by
  cases ds with
  | nil => contradiction
  | cons d ds => rw [spelling?, split, mapM_value?_eq_some_iff.mpr digits]

theorem spells_of_splitSign {t rest : Text} {negative : Bool} {ds : List (Fin 10)}
    (split : splitSign t = (negative, rest)) (digits : rest = ds.map digit) (nonempty : ds ≠ []) :
    Spells t negative ds := by
  subst digits
  cases t with
  | nil =>
    simp only [splitSign, Prod.mk.injEq] at split
    rw [split.2, ← split.1]
    exact .plain nonempty
  | cons c t =>
    simp only [splitSign] at split
    split at split
    · next isMinus =>
      cases split
      rw [isMinus]
      exact .minus nonempty
    split at split
    · next isPlus =>
      cases split
      rw [isPlus]
      exact .plus nonempty
    · simp only [Prod.mk.injEq] at split
      rw [split.2, ← split.1]
      exact .plain nonempty

theorem spelling?_eq_some_iff {t : Text} {negative : Bool} {ds : List (Fin 10)} :
    spelling? t = some (negative, ds) ↔ Spells t negative ds := by
  constructor
  · intro spelled
    unfold spelling? at spelled
    split at spelled
    · next d ds values =>
      cases spelled
      exact spells_of_splitSign rfl (mapM_value?_eq_some_iff.mp values) (List.cons_ne_nil d ds)
    · cases spelled
  · intro spells
    cases spells with
    | plain nonempty =>
      refine spelling?_of_splitSign ?_ rfl nonempty
      cases ds with
      | nil => contradiction
      | cons d ds =>
        have sign := digit_ne_sign d
        simp only [List.map_cons, splitSign, sign, ↓reduceIte]
    | plus nonempty => exact spelling?_of_splitSign rfl rfl nonempty
    | minus nonempty => exact spelling?_of_splitSign rfl rfl nonempty

theorem Spells.unique {t : Text} {negative negative' : Bool} {ds ds' : List (Fin 10)}
    (spells : Spells t negative ds) (spells' : Spells t negative' ds') :
    negative = negative' ∧ ds = ds' := by
  rw [← spelling?_eq_some_iff] at spells spells'
  rw [spells] at spells'
  cases spells'
  exact ⟨rfl, rfl⟩

theorem read_of_spells {t : Text} {negative : Bool} {ds : List (Fin 10)}
    (spells : Spells t negative ds) :
    read t = if ds.length ≤ maxDigits then .ok (some (signed negative (ofDigits ds)))
      else .error (.reading ds.length) := by
  rw [read, spelling?_eq_some_iff.mpr spells]

theorem read_eq_none_iff {t : Text} :
    read t = .ok none ↔ ∀ negative ds, ¬ Spells t negative ds := by
  simp only [← spelling?_eq_some_iff]
  unfold read
  cases spelling? t with
  | none => simp
  | some p =>
    obtain ⟨negative, ds⟩ := p
    by_cases few : ds.length ≤ maxDigits <;> simp [few]

theorem read_eq_some_iff {t : Text} {n : Int} : read t = .ok (some n) ↔ Reads t n := by
  constructor
  · intro value
    unfold read at value
    split at value
    · cases value
    · next negative ds spelled =>
      split at value
      · next few =>
        cases value
        exact ⟨negative, ds, spelling?_eq_some_iff.mp spelled, few, rfl⟩
      · cases value
  · rintro ⟨negative, ds, spells, few, rfl⟩
    rw [read_of_spells spells, if_pos few]

theorem read_eq_error_iff {t : Text} {f : TooLong} :
    read t = .error f ↔
      ∃ negative ds, Spells t negative ds ∧ maxDigits < ds.length ∧ f = .reading ds.length := by
  constructor
  · intro refused
    unfold read at refused
    split at refused
    · cases refused
    · next negative ds spelled =>
      split at refused
      · cases refused
      · next many =>
        cases refused
        exact ⟨negative, ds, spelling?_eq_some_iff.mp spelled, Nat.lt_of_not_le many, rfl⟩
  · rintro ⟨negative, ds, spells, many, rfl⟩
    rw [read_of_spells spells, if_neg (Nat.not_le_of_lt many)]

theorem Spells.val_lt {t : Text} {negative : Bool} {ds : List (Fin 10)}
    (spells : Spells t negative ds) {c : CodePoint} (member : c ∈ t) : c.val < 0x3A := by
  have digits : ∀ c ∈ ds.map digit, c.val < 0x3A := by
    intro c member
    obtain ⟨d, _, rfl⟩ := List.mem_map.mp member
    rw [val_digit]
    omega
  cases spells with
  | plain _ => exact digits c member
  | plus _ =>
    rcases List.mem_cons.mp member with rfl | member
    · decide
    · exact digits c member
  | minus _ =>
    rcases List.mem_cons.mp member with rfl | member
    · decide
    · exact digits c member

theorem ofDigits_append_one (ds : List (Fin 10)) (d : Fin 10) :
    ofDigits (ds ++ [d]) = 10 * ofDigits ds + d.val := by
  simp [ofDigits, List.foldl_append]

theorem ofDigits_reverse_lt (ds : List (Fin 10)) : ofDigits ds.reverse < 10 ^ ds.length := by
  induction ds with
  | nil => decide
  | cons d ds ih =>
    rw [List.reverse_cons, ofDigits_append_one, List.length_cons, Nat.pow_succ]
    omega

theorem ofDigits_lt (ds : List (Fin 10)) : ofDigits ds < 10 ^ ds.length := by
  have bound := ofDigits_reverse_lt ds.reverse
  rwa [List.reverse_reverse, List.length_reverse] at bound

theorem natAbs_signed (negative : Bool) (n : Nat) : (signed negative n).natAbs = n := by
  unfold signed
  split <;> omega

theorem signed_natAbs (n : Int) : signed (decide (n < 0)) n.natAbs = n := by
  by_cases negative : n < 0
  · rw [decide_eq_true negative, signed, if_pos rfl]
    omega
  · rw [decide_eq_false negative, signed, if_neg Bool.false_ne_true]
    omega

theorem Reads.natAbs_lt {t : Text} {n : Int} (reads : Reads t n) : n.natAbs < 10 ^ maxDigits := by
  obtain ⟨negative, ds, _, few, rfl⟩ := reads
  rw [natAbs_signed]
  exact Nat.lt_of_lt_of_le (ofDigits_lt ds) (Nat.pow_le_pow_right (by decide) few)

theorem length_lowFirst_le {n k : Nat} (bound : n < 10 ^ k) (positive : 0 < k) :
    (lowFirst n).length ≤ k := by
  fun_induction lowFirst n generalizing k with
  | case1 n small => exact positive
  | case2 n large ih =>
    obtain ⟨k, rfl⟩ := Nat.exists_eq_add_one_of_ne_zero (Nat.ne_of_gt positive)
    have tens : n / 10 < 10 ^ k := by
      rw [Nat.pow_succ] at bound
      omega
    have left : 0 < k := by
      cases k with
      | zero => omega
      | succ k => exact Nat.succ_pos k
    exact Nat.succ_le_succ (ih tens left)

theorem spells_ofInt (n : Int) :
    Spells (ofInt n) (decide (n < 0)) (lowFirst n.natAbs).reverse := by
  have nonempty : (lowFirst n.natAbs).reverse ≠ [] := by
    rw [Ne, List.reverse_eq_nil_iff]
    exact lowFirst_ne_nil _
  unfold ofInt
  split
  · next negative =>
    rw [decide_eq_true negative]
    exact .minus nonempty
  · next positive =>
    rw [decide_eq_false positive]
    exact .plain nonempty

theorem reads_ofInt {n : Int} (bound : n.natAbs < 10 ^ maxDigits) : Reads (ofInt n) n := by
  refine ⟨_, _, spells_ofInt n, ?_, ?_⟩
  · rw [List.length_reverse]
    exact length_lowFirst_le bound (by decide)
  · rw [ofDigits_reverse_lowFirst, signed_natAbs]

theorem write_eq_ok {n : Int} (bound : n.natAbs < 10 ^ maxDigits) : write n = .ok (ofInt n) := by
  rw [write, Nat.pow_eq, if_pos bound]

theorem write_eq_error {n : Int} (large : ¬ n.natAbs < 10 ^ maxDigits) :
    write n = .error .writing := by
  rw [write, Nat.pow_eq, if_neg large]

end SealedToken.Decimal
