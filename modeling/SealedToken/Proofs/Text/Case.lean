import Mathlib.Data.List.Forall2
import SealedToken.Text.Case

namespace SealedToken

namespace CodePoint

def SameLetter (c d : CodePoint) : Prop :=
  c = d ∨ (0x41 ≤ c.val ∧ c.val ≤ 0x5A ∧ d.val = c.val + 0x20) ∨
    (0x41 ≤ d.val ∧ d.val ≤ 0x5A ∧ c.val = d.val + 0x20)

/-- K, k and the Kelvin sign. -/
def IsKay (c : CodePoint) : Prop :=
  c.val = 0x4B ∨ c.val = 0x6B ∨ c.val = 0x212A

instance : DecidableRel SameLetter := fun _ _ => inferInstanceAs (Decidable (_ ∨ _))

instance : DecidablePred IsKay := fun _ => inferInstanceAs (Decidable (_ ∨ _))

variable {c d : CodePoint}

theorem lower_eq_lower_iff : c.lower = d.lower ↔ c.SameLetter d := by
  rw [SameLetter, ← Fin.val_inj, ← Fin.val_inj, val_lower, val_lower]
  split <;> split <;> omega

theorem val_foldName (c : CodePoint) : c.foldName.val =
    if c.val = 0x212A then 0x6B else if 0x41 ≤ c.val ∧ c.val ≤ 0x5A then c.val + 0x20 else c.val := by
  rw [foldName, ← val_lower]
  split <;> rfl

theorem foldName_eq_foldName_iff :
    c.foldName = d.foldName ↔ c.SameLetter d ∨ c.IsKay ∧ d.IsKay := by
  rw [SameLetter, IsKay, IsKay, ← Fin.val_inj, ← Fin.val_inj, val_foldName, val_foldName]
  by_cases kelvin : c.val = 0x212A <;> by_cases kelvin' : d.val = 0x212A
  · rw [if_pos kelvin, if_pos kelvin']
    omega
  · rw [if_pos kelvin, if_neg kelvin']
    split <;> omega
  · rw [if_neg kelvin, if_pos kelvin']
    split <;> omega
  · rw [if_neg kelvin, if_neg kelvin']
    split <;> split <;> omega

end CodePoint

namespace Text

def SameLetters (s t : Text) : Prop :=
  List.Forall₂ CodePoint.SameLetter s t

/-- Whether a text is a name up to letter case, where the Kelvin sign is a K. -/
def Spells (t name : Text) : Prop :=
  List.Forall₂ (fun c d => CodePoint.SameLetter c d ∨ c.IsKay ∧ d.IsKay) name t

instance (t name : Text) : Decidable (t.Spells name) :=
  inferInstanceAs (Decidable (List.Forall₂ _ _ _))

theorem lower_eq_lower_iff {s t : Text} : s.lower = t.lower ↔ s.SameLetters t := by
  rw [lower, lower, ← List.forall₂_eq_eq_eq, List.forall₂_map_left_iff, List.forall₂_map_right_iff]
  simp only [CodePoint.lower_eq_lower_iff]
  rfl

theorem sameName_eq_decide (name t : Text) : sameName name t = decide (t.Spells name) := by
  rw [sameName, Bool.eq_iff_iff, beq_iff_eq, decide_eq_true_iff, ← List.forall₂_eq_eq_eq,
    List.forall₂_map_left_iff, List.forall₂_map_right_iff]
  simp only [CodePoint.foldName_eq_foldName_iff]
  rfl

end Text

end SealedToken
