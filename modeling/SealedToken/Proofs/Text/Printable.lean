import Mathlib.Data.List.Pairwise
import SealedToken.Text.Printable

namespace SealedToken

theorem inRanges_of_mem {ranges : List (Nat × Nat)} {low high n : Nat}
    (increasing : ranges.Pairwise (·.1 ≤ ·.1)) (member : (low, high) ∈ ranges) (above : low ≤ n)
    (below : n ≤ high) : inRanges ranges n = true := by
  induction ranges with
  | nil => cases member
  | cons range ranges ih =>
    rw [List.pairwise_cons] at increasing
    rcases List.mem_cons.mp member with rfl | later
    · simp only [inRanges, above, below, decide_true, Bool.true_or, Bool.and_self]
    · have before : range.1 ≤ n := Nat.le_trans (increasing.1 _ later) above
      simp only [inRanges, before, ih increasing.2 later, decide_true, Bool.or_true, Bool.and_self]

theorem increasing_unprintableRanges : unprintableRanges.Pairwise (·.1 ≤ ·.1) := by
  rw [← List.isChain_iff_pairwise]
  decide +kernel

namespace CodePoint

def isLineBreak (c : CodePoint) : Bool :=
  0x0A ≤ c.val && c.val ≤ 0x0D || 0x1C ≤ c.val && c.val ≤ 0x1E || c.val == 0x85 ||
    0x2028 ≤ c.val && c.val ≤ 0x2029

variable {c : CodePoint}

theorem outside_of_printable (printable : c.printable = true) {low high : Nat}
    (member : (low, high) ∈ unprintableRanges) : c.val < low ∨ high < c.val := by
  by_contra inside
  have within : inRanges unprintableRanges c.val = true :=
    inRanges_of_mem increasing_unprintableRanges member (by omega) (by omega)
  rw [CodePoint.printable, within] at printable
  cases printable

theorem isSurrogate_of_printable (printable : c.printable = true) : c.isSurrogate = false := by
  have outside : c.val < 0xD7FC ∨ 0xF8FF < c.val :=
    outside_of_printable printable (by decide +kernel)
  rw [isSurrogate_eq_false_iff]
  omega

theorem isLineBreak_of_printable (printable : c.printable = true) : c.isLineBreak = false := by
  have controls : c.val < 0 ∨ 0x1F < c.val := outside_of_printable printable (by decide +kernel)
  have others : c.val < 0x7F ∨ 0xA0 < c.val := outside_of_printable printable (by decide +kernel)
  have separators : c.val < 0x2028 ∨ 0x202F < c.val :=
    outside_of_printable printable (by decide +kernel)
  rw [isLineBreak, ← Bool.not_eq_true]
  simp only [Bool.or_eq_true, Bool.and_eq_true, decide_eq_true_eq, beq_iff_eq]
  omega

theorem printable_of_ascii (above : 0x20 ≤ c.val) (below : c.val < 0x7F) : c.printable = true := by
  have ranges : unprintableRanges = (0, 0x1F) :: (0x7F, 0xA0) :: unprintableRanges.drop 2 := rfl
  have after : ¬ c.val ≤ 0x1F := by omega
  have before : ¬ 0x7F ≤ c.val := by omega
  rw [printable, ranges]
  simp only [inRanges, after, before, decide_false, Bool.false_or, Bool.false_and, Bool.and_false,
    Bool.not_false]

end CodePoint

namespace Text

def Printable (t : Text) : Prop :=
  ∀ c ∈ t, c.printable = true

theorem Printable.append {t t' : Text} (printable : Printable t) (printable' : Printable t') :
    Printable (t ++ t') := by
  intro c member
  rcases List.mem_append.mp member with member | member
  · exact printable c member
  · exact printable' c member

def plain (t : Text) : Bool :=
  t.all fun c => 0x20 ≤ c.val && c.val < 0x7F

theorem printable_of_plain {t : Text} (plain : t.plain = true) : Printable t := by
  intro c member
  have within := List.all_eq_true.mp plain c member
  simp only [Bool.and_eq_true, decide_eq_true_eq] at within
  exact CodePoint.printable_of_ascii within.1 within.2

end Text

end SealedToken
