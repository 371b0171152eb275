import Mathlib.Data.List.TakeWhile
import SealedToken.Text.Blank

namespace SealedToken

theorem CodePoint.isSurrogate_of_isBlank {c : CodePoint} (blank : c.isBlank = true) :
    c.isSurrogate = false := by
  rw [isSurrogate_eq_false_iff]
  simp only [isBlank, Bool.or_eq_true, Bool.and_eq_true, decide_eq_true_eq] at blank
  omega

namespace Text

variable {t : Text}

theorem exists_trimRight (p : CodePoint → Bool) (t : Text) :
    ∃ after, (∀ c ∈ after, p c = true) ∧ t = trimRight p t ++ after := by
  refine ⟨(t.reverse.takeWhile p).reverse, ?_, ?_⟩
  · intro c member
    exact List.mem_takeWhile_imp (List.mem_reverse.mp member)
  · rw [trimRight, ← List.reverse_append, List.takeWhile_append_dropWhile, List.reverse_reverse]

theorem exists_trim (t : Text) : ∃ before after, t = before ++ t.trim ++ after ∧
    (∀ c ∈ before, c.isBlank = true) ∧ ∀ c ∈ after, c.isBlank = true := by
  obtain ⟨after, blank, split⟩ := exists_trimRight CodePoint.isBlank (t.dropWhile CodePoint.isBlank)
  refine ⟨t.takeWhile CodePoint.isBlank, after, ?_, fun c => List.mem_takeWhile_imp, blank⟩
  rw [List.append_assoc, trim, ← split, List.takeWhile_append_dropWhile]

theorem trimRight_append {p : CodePoint → Bool} {body after : Text} {c : CodePoint}
    (passes : ∀ c ∈ after, p c = true) (last : p c = false) :
    trimRight p (body ++ [c] ++ after) = body ++ [c] := by
  have passes' : ∀ c ∈ after.reverse, p c = true := fun c member =>
    passes c (List.mem_reverse.mp member)
  rw [trimRight, List.reverse_append, List.dropWhile_append_of_pos passes', List.reverse_append,
    List.reverse_singleton, List.singleton_append, List.dropWhile_cons_of_neg (by simp [last]),
    List.reverse_cons, List.reverse_reverse]

theorem trim_append {before body after : Text}
    (blankBefore : ∀ c ∈ before, c.isBlank = true) (blankAfter : ∀ c ∈ after, c.isBlank = true)
    (first : ∃ c rest, body = c :: rest ∧ c.isBlank = false)
    (last : ∃ rest c, body = rest ++ [c] ∧ c.isBlank = false) :
    (before ++ body ++ after).trim = body := by
  obtain ⟨c, rest, begins, solid⟩ := first
  obtain ⟨rest', c', ends, solid'⟩ := last
  have dropped : (before ++ body ++ after).dropWhile CodePoint.isBlank = body ++ after := by
    rw [List.append_assoc, List.dropWhile_append_of_pos blankBefore, begins, List.cons_append,
      List.dropWhile_cons_of_neg (by simp [solid])]
  rw [trim, dropped, ends]
  exact trimRight_append blankAfter solid'

end Text

end SealedToken
