import SealedToken.Text.Basic

namespace SealedToken.Text

def splitFirst (sep : CodePoint) : Text → Option (Text × Text)
  | [] => none
  | c :: t =>
    if c = sep then some ([], t)
    else (splitFirst sep t).map fun (before, after) => (c :: before, after)

def splitLast (sep : CodePoint) : Text → Option (Text × Text)
  | [] => none
  | c :: t =>
    match splitLast sep t with
    | some (before, after) => some (c :: before, after)
    | none => if c = sep then some ([], t) else none

theorem splitFirst_eq_some_iff {sep : CodePoint} {t a b : Text} :
    splitFirst sep t = some (a, b) ↔ t = a ++ sep :: b ∧ sep ∉ a := by
  induction t generalizing a with
  | nil => simp [splitFirst]
  | cons c t ih =>
    by_cases first : c = sep
    · subst first
      rw [splitFirst, if_pos rfl]
      constructor
      · intro same
        cases same
        exact ⟨rfl, List.not_mem_nil⟩
      · rintro ⟨same, absent⟩
        cases a with
        | nil =>
          cases same
          rfl
        | cons x a =>
          cases same
          exact absurd List.mem_cons_self absent
    · rw [splitFirst, if_neg first, Option.map_eq_some_iff]
      constructor
      · rintro ⟨⟨before, after⟩, found, same⟩
        cases same
        obtain ⟨rfl, absent⟩ := ih.mp found
        exact ⟨rfl, List.not_mem_cons_of_ne_of_not_mem (Ne.symm first) absent⟩
      · rintro ⟨same, absent⟩
        cases a with
        | nil =>
          cases same
          exact absurd rfl first
        | cons x a =>
          cases same
          exact ⟨(a, b), ih.mpr ⟨rfl, fun member => absent (List.mem_cons_of_mem _ member)⟩, rfl⟩

theorem splitFirst_eq_none_iff {sep : CodePoint} {t : Text} :
    splitFirst sep t = none ↔ sep ∉ t := by
  induction t with
  | nil => simp [splitFirst]
  | cons c t ih =>
    unfold splitFirst
    split
    · next h => simp [h]
    · next h => simp [ih, Ne.symm h]

theorem splitLast_eq_none_iff {sep : CodePoint} {t : Text} :
    splitLast sep t = none ↔ sep ∉ t := by
  induction t with
  | nil => simp [splitLast]
  | cons c t ih =>
    rw [splitLast]
    cases found : splitLast sep t with
    | some p =>
      have within : sep ∈ t :=
        Decidable.byContradiction fun absent => nomatch found.symm.trans (ih.mpr absent)
      simp [within]
    | none =>
      by_cases first : c = sep
      · simp [first]
      · simp [first, ih.mp found, Ne.symm first]

theorem splitLast_eq_some_iff {sep : CodePoint} {t a b : Text} :
    splitLast sep t = some (a, b) ↔ t = a ++ sep :: b ∧ sep ∉ b := by
  induction t generalizing a b with
  | nil => simp [splitLast]
  | cons c t ih =>
    rw [splitLast]
    cases found : splitLast sep t with
    | some p =>
      obtain ⟨before, after⟩ := p
      obtain ⟨split, absent⟩ := ih.mp found
      constructor
      · intro same
        cases same
        exact ⟨congrArg (c :: ·) split, absent⟩
      · rintro ⟨same, absent'⟩
        cases a with
        | nil =>
          cases same
          exact absurd (split ▸ List.mem_append_right _ List.mem_cons_self) absent'
        | cons x a =>
          cases same
          cases found.symm.trans (ih.mpr ⟨rfl, absent'⟩)
          rfl
    | none =>
      have absent := splitLast_eq_none_iff.mp found
      -- Only the head can be the separator.
      cases a with
      | nil =>
        by_cases first : c = sep
        · subst first
          simp only [↓reduceIte, Option.some.injEq, Prod.mk.injEq, true_and, List.nil_append,
            List.cons.injEq]
          exact ⟨fun same => ⟨same, same ▸ absent⟩, And.left⟩
        · simp [first]
      | cons x a =>
        have other : c :: t ≠ x :: a ++ sep :: b := by
          rintro ⟨⟩
          exact absent (List.mem_append_right _ List.mem_cons_self)
        refine ⟨fun same => ?_, fun ⟨same, _⟩ => absurd same other⟩
        by_cases first : c = sep
        · rw [if_pos first] at same
          cases same
        · rw [if_neg first] at same
          cases same

end SealedToken.Text
