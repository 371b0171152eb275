import SealedToken.Named

namespace SealedToken

namespace Named

variable {α β : Type} {xs : Named α} {name other : Text}

theorem map_get?_put (f : α → β) (xs : Named α) (name : Text) (x : α) (other : Text) :
    ((put name x xs).get? other).map f =
      if other = name then some (f x) else (xs.get? other).map f := by
  by_cases same : other = name
  · rw [if_pos same, same, get?_put_self, Option.map_some]
  · rw [if_neg same, get?_put_of_ne _ _ same]

theorem get?_cons_of_ne {y : α} (different : name ≠ other) :
    Named.get? ((other, y) :: xs) name = xs.get? name := by
  have apart : (name == other) = false := by simp [different]
  simp only [get?, List.lookup_cons, apart]

theorem find?_name (xs : Named α) (name : Text) :
    xs.find? (fun e => name == e.1) = (xs.get? name).map fun x => (name, x) := by
  induction xs with
  | nil => rfl
  | cons y xs ih =>
    obtain ⟨n, y⟩ := y
    by_cases here : name = n
    · subst here
      simp [get?]
    · rw [get?_cons_of_ne here, ← ih]
      simp [here]

/-- Sorting by name is stable, so the first entry of a name stays the first. -/
theorem find?_mergeSort (xs : Named α) (name : Text) :
    (xs.mergeSort fun a b => !decide (b.1 < a.1)).find? (fun e => name == e.1) =
      xs.find? (fun e => name == e.1) := by
  have total : ∀ a b : Text × α, (!decide (b.1 < a.1) || !decide (a.1 < b.1)) = true := by
    intro a b
    simp only [Bool.or_eq_true, Bool.not_eq_true', decide_eq_false_iff_not]
    exact List.le_total a.1 b.1
  have trans : ∀ a b c : Text × α, (!decide (b.1 < a.1)) = true → (!decide (c.1 < b.1)) = true →
      (!decide (c.1 < a.1)) = true := by
    intro a b c first second
    simp only [Bool.not_eq_true', decide_eq_false_iff_not] at first second ⊢
    exact List.le_trans first second
  -- Entries of one name are level, so sorting keeps them in their order.
  have level : (xs.filter fun e => name == e.1).Pairwise fun a b => (!decide (b.1 < a.1)) = true := by
    apply List.pairwise_of_forall_mem_list
    intro a member b member'
    have same := eq_of_beq (List.mem_filter.mp member).2
    have same' := eq_of_beq (List.mem_filter.mp member').2
    rw [← same, ← same']
    simp
  have kept := (List.sublist_mergeSort trans total level List.filter_sublist).filter
    fun e => name == e.1
  rw [List.filter_filter] at kept
  simp only [Bool.and_self] at kept
  have length := ((List.mergeSort_perm xs fun a b => !decide (b.1 < a.1)).filter
    fun e => name == e.1).length_eq
  rw [← List.head?_filter, ← List.head?_filter, kept.eq_of_length length.symm]

end Named

end SealedToken
