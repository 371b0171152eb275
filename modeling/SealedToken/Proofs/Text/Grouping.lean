import SealedToken.Field.Spelling
import SealedToken.Proofs.Text.Decimal

namespace SealedToken.Decimal

/-- Digits, with at most one underscore between two of them. -/
inductive Grouped : Text → List (Fin 10) → Prop
  | one (d : Fin 10) : Grouped [digit d] [d]
  | next (d : Fin 10) {t : Text} {ds : List (Fin 10)} (rest : Grouped t ds) :
      Grouped (digit d :: t) (d :: ds)
  | apart (d : Fin 10) {t : Text} {ds : List (Fin 10)} (rest : Grouped t ds) :
      Grouped (digit d :: underscore :: t) (d :: ds)

variable {t : Text} {ds : List (Fin 10)}

theorem digit_zero : digit 0 = zero := by decide

theorem digit_eq_zero_iff {d : Fin 10} : digit d = zero ↔ d = 0 := by
  revert d
  decide

theorem digit_ne_underscore (d : Fin 10) : digit d ≠ underscore := by
  revert d
  decide

theorem digit_ne_point (d : Fin 10) : digit d ≠ point := by
  revert d
  decide

theorem isBlank_digit (d : Fin 10) : (digit d).isBlank = false := by
  revert d
  decide

theorem mem_of_hasDoubled {c : CodePoint} (doubled : hasDoubled c t = true) : c ∈ t := by
  fun_induction hasDoubled c t with
  | case1 x y t ih =>
    rw [Bool.or_eq_true, Bool.and_eq_true] at doubled
    rcases doubled with ⟨first, _⟩ | later
    · rw [of_decide_eq_true first]
      exact List.mem_cons_self
    · exact List.mem_cons_of_mem _ (ih later)
  | case2 => cases doubled

theorem Grouped.exists_cons {g : Text} (grouped : Grouped g ds) : ∃ d rest, g = digit d :: rest := by
  cases grouped with
  | one d => exact ⟨d, [], rfl⟩
  | next d rest => exact ⟨d, _, rfl⟩
  | apart d rest => exact ⟨d, _, rfl⟩

theorem Grouped.exists_append {digits : Text} (grouped : Grouped digits ds) :
    ∃ rest d, digits = rest ++ [digit d] := by
  induction grouped with
  | one d => exact ⟨[], d, rfl⟩
  | next d _ ih =>
    obtain ⟨rest, d', rfl⟩ := ih
    exact ⟨_ :: rest, d', rfl⟩
  | apart d _ ih =>
    obtain ⟨rest, d', rfl⟩ := ih
    exact ⟨_ :: _ :: rest, d', rfl⟩

theorem Grouped.nonempty {g : Text} (grouped : Grouped g ds) : ds ≠ [] := by
  cases grouped <;> exact List.cons_ne_nil _ _

theorem grouped_map (nonempty : ds ≠ []) : Grouped (ds.map digit) ds := by
  induction ds with
  | nil => contradiction
  | cons d ds ih =>
    cases ds with
    | nil => exact .one d
    | cons d' ds => exact .next d (ih (List.cons_ne_nil d' ds))

/-- Whether underscores stand alone and none is the last. -/
structure Spread (t : Text) : Prop where
  last : t.getLast? ≠ some underscore
  single : hasDoubled underscore t = false

theorem Spread.tail {c : CodePoint} {rest : Text} (spread : Spread (c :: rest))
    (nonempty : rest ≠ []) : Spread rest := by
  obtain ⟨x, rest, rfl⟩ := List.exists_cons_of_ne_nil nonempty
  refine ⟨?_, ?_⟩
  · have last := spread.last
    rwa [List.getLast?_cons_cons] at last
  · have single := spread.single
    rw [hasDoubled, Bool.or_eq_false_iff] at single
    exact single.2

theorem Spread.cons {c : CodePoint} {rest : Text} (spread : Spread rest) (nonempty : rest ≠ [])
    (apart : c ≠ underscore ∨ rest.head? ≠ some underscore) : Spread (c :: rest) := by
  obtain ⟨x, rest, rfl⟩ := List.exists_cons_of_ne_nil nonempty
  refine ⟨?_, ?_⟩
  · rw [List.getLast?_cons_cons]
    exact spread.last
  · rw [hasDoubled, spread.single, Bool.or_false, Bool.and_eq_false_iff]
    rcases apart with other | other
    · exact .inl (decide_eq_false other)
    · exact .inr (decide_eq_false fun same => other (congrArg some same))

theorem Grouped.spread {g : Text} (grouped : Grouped g ds) : Spread g := by
  induction grouped with
  | one d => exact ⟨fun last => digit_ne_underscore d (Option.some.inj last), rfl⟩
  | next d rest ih =>
    obtain ⟨_, _, rfl⟩ := rest.exists_cons
    exact ih.cons (List.cons_ne_nil _ _) (.inl (digit_ne_underscore d))
  | apart d rest ih =>
    obtain ⟨d', _, rfl⟩ := rest.exists_cons
    have gap := ih.cons (c := underscore) (List.cons_ne_nil _ _)
      (.inr fun same => digit_ne_underscore d' (Option.some.inj same))
    exact gap.cons (List.cons_ne_nil _ _) (.inl (digit_ne_underscore d))

theorem Grouped.spread_cons {g : Text} (grouped : Grouped g ds) : Spread (underscore :: g) := by
  obtain ⟨d, _, rfl⟩ := grouped.exists_cons
  exact grouped.spread.cons (List.cons_ne_nil _ _)
    (.inr fun same => digit_ne_underscore d (Option.some.inj same))

theorem filter_underscore (t : Text) :
    (underscore :: t).filter (· ≠ underscore) = t.filter (· ≠ underscore) :=
  List.filter_cons_of_neg (by simp)

theorem filter_other {c : CodePoint} (other : c ≠ underscore) (t : Text) :
    (c :: t).filter (· ≠ underscore) = c :: t.filter (· ≠ underscore) :=
  List.filter_cons_of_pos (decide_eq_true other)

theorem Grouped.filter {g : Text} (grouped : Grouped g ds) :
    g.filter (· ≠ underscore) = ds.map digit := by
  induction grouped with
  | one d => rw [filter_other (digit_ne_underscore d), List.filter_nil, List.map_singleton]
  | next d rest ih => rw [filter_other (digit_ne_underscore d), ih, List.map_cons]
  | apart d rest ih =>
    rw [filter_other (digit_ne_underscore d), filter_underscore, ih, List.map_cons]

theorem Grouped.exists_tail {d : Fin 10} {rest : Text} (grouped : Grouped (digit d :: rest) ds) :
    ∃ ds', ds = d :: ds' := by
  have kept := grouped.filter
  rw [filter_other (digit_ne_underscore d)] at kept
  obtain ⟨d', ds', rfl, same, _⟩ := List.map_eq_cons_iff.mp kept.symm
  have value := congrArg value? same
  rw [value?_digit, value?_digit] at value
  exact ⟨ds', by rw [Option.some.inj value]⟩

theorem Grouped.length_le {digits rest rest' : Text} {run : List (Fin 10)}
    (grouped : Grouped digits ds) (stops : ∀ d r, rest ≠ digit d :: r)
    (same : digits ++ rest = run.map digit ++ rest') : run.length ≤ ds.length := by
  induction grouped generalizing run with
  | one d =>
    cases run with
    | nil => exact Nat.zero_le _
    | cons d' run =>
      cases run with
      | nil => exact Nat.le_refl 1
      | cons d'' run => exact absurd (List.cons.inj same).2 (stops d'' _)
  | next d _ ih =>
    cases run with
    | nil => exact Nat.zero_le _
    | cons d' run => exact Nat.succ_le_succ (ih (List.cons.inj same).2)
  | apart d _ ih =>
    cases run with
    | nil => exact Nat.zero_le _
    | cons d' run =>
      cases run with
      | nil => exact Nat.succ_le_succ (Nat.zero_le _)
      | cons d'' run =>
        exact absurd (List.cons.inj (List.cons.inj same).2).1.symm (digit_ne_underscore d'')

/-- Digits that are left when underscores are dropped stood in groups, but for an underscore that may
have stood in front. -/
theorem grouped_of_filter {g : Text} (spread : Spread g) (nonempty : g ≠ [])
    (digits : g.filter (· ≠ underscore) = ds.map digit) :
    ∃ gap g', g = gap ++ g' ∧ (gap = [] ∨ gap = [underscore]) ∧ Grouped g' ds := by
  induction g generalizing ds with
  | nil => contradiction
  | cons c g ih =>
    by_cases isUnderscore : c = underscore
    · subst isUnderscore
      have more : g ≠ [] := by
        rintro rfl
        exact spread.last rfl
      rw [filter_underscore] at digits
      obtain ⟨gap, g', rfl, small, grouped⟩ := ih (spread.tail more) more digits
      rcases small with rfl | rfl
      · exact ⟨[underscore], g', rfl, .inr rfl, grouped⟩
      · cases spread.single
    · rw [filter_other isUnderscore] at digits
      obtain ⟨d, ds, rfl, rfl, left⟩ := List.map_eq_cons_iff.mp digits.symm
      refine ⟨[], _, rfl, .inl rfl, ?_⟩
      by_cases last : g = []
      · subst last
        cases List.map_eq_nil_iff.mp left
        exact .one d
      · obtain ⟨gap, g', rfl, small, grouped⟩ := ih (spread.tail last) last left.symm
        rcases small with rfl | rfl
        · exact .next d grouped
        · exact .apart d grouped

theorem dropUnderscores_of_spread (spread : Spread t) (other : t.head? ≠ some underscore) :
    dropUnderscores t = t.filter (· ≠ underscore) := by
  have kept : (t.head? = some underscore || t.getLast? = some underscore ||
      hasDoubled underscore t) = false := by
    rw [decide_eq_false other, decide_eq_false spread.last, spread.single]
    rfl
  rw [dropUnderscores, kept, if_neg Bool.false_ne_true]

theorem spread_of_dropUnderscores (dropped : underscore ∉ dropUnderscores t) :
    Spread t ∧ t.head? ≠ some underscore ∧ dropUnderscores t = t.filter (· ≠ underscore) := by
  have kept : (t.head? = some underscore || t.getLast? = some underscore ||
      hasDoubled underscore t) = false := by
    rw [Bool.eq_false_iff]
    intro whole
    rw [dropUnderscores, if_pos whole] at dropped
    rw [Bool.or_eq_true, Bool.or_eq_true, decide_eq_true_iff, decide_eq_true_iff] at whole
    rcases whole with (first | last) | doubled
    · exact dropped (List.mem_of_mem_head? first)
    · exact dropped (List.mem_of_getLast? last)
    · exact dropped (mem_of_hasDoubled doubled)
  simp only [Bool.or_eq_false_iff, decide_eq_false_iff_not] at kept
  obtain ⟨⟨first, last⟩, single⟩ := kept
  exact ⟨⟨last, single⟩, first, dropUnderscores_of_spread ⟨last, single⟩ first⟩

end SealedToken.Decimal
