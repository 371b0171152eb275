import SealedToken.Proofs.Text.Blank
import SealedToken.Proofs.Text.Tidying
import SealedToken.Proofs.Text.Utf8

namespace SealedToken.Decimal

/-- The spellings of integers in fields, with whether they have a minus and with their digits. A
minus may also stand after the zeros in front, but no other zero may follow it then. -/
inductive Loose : Text → Bool → List (Fin 10) → Prop
  | usual {sign padding digits fraction : Text} {negative : Bool} {ds : List (Fin 10)}
      (signed : Signs sign negative) (padded : Padding padding) (grouped : Grouped digits ds)
      (pointed : Pointed fraction) : Loose (sign ++ padding ++ digits ++ fraction) negative ds
  | within {sign padding gap digits fraction : Text} {ds : List (Fin 10)}
      (unsigned : Signs sign false) (padded : Padding padding) (nonempty : padding ≠ [])
      (small : gap = [] ∨ gap = [underscore]) (grouped : Grouped digits ds) (trimmed : Trimmed ds)
      (pointed : Pointed fraction) :
      Loose (sign ++ padding ++ minus :: gap ++ digits ++ fraction) true ds

/-- Whether a text spells an integer that is small enough to be read, with blanks around it at
will. -/
def Denotes (t : Text) (n : Int) : Prop :=
  ∃ before body after negative ds, t = before ++ body ++ after ∧
    (∀ c ∈ before, c.isBlank = true) ∧ (∀ c ∈ after, c.isBlank = true) ∧
      Loose body negative ds ∧ n = signed negative (ofDigits ds) ∧ n.natAbs < 10 ^ maxDigits

variable {t : Text} {n : Int} {ds : List (Fin 10)} {negative : Bool}

theorem length_le_iff_of_trimmed (trimmed : Trimmed ds) (nonempty : ds ≠ []) :
    ds.length ≤ maxDigits ↔ ofDigits ds < 10 ^ maxDigits := by
  constructor
  · intro few
    exact Nat.lt_of_lt_of_le (ofDigits_lt ds) (Nat.pow_le_pow_right (by decide) few)
  · intro small
    have digits := reverse_lowFirst_of_trimmed trimmed nonempty
    rw [← digits, List.length_reverse]
    exact length_lowFirst_le small (by decide)

theorem map_leadingDigits (t : Text) :
    t = (leadingDigits t).1.map digit ++ (leadingDigits t).2 := by
  induction t with
  | nil => rfl
  | cons c t ih =>
    unfold leadingDigits
    cases value : value? c with
    | none => rfl
    | some d =>
      simp only [List.map_cons, List.cons_append, digit_of_value? value]
      rw [← ih]

theorem leadingDigits_append {rest : Text} (stops : ∀ c r, rest = c :: r → value? c = none) :
    leadingDigits (ds.map digit ++ rest) = (ds, rest) := by
  induction ds with
  | nil =>
    cases rest with
    | nil => rfl
    | cons c rest => simp only [List.map_nil, List.nil_append, leadingDigits, stops c rest rfl]
  | cons d ds ih => simp only [List.map_cons, List.cons_append, leadingDigits, value?_digit, ih]

theorem leadingDigits_map (ds : List (Fin 10)) : leadingDigits (ds.map digit) = (ds, []) := by
  have read : leadingDigits (ds.map digit ++ []) = (ds, []) := leadingDigits_append nofun
  rwa [List.append_nil] at read

theorem ofUnsigned_eq_integer_iff :
    Spelling.ofUnsigned negative t = .integer n ↔
      ∃ ds, t = ds.map digit ∧ ds ≠ [] ∧ Trimmed ds ∧ ds.length ≤ maxDigits ∧
        n = signed negative (ofDigits ds) := by
  constructor
  · intro read
    have whole := map_leadingDigits t
    unfold Spelling.ofUnsigned at read
    split at read
    · cases read
    · next d ds rest found =>
      rw [found] at whole
      split at read
      · next isZero =>
        split at read
        · next alone =>
          rw [Bool.and_eq_true, List.isEmpty_iff, List.isEmpty_iff] at alone
          rw [alone.1, alone.2, List.append_nil] at whole
          cases read
          subst isZero
          refine ⟨[0], whole, List.cons_ne_nil _ _, ?_, by decide, ?_⟩
          · rintro d rest ⟨⟩ _
            rfl
          · cases negative <;> rfl
        · cases read
      · next notZero =>
        split at read
        · cases read
        · next few =>
          split at read
          · next alone =>
            rw [List.isEmpty_iff] at alone
            rw [alone, List.append_nil] at whole
            cases read
            refine ⟨d :: ds, whole, List.cons_ne_nil _ _, ?_, Nat.le_of_not_lt few, rfl⟩
            rintro d' rest' ⟨⟩ isZero
            exact absurd (Fin.ext isZero) notZero
          · cases read
  · rintro ⟨ds, rfl, nonempty, trimmed, few, rfl⟩
    rw [Spelling.ofUnsigned, leadingDigits_map]
    cases ds with
    | nil => contradiction
    | cons d ds =>
      by_cases isZero : d = 0
      · subst isZero
        obtain rfl := trimmed 0 ds rfl rfl
        cases negative <;> rfl
      · have few' : ¬ maxDigits < ds.length + 1 := Nat.not_lt_of_le few
        simp only [isZero, few', ↓reduceIte, List.isEmpty_nil]

def minusIf (negative : Bool) : Text :=
  if negative then [minus] else []

theorem signs_minusIf (negative : Bool) : Signs (minusIf negative) negative := by
  cases negative with
  | false => exact .none
  | true => exact .minus

theorem ofCanonical_eq_integer_iff :
    Spelling.ofCanonical t = .integer n ↔
      ∃ negative ds, t = minusIf negative ++ ds.map digit ∧ ds ≠ [] ∧ Trimmed ds ∧
        ds.length ≤ maxDigits ∧ n = signed negative (ofDigits ds) := by
  constructor
  · intro read
    cases t with
    | nil => cases read
    | cons c t =>
      rw [Spelling.ofCanonical] at read
      split at read
      · next isMinus =>
        obtain ⟨ds, rfl, spelled⟩ := ofUnsigned_eq_integer_iff.mp read
        exact ⟨true, ds, by rw [isMinus]; rfl, spelled⟩
      · obtain ⟨ds, digits, spelled⟩ := ofUnsigned_eq_integer_iff.mp read
        exact ⟨false, ds, digits, spelled⟩
  · rintro ⟨negative, ds, rfl, nonempty, spelled⟩
    cases ds with
    | nil => contradiction
    | cons d ds =>
      have read := ofUnsigned_eq_integer_iff.mpr ⟨d :: ds, rfl, nonempty, spelled⟩
      cases negative with
      | true => exact read
      | false =>
        have unsigned : digit d ≠ minus := (digit_ne_sign d).1
        simp only [minusIf, Bool.false_eq_true, ↓reduceIte, List.nil_append, List.map_cons,
          Spelling.ofCanonical, unsigned]
        exact read

theorem ofUnsigned_eq_tooLong (long : Spelling.ofUnsigned negative t = .tooLong) :
    ∃ d ds rest, t = (d :: ds).map digit ++ rest ∧ d ≠ 0 ∧ maxDigits < (d :: ds).length := by
  have whole := map_leadingDigits t
  unfold Spelling.ofUnsigned at long
  split at long
  · cases long
  · next d ds rest found =>
    rw [found] at whole
    split at long
    · split at long <;> cases long
    · next positive =>
      split at long
      · next many => exact ⟨d, ds, rest, whole, positive, many⟩
      · split at long <;> cases long

theorem ofCanonical_eq_tooLong (long : Spelling.ofCanonical t = .tooLong) :
    ∃ negative d ds rest, t = minusIf negative ++ ((d :: ds).map digit ++ rest) ∧ d ≠ 0 ∧
      maxDigits < (d :: ds).length := by
  cases t with
  | nil => cases long
  | cons c t =>
    rw [Spelling.ofCanonical] at long
    split at long
    · next isMinus =>
      obtain ⟨d, ds, rest, rfl, run⟩ := ofUnsigned_eq_tooLong long
      exact ⟨true, d, ds, rest, by rw [isMinus]; rfl, run⟩
    · obtain ⟨d, ds, rest, whole, run⟩ := ofUnsigned_eq_tooLong long
      exact ⟨false, d, ds, rest, whole, run⟩

theorem tidy?_eq (t : Text) :
    tidy? t = (dropZeros? (splitSign t.trim).2).map fun u =>
      dropUnderscores (dropFraction (minusIf (splitSign t.trim).1 ++ u)) := by
  unfold tidy?
  obtain ⟨negative, u⟩ := splitSign t.trim
  cases negative <;> rfl

theorem underscore_not_mem (negative : Bool) (ds : List (Fin 10)) :
    underscore ∉ minusIf negative ++ ds.map digit := by
  intro member
  rcases List.mem_append.mp member with sign | among
  · cases negative with
    | false => cases sign
    | true => exact absurd (List.mem_singleton.mp sign) (by decide)
  · obtain ⟨d, _, same⟩ := List.mem_map.mp among
    exact digit_ne_underscore d same

theorem exists_gap (spread : Spread t) (front : t.head? ≠ some underscore) (nonempty : ds ≠ [])
    (digits : t.filter (· ≠ underscore) = minusIf negative ++ ds.map digit) :
    ∃ gap g, t = minusIf negative ++ gap ++ g ∧ (gap = [] ∨ negative = true ∧ gap = [underscore]) ∧
      Grouped g ds := by
  cases t with
  | nil => exact absurd (List.append_eq_nil_iff.mp digits.symm).2 (mt List.map_eq_nil_iff.mp nonempty)
  | cons c t =>
    have other : c ≠ underscore := fun same => front (congrArg some same)
    cases negative with
    | false =>
      obtain ⟨gap, g, whole, small, grouped⟩ :=
        grouped_of_filter spread (List.cons_ne_nil _ _) digits
      rcases small with rfl | rfl
      · exact ⟨[], g, whole, .inl rfl, grouped⟩
      · exact absurd (List.cons.inj whole).1 other
    | true =>
      rw [filter_other other] at digits
      obtain ⟨rfl, left⟩ := List.cons.inj digits
      have more : t ≠ [] := by
        rintro rfl
        exact nonempty (List.map_eq_nil_iff.mp left.symm)
      obtain ⟨gap, g, rfl, small, grouped⟩ := grouped_of_filter (spread.tail more) more left
      exact ⟨gap, g, rfl, small.imp_right fun single => ⟨rfl, single⟩, grouped⟩

theorem loose_of_spelled {sign padding gap digits fraction u : Text} {written : Bool}
    (signs : Signs sign written) (padded : Padding padding) (starts : Starts padding u)
    (small : gap = [] ∨ negative = true ∧ gap = [underscore]) (grouped : Grouped digits ds)
    (trimmed : Trimmed ds) (pointed : Pointed fraction)
    (spelled : minusIf written ++ u = minusIf negative ++ gap ++ digits ++ fraction) :
    Loose (sign ++ (padding ++ u)) negative ds := by
  have usual {negative : Bool} (signs : Signs sign negative) :
      Loose (sign ++ (padding ++ (digits ++ fraction))) negative ds := by
    rw [← List.append_assoc, ← List.append_assoc]
    exact .usual signs padded grouped pointed
  obtain ⟨d, rest, begins⟩ := grouped.exists_cons
  cases written with
  | true =>
    cases negative with
    | false =>
      obtain rfl := small.resolve_right fun ⟨absurd, _⟩ => Bool.false_ne_true absurd
      rw [begins] at spelled
      exact absurd (List.cons.inj spelled).1.symm (digit_ne_sign d).1
    | true =>
      obtain rfl := (List.cons.inj spelled).2
      rcases small with rfl | ⟨_, rfl⟩
      · exact usual signs
      -- An underscore that is kept behind the zeros has no digit after it.
      · rw [begins] at starts
        exact absurd starts Starts.not_underscore
  | false =>
    cases negative with
    | false =>
      obtain rfl := small.resolve_right fun ⟨absurd, _⟩ => Bool.false_ne_true absurd
      obtain rfl := spelled
      exact usual signs
    | true =>
      -- No minus stood in front, so it stands after the zeros, of which there is one at least.
      obtain rfl : u = minus :: gap ++ digits ++ fraction := spelled
      simp only [← List.append_assoc]
      exact .within signs padded starts.dropped_ne_nil (small.imp_right And.right) grouped trimmed
        pointed

theorem denotes_of_tidy? {w : Text} (tidied : tidy? t = some w)
    (read : Spelling.ofCanonical w = .integer n) : Denotes t n := by
  obtain ⟨negative, ds, rfl, nonempty, trimmed, few, rfl⟩ := ofCanonical_eq_integer_iff.mp read
  rw [tidy?_eq] at tidied
  obtain ⟨before, after, whole, blankBefore, blankAfter⟩ := Text.exists_trim t
  obtain ⟨sign, signs, signed⟩ := exists_sign t.trim
  generalize splitSign t.trim = split at tidied signs signed
  obtain ⟨written, u⟩ := split
  obtain ⟨u', found, made⟩ := Option.map_eq_some_iff.mp tidied
  obtain ⟨padding, rfl, padded, starts⟩ := starts_of_dropZeros? found
  obtain ⟨fraction, pointed, spelled⟩ := exists_fraction (minusIf written ++ u')
  obtain ⟨spread, front, filtered⟩ :=
    spread_of_dropUnderscores (made ▸ underscore_not_mem negative ds)
  obtain ⟨gap, g, split, small, grouped⟩ := exists_gap spread front nonempty (filtered.symm.trans made)
  rw [split] at spelled
  have bound : (Decimal.signed negative (ofDigits ds)).natAbs < 10 ^ maxDigits := by
    rw [natAbs_signed]
    exact (length_le_iff_of_trimmed trimmed nonempty).mp few
  have loose : Loose t.trim negative ds := by
    rw [signed]
    exact loose_of_spelled signs padded starts small grouped trimmed pointed spelled
  exact ⟨before, t.trim, after, negative, ds, whole, blankBefore, blankAfter, loose, rfl, bound⟩

theorem point_not_mem (negative : Bool) {gap digits : Text}
    (small : gap = [] ∨ negative = true ∧ gap = [underscore]) (grouped : Grouped digits ds) :
    point ∉ minusIf negative ++ gap ++ digits := by
  intro member
  have among : point ∈ digits := by
    rcases List.mem_append.mp member with before | among
    · rcases small with rfl | ⟨rfl, rfl⟩
      · cases negative with
        | false => cases before
        | true => exact absurd before (by decide)
      · exact absurd before (by decide)
    · exact among
  have kept : point ∈ digits.filter (· ≠ underscore) :=
    List.mem_filter.mpr ⟨among, by decide⟩
  rw [grouped.filter] at kept
  obtain ⟨d, _, same⟩ := List.mem_map.mp kept
  exact digit_ne_point d same

theorem dropUnderscores_grouped {gap digits : Text}
    (small : gap = [] ∨ negative = true ∧ gap = [underscore]) (grouped : Grouped digits ds) :
    dropUnderscores (minusIf negative ++ gap ++ digits) = minusIf negative ++ ds.map digit := by
  have signOther : minus ≠ underscore := by decide
  obtain ⟨d, rest, begins⟩ := grouped.exists_cons
  have solid : digits ≠ [] := by
    rw [begins]
    exact List.cons_ne_nil _ _
  cases negative with
  | false =>
    obtain rfl := small.resolve_right fun ⟨absurd, _⟩ => Bool.false_ne_true absurd
    have front : digits.head? ≠ some underscore := by
      rw [begins]
      exact fun same => digit_ne_underscore d (Option.some.inj same)
    exact (dropUnderscores_of_spread grouped.spread front).trans grouped.filter
  | true =>
    have front : ∀ rest, (minus :: rest).head? ≠ some underscore := fun _ same =>
      signOther (Option.some.inj same)
    rcases small with rfl | ⟨_, rfl⟩
    · have spread := grouped.spread.cons solid (.inl signOther)
      refine (dropUnderscores_of_spread spread (front _)).trans ?_
      rw [filter_other signOther, grouped.filter]
      rfl
    · have spread := grouped.spread_cons.cons (List.cons_ne_nil _ _) (.inl signOther)
      refine (dropUnderscores_of_spread spread (front _)).trans ?_
      rw [filter_other signOther, filter_underscore, grouped.filter]
      rfl

theorem read_of_grouped {gap digits fraction : Text}
    (small : gap = [] ∨ negative = true ∧ gap = [underscore]) (grouped : Grouped digits ds)
    (trimmed : Trimmed ds) (pointed : Pointed fraction)
    (bound : (signed negative (ofDigits ds)).natAbs < 10 ^ maxDigits) :
    Spelling.ofCanonical (dropUnderscores (dropFraction
      (minusIf negative ++ gap ++ digits ++ fraction))) =
        .integer (signed negative (ofDigits ds)) := by
  rw [dropFraction_append (point_not_mem negative small grouped) pointed,
    dropUnderscores_grouped small grouped]
  rw [natAbs_signed] at bound
  exact ofCanonical_eq_integer_iff.mpr ⟨negative, ds, rfl, grouped.nonempty, trimmed,
    (length_le_iff_of_trimmed trimmed grouped.nonempty).mpr bound, rfl⟩

theorem tidy?_of_loose {body : Text} (trim : t.trim = body) (loose : Loose body negative ds)
    (bound : (signed negative (ofDigits ds)).natAbs < 10 ^ maxDigits) :
    ∃ w, tidy? t = some w ∧ Spelling.ofCanonical w = .integer (signed negative (ofDigits ds)) := by
  rw [tidy?_eq, trim]
  cases loose with
  | @usual sign padding digits fraction _ _ signs padded grouped pointed =>
    obtain ⟨d, rest, begins⟩ := exists_first padded grouped fraction
    have split : splitSign (sign ++ padding ++ digits ++ fraction) =
        (negative, padding ++ (digits ++ fraction)) := by
      rw [← List.append_assoc, begins, ← splitSign_append signs, ← begins]
      simp only [List.append_assoc]
    have starts : padding ≠ [] ∨ ∃ d r, digits ++ fraction = digit d :: r := by
      obtain ⟨d, r, rfl⟩ := grouped.exists_cons
      exact .inr ⟨d, r ++ fraction, rfl⟩
    obtain ⟨last, dropped⟩ := dropZeros?_append padded starts
    -- Zeros among the digits themselves are dropped as well, which leaves others of the same value.
    obtain ⟨digits', ds', kept, grouped', trimmed, same⟩ := afterZeros?_grouped grouped pointed last
    rw [split]
    simp only [dropped, kept, Option.map_some]
    refine ⟨_, rfl, ?_⟩
    rw [← same] at bound ⊢
    have read := read_of_grouped (.inl rfl) grouped' trimmed pointed bound
    rwa [List.append_nil, List.append_assoc] at read
  | @within sign padding gap digits fraction _ signs padded nonempty small grouped trimmed pointed =>
    have split : splitSign (sign ++ padding ++ minus :: gap ++ digits ++ fraction) =
        (false, padding ++ minus :: (gap ++ digits ++ fraction)) := by
      obtain ⟨fill, rfl, _⟩ := padded.resolve_left nonempty
      have first := splitSign_append signs 0 (fill ++ minus :: (gap ++ digits ++ fraction))
      rw [digit_zero] at first
      simpa only [List.append_assoc, List.cons_append] using first
    obtain ⟨last, dropped⟩ : ∃ last, dropZeros? (padding ++ minus :: (gap ++ digits ++ fraction)) =
        afterZeros? last (minus :: (gap ++ digits ++ fraction)) :=
      dropZeros?_append padded (.inl nonempty)
    rw [split]
    simp only [dropped, afterZeros?_minus, Option.map_some]
    exact ⟨_, rfl, read_of_grouped (small.imp_right fun single => ⟨rfl, single⟩) grouped trimmed
      pointed bound⟩

theorem Loose.exists_solid (loose : Loose t negative ds) :
    ∃ c rest, t = c :: rest ∧ c.isBlank = false := by
  cases loose with
  | @usual sign padding digits fraction _ _ signs padded grouped _ =>
    obtain ⟨d, rest, begins⟩ := exists_first padded grouped fraction
    have whole := Decimal.exists_solid signs d rest
    rwa [← begins, ← List.append_assoc, ← List.append_assoc] at whole
  | @within sign padding gap digits fraction _ signs padded nonempty =>
    obtain ⟨fill, rfl, _⟩ := padded.resolve_left nonempty
    have whole := Decimal.exists_solid signs 0 (fill ++ minus :: gap ++ digits ++ fraction)
    rw [digit_zero] at whole
    simpa only [List.append_assoc, List.cons_append] using whole

theorem Loose.exists_last (loose : Loose t negative ds) :
    ∃ rest c, t = rest ++ [c] ∧ c.isBlank = false := by
  cases loose with
  | usual _ _ grouped pointed => exact Decimal.exists_last grouped pointed
  | within _ _ _ _ grouped _ pointed => exact Decimal.exists_last grouped pointed

theorem tidy?_of_denotes (denotes : Denotes t n) :
    ∃ w, tidy? t = some w ∧ Spelling.ofCanonical w = .integer n := by
  obtain ⟨before, body, after, negative, ds, rfl, blankBefore, blankAfter, loose, rfl, bound⟩ :=
    denotes
  have trim := Text.trim_append blankBefore blankAfter loose.exists_solid loose.exists_last
  exact tidy?_of_loose trim loose bound

theorem denotes_of_canonical (read : Spelling.ofCanonical t = .integer n) : Denotes t n := by
  obtain ⟨negative, ds, rfl, nonempty, trimmed, few, rfl⟩ := ofCanonical_eq_integer_iff.mp read
  have loose : Loose (minusIf negative ++ [] ++ ds.map digit ++ []) negative ds :=
    .usual (signs_minusIf negative) (.inl rfl) (grouped_map nonempty) (.inl rfl)
  refine ⟨[], _, [], negative, ds, ?_, nofun, nofun, loose, rfl, ?_⟩
  · simp only [List.append_nil, List.nil_append]
  · rw [natAbs_signed]
    exact (length_le_iff_of_trimmed trimmed nonempty).mp few

theorem eq_nil_of_blank {before u rest : Text} {d : Fin 10}
    (blank : ∀ c ∈ before, c.isBlank = true)
    (spelled : before ++ u = minusIf negative ++ digit d :: rest) : before = [] := by
  cases before with
  | nil => rfl
  | cons c before =>
    obtain ⟨c', rest', begins, solid⟩ := exists_solid (signs_minusIf negative) d rest
    rw [← (List.cons.inj (spelled.trans begins)).1, blank c List.mem_cons_self] at solid
    cases solid

theorem Grouped.run_le {digits after rest : Text} {d : Fin 10} {run : List (Fin 10)}
    (grouped : Grouped digits ds) (stops : ∀ d r, after ≠ digit d :: r) (positive : d ≠ 0)
    (bound : ofDigits ds < 10 ^ maxDigits)
    (same : digits ++ after = (d :: run).map digit ++ rest) : (d :: run).length ≤ maxDigits := by
  have most := grouped.length_le stops same
  obtain ⟨d', r, rfl⟩ := grouped.exists_cons
  rw [(List.cons.inj same).1] at grouped
  obtain ⟨ds', rfl⟩ := grouped.exists_tail
  have few := (length_le_iff_of_trimmed (trimmed_cons positive ds') grouped.nonempty).mpr bound
  exact Nat.le_trans most few

/-- A text that is too long begins, but for a minus, with digits of which the first is no zero. None
of them is dropped, so that an integer spelled there has at least as many. -/
theorem not_denotes_of_tooLong (long : Spelling.ofCanonical t = .tooLong) : ¬ Denotes t n := by
  obtain ⟨negative, d, run, rest, spelled, positive, many⟩ := ofCanonical_eq_tooLong long
  have split : splitSign t = (negative, (d :: run).map digit ++ rest) := by
    rw [spelled]
    exact splitSign_append (signs_minusIf negative) d _
  have padded_ne {fill rest' : Text} : zero :: fill ≠ (d :: run).map digit ++ rest' := fun same =>
    positive (digit_eq_zero_iff.mp (List.cons.inj same).1.symm)
  rintro ⟨before, body, after, negative', ds, whole, blankBefore, blankAfter, loose, rfl, bound⟩
  have joined : before ++ (body ++ after) = minusIf negative ++ ((d :: run).map digit ++ rest) := by
    rw [← List.append_assoc, ← whole, spelled]
  obtain rfl := eq_nil_of_blank blankBefore joined
  cases loose with
  | @usual sign padding digits fraction _ _ signs padded grouped pointed =>
    have regrouped : t = sign ++ (padding ++ digits ++ (fraction ++ after)) := by
      rw [whole]
      simp only [List.nil_append, List.append_assoc]
    obtain ⟨d', rest', begins⟩ := exists_first padded grouped (fraction ++ after)
    rw [regrouped, begins, splitSign_append signs, ← begins] at split
    have same := (Prod.mk.inj split).2
    rcases padded with rfl | ⟨fill, rfl, _⟩
    · rw [natAbs_signed] at bound
      have few := grouped.run_le (fraction_stops pointed blankAfter) positive bound same
      exact absurd many (Nat.not_lt_of_le few)
    · exact padded_ne same
  | @within sign padding gap digits fraction _ signs padded nonempty =>
    obtain ⟨fill, rfl, _⟩ := padded.resolve_left nonempty
    have regrouped : t = sign ++ digit 0 :: (fill ++ minus :: gap ++ digits ++ fraction ++ after) := by
      rw [whole, digit_zero]
      simp only [List.nil_append, List.append_assoc, List.cons_append]
    rw [regrouped, splitSign_append signs, digit_zero] at split
    exact padded_ne (Prod.mk.inj split).2

theorem ofText_eq_integer_iff : Spelling.ofText t = .integer n ↔ Denotes t n := by
  unfold Spelling.ofText
  cases read : Spelling.ofCanonical t with
  | integer m =>
    have denotes := denotes_of_canonical read
    constructor
    · intro same
      cases same
      exact denotes
    · intro denotes'
      obtain ⟨w, tidied, made⟩ := tidy?_of_denotes denotes
      obtain ⟨w', tidied', made'⟩ := tidy?_of_denotes denotes'
      cases tidied.symm.trans tidied'
      exact made.symm.trans made'
  | tooLong => exact ⟨nofun, fun denotes => absurd denotes (not_denotes_of_tooLong read)⟩
  | malformed =>
    constructor
    · intro found
      cases tidied : tidy? t with
      | none =>
        rw [tidied] at found
        cases found
      | some w =>
        rw [tidied] at found
        simp only [Option.map_some] at found
        split at found
        · next m made =>
          cases found
          exact denotes_of_tidy? tidied (Option.some.inj made)
        · cases found
    · intro denotes
      obtain ⟨w, tidied, made⟩ := tidy?_of_denotes denotes
      simp only [tidied, Option.map_some, made]

theorem Signs.ascii {sign : Text} (signs : Signs sign negative) : ∀ c ∈ sign, c.val < 0x80 := by
  cases signs with
  | none => exact nofun
  | plus => exact List.forall_mem_singleton.mpr (by decide)
  | minus => exact List.forall_mem_singleton.mpr (by decide)

theorem Padding.ascii {padding : Text} (padded : Padding padding) :
    ∀ c ∈ padding, c.val < 0x80 := by
  rcases padded with rfl | ⟨fill, rfl, fills⟩
  · exact nofun
  · refine List.forall_mem_cons.mpr ⟨by decide, fun c member => ?_⟩
    rcases fills c member with rfl | rfl <;> decide

theorem Grouped.ascii {digits : Text} (grouped : Grouped digits ds) :
    ∀ c ∈ digits, c.val < 0x80 := by
  intro c member
  by_cases isUnderscore : c = underscore
  · rw [isUnderscore]
    decide
  · have kept : c ∈ digits.filter (· ≠ underscore) :=
      List.mem_filter.mpr ⟨member, decide_eq_true isUnderscore⟩
    rw [grouped.filter] at kept
    obtain ⟨d, _, rfl⟩ := List.mem_map.mp kept
    rw [val_digit]
    omega

theorem Pointed.ascii {fraction : Text} (pointed : Pointed fraction) :
    ∀ c ∈ fraction, c.val < 0x80 := by
  rcases pointed with rfl | ⟨zeros, rfl, _, all⟩
  · exact nofun
  · refine List.forall_mem_cons.mpr ⟨by decide, fun c member => ?_⟩
    rw [all c member]
    decide

theorem Loose.ascii (loose : Loose t negative ds) : ∀ c ∈ t, c.val < 0x80 := by
  cases loose with
  | usual signs padded grouped pointed =>
    simp only [List.forall_mem_append]
    exact ⟨⟨⟨signs.ascii, padded.ascii⟩, grouped.ascii⟩, pointed.ascii⟩
  | within signs padded _ small grouped _ pointed =>
    simp only [List.forall_mem_append]
    refine ⟨⟨⟨⟨signs.ascii, padded.ascii⟩, ?_⟩, grouped.ascii⟩, pointed.ascii⟩
    refine List.forall_mem_cons.mpr ⟨by decide, ?_⟩
    rcases small with rfl | rfl
    · exact nofun
    · exact List.forall_mem_singleton.mpr (by decide)

theorem Denotes.encodable (denotes : Denotes t n) : Utf8.encodable t = true := by
  obtain ⟨before, body, after, negative, ds, rfl, blankBefore, blankAfter, loose, _⟩ := denotes
  have blank {u : Text} (blanks : ∀ c ∈ u, c.isBlank = true) : Utf8.encodable u = true := by
    rw [Utf8.encodable, List.all_eq_true]
    intro c member
    rw [CodePoint.isSurrogate_of_isBlank (blanks c member)]
    rfl
  rw [Utf8.encodable_append, Utf8.encodable_append]
  exact ⟨⟨blank blankBefore, Utf8.encodable_of_ascii loose.ascii⟩, blank blankAfter⟩

end SealedToken.Decimal
