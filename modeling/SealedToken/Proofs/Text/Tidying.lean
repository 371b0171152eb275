import SealedToken.Proofs.Text.Canonical
import SealedToken.Proofs.Text.Grouping

namespace SealedToken.Decimal

def Filler (t : Text) : Prop :=
  ∀ c ∈ t, c = zero ∨ c = underscore

def Padding (t : Text) : Prop :=
  t = [] ∨ ∃ rest, t = zero :: rest ∧ Filler rest

def Pointed (t : Text) : Prop :=
  t = [] ∨ ∃ zeros, t = point :: zeros ∧ zeros ≠ [] ∧ ∀ c ∈ zeros, c = zero

inductive Signs : Text → Bool → Prop
  | none : Signs [] false
  | plus : Signs [Decimal.plus] false
  | minus : Signs [Decimal.minus] true

variable {t : Text} {ds : List (Fin 10)} {negative : Bool}

theorem Filler.padding {rest : Text} (fills : Filler rest) : Padding (zero :: rest) :=
  .inr ⟨rest, rfl, fills⟩

theorem dropFraction_append {fraction : Text} (absent : point ∉ t) (pointed : Pointed fraction) :
    dropFraction (t ++ fraction) = t := by
  rcases pointed with rfl | ⟨zeros, rfl, nonempty, all⟩
  · rw [List.append_nil, dropFraction, Text.splitFirst_eq_none_iff.mpr absent]
  · have kept : (zeros.isEmpty || zeros.any (· ≠ zero)) = false := by
      rw [Bool.or_eq_false_iff, List.any_eq_false]
      refine ⟨List.isEmpty_eq_false_iff.mpr nonempty, fun c member => ?_⟩
      simp [all c member]
    rw [dropFraction, Text.splitFirst_eq_some_iff.mpr ⟨rfl, absent⟩]
    simp only [kept, Bool.false_eq_true, ↓reduceIte]

theorem exists_fraction (t : Text) : ∃ fraction, Pointed fraction ∧ t = dropFraction t ++ fraction := by
  unfold dropFraction
  cases split : Text.splitFirst point t with
  | none => exact ⟨[], .inl rfl, (List.append_nil t).symm⟩
  | some parts =>
    obtain ⟨whole, fraction⟩ := parts
    simp only
    split
    · exact ⟨[], .inl rfl, (List.append_nil t).symm⟩
    · next zeros =>
      rw [Bool.or_eq_true, not_or, List.isEmpty_iff, List.any_eq_true] at zeros
      refine ⟨point :: fraction, .inr ⟨fraction, rfl, zeros.1, fun c member => ?_⟩,
        (Text.splitFirst_eq_some_iff.mp split).1⟩
      by_contra other
      exact zeros.2 ⟨c, member, decide_eq_true other⟩

theorem fraction_stops {fraction after : Text} (pointed : Pointed fraction)
    (blank : ∀ c ∈ after, c.isBlank = true) (d : Fin 10) (r : Text) :
    fraction ++ after ≠ digit d :: r := by
  intro same
  rcases pointed with rfl | ⟨zeros, rfl, _⟩
  · obtain rfl : after = digit d :: r := same
    have solid := isBlank_digit d
    rw [blank _ List.mem_cons_self] at solid
    cases solid
  · exact digit_ne_point d (List.cons.inj same).1.symm

/-- How a number may go on once the zeros in front of it are dropped. An underscore is kept in the
place of the last of them only where no digit follows. -/
inductive Starts (dropped : Text) : Text → Prop
  | digit (d : Fin 10) (rest : Text) : Starts dropped (digit d :: rest)
  | minus (some : dropped ≠ []) (rest : Text) : Starts dropped (minus :: rest)
  | underscore {rest : Text} (stops : ∀ d r, rest ≠ Decimal.digit d :: r) :
      Starts dropped (underscore :: rest)

theorem Starts.cons {dropped v : Text} (starts : Starts dropped v) (c : CodePoint) :
    Starts (c :: dropped) v := by
  cases starts with
  | digit d rest => exact .digit d rest
  | minus some rest => exact .minus (List.cons_ne_nil _ _) rest
  | underscore stops => exact .underscore stops

theorem Starts.dropped_ne_nil {dropped rest : Text} (starts : Starts dropped (Decimal.minus :: rest)) :
    dropped ≠ [] := by
  generalize same : Decimal.minus :: rest = v at starts
  cases starts with
  | digit d => exact absurd (List.cons.inj same).1.symm (digit_ne_sign d).1
  | minus some => exact some
  | underscore => exact absurd (List.cons.inj same).1 (by decide)

theorem Starts.not_underscore {dropped rest : Text} {d : Fin 10} :
    ¬ Starts dropped (Decimal.underscore :: Decimal.digit d :: rest) := by
  intro starts
  generalize same : Decimal.underscore :: Decimal.digit d :: rest = v at starts
  cases starts with
  | digit d' => exact digit_ne_underscore d' (List.cons.inj same).1.symm
  | minus => exact absurd (List.cons.inj same).1 (by decide)
  | underscore stops => exact stops d rest (List.cons.inj same).2.symm

theorem starts_of_filler {last : CodePoint} {rest : Text}
    (filler : last = zero ∨ last = underscore) (stops : ∀ d r, rest ≠ digit d :: r) :
    Starts [] (last :: rest) := by
  rcases filler with rfl | rfl
  · exact .digit 0 rest
  · exact .underscore stops

theorem starts_of_afterZeros? {last : CodePoint} {rest v : Text}
    (filler : last = zero ∨ last = underscore) (found : afterZeros? last rest = some v) :
    ∃ dropped, last :: rest = dropped ++ v ∧ Filler dropped ∧ Starts dropped v := by
  induction rest generalizing last with
  | nil =>
    cases found
    exact ⟨[], rfl, nofun, starts_of_filler filler nofun⟩
  | cons c rest ih =>
    rw [afterZeros?] at found
    split at found
    · next more =>
      obtain ⟨dropped, whole, fills, starts⟩ := ih more found
      refine ⟨last :: dropped, congrArg _ whole, ?_, starts.cons last⟩
      exact List.forall_mem_cons.mpr ⟨filler, fills⟩
    split at found
    · next begins =>
      cases found
      refine ⟨[last], rfl, List.forall_mem_singleton.mpr filler, ?_⟩
      rcases begins with rfl | isDigit
      · exact .minus (List.cons_ne_nil _ _) rest
      · obtain ⟨d, value⟩ := Option.isSome_iff_exists.mp isDigit
        rw [← digit_of_value? value]
        exact .digit d rest
    split at found
    · next isPoint =>
      cases found
      refine ⟨[], rfl, nofun, starts_of_filler filler ?_⟩
      rintro d r ⟨⟩
      exact digit_ne_point d isPoint
    · cases found

theorem starts_of_dropZeros? {u v : Text} (found : dropZeros? u = some v) :
    ∃ dropped, u = dropped ++ v ∧ Padding dropped ∧ Starts dropped v := by
  cases u with
  | nil => cases found
  | cons c u =>
    rw [dropZeros?] at found
    split at found
    · next isZero =>
      subst isZero
      obtain ⟨dropped, whole, fills, starts⟩ := starts_of_afterZeros? (.inl rfl) found
      refine ⟨dropped, whole, ?_, starts⟩
      cases dropped with
      | nil => exact .inl rfl
      | cons x dropped =>
        cases (List.cons.inj whole).1
        exact Filler.padding fun c member => fills c (List.mem_cons_of_mem _ member)
    split at found
    · next isDigit =>
      cases found
      obtain ⟨d, value⟩ := Option.isSome_iff_exists.mp isDigit
      refine ⟨[], rfl, .inl rfl, ?_⟩
      rw [← digit_of_value? value]
      exact .digit d u
    · cases found

theorem afterZeros?_filler {dropped : Text} (fills : Filler dropped) (last : CodePoint)
    (rest : Text) : ∃ last', afterZeros? last (dropped ++ rest) = afterZeros? last' rest := by
  induction dropped generalizing last with
  | nil => exact ⟨last, rfl⟩
  | cons c dropped ih =>
    obtain ⟨first, fills⟩ := List.forall_mem_cons.mp fills
    rw [List.cons_append, afterZeros?, if_pos first]
    exact ih fills c

theorem afterZeros?_digit (last : CodePoint) {d : Fin 10} (positive : d ≠ 0) (rest : Text) :
    afterZeros? last (digit d :: rest) = some (digit d :: rest) := by
  have other : ¬ (digit d = zero ∨ digit d = underscore) := by
    rw [digit_eq_zero_iff, not_or]
    exact ⟨positive, digit_ne_underscore d⟩
  rw [afterZeros?, if_neg other, if_pos (.inr (by rw [value?_digit]; rfl))]

theorem afterZeros?_minus (last : CodePoint) (rest : Text) :
    afterZeros? last (minus :: rest) = some (minus :: rest) := by
  have other : ¬ (minus = zero ∨ minus = underscore) := by decide
  rw [afterZeros?, if_neg other, if_pos (.inl rfl)]

theorem afterZeros?_zero (last : CodePoint) (rest : Text) :
    afterZeros? last (digit 0 :: rest) = afterZeros? zero rest := by
  rw [digit_zero, afterZeros?, if_pos (.inl rfl)]

theorem afterZeros?_underscore (last : CodePoint) (rest : Text) :
    afterZeros? last (underscore :: rest) = afterZeros? underscore rest := by
  rw [afterZeros?, if_pos (.inr rfl)]

theorem afterZeros?_pointed {fraction : Text} (pointed : Pointed fraction) (last : CodePoint) :
    afterZeros? last fraction = some (last :: fraction) := by
  rcases pointed with rfl | ⟨zeros, rfl, _⟩
  · rfl
  · rfl

theorem dropZeros?_append {padding rest : Text} (padded : Padding padding)
    (begins : padding ≠ [] ∨ ∃ d r, rest = digit d :: r) :
    ∃ last, dropZeros? (padding ++ rest) = afterZeros? last rest := by
  rcases padded with rfl | ⟨fill, rfl, fills⟩
  · obtain ⟨d, r, rfl⟩ := begins.resolve_left (· rfl)
    refine ⟨zero, ?_⟩
    by_cases isZero : d = 0
    · subst isZero
      rw [digit_zero]
      simp only [List.nil_append, dropZeros?, afterZeros?, true_or, ↓reduceIte]
    · have other : digit d ≠ zero := mt digit_eq_zero_iff.mp isZero
      rw [afterZeros?_digit zero isZero, List.nil_append, dropZeros?, if_neg other, value?_digit]
      rfl
  · have first : dropZeros? (zero :: fill ++ rest) = afterZeros? zero (fill ++ rest) := by
      rw [List.cons_append, dropZeros?, if_pos rfl]
    rw [first]
    exact afterZeros?_filler fills zero rest

theorem trimmed_cons {d : Fin 10} (positive : d ≠ 0) (ds : List (Fin 10)) : Trimmed (d :: ds) := by
  rintro d rest ⟨⟩ isZero
  exact absurd (Fin.ext isZero) positive

theorem trimmed_singleton (d : Fin 10) : Trimmed [d] := by
  rintro d rest ⟨⟩ _
  rfl

theorem afterZeros?_grouped {digits fraction : Text} (grouped : Grouped digits ds)
    (pointed : Pointed fraction) (last : CodePoint) :
    ∃ digits' ds', afterZeros? last (digits ++ fraction) = some (digits' ++ fraction) ∧
      Grouped digits' ds' ∧ Trimmed ds' ∧ ofDigits ds' = ofDigits ds := by
  induction grouped generalizing last with
  | one d =>
    refine ⟨[digit d], [d], ?_, .one d, trimmed_singleton d, rfl⟩
    by_cases isZero : d = 0
    · subst isZero
      rw [List.singleton_append, afterZeros?_zero, afterZeros?_pointed pointed, digit_zero]
    · exact afterZeros?_digit last isZero fraction
  | next d rest ih =>
    by_cases isZero : d = 0
    · subst isZero
      rw [List.cons_append, afterZeros?_zero]
      exact ih zero
    · refine ⟨_, _, ?_, .next d rest, trimmed_cons isZero _, rfl⟩
      exact afterZeros?_digit last isZero _
  | apart d rest ih =>
    by_cases isZero : d = 0
    · subst isZero
      rw [List.cons_append, List.cons_append, afterZeros?_zero, afterZeros?_underscore]
      exact ih underscore
    · refine ⟨_, _, ?_, .apart d rest, trimmed_cons isZero _, rfl⟩
      exact afterZeros?_digit last isZero _

theorem exists_sign (t : Text) : ∃ sign, Signs sign (splitSign t).1 ∧ t = sign ++ (splitSign t).2 := by
  cases t with
  | nil => exact ⟨[], .none, rfl⟩
  | cons c t =>
    rw [splitSign]
    split
    · next isMinus =>
      subst isMinus
      exact ⟨[minus], .minus, rfl⟩
    split
    · next isPlus =>
      subst isPlus
      exact ⟨[plus], .plus, rfl⟩
    · exact ⟨[], .none, rfl⟩

theorem splitSign_append {sign : Text} (signs : Signs sign negative) (d : Fin 10) (rest : Text) :
    splitSign (sign ++ digit d :: rest) = (negative, digit d :: rest) := by
  cases signs with
  | none => simp only [List.nil_append, splitSign, digit_ne_sign d, ↓reduceIte]
  | plus => rfl
  | minus => rfl

theorem exists_solid {sign : Text} (signs : Signs sign negative) (d : Fin 10) (rest : Text) :
    ∃ c rest', sign ++ digit d :: rest = c :: rest' ∧ c.isBlank = false := by
  cases signs with
  | none => exact ⟨digit d, rest, rfl, isBlank_digit d⟩
  | plus => exact ⟨plus, _, rfl, by decide⟩
  | minus => exact ⟨minus, _, rfl, by decide⟩

theorem exists_first {padding digits : Text} (padded : Padding padding)
    (grouped : Grouped digits ds) (rest : Text) :
    ∃ d rest', padding ++ digits ++ rest = digit d :: rest' := by
  rcases padded with rfl | ⟨fill, rfl, _⟩
  · obtain ⟨d, r, rfl⟩ := grouped.exists_cons
    exact ⟨d, r ++ rest, rfl⟩
  · exact ⟨0, fill ++ digits ++ rest, by rw [digit_zero]; rfl⟩

theorem exists_last {front digits fraction : Text} (grouped : Grouped digits ds)
    (pointed : Pointed fraction) :
    ∃ rest c, front ++ digits ++ fraction = rest ++ [c] ∧ c.isBlank = false := by
  rcases pointed with rfl | ⟨zeros, rfl, nonempty, all⟩
  · obtain ⟨rest, d, rfl⟩ := grouped.exists_append
    exact ⟨front ++ rest, digit d, by simp, isBlank_digit d⟩
  · refine ⟨front ++ digits ++ point :: zeros.dropLast, zeros.getLast nonempty, ?_, ?_⟩
    · rw [List.append_assoc _ (point :: _), List.cons_append, List.dropLast_concat_getLast]
    · rw [all _ (List.getLast_mem nonempty)]
      decide

end SealedToken.Decimal
