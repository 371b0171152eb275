import SealedToken.Proofs.Text.Decimal
import SealedToken.Proofs.Text.Utf8
import SealedToken.Token.Payload

namespace SealedToken.Payload

/-- Whether a text is a session and a separator with a spelling of the time after it. -/
def Reads (t : Text) (p : Payload) : Prop :=
  ∃ stamp, t = p.session ++ separator :: stamp ∧ Decimal.Reads stamp p.issuedAt

/-- Whether no integer is spelled after the last separator, or there is no separator. -/
def Malformed (t : Text) : Prop :=
  ∀ session stamp negative ds, t = session ++ separator :: stamp →
    ¬ Decimal.Spells stamp negative ds

def Overlong (t : Text) (digits : Nat) : Prop :=
  ∃ session stamp negative ds, t = session ++ separator :: stamp ∧
    Decimal.Spells stamp negative ds ∧ ds.length = digits ∧ Decimal.maxDigits < digits

theorem separator_not_mem {stamp : Text} {negative : Bool} {ds : List (Fin 10)}
    (spells : Decimal.Spells stamp negative ds) : separator ∉ stamp := by
  intro member
  have bound : (0x7C : Nat) < 0x3A := spells.val_lt member
  omega

theorem splitLast_of_spells {session stamp : Text} {negative : Bool} {ds : List (Fin 10)}
    (spells : Decimal.Spells stamp negative ds) :
    Text.splitLast separator (session ++ separator :: stamp) = some (session, stamp) :=
  Text.splitLast_eq_some_iff.mpr ⟨rfl, separator_not_mem spells⟩

theorem split_last_unique {session session' stamp stamp' : Text} (last : separator ∉ stamp)
    (last' : separator ∉ stamp')
    (same : session ++ separator :: stamp = session' ++ separator :: stamp') :
    session = session' ∧ stamp = stamp' := by
  have split := Text.splitLast_eq_some_iff.mpr ⟨same, last'⟩
  rw [Text.splitLast_eq_some_iff.mpr ⟨rfl, last⟩] at split
  cases split
  exact ⟨rfl, rfl⟩

theorem encodable_of_spells {session stamp : Text} {negative : Bool} {ds : List (Fin 10)}
    (spells : Decimal.Spells stamp negative ds) (encodable : Utf8.encodable session = true) :
    Utf8.encodable (session ++ separator :: stamp) = true := by
  have plain : Utf8.encodable stamp = true := by
    apply Utf8.encodable_of_ascii
    intro c member
    have bound := spells.val_lt member
    omega
  exact Utf8.encodable_append.mpr ⟨encodable, Utf8.encodable_cons.mpr ⟨rfl, plain⟩⟩

theorem overlong_iff {session stamp : Text} {negative : Bool} {ds : List (Fin 10)} {digits : Nat}
    (spells : Decimal.Spells stamp negative ds) :
    Overlong (session ++ separator :: stamp) digits ↔
      ds.length = digits ∧ Decimal.maxDigits < digits := by
  constructor
  · rintro ⟨session', stamp', negative', ds', same, spells', size, many⟩
    have last := separator_not_mem spells
    obtain ⟨rfl, rfl⟩ := split_last_unique last (separator_not_mem spells') same
    rw [(spells.unique spells').2]
    exact ⟨size, many⟩
  · rintro ⟨size, many⟩
    exact ⟨session, stamp, negative, ds, rfl, spells, size, many⟩

theorem parse_eq_ok_iff {t : Text} {p : Payload} : parse t = .ok p ↔ Reads t p := by
  constructor
  · intro parsed
    unfold parse at parsed
    split at parsed
    · cases parsed
    · next session stamp split =>
      rw [Text.splitLast_eq_some_iff] at split
      split at parsed
      · cases parsed
      · cases parsed
      · next n value =>
        cases parsed
        exact ⟨stamp, split.1, Decimal.read_eq_some_iff.mp value⟩
  · rintro ⟨stamp, rfl, reads⟩
    have value := Decimal.read_eq_some_iff.mpr reads
    obtain ⟨negative, ds, spells, _⟩ := reads
    simp only [parse, splitLast_of_spells spells, value]

theorem Reads.unique {t : Text} {p p' : Payload} (reads : Reads t p) (reads' : Reads t p') :
    p = p' := by
  rw [← parse_eq_ok_iff] at reads reads'
  rw [reads] at reads'
  exact Except.ok.inj reads'

theorem parse_of_overlong {t : Text} {digits : Nat} (overlong : Overlong t digits) :
    parse t = .error (.tooLong (.reading digits)) := by
  obtain ⟨session, stamp, negative, ds, rfl, spells, rfl, many⟩ := overlong
  have refused := Decimal.read_eq_error_iff.mpr ⟨negative, ds, spells, many, rfl⟩
  simp only [parse, splitLast_of_spells spells, refused]

theorem parse_of_malformed {t : Text} (malformed : Malformed t) :
    parse t = .error .noSeparator ∨ parse t = .error .notAnInteger := by
  unfold parse
  split
  · exact .inl rfl
  · next session stamp split =>
    rw [Text.splitLast_eq_some_iff] at split
    have none : Decimal.read stamp = .ok none :=
      Decimal.read_eq_none_iff.mpr fun negative ds => malformed session stamp negative ds split.1
    simp only [none, or_true]

theorem malformed_or_overlong_or_reads (t : Text) :
    Malformed t ∨ (∃ digits, Overlong t digits) ∨ ∃ p, Reads t p := by
  by_cases malformed : Malformed t
  · exact .inl malformed
  · simp only [Malformed, Classical.not_forall, Classical.not_not] at malformed
    obtain ⟨session, stamp, negative, ds, rfl, spells⟩ := malformed
    by_cases few : ds.length ≤ Decimal.maxDigits
    · exact .inr (.inr ⟨⟨session, _⟩, stamp, rfl, negative, ds, spells, few, rfl⟩)
    · exact .inr (.inl ⟨_, session, stamp, negative, ds, rfl, spells, rfl, Nat.lt_of_not_le few⟩)

theorem render_eq_ok {n : Int} (bounded : n.natAbs < 10 ^ Decimal.maxDigits) (session : Text) :
    render ⟨session, n⟩ = .ok (session ++ separator :: Decimal.ofInt n) := by
  rw [render, Decimal.write_eq_ok bounded]
  rfl

theorem reads_rendered {n : Int} (bounded : n.natAbs < 10 ^ Decimal.maxDigits) (session : Text) :
    Reads (session ++ separator :: Decimal.ofInt n) ⟨session, n⟩ :=
  ⟨_, rfl, Decimal.reads_ofInt bounded⟩

end SealedToken.Payload
