import SealedToken.Proofs.Text.Canonical
import SealedToken.Proofs.Token.Payload

namespace SealedToken.Payload

variable {t session stamp : Text} {payload : Payload}

inductive Refuses : PayloadFault → Prop
  | noSeparator : Refuses .noSeparator
  | notAnInteger : Refuses .notAnInteger

theorem malformed_iff :
    Malformed t ↔ separator ∉ t ∨
      ∃ session stamp, t = session ++ separator :: stamp ∧ separator ∉ stamp ∧
        ∀ negative ds, ¬ Decimal.Spells stamp negative ds := by
  constructor
  · intro malformed
    cases split : Text.splitLast separator t with
    | none =>
      left
      exact Text.splitLast_eq_none_iff.mp split
    | some parts =>
      right
      obtain ⟨session, stamp⟩ := parts
      obtain ⟨eq, last⟩ := Text.splitLast_eq_some_iff.mp split
      exact ⟨session, stamp, eq, last, fun negative ds => malformed session stamp negative ds eq⟩
  · rintro (without | ⟨session, stamp, rfl, last, unspelled⟩)
    · rintro session stamp negative ds rfl
      exact absurd (List.mem_append_right session List.mem_cons_self) without
    · intro session' stamp' negative ds eq spells
      obtain ⟨rfl, rfl⟩ := split_last_unique last (separator_not_mem spells) eq
      exact unspelled negative ds spells

theorem refused_iff : (∃ fault, Refuses fault ∧ parse t = .error fault) ↔ Malformed t := by
  constructor
  · rintro ⟨fault, refuses, refused⟩
    rcases malformed_or_overlong_or_reads t with malformed | ⟨digits, overlong⟩ | ⟨p, reads⟩
    · exact malformed
    · rw [parse_of_overlong overlong] at refused
      cases refused
      cases refuses
    · rw [parse_eq_ok_iff.mpr reads] at refused
      cases refused
  · intro malformed
    rcases parse_of_malformed malformed with refused | refused
    · exact ⟨_, .noSeparator, refused⟩
    · exact ⟨_, .notAnInteger, refused⟩

theorem render_eq_ok_iff {n : Int} (reads : Decimal.Reads stamp n) :
    render ⟨session, n⟩ = .ok (session ++ separator :: stamp) ↔ Decimal.Canonical stamp := by
  have rendered := render_eq_ok reads.natAbs_lt session
  obtain ⟨negative, ds, spells, _, rfl⟩ := reads
  rw [rendered, ← Decimal.ofInt_eq_iff spells]
  constructor
  · intro same
    have stamps := List.append_cancel_left (Except.ok.inj same)
    exact (List.cons.inj stamps).2
  · intro same
    rw [same]

theorem parse_inverts_render (t : Text) (payload : Payload) :
    (payload.issuedAt.natAbs < 10 ^ Decimal.maxDigits →
      ∃ written, payload.render = .ok written ∧ parse written = .ok payload) ∧
    (parse t = .ok payload ↔
      ∃ stamp, t = payload.session ++ separator :: stamp ∧
        Decimal.Reads stamp payload.issuedAt) ∧
    ((∃ fault, Refuses fault ∧ parse t = .error fault) ↔
      separator ∉ t ∨ ∃ session stamp, t = session ++ separator :: stamp ∧ separator ∉ stamp ∧
        ∀ negative ds, ¬ Decimal.Spells stamp negative ds) ∧
    ∀ session stamp, t = session ++ separator :: stamp → separator ∉ stamp →
      parse t = .ok payload → (payload.render = .ok t ↔ Decimal.Canonical stamp) := by
  refine ⟨?_, parse_eq_ok_iff, refused_iff.trans malformed_iff, ?_⟩
  · intro bounded
    have reads := reads_rendered bounded payload.session
    exact ⟨_, render_eq_ok bounded payload.session, parse_eq_ok_iff.mpr reads⟩
  · rintro session stamp rfl last parsed
    obtain ⟨stamp', eq, reads⟩ := parse_eq_ok_iff.mp parsed
    have last' : separator ∉ stamp' := by
      obtain ⟨_, _, spells, _⟩ := reads
      exact separator_not_mem spells
    obtain ⟨rfl, rfl⟩ := split_last_unique last last' eq
    exact render_eq_ok_iff reads

theorem parse_inverts_render_lookalike :
    (∃ written, render ⟨"session|1", -70⟩ = .ok written ∧
      parse written = .ok ⟨"session|1", -70⟩) ∧
    (render ⟨"session|1", 70⟩ = .ok "session|1|+070" ↔ Decimal.Canonical "+070") := by
  have bounded : (-70 : Int).natAbs < 10 ^ Decimal.maxDigits := by decide +kernel
  have last : separator ∉ ("+070" : Text) := by decide
  constructor
  · exact (parse_inverts_render "" ⟨"session|1", -70⟩).1 bounded
  · have codec := parse_inverts_render "session|1|+070" ⟨"session|1", 70⟩
    exact codec.2.2.2 "session|1" "+070" rfl last rfl

end SealedToken.Payload
