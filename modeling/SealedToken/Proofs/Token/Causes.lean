import SealedToken.Proofs.Token.Issuing

namespace SealedToken

inductive CheckCause : Cause → Prop
  | nonceEncoding (fault : Utf8.EncodeFault) :
    CheckCause (.crypto (.derivation (.nonceEncoding fault)))
  | nonceLength {size : Nat} (wrong : size ≠ nonceSize) :
    CheckCause (.crypto (.derivation (.nonceLength size)))
  | hex (fault : Hex.Fault) : CheckCause (.crypto (.unsealing (.hex fault)))
  | tagMismatch : CheckCause (.crypto (.unsealing .tagMismatch))
  | decoding (fault : Utf8.DecodeFault) : CheckCause (.crypto (.unsealing (.decoding fault)))

/-- The causes that no internal failure has: what is told of key material, what is reported of
sealing, and what is told of a refusal by the cipher. -/
inductive DeadCause (cause : Cause) : Prop
  | key (told : ("Key material" : Text) <+: cause.message)
  | sealing (named : cause.name = "EncryptionError")
  | cipher (told : ("Decryption failed: " : Text) <+: cause.message)

variable {session tokenId text : Text} {p : Parts} {cause : Cause} {drawn : Bytes}
variable {clock : Reading} {source : RandomSource}

theorem CheckCause.name_cases (checked : CheckCause cause) :
    cause.name = "KeyDerivationError" ∨ cause.name = "DecryptionError" := by
  cases checked with
  | nonceEncoding fault => exact .inl rfl
  | nonceLength wrong => exact .inl rfl
  | hex fault => exact .inr rfl
  | tagMismatch => exact .inr rfl
  | decoding fault => exact .inr rfl

theorem CheckCause.head?_message (checked : CheckCause cause) :
    ∃ c : CodePoint, c ∈ [0x4E, 0x49, 0x41, 0x46] ∧ cause.message.head? = some c := by
  cases checked with
  | nonceEncoding fault => exact ⟨0x4E, by decide, rfl⟩
  | nonceLength wrong => exact ⟨0x4E, by decide, rfl⟩
  | hex fault => exact ⟨0x49, by decide, rfl⟩
  | tagMismatch => exact ⟨0x41, by decide, rfl⟩
  | decoding fault => exact ⟨0x46, by decide, rfl⟩

theorem CheckCause.not_told (checked : CheckCause cause) {begin : Text} {c : CodePoint}
    (head : begin.head? = some c) (other : c ∉ [0x4E, 0x49, 0x41, 0x46]) :
    ¬ begin <+: cause.message := by
  rintro ⟨rest, told⟩
  obtain ⟨c', member, head'⟩ := checked.head?_message
  rw [← told, List.head?_append, head] at head'
  cases head'
  exact other member

theorem CheckCause.not_dead (checked : CheckCause cause) : ¬ DeadCause cause := by
  rintro (told | named | told)
  · exact checked.not_told (c := 0x4B) rfl (by decide) told
  · rcases checked.name_cases with name | name
    · exact absurd (name.symm.trans named) (by decide)
    · exact absurd (name.symm.trans named) (by decide)
  · exact checked.not_told (c := 0x44) rfl (by decide) told

theorem deriveNonce_of_error {fault : DerivationFault}
    (refused : deriveNonce tokenId = .error fault) :
    CheckCause (.crypto (.derivation fault)) := by
  unfold deriveNonce at refused
  split at refused
  · cases refused
    exact .nonceEncoding _
  · next bytes _ =>
    split at refused
    · cases refused
    · next wrong =>
      cases refused
      exact .nonceLength wrong

theorem deriveNonce_encode (wrong : drawn.length ≠ tokenIdSize) :
    deriveNonce (Hex.encode drawn) = .error (.nonceLength (2 * drawn.length)) := by
  have encoded := encode_of_encodable (Hex.encodable_encode drawn)
  have length := Hex.length_bytes_encode drawn
  have sizes : nonceSize = 2 * tokenIdSize := rfl
  have wrong' : ¬ 2 * drawn.length = nonceSize := by omega
  simp only [deriveNonce, encoded, length, if_neg wrong']

theorem Parts.unseal_cause {fault : CryptoFault} (usable : Usable session)
    (failed : p.unseal session = .error fault) : CheckCause (.crypto fault) := by
  cases derived : deriveNonce p.tokenId with
  | error misfit =>
    rw [unseal_of_misfit usable derived] at failed
    cases failed
    exact deriveNonce_of_error derived
  | ok nonce =>
    have fits := (deriveNonce_eq_ok_iff.mp derived).1
    rcases shut_or_opens usable fits with shut | ⟨plaintext, opens⟩
    · obtain ⟨fault', refused, suited⟩ := unseal_of_shut usable fits shut
      rw [refused] at failed
      cases failed
      cases fault' with
      | hex fault => exact .hex fault
      | tagMismatch => exact .tagMismatch
      | cipher misfit => exact absurd rfl (suited misfit)
      | decoding fault => exact .decoding fault
    · rw [unseal_of_opens usable fits opens] at failed
      cases failed

theorem sealed_of_internal {reads : Nat} {r : Rejection}
    (internal : (rejectCall reads r).notice = some (.internal text cause)) :
    ∃ id fault, r = .sealed id fault ∧ cause = .crypto fault := by
  cases r with
  | sealed id fault =>
    cases internal
    exact ⟨id, fault, rfl, rfl⟩
  | expired id issuedAt now =>
    cases issued : Decimal.write issuedAt with
    | error fault =>
      simp only [rejectCall, Rejection.notice, issued] at internal
      cases internal
    | ok stamp =>
      cases read : Decimal.write now with
      | error fault =>
        simp only [rejectCall, Rejection.notice, issued, read] at internal
        cases internal
      | ok stamp' =>
        simp only [rejectCall, Rejection.notice, issued, read] at internal
        cases internal
  | malformed => cases internal
  | session problem => cases internal
  | payload id fault => cases internal
  | otherSession id => cases internal

theorem unseal_of_sealed {allowed : Nat} {now : Int} {id : Text} {fault : CryptoFault}
    (rejected : p.rejection? session allowed now = .ok (some (.sealed id fault))) :
    p.unseal session = .error fault := by
  unfold Parts.rejection? at rejected
  split at rejected
  · next failed =>
    cases rejected
    exact failed
  · split at rejected
    · cases rejected
    · cases rejected
    · split at rejected
      · cases rejected
      · split at rejected <;> cases rejected

/-- The source draws a number of bytes other than what was asked for: a request fails in no other
way. -/
structure Misdrawn (drawn : Bytes) (cause : Cause) : Prop where
  wrong : drawn.length ≠ tokenIdSize
  eq : cause = .crypto (.derivation (.nonceLength (2 * drawn.length)))

theorem Misdrawn.checked (misdrawn : Misdrawn drawn cause) : CheckCause cause := by
  obtain ⟨wrong, rfl⟩ := misdrawn
  have sizes : nonceSize = 2 * tokenIdSize := rfl
  exact .nonceLength (by omega)

theorem callWith_cause (usable : Usable session)
    (internal : (callWith session clock drawn).notice = some (.internal text cause)) :
    Misdrawn drawn cause := by
  cases readable : clock.truncate with
  | error fault =>
    rw [callWith_of_unreadable readable] at internal
    cases internal
  | ok now =>
    by_cases size : drawn.length = tokenIdSize
    · have fits := fitsNonce_encode_iff.mpr size
      by_cases bounded : now.natAbs < 10 ^ Decimal.maxDigits
      · rw [callWith_of_fits usable fits readable bounded] at internal
        cases internal
      · rw [callWith_of_large usable fits readable bounded] at internal
        cases internal
    · have misfit := fitsNonce_encode_iff.not.mpr size
      obtain ⟨fault, refused, call⟩ := callWith_of_misfit usable misfit readable
      rw [deriveNonce_encode size] at refused
      cases refused
      rw [call] at internal
      cases internal
      exact ⟨size, rfl⟩

theorem issueToken_cause {session : Option Text}
    (internal : (issueToken session clock source).1.notice = some (.internal text cause)) :
    Misdrawn (source.draw tokenIdSize).1 cause := by
  cases request session clock source with
  | empty made =>
    rw [made] at internal
    cases internal
  | unsuitable made =>
    rw [made] at internal
    cases internal
  | drawn given usable made =>
    rw [made] at internal
    exact callWith_cause usable internal

theorem checkToken_cause {token : Value} {allowed : Nat}
    (internal : (checkToken token (some session) allowed clock).notice =
      some (.internal text cause)) : CheckCause cause := by
  rcases misused_or_presented token session with misused | ⟨p, presented⟩
  · obtain ⟨text', call⟩ := checkToken_of_misused misused allowed clock
    rw [call] at internal
    cases internal
  cases readable : clock.truncate with
  | error fault =>
    rw [checkToken_of_unreadable presented readable] at internal
    cases internal
  | ok now =>
    cases found : p.rejection? session allowed now with
    | error fault =>
      rw [checkToken_of_refused presented readable found] at internal
      cases internal
    | ok rejection =>
      cases rejection with
      | none =>
        rw [checkToken_of_accepted presented readable found] at internal
        cases internal
      | some r =>
        rw [checkToken_of_rejected presented readable found] at internal
        obtain ⟨id, fault, rfl, rfl⟩ := sealed_of_internal internal
        exact Parts.unseal_cause presented.usable (unseal_of_sealed found)

end SealedToken
