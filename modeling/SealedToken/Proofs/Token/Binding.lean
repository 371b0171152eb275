import SealedToken.Proofs.Token.Issuing

namespace SealedToken

variable {session other t : Text} {p : Parts} {clock clock' : Reading} {now now' time time' : Int}
variable {drawn : Bytes} {allowed : Nat}

theorem Presented.to_session {token : Value} (presented : Presented token session p)
    (usable : Usable other) : Presented token other p :=
  ⟨usable, presented.written, presented.split⟩

/-- Under one key a token is for one session and one time at most. -/
theorem TokenFor.unique (tokenFor : TokenFor t session time) (tokenFor' : TokenFor t other time')
    (shared : sessionKey session = sessionKey other) : session = other ∧ time = time' := by
  obtain ⟨p, plaintext, presented, fits, opens, reads⟩ := tokenFor_iff.mp tokenFor
  obtain ⟨p', plaintext', presented', _, opens', reads'⟩ := tokenFor_iff.mp tokenFor'
  have parts : p = p' := (presented.to_session presented'.usable).unique presented'
  subst parts
  have text : plaintext = plaintext' :=
    (opens.of_sharedKey shared).unique presented'.usable fits opens'
  subst text
  exact Payload.mk.inj (reads.unique reads')

theorem TokenFor.session_unique (tokenFor : TokenFor t session time)
    (tokenFor' : TokenFor t other time') (shared : sessionKey session = sessionKey other) :
    session = other :=
  (tokenFor.unique tokenFor' shared).1

/-- An issued token opens for every session with its key, and is found to name another one before
its time is looked at. -/
theorem Issued.checkToken_other (issued : Issued session clock drawn now t)
    (usable : Usable other) (different : session ≠ other)
    (shared : sessionKey session = sessionKey other) (finite : clock'.truncate = .ok now')
    (allowed : Nat) :
    checkToken (.text t) (some other) allowed clock' =
      rejectCall 1 (.otherSession (Hex.encode drawn)) := by
  obtain ⟨usable', size, _, bounded, rfl⟩ := issued
  have fits := fitsNonce_encode_iff.mpr size
  have opens := opens_forge usable' fits (encodable_rendered usable' now)
  have presented := presented_forge usable' (separator_not_mem_encode drawn)
    (session ++ separator :: Decimal.ofInt now)
  exact checkToken_eq_of_other (presented.to_session usable) fits (opens.of_sharedKey shared)
    (Payload.reads_rendered bounded session) different finite allowed

end SealedToken
