import SealedToken.Proofs.Token.Issuing

namespace SealedToken

def Hex.Lower (t : Text) : Prop :=
  ∀ c ∈ t, 0x30 ≤ c.val ∧ c.val ≤ 0x39 ∨ 0x61 ≤ c.val ∧ c.val ≤ 0x66

/-- Whether a token is made of sixteen digits that spell what was drawn, a separator, and two digits
for each byte of the session, of the separator and of the time that are sealed, and of the tag. -/
def IssuedForm (session : Text) (drawn : Bytes) (now : Int) (token : Text) : Prop :=
  ∃ tokenId hex, token = tokenId ++ separator :: hex ∧
    Hex.Lower tokenId ∧ tokenId.length = 16 ∧ Hex.decode tokenId = .ok drawn ∧
    Hex.Lower hex ∧
    hex.length = 2 * ((Utf8.bytes session).length + 1 + (Decimal.ofInt now).length + 16)

inductive IssueEnding
  | empty
  | misuse
  | unreadable
  | misfit
  | unwritable
  | issued
  deriving DecidableEq

variable {drawn : Bytes} {now : Int} {clock : Reading} {source : RandomSource}

theorem length_bytes_rendered (session : Text) (now : Int) :
    (Utf8.bytes (session ++ separator :: Decimal.ofInt now)).length =
      (Utf8.bytes session).length + 1 + (Decimal.ofInt now).length := by
  have stamp : (Utf8.bytes (Decimal.ofInt now)).length = (Decimal.ofInt now).length := by
    apply Utf8.length_bytes_of_ascii
    intro c member
    have bound := (Decimal.spells_ofInt now).val_lt member
    omega
  have mark : (Utf8.encodePoint separator).length = 1 := rfl
  rw [Utf8.bytes_append, Utf8.bytes_cons, List.length_append, List.length_append, mark, stamp,
    Nat.add_assoc]

theorem issuedForm_issuedToken {session : Text} (usable : Usable session) (size : drawn.length = tokenIdSize) :
    IssuedForm session drawn now (issuedToken session drawn now) := by
  have fits := fitsNonce_encode_iff.mpr size
  obtain ⟨ciphertext, sealed, forged⟩ := sealText_forge usable fits (encodable_rendered usable now)
  obtain ⟨bytes, encoded, sealed⟩ := sealText_eq_ok_iff.mp sealed
  obtain ⟨_, rfl⟩ := Utf8.encode_eq_ok_iff.mp encoded
  have length := length_sealBytes sealed
  rw [length_bytes_rendered] at length
  refine ⟨Hex.encode drawn, Hex.encode ciphertext, ?_, fun _ => Hex.encode_cases, ?_,
    Hex.decode_encode drawn, fun _ => Hex.encode_cases, ?_⟩
  · rw [issuedToken, forged]
    rfl
  · rw [Hex.length_encode, size]
    rfl
  · rw [Hex.length_encode, length]
    rfl

theorem truncate_eq_error_iff :
    (∃ fault, clock.truncate = .error fault) ↔
      clock = .double .nan ∨ ∃ negative, clock = .double (.infinite negative) := by
  cases clock with
  | whole n => simp [Reading.truncate]
  | double d => cases d <;> simp [Reading.truncate]

theorem callWith_draws (session : Text) (clock : Reading) (drawn : Bytes) :
    (callWith session clock drawn).draws = [tokenIdSize] := by
  unfold callWith
  cases clock.truncate with
  | error fault => rfl
  | ok now =>
    simp only
    cases sealToken session (Hex.encode drawn) now with
    | error fault => rfl
    | ok sealed => cases sealed <;> rfl

theorem issueToken_asked (session : Option Text) (clock : Reading) (source : RandomSource) :
    (issueToken session clock source).2.asked =
      source.asked ++ (issueToken session clock source).1.draws := by
  cases request session clock source with
  | empty made => rw [made, List.append_nil]
  | unsuitable made => rw [made, List.append_nil]
  | drawn given usable made =>
    rw [made, callWith_draws]
    rfl

namespace IssueEnding

def Condition (session : Option Text) (drawn : Bytes) (clock : Reading) : IssueEnding → Prop
  | empty => session = none ∨ session = some []
  | misuse => ∃ s, session = some s ∧ s ≠ [] ∧
      (Utf8.encodable s = false ∨ (Utf8.bytes s).length < keySize)
  | unreadable => ∃ s, session = some s ∧ Usable s ∧
      (clock = .double .nan ∨ ∃ negative, clock = .double (.infinite negative))
  | misfit => ∃ s now, session = some s ∧ Usable s ∧ clock.truncate = .ok now ∧
      drawn.length ≠ tokenIdSize
  | unwritable => ∃ s now, session = some s ∧ Usable s ∧ clock.truncate = .ok now ∧
      drawn.length = tokenIdSize ∧ 10 ^ Decimal.maxDigits ≤ now.natAbs
  | issued => ∃ s now, session = some s ∧ Usable s ∧ clock.truncate = .ok now ∧
      drawn.length = tokenIdSize ∧ now.natAbs < 10 ^ Decimal.maxDigits

def Outcome (session : Option Text) (drawn : Bytes) (clock : Reading) :
    IssueEnding → Call (Option Text) → Prop
  | empty, call => call = { result := .error .emptySession }
  | misuse, call => ∃ text, call = { result := .ok none, notice := some (.misuse text) }
  | unreadable, call => ∃ fault, clock.truncate = .error fault ∧
      call = { result := .error (.clock fault), draws := [tokenIdSize], reads := 1 }
  | misfit, call => ∃ (text : Text) (cause : Cause), cause.name = "KeyDerivationError" ∧
      call = { result := .ok none, notice := some (.internal text cause), draws := [tokenIdSize],
               reads := 1 }
  | unwritable, call =>
    call = { result := .error (.integer .writing), draws := [tokenIdSize], reads := 1 }
  | issued, call => ∃ s now token text, session = some s ∧ clock.truncate = .ok now ∧
      IssuedForm s drawn now token ∧
      call = { result := .ok (some token), draws := [tokenIdSize], reads := 1, debug := [text] }

variable {session : Option Text} {ending ending' : IssueEnding} {call : Call (Option Text)}

def shownIn (call : Call (Option Text)) : IssueEnding :=
  match call.result, call.notice with
  | .error (.clock _), _ => unreadable
  | .error (.integer _), _ => unwritable
  | .error _, _ => empty
  | .ok (some _), _ => issued
  | .ok none, some (.misuse _) => misuse
  | .ok none, _ => misfit

theorem Outcome.shownIn (outcome : ending.Outcome session drawn clock call) :
    shownIn call = ending := by
  cases ending with
  | empty =>
    cases outcome
    rfl
  | misuse =>
    obtain ⟨text, rfl⟩ := outcome
    rfl
  | unreadable =>
    obtain ⟨fault, _, rfl⟩ := outcome
    rfl
  | misfit =>
    obtain ⟨text, cause, _, rfl⟩ := outcome
    rfl
  | unwritable =>
    cases outcome
    rfl
  | issued =>
    obtain ⟨s, now, token, text, _, _, _, rfl⟩ := outcome
    rfl

theorem Outcome.unique (outcome : ending.Outcome session drawn clock call)
    (outcome' : ending'.Outcome session drawn clock call) : ending = ending' := by
  rw [← outcome.shownIn, outcome'.shownIn]

theorem Condition.outcome
    (condition : ending.Condition session (source.draw tokenIdSize).1 clock) :
    ending.Outcome session (source.draw tokenIdSize).1 clock
      (issueToken session clock source).1 := by
  cases ending with
  | empty =>
    rcases condition with rfl | rfl
    · rfl
    · rfl
  | misuse =>
    obtain ⟨s, rfl, nonempty, unusable⟩ := condition
    have problematic := sessionProblem?_eq_none_iff_usable.not.mpr (not_usable_iff.mpr unusable)
    obtain ⟨problem, found⟩ := Option.ne_none_iff_exists'.mp problematic
    rw [issueToken_of_problem nonempty found]
    exact ⟨_, rfl⟩
  | unreadable =>
    obtain ⟨s, rfl, usable, unreadable⟩ := condition
    obtain ⟨fault, failed⟩ := truncate_eq_error_iff.mpr unreadable
    rw [issueToken_of_usable usable, callWith_of_unreadable failed]
    exact ⟨fault, failed, rfl⟩
  | misfit =>
    obtain ⟨s, now, rfl, usable, finite, size⟩ := condition
    have misfit := fitsNonce_encode_iff.not.mpr size
    obtain ⟨fault, _, call⟩ := callWith_of_misfit usable misfit finite
    rw [issueToken_of_usable usable, call]
    exact ⟨_, .crypto (.derivation fault), rfl, rfl⟩
  | unwritable =>
    obtain ⟨s, now, rfl, usable, finite, size, large⟩ := condition
    have fits := fitsNonce_encode_iff.mpr size
    rw [issueToken_of_usable usable,
      callWith_of_large usable fits finite (Nat.not_lt_of_le large)]
    rfl
  | issued =>
    obtain ⟨s, now, rfl, usable, finite, size, bounded⟩ := condition
    have fits := fitsNonce_encode_iff.mpr size
    rw [issueToken_of_usable usable, callWith_of_fits usable fits finite bounded]
    exact ⟨s, now, _, _, rfl, finite, issuedForm_issuedToken usable size, rfl⟩

theorem exists_condition (session : Option Text) (drawn : Bytes) (clock : Reading) :
    ∃ ending : IssueEnding, ending.Condition session drawn clock := by
  cases session with
  | none => exact ⟨empty, .inl rfl⟩
  | some s =>
    by_cases nonempty : s ≠ []
    · by_cases usable : Usable s
      · cases readable : clock.truncate with
        | error fault =>
          have failed := truncate_eq_error_iff.mp ⟨fault, readable⟩
          exact ⟨unreadable, s, rfl, usable, failed⟩
        | ok now =>
          by_cases size : drawn.length = tokenIdSize
          · by_cases bounded : now.natAbs < 10 ^ Decimal.maxDigits
            · exact ⟨issued, s, now, rfl, usable, readable, size, bounded⟩
            · exact ⟨unwritable, s, now, rfl, usable, readable, size, Nat.le_of_not_lt bounded⟩
          · exact ⟨misfit, s, now, rfl, usable, readable, size⟩
      · exact ⟨misuse, s, rfl, nonempty, not_usable_iff.mp usable⟩
    · exact ⟨empty, .inr (congrArg some (Classical.not_not.mp nonempty))⟩

end IssueEnding

end SealedToken
