import SealedToken.Proofs.Token.Issuing

namespace SealedToken

theorem callWith_notice_iff (session : Text) (clock : Reading) (drawn : Bytes) :
    (callWith session clock drawn).notice.isSome ↔
      (callWith session clock drawn).result = .ok none := by
  unfold callWith
  cases clock.truncate with
  | error fault => simp
  | ok now =>
    simp only
    generalize sealToken session (Hex.encode drawn) now = made
    cases made with
    | error fault => simp
    | ok sealed => cases sealed <;> simp

theorem issueToken_notice_iff (session : Option Text) (clock : Reading) (source : RandomSource) :
    (issueToken session clock source).1.notice.isSome ↔
      (issueToken session clock source).1.result = .ok none := by
  cases request session clock source with
  | empty made => simp [made]
  | unsuitable made => simp [made]
  | drawn given usable made => simp only [made, callWith_notice_iff]

theorem rejectCall_notice_iff (reads : Nat) (r : Rejection) :
    (rejectCall reads r).notice.isSome ↔ (rejectCall reads r).result = .ok false := by
  unfold rejectCall
  cases r.notice <;> simp

theorem checkToken_notice_iff (token : Value) (session : Option Text) (allowed : Nat)
    (clock : Reading) :
    (checkToken token session allowed clock).notice.isSome ↔
      (checkToken token session allowed clock).result = .ok false := by
  cases session with
  | none => simp [checkToken]
  | some session =>
    cases parts : Parts.ofValue? token with
    | none => simp only [checkToken, parts, rejectCall_notice_iff]
    | some p =>
      cases problem : sessionProblem? session with
      | some problem' => simp only [checkToken, parts, problem, rejectCall_notice_iff]
      | none =>
        cases readable : clock.truncate with
        | error fault => simp [checkToken, parts, problem, readable]
        | ok now =>
          simp only [checkToken, parts, problem, readable]
          cases p.rejection? session allowed now with
          | error fault => simp
          | ok rejection =>
            cases rejection with
            | none => simp
            | some r => exact rejectCall_notice_iff 1 r

end SealedToken
