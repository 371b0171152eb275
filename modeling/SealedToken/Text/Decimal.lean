import SealedToken.Text.Basic

namespace SealedToken.Decimal

def maxDigits : Nat := 4300

def lowFirst (n : Nat) : List (Fin 10) :=
  if h : n < 10 then [⟨n, h⟩]
  else ⟨n % 10, Nat.mod_lt n (by decide)⟩ :: lowFirst (n / 10)

def digit (d : Fin 10) : CodePoint :=
  ⟨0x30 + d.val, by omega⟩

def value? (c : CodePoint) : Option (Fin 10) :=
  if h : 0x30 ≤ c.val ∧ c.val ≤ 0x39 then some ⟨c.val - 0x30, by omega⟩ else none

def ofNat (n : Nat) : Text :=
  (lowFirst n).reverse.map digit

def minus : CodePoint := 0x2D

def plus : CodePoint := 0x2B

def ofInt (n : Int) : Text :=
  if n < 0 then minus :: ofNat n.natAbs else ofNat n.natAbs

inductive TooLong
  | writing
  | reading (digits : Nat)
  deriving DecidableEq, Repr

def TooLong.message : TooLong → Text
  | .writing =>
    "Exceeds the limit (" ++ ofNat maxDigits ++
      " digits) for integer string conversion; use sys.set_int_max_str_digits() to increase the limit"
  | .reading n =>
    "Exceeds the limit (" ++ ofNat maxDigits ++
      " digits) for integer string conversion: value has " ++ ofNat n ++
      " digits; use sys.set_int_max_str_digits() to increase the limit"

def write (n : Int) : Except TooLong Text :=
  if n.natAbs < Nat.pow 10 maxDigits then .ok (ofInt n) else .error .writing

def ofDigits (ds : List (Fin 10)) : Nat :=
  ds.foldl (fun n d => 10 * n + d.val) 0

def splitSign : Text → Bool × Text
  | [] => (false, [])
  | c :: t => if c = minus then (true, t) else if c = plus then (false, t) else (false, c :: t)

def spelling? (t : Text) : Option (Bool × List (Fin 10)) :=
  match (splitSign t).2.mapM value? with
  | some (d :: ds) => some ((splitSign t).1, d :: ds)
  | _ => none

def signed (negative : Bool) (n : Nat) : Int :=
  if negative then -(n : Int) else n

def read (t : Text) : Except TooLong (Option Int) :=
  match spelling? t with
  | none => .ok none
  | some (negative, ds) =>
    if ds.length ≤ maxDigits then .ok (some (signed negative (ofDigits ds)))
    else .error (.reading ds.length)

theorem value?_digit (d : Fin 10) : value? (digit d) = some d := by
  revert d
  decide

theorem digit_of_value? {c : CodePoint} {d : Fin 10} (h : value? c = some d) : digit d = c := by
  unfold value? at h
  split at h
  · cases h
    apply Fin.ext
    simp only [digit]
    omega
  · cases h

theorem foldr_lowFirst (n : Nat) :
    (lowFirst n).foldr (fun d m => 10 * m + d.val) 0 = n := by
  fun_induction lowFirst n with
  | case1 => simp
  | case2 n h ih => simp only [List.foldr_cons, ih]; omega

theorem ofDigits_reverse_lowFirst (n : Nat) : ofDigits (lowFirst n).reverse = n := by
  rw [ofDigits, List.foldl_reverse]
  exact foldr_lowFirst n

theorem lowFirst_ne_nil (n : Nat) : lowFirst n ≠ [] := by
  rw [lowFirst]
  split <;> simp

theorem mapM_value?_map (ds : List (Fin 10)) : (ds.map digit).mapM value? = some ds := by
  induction ds with
  | nil => rfl
  | cons d ds ih => simp [List.mapM_cons, value?_digit, ih]

theorem map_of_mapM_value? {t : Text} {ds : List (Fin 10)} (h : t.mapM value? = some ds) :
    ds.map digit = t := by
  induction t generalizing ds with
  | nil => simp at h; subst h; rfl
  | cons c t ih =>
    simp only [List.mapM_cons, Option.bind_eq_bind, Option.bind_eq_some_iff] at h
    obtain ⟨d, hd, ds', hds, h⟩ := h
    cases h
    rw [List.map_cons, digit_of_value? hd, ih hds]

end SealedToken.Decimal
