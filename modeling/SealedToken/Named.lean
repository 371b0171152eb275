import SealedToken.Text.Basic

namespace SealedToken

abbrev Named (α : Type) := List (Text × α)

namespace Named

variable {α : Type}

def get? (xs : Named α) (name : Text) : Option α :=
  xs.lookup name

/-- Puts a value under a name: in its place if the name is there, else at the end. -/
def put (name : Text) (x : α) : Named α → Named α
  | [] => [(name, x)]
  | (n, y) :: xs => if n = name then (name, x) :: xs else (n, y) :: put name x xs

def erase (name : Text) (xs : Named α) : Named α :=
  xs.filter (·.1 ≠ name)

def merge (xs ys : Named α) : Named α :=
  ys.foldl (fun xs y => put y.1 y.2 xs) xs

theorem get?_put_self (xs : Named α) (name : Text) (x : α) :
    (put name x xs).get? name = some x := by
  induction xs with
  | nil => simp [put, get?]
  | cons y xs ih =>
    obtain ⟨n, y⟩ := y
    by_cases h : n = name
    · simp [put, get?, h]
    · have hb : (name == n) = false := by simp [Ne.symm h]
      simp only [get?] at ih
      simp only [put, h, ↓reduceIte, get?, List.lookup_cons, hb, ih]

theorem get?_put_of_ne (xs : Named α) (x : α) {name other : Text} (h : other ≠ name) :
    (put name x xs).get? other = xs.get? other := by
  have hb : (other == name) = false := by simp [h]
  induction xs with
  | nil => simp [put, get?, List.lookup_cons, hb]
  | cons y xs ih =>
    obtain ⟨n, y⟩ := y
    simp only [get?] at ih
    by_cases hn : n = name
    · subst hn
      simp only [put, ↓reduceIte, get?, List.lookup_cons, hb]
    · simp only [put, hn, ↓reduceIte, get?, List.lookup_cons, ih]

end Named

end SealedToken
