namespace SealedToken

abbrev CodePoint := Fin 0x110000

-- Numerals of code points go through this instance, whatever other instances are imported.
instance (priority := high) neZero_codePoints : @NeZero Nat Zero.ofOfNat0 0x110000 := ⟨by decide⟩

abbrev Bytes := List UInt8

namespace CodePoint

theorem toNat_char_lt (c : Char) : c.toNat < 0x110000 := by
  have h : c.toNat < 0xd800 ∨ 0xdfff < c.toNat ∧ c.toNat < 0x110000 := c.valid
  omega

def ofChar (c : Char) : CodePoint :=
  ⟨c.toNat, toNat_char_lt c⟩

def isSurrogate (c : CodePoint) : Bool :=
  0xD800 ≤ c.val && c.val ≤ 0xDFFF

def toChar? (c : CodePoint) : Option Char :=
  if c.isSurrogate then none else some (Char.ofNat c.val)

theorem isSurrogate_eq_true_iff {c : CodePoint} :
    c.isSurrogate = true ↔ 0xD800 ≤ c.val ∧ c.val ≤ 0xDFFF := by
  simp [isSurrogate]

theorem isSurrogate_eq_false_iff {c : CodePoint} :
    c.isSurrogate = false ↔ c.val < 0xD800 ∨ 0xDFFF < c.val := by
  rw [← Bool.not_eq_true, isSurrogate_eq_true_iff]
  omega

theorem isSurrogate_ofChar (c : Char) : (ofChar c).isSurrogate = false := by
  have h : c.toNat < 0xd800 ∨ 0xdfff < c.toNat ∧ c.toNat < 0x110000 := c.valid
  rw [isSurrogate_eq_false_iff]
  simp only [ofChar]
  omega

theorem toChar?_ofChar (c : Char) : (ofChar c).toChar? = some c := by
  rw [toChar?, isSurrogate_ofChar]
  exact congrArg some c.ofNat_toNat

end CodePoint

/-- Unlike a `String`, a text can hold a lone surrogate, and so have no encoding. -/
abbrev Text := List CodePoint

namespace Text

def ofString (s : String) : Text :=
  s.toList.map CodePoint.ofChar

instance : Coe String Text := ⟨ofString⟩

def toString? (t : Text) : Option String :=
  (t.mapM CodePoint.toChar?).map String.ofList

theorem mapM_toChar?_map (cs : List Char) :
    (cs.map CodePoint.ofChar).mapM CodePoint.toChar? = some cs := by
  induction cs with
  | nil => rfl
  | cons c cs ih => simp [List.mapM_cons, CodePoint.toChar?_ofChar, ih]

theorem toString?_ofString (s : String) : toString? (ofString s) = some s := by
  rw [toString?, ofString, mapM_toChar?_map, Option.map_some, String.ofList_toList]

end Text

end SealedToken
