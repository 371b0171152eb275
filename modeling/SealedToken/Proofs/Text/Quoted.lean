import SealedToken.Proofs.Text.Hex
import SealedToken.Proofs.Text.Printable
import SealedToken.Text.Quoted

namespace SealedToken.Quoted

def number (bs : Bytes) : Nat :=
  bs.foldl (fun n b => 256 * n + b.toNat) 0

def widths : List (CodePoint × Nat) :=
  [(0x78, 2), (0x75, 4), (0x55, 8)]

def named : List (CodePoint × CodePoint) :=
  [(0x6E, 0x0A), (0x72, 0x0D), (0x74, 0x09)]

inductive Escapes (q c : CodePoint) : Text → Prop
  | marked (special : c = q ∨ c = backslash) : Escapes q c [backslash, c]
  | named {letter : CodePoint} (named : (letter, c) ∈ named) : Escapes q c [backslash, letter]
  | plain (different : c ≠ q) (unmarked : c ≠ backslash) (printable : c.printable = true) :
    Escapes q c [c]
  | number {letter : CodePoint} (bs : Bytes) (width : (letter, 2 * bs.length) ∈ widths)
    (same : number bs = c.val) : Escapes q c (backslash :: letter :: Hex.encode bs)

/-- The code point that stands at the beginning of a text between quotes, and what follows it. -/
def unescape : Text → Option (CodePoint × Text)
  | [] => none
  | c :: rest =>
    if c ≠ backslash then some (c, rest)
    else match rest with
      | [] => none
      | letter :: rest =>
        match named.lookup letter, widths.lookup letter with
        | some c, _ => some (c, rest)
        | none, none => some (letter, rest)
        | none, some width =>
          (Hex.pairs? (rest.take width)).map fun bs => (Fin.ofNat _ (number bs), rest.drop width)

variable {q c : CodePoint} {t t' rest rest' : Text}

theorem quote_cases (t : Text) : quote t = single ∨ quote t = double := by
  unfold quote
  split
  · exact .inr rfl
  · exact .inl rfl

theorem number_byte {n : Nat} (small : n < 0x100) : number [UInt8.ofNat (n % 256)] = n := by
  simp only [number, List.foldl_cons, List.foldl_nil, UInt8.toNat_ofNat']
  omega

theorem number_two {n : Nat} (small : n < 0x10000) :
    number [UInt8.ofNat (n / 256 % 256), UInt8.ofNat (n % 256)] = n := by
  simp only [number, List.foldl_cons, List.foldl_nil, UInt8.toNat_ofNat']
  omega

theorem number_four {n : Nat} (small : n < 0x100000000) :
    number [UInt8.ofNat (n / 16777216), UInt8.ofNat (n / 65536 % 256), UInt8.ofNat (n / 256 % 256),
      UInt8.ofNat (n % 256)] = n := by
  simp only [number, List.foldl_cons, List.foldl_nil, UInt8.toNat_ofNat']
  omega

theorem escapes_escape (q c : CodePoint) : Escapes q c (escape q c) := by
  unfold escape
  split
  · next special => exact .marked special
  next ordinary =>
  rw [not_or] at ordinary
  split
  · next feed =>
    have here : c = 0x0A := Fin.ext feed
    exact .named (by simp [named, here])
  split
  · next carriage =>
    have here : c = 0x0D := Fin.ext carriage
    exact .named (by simp [named, here])
  split
  · next tab =>
    have here : c = 0x09 := Fin.ext tab
    exact .named (by simp [named, here])
  split
  · next printable => exact .plain ordinary.1 ordinary.2 printable
  split
  · next small => exact .number [_] (by simp [widths]) (number_byte small)
  split
  · next small => exact .number [_, _] (by simp [widths]) (number_two small)
  · have small : c.val < 0x100000000 := by omega
    exact .number [_, _, _, _] (by simp [widths]) (number_four small)

theorem lookup_of_width {letter : CodePoint} {width : Nat} (member : (letter, width) ∈ widths) :
    named.lookup letter = none ∧ widths.lookup letter = some width := by
  simp only [widths, List.mem_cons, Prod.mk.injEq, List.not_mem_nil, or_false] at member
  rcases member with ⟨rfl, rfl⟩ | ⟨rfl, rfl⟩ | ⟨rfl, rfl⟩
  · exact ⟨rfl, rfl⟩
  · exact ⟨rfl, rfl⟩
  · exact ⟨rfl, rfl⟩

theorem printable_of_widths {letter : CodePoint} {width : Nat}
    (member : (letter, width) ∈ widths) : letter.printable = true := by
  have all : widths.all (·.1.printable) = true := by decide +kernel
  exact List.all_eq_true.mp all _ member

theorem printable_of_named {letter : CodePoint} (member : (letter, c) ∈ named) :
    letter.printable = true := by
  have all : named.all (·.1.printable) = true := by decide +kernel
  exact List.all_eq_true.mp all _ member

theorem unescape_of_escapes (quoted : q = single ∨ q = double) {text : Text}
    (escapes : Escapes q c text) (rest : Text) : unescape (text ++ rest) = some (c, rest) := by
  cases escapes with
  | marked special =>
    have mark : c = single ∨ c = double ∨ c = backslash := by
      rcases special with rfl | rfl
      · rcases quoted with rfl | rfl
        · exact .inl rfl
        · exact .inr (.inl rfl)
      · exact .inr (.inr rfl)
    rcases mark with rfl | rfl | rfl
    · rfl
    · rfl
    · rfl
  | named member =>
    simp only [named, List.mem_cons, Prod.mk.injEq, List.not_mem_nil, or_false] at member
    rcases member with ⟨rfl, rfl⟩ | ⟨rfl, rfl⟩ | ⟨rfl, rfl⟩
    · rfl
    · rfl
    · rfl
  | plain different unmarked printable =>
    change (if c ≠ backslash then some (c, rest) else _) = _
    rw [if_pos unmarked]
  | @number letter bs width same =>
    obtain ⟨unnamed, found⟩ := lookup_of_width width
    have digits : (Hex.encode bs ++ rest).take (2 * bs.length) = Hex.encode bs :=
      List.take_left' (Hex.length_encode bs)
    have after : (Hex.encode bs ++ rest).drop (2 * bs.length) = rest :=
      List.drop_left' (Hex.length_encode bs)
    have value : Fin.ofNat 0x110000 (number bs) = c := by
      rw [same]
      exact Fin.ofNat_val_eq_self c
    change unescape (backslash :: letter :: (Hex.encode bs ++ rest)) = _
    simp only [unescape, ne_eq, not_true_eq_false, ↓reduceIte, unnamed, found, digits, after,
      Hex.pairs?_encode, Option.map_some, value]

theorem head_of_escapes (quoted : q = single ∨ q = double) {text : Text}
    (escapes : Escapes q c text) : ∃ first others, text = first :: others ∧ first ≠ q := by
  have mark : backslash ≠ q := by
    rcases quoted with rfl | rfl
    · decide
    · decide
  cases escapes with
  | marked special => exact ⟨backslash, _, rfl, mark⟩
  | named member => exact ⟨backslash, _, rfl, mark⟩
  | plain different unmarked printable => exact ⟨c, _, rfl, different⟩
  | number bs width same => exact ⟨backslash, _, rfl, mark⟩

theorem printable_of_quote (quoted : q = single ∨ q = double) : q.printable = true := by
  rcases quoted with rfl | rfl
  · decide +kernel
  · decide +kernel

theorem printable_of_escapes (quoted : q = single ∨ q = double) {text : Text}
    (escapes : Escapes q c text) : Text.Printable text := by
  have mark : backslash.printable = true := by decide +kernel
  intro p member
  cases escapes with
  | marked special =>
    rcases List.mem_cons.mp member with rfl | member
    · exact mark
    rw [List.mem_singleton.mp member]
    rcases special with rfl | rfl
    · exact printable_of_quote quoted
    · exact mark
  | @named letter found =>
    rcases List.mem_cons.mp member with rfl | member
    · exact mark
    rw [List.mem_singleton.mp member]
    exact printable_of_named found
  | plain different unmarked printable =>
    rw [List.mem_singleton.mp member]
    exact printable
  | @number letter bs width same =>
    rcases List.mem_cons.mp member with rfl | member
    · exact mark
    rcases List.mem_cons.mp member with rfl | member
    · exact printable_of_widths width
    · have digit := Hex.encode_cases member
      apply CodePoint.printable_of_ascii
      · omega
      · omega

theorem escapes_inj (quoted : q = single ∨ q = double)
    (same : t.flatMap (escape q) ++ q :: rest = t'.flatMap (escape q) ++ q :: rest') :
    t = t' ∧ rest = rest' := by
  -- On the first text: no escape begins with the quote, and two escapes that begin a text are one.
  induction t generalizing t' with
  | nil =>
    cases t' with
    | nil => exact ⟨rfl, (List.cons.inj same).2⟩
    | cons c' t' =>
      obtain ⟨first, others, begins, different⟩ := head_of_escapes quoted (escapes_escape q c')
      rw [List.flatMap_cons, begins] at same
      exact absurd (List.cons.inj same).1.symm different
  | cons c t ih =>
    cases t' with
    | nil =>
      obtain ⟨first, others, begins, different⟩ := head_of_escapes quoted (escapes_escape q c)
      rw [List.flatMap_cons, begins] at same
      exact absurd (List.cons.inj same).1 different
    | cons c' t' =>
      rw [List.flatMap_cons, List.flatMap_cons, List.append_assoc, List.append_assoc] at same
      have read := unescape_of_escapes quoted (escapes_escape q c) (t.flatMap (escape q) ++ q :: rest)
      rw [same, unescape_of_escapes quoted (escapes_escape q c')] at read
      obtain ⟨heads, tails⟩ := Prod.mk.inj (Option.some.inj read)
      obtain ⟨same_tail, same_rest⟩ := ih tails.symm
      rw [heads, same_tail]
      exact ⟨rfl, same_rest⟩

/-- A quoted text tells the text that was quoted, whatever follows it. -/
theorem write_append_inj (same : write t ++ rest = write t' ++ rest') : t = t' ∧ rest = rest' := by
  simp only [write, List.cons_append, List.append_assoc, List.nil_append] at same
  obtain ⟨quotes, same⟩ := List.cons.inj same
  rw [quotes] at same
  exact escapes_inj (quote_cases t') same

theorem write_inj (same : write t = write t') : t = t' := by
  have same : write t ++ [] = write t' ++ [] := congrArg (· ++ []) same
  exact (write_append_inj same).1

theorem printable_write (t : Text) : Text.Printable (write t) := by
  have quoted := quote_cases t
  intro p member
  simp only [write, List.cons_append, List.mem_cons, List.mem_append, List.mem_flatMap,
    List.not_mem_nil, or_false] at member
  rcases member with rfl | ⟨c, _, member⟩ | rfl
  · exact printable_of_quote quoted
  · exact printable_of_escapes quoted (escapes_escape _ c) p member
  · exact printable_of_quote quoted

end SealedToken.Quoted
