import SealedToken.Proofs.Clock
import SealedToken.Proofs.Text.Case
import SealedToken.Proofs.Text.Hex
import SealedToken.Proofs.Text.Spelling
import SealedToken.Settings.Basic

namespace SealedToken.Value

inductive IsText : Value → Text → Prop
  | text (t : Text) : IsText (.text t) t
  | bytes {t : Text} {bs : Bytes} (encoded : Utf8.encode t = .ok bs) : IsText (.bytes bs) t

inductive IsInteger : Value → Int → Prop
  | integer (n : Int) : IsInteger (.int n) n
  | truth (b : Bool) : IsInteger (.bool b) b.toInt
  | whole {d : Double} {n : Int} (value : d.value? = some (n : ℚ)) (bound : n.natAbs < 2 ^ 63) :
      IsInteger (.double d) n
  | spelled {v : Value} {t : Text} {n : Int} (isText : v.IsText t) (denotes : Decimal.Denotes t n) :
      IsInteger v n

def words (b : Bool) : List Text :=
  if b then ["1", "t", "y", "yes", "on", "true"] else ["0", "f", "n", "no", "off", "false"]

inductive IsTruth : Value → Bool → Prop
  | truth (b : Bool) : IsTruth (.bool b) b
  | integer (b : Bool) : IsTruth (.int b.toInt) b
  | whole {d : Double} {b : Bool} (value : d.value? = some (b.toInt : ℚ)) : IsTruth (.double d) b
  | word {v : Value} {t w : Text} {b : Bool} (isText : v.IsText t) (known : w ∈ words b)
      (same : t.SameLetters w) : IsTruth v b

inductive IsChoice : Value → SinkChoice → Prop
  | stderr : IsChoice (.text "stderr") .stderr
  | log : IsChoice (.text "structlog") .log
  | silent : IsChoice (.text "null") .silent

variable {v : Value} {t : Text} {bs : Bytes} {n : Int} {b : Bool} {k : SinkChoice}

theorem isText_bytes_iff : IsText (.bytes bs) t ↔ Utf8.decode bs = .ok t := by
  rw [Utf8.decode_eq_ok_iff]
  constructor
  · intro isText
    cases isText with
    | bytes encoded => exact encoded
  · exact .bytes

theorem readText_eq_ok_iff : v.readText = .ok t ↔ v.IsText t := by
  cases v with
  | text u =>
    constructor
    · intro read
      cases read
      exact .text t
    · intro isText
      cases isText
      rfl
  | bytes bs =>
    rw [isText_bytes_iff, readText]
    cases Utf8.decode bs with
    | ok u => simp only [Except.ok.injEq]
    | error fault => exact ⟨nofun, nofun⟩
  | _ => exact ⟨nofun, nofun⟩

theorem readSpelledInt_eq_ok_iff : readSpelledInt t = .ok n ↔ Decimal.Denotes t n := by
  rw [← Decimal.ofText_eq_integer_iff, readSpelledInt]
  cases spelled : Decimal.Spelling.ofText t with
  | integer m =>
    have encodable := (Decimal.ofText_eq_integer_iff.mp spelled).encodable
    simp only [encodable, Bool.not_true, Bool.false_eq_true, ↓reduceIte, Except.ok.injEq,
      Decimal.Spelling.integer.injEq]
  | tooLong => split <;> exact ⟨nofun, nofun⟩
  | malformed => split <;> exact ⟨nofun, nofun⟩

theorem isInteger_double_iff {d : Double} :
    IsInteger (.double d) n ↔ d.value? = some (n : ℚ) ∧ n.natAbs < 2 ^ 63 := by
  constructor
  · intro isInteger
    cases isInteger with
    | whole value bound => exact ⟨value, bound⟩
    | spelled isText _ => cases isText
  · rintro ⟨value, bound⟩
    exact .whole value bound

theorem isInteger_text_iff : IsInteger (.text t) n ↔ Decimal.Denotes t n := by
  constructor
  · intro isInteger
    cases isInteger with
    | spelled isText denotes =>
      cases isText
      exact denotes
  · exact .spelled (.text t)

theorem isInteger_bytes_iff :
    IsInteger (.bytes bs) n ↔ ∃ t, Utf8.decode bs = .ok t ∧ Decimal.Denotes t n := by
  constructor
  · intro isInteger
    cases isInteger with
    | spelled isText denotes => exact ⟨_, isText_bytes_iff.mp isText, denotes⟩
  · rintro ⟨t, decoded, denotes⟩
    exact .spelled (isText_bytes_iff.mpr decoded) denotes

theorem readInt_eq_ok_iff : v.readInt = .ok n ↔ v.IsInteger n := by
  cases v with
  | int m =>
    constructor
    · intro read
      cases read
      exact .integer n
    · intro isInteger
      cases isInteger with
      | integer => rfl
      | spelled isText _ => cases isText
  | bool b =>
    constructor
    · intro read
      cases read
      cases b
      · exact .truth false
      · exact .truth true
    · intro isInteger
      cases isInteger with
      | truth => cases b <;> rfl
      | spelled isText _ => cases isText
  | double d =>
    rw [isInteger_double_iff]
    cases d with
    | finite negative mantissa exponent =>
      rw [Double.value?_eq_intCast_iff, readInt]
      by_cases whole : Double.isWhole mantissa exponent = true
      · by_cases large : wordBound ≤ Double.wholePart mantissa exponent
        · simp only [whole, Bool.not_true, Bool.false_eq_true, ↓reduceIte, large, reduceCtorEq,
            true_and, false_iff, not_and]
          rintro rfl
          rw [Double.natAbs_signed]
          exact Nat.not_lt_of_le large
        · simp only [whole, Bool.not_true, Bool.false_eq_true, ↓reduceIte, large, true_and,
            Except.ok.injEq]
          refine ⟨fun same => ⟨same, ?_⟩, And.left⟩
          rw [← same, Double.natAbs_signed]
          exact Nat.lt_of_not_le large
      · simp only [whole, Bool.not_false, ↓reduceIte, reduceCtorEq, false_and]
    | infinite negative => exact ⟨nofun, nofun⟩
    | nan => exact ⟨nofun, nofun⟩
  | text t => exact readSpelledInt_eq_ok_iff.trans isInteger_text_iff.symm
  | bytes bs =>
    rw [isInteger_bytes_iff, readInt]
    cases Utf8.decode bs with
    | ok t => simp only [readSpelledInt_eq_ok_iff, Except.ok.injEq, exists_eq_left']
    | error fault => exact ⟨nofun, nofun⟩
  | _ =>
    refine ⟨nofun, fun isInteger => ?_⟩
    cases isInteger with
    | spelled isText _ => cases isText

theorem readSpelledInt_ne_belowZero : readSpelledInt t ≠ .error .belowZero := by
  rw [readSpelledInt]
  split
  · exact nofun
  · split <;> exact nofun

theorem readInt_ne_belowZero (v : Value) : v.readInt ≠ .error .belowZero := by
  cases v with
  | double d =>
    cases d with
    | finite negative mantissa exponent =>
      rw [readInt]
      split
      · exact nofun
      · split <;> exact nofun
    | _ => exact nofun
  | text t => exact readSpelledInt_ne_belowZero
  | bytes bs =>
    rw [readInt]
    split
    · exact readSpelledInt_ne_belowZero
    · exact nofun
  | _ => exact nofun

theorem readExpiry_of_ok (read : v.readInt = .ok n) :
    v.readExpiry = if n < 0 then .error .belowZero else .ok n.toNat := by
  rw [readExpiry, read]
  rfl

theorem readExpiry_of_error {p : FieldProblem} (unread : v.readInt = .error p) :
    v.readExpiry = .error p := by
  rw [readExpiry, unread]
  rfl

theorem readExpiry_eq_ok_iff {m : Nat} : v.readExpiry = .ok m ↔ v.IsInteger m := by
  rw [← readInt_eq_ok_iff]
  cases read : v.readInt with
  | error p =>
    rw [readExpiry_of_error read]
    exact ⟨nofun, nofun⟩
  | ok n =>
    rw [readExpiry_of_ok read, Except.ok.injEq]
    by_cases negative : n < 0
    · rw [if_pos negative]
      exact ⟨nofun, fun same => by omega⟩
    · rw [if_neg negative, Except.ok.injEq]
      omega

theorem readExpiry_eq_belowZero_iff :
    v.readExpiry = .error .belowZero ↔ ∃ n, n < 0 ∧ v.IsInteger n := by
  simp only [← readInt_eq_ok_iff]
  cases read : v.readInt with
  | error p =>
    rw [readExpiry_of_error read]
    constructor
    · intro below
      cases below
      exact absurd read (readInt_ne_belowZero v)
    · rintro ⟨n, _, same⟩
      cases same
  | ok n =>
    rw [readExpiry_of_ok read]
    by_cases negative : n < 0
    · rw [if_pos negative]
      exact ⟨fun _ => ⟨n, negative, rfl⟩, fun _ => rfl⟩
    · rw [if_neg negative]
      refine ⟨nofun, ?_⟩
      rintro ⟨m, below, same⟩
      cases same
      exact absurd below negative

theorem lower_mem_words_iff : t.lower ∈ words b ↔ ∃ w ∈ words b, t.SameLetters w := by
  have small : ∀ b, ∀ w ∈ words b, w.lower = w := by decide
  constructor
  · intro among
    exact ⟨_, among, Text.lower_eq_lower_iff.mp (small b _ among).symm⟩
  · rintro ⟨w, known, same⟩
    rw [Text.lower_eq_lower_iff.mpr same, small b w known]
    exact known

theorem encodable_of_word (among : t.lower ∈ words b) : Utf8.encodable t = true := by
  have ascii : ∀ b, ∀ w ∈ words b, w.all (·.val < 0x80) = true := by decide
  refine Utf8.encodable_of_ascii fun c member => ?_
  have low := List.all_eq_true.mp (ascii b _ among) c.lower (List.mem_map_of_mem member)
  have := Hex.ascii_lower c
  simp only [decide_eq_true_eq] at low
  omega

theorem readBoolWord_eq_ok_iff : readBoolWord t = .ok b ↔ t.lower ∈ words b := by
  have disjoint : ∀ w ∈ words true, w ∉ words false := by decide
  have isTrue : trueWords.contains t.lower = true ↔ t.lower ∈ words true := List.contains_iff_mem
  have isFalse : falseWords.contains t.lower = true ↔ t.lower ∈ words false :=
    List.contains_iff_mem
  rw [readBoolWord]
  simp only [isTrue, isFalse]
  by_cases among : t.lower ∈ words true
  · rw [if_pos among, Except.ok.injEq]
    cases b with
    | true => exact ⟨fun _ => among, fun _ => rfl⟩
    | false => exact ⟨nofun, fun other => absurd other (disjoint _ among)⟩
  · rw [if_neg among]
    by_cases other : t.lower ∈ words false
    · rw [if_pos other, Except.ok.injEq]
      cases b with
      | true => exact ⟨nofun, fun among' => absurd among' among⟩
      | false => exact ⟨fun _ => other, fun _ => rfl⟩
    · rw [if_neg other]
      refine ⟨nofun, fun either => ?_⟩
      cases b with
      | true => exact absurd either among
      | false => exact absurd either other

theorem readBit_eq_ok_iff : readBit n = .ok b ↔ n = b.toInt := by
  rw [readBit]
  by_cases isZero : n = 0
  · subst isZero
    cases b <;> decide
  · by_cases isOne : n = 1
    · subst isOne
      cases b <;> decide
    · rw [if_neg isZero, if_neg isOne]
      refine ⟨nofun, fun same => ?_⟩
      cases b with
      | true => exact absurd same isOne
      | false => exact absurd same isZero

theorem isTruth_int_iff : IsTruth (.int n) b ↔ n = b.toInt := by
  constructor
  · intro isTruth
    cases isTruth with
    | integer => rfl
    | word isText _ _ => cases isText
  · rintro rfl
    exact .integer b

theorem isTruth_double_iff {d : Double} :
    IsTruth (.double d) b ↔ d.value? = some ((b.toInt : ℤ) : ℚ) := by
  constructor
  · intro isTruth
    cases isTruth with
    | whole value => exact value
    | word isText _ _ => cases isText
  · exact .whole

theorem isTruth_text_iff : IsTruth (.text t) b ↔ t.lower ∈ words b := by
  rw [lower_mem_words_iff]
  constructor
  · intro isTruth
    cases isTruth with
    | word isText known same =>
      cases isText
      exact ⟨_, known, same⟩
  · rintro ⟨w, known, same⟩
    exact .word (.text t) known same

theorem isTruth_bytes_iff :
    IsTruth (.bytes bs) b ↔ ∃ t, Utf8.decode bs = .ok t ∧ t.lower ∈ words b := by
  simp only [lower_mem_words_iff]
  constructor
  · intro isTruth
    cases isTruth with
    | word isText known same => exact ⟨_, isText_bytes_iff.mp isText, _, known, same⟩
  · rintro ⟨t, decoded, w, known, same⟩
    exact .word (isText_bytes_iff.mpr decoded) known same

theorem readBool_eq_ok_iff : v.readBool = .ok b ↔ v.IsTruth b := by
  -- Zero and one are within the bound, so it refuses nothing that stands for a truth value.
  have bound : wordBound = 9223372036854775808 := by decide +kernel
  have small : b.toInt.natAbs ≤ 1 := by cases b <;> decide
  cases v with
  | bool b' =>
    constructor
    · intro read
      cases read
      exact .truth b
    · intro isTruth
      cases isTruth with
      | truth => rfl
      | word isText _ _ => cases isText
  | int n =>
    rw [isTruth_int_iff, ← readBit_eq_ok_iff, readBool]
    by_cases inRange : -(wordBound : Int) ≤ n ∧ n < wordBound
    · rw [if_pos inRange]
    · rw [if_neg inRange, readBit_eq_ok_iff]
      refine ⟨nofun, ?_⟩
      rintro rfl
      omega
  | double d =>
    rw [isTruth_double_iff]
    cases d with
    | finite negative mantissa exponent =>
      rw [Double.value?_eq_intCast_iff, readBool]
      by_cases whole : Double.isWhole mantissa exponent = true
      · by_cases large : Double.wholePart mantissa exponent < wordBound
        · simp only [whole, large, decide_true, Bool.and_self, ↓reduceIte, readBit_eq_ok_iff,
            true_and]
        · simp only [whole, large, decide_false, Bool.and_false, Bool.false_eq_true, ↓reduceIte,
            reduceCtorEq, true_and, false_iff]
          intro same
          rw [← same, Double.natAbs_signed] at small
          omega
      · simp only [whole, Bool.false_and, Bool.false_eq_true, ↓reduceIte, reduceCtorEq, false_and]
    | infinite negative => exact ⟨nofun, nofun⟩
    | nan => exact ⟨nofun, nofun⟩
  | text t =>
    rw [isTruth_text_iff, ← readBoolWord_eq_ok_iff, readBool]
    by_cases encodable : Utf8.encodable t = true
    · rw [if_pos encodable]
    · rw [if_neg encodable, readBoolWord_eq_ok_iff]
      exact ⟨nofun, fun among => absurd (encodable_of_word among) encodable⟩
  | bytes bs =>
    rw [isTruth_bytes_iff, readBool]
    cases Utf8.decode bs with
    | ok t => simp only [readBoolWord_eq_ok_iff, Except.ok.injEq, exists_eq_left']
    | error fault => exact ⟨nofun, nofun⟩
  | _ =>
    refine ⟨nofun, fun isTruth => ?_⟩
    cases isTruth with
    | word isText _ _ => cases isText

theorem readSinkChoice_eq_ok_iff : v.readSinkChoice = .ok k ↔ v.IsChoice k := by
  constructor
  · intro read
    cases v with
    | text t =>
      rw [readSinkChoice] at read
      split at read
      · next same =>
        cases read
        rw [same]
        exact .stderr
      split at read
      · next same =>
        cases read
        rw [same]
        exact .log
      split at read
      · next same =>
        cases read
        rw [same]
        exact .silent
      · split at read <;> cases read
    | _ => cases read
  · intro isChoice
    cases isChoice <;> decide

end SealedToken.Value
