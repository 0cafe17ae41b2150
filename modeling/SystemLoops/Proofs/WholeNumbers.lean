import Mathlib.Algebra.Group.Int.Defs
import SystemLoops.Document.Decode
import SystemLoops.Document.Schema
import SystemLoops.Proofs.Digits

namespace SystemLoops.Format

variable {p : Nat} {negative : Bool}

namespace Double

theorem roundDiv_one (p : Nat) : roundDiv p 1 = p := by
  simp [roundDiv, Nat.mod_one]

theorem roundDiv_pos {q : Nat} (positive : 0 < q) (large : q ≤ p) : 0 < roundDiv p q := by
  have quotient : 0 < p / q := Nat.div_pos large positive
  simp only [roundDiv]
  split
  · exact quotient
  · split <;> omega

/-- A mantissa that rounding has made one bit too long. -/
def carry (m : Nat) (e : Int) : Nat × Int :=
  if m == Nat.pow 2 53 then (Nat.pow 2 52, e + 1) else (m, e)

/-- For a whole number the exponent is known at once. -/
theorem ofRatio_whole (positive : 0 < p) (negative : Bool) :
    ofRatio negative p 1 =
      let e : Int := (p.log2 : Int) - 52
      let (m, e) := carry (if 0 ≤ e then roundDiv p (Nat.pow 2 e.toNat) else p * Nat.pow 2 (-e).toNat) e
      if 971 < e then none else some ⟨negative, m, e⟩ := by
  have nonzero : (p == 0) = false := by simpa using Nat.ne_of_gt positive
  have guess : (p.log2 : Int) - (Nat.log2 1 : Nat) = p.log2 := by
    rw [show Nat.log2 1 = 0 by decide, Int.natCast_zero, Int.sub_zero]
  have reached : Nat.pow 2 (p.log2 : Int).toNat ≤ p := by
    rw [Int.toNat_natCast]
    exact Nat.log2_self_le (Nat.ne_of_gt positive)
  have exponent : max ((p.log2 : Int) - 52) (-1074) = (p.log2 : Int) - 52 := by omega
  simp only [ofRatio, nonzero, Bool.false_eq_true, if_false, guess, Int.natCast_nonneg, if_true, reached,
    exponent, Nat.one_mul, roundDiv_one, carry]
  rfl

/-- The nearest double of a positive whole number, before its range is checked. -/
theorem exists_ofRatio (positive : 0 < p) (negative : Bool) :
    ∃ m e, 0 < m ∧ e ≤ (p.log2 : Int) - 51 ∧ isWhole ⟨negative, m, e⟩ = true ∧
      ofRatio negative p 1 = if 971 < e then none else some ⟨negative, m, e⟩ := by
  have low : 2 ^ p.log2 ≤ p := Nat.log2_self_le (Nat.ne_of_gt positive)
  have high : p < 2 ^ (p.log2 + 1) := Nat.lt_log2_self
  rw [ofRatio_whole positive]
  by_cases large : 52 ≤ p.log2
  · have signless : 0 ≤ (p.log2 : Int) - 52 := by omega
    have enough : Nat.pow 2 ((p.log2 : Int) - 52).toNat ≤ p :=
      Nat.le_trans (Nat.pow_le_pow_right (by decide) (by omega)) low
    have some_mantissa := roundDiv_pos (Nat.two_pow_pos _) enough
    simp only [signless, if_true, carry]
    split
    · exact ⟨_, _, Nat.two_pow_pos 52, by omega, by simp [isWhole]; omega, rfl⟩
    · exact ⟨_, _, some_mantissa, by omega, by simp [isWhole]; omega, rfl⟩
  · -- the mantissa is the number shifted up, which fits
    obtain ⟨k, split⟩ : ∃ k, p.log2 + k = 52 := ⟨52 - p.log2, by omega⟩
    have shift : (-((p.log2 : Int) - 52)).toNat = k := by omega
    have below : ¬ 0 ≤ (p.log2 : Int) - 52 := by omega
    have fits : p * 2 ^ k < 2 ^ 53 := by
      calc p * 2 ^ k < 2 ^ (p.log2 + 1) * 2 ^ k := Nat.mul_lt_mul_of_pos_right high (Nat.two_pow_pos k)
        _ = 2 ^ 53 := by rw [← Nat.pow_add]; congr 1; omega
    have short : (p * Nat.pow 2 k == Nat.pow 2 53) = false := by
      simpa using Nat.ne_of_lt fits
    simp only [below, if_false, shift, carry, short, Bool.false_eq_true]
    refine ⟨_, _, Nat.mul_pos positive (Nat.two_pow_pos k), by omega, ?_, rfl⟩
    rw [isWhole, shift]
    exact Bool.or_eq_true_iff.mpr (.inr (beq_iff_eq.mpr (Nat.mul_mod_left p _)))

theorem ofDecimal_whole {k : Nat} {x : Double} (nearest : ofDecimal ⟨negative, k, 0⟩ = some x) :
    x.isWhole = true ∧ x.isNegative = (negative && k != 0) := by
  rw [ofDecimal] at nearest
  split at nearest
  · rename_i zero
    rw [← Option.some.inj nearest]
    simp_all [isWhole, isNegative]
  · rename_i nonzero
    have positive : 0 < k := by
      rw [beq_iff_eq] at nonzero
      exact Nat.pos_of_ne_zero nonzero
    obtain ⟨m, e, some_mantissa, -, whole, rounded⟩ := exists_ofRatio positive negative
    have unscaled : k * Nat.pow 10 (0 : Int).toNat = k := Nat.mul_one k
    simp only [Int.add_zero, Int.le_refl, if_true, unscaled, rounded] at nearest
    split at nearest
    · contradiction
    · split at nearest
      · omega
      · split at nearest
        · contradiction
        · rw [← Option.some.inj nearest]
          refine ⟨whole, ?_⟩
          rw [isNegative, bne_iff_ne.mpr (Nat.ne_of_gt some_mantissa),
            bne_iff_ne.mpr (Nat.ne_of_gt positive)]

theorem ofDecimal_isSome {k : Nat} (small : k ≤ 2 ^ 63) (negative : Bool) :
    (ofDecimal ⟨negative, k, 0⟩).isSome = true := by
  rw [ofDecimal]
  split
  · rfl
  · rename_i nonzero
    have positive : 0 < k := by
      rw [beq_iff_eq] at nonzero
      exact Nat.pos_of_ne_zero nonzero
    have length : (toString k).length ≤ 20 := by
      rw [Nat.toString_eq_ofList_toDigits, String.length_ofList,
        Nat.length_toDigits_le_iff (by decide) (by decide)]
      exact Nat.lt_of_le_of_lt small (by decide)
    have bits : k.log2 < 64 := (Nat.log2_lt (Nat.ne_of_gt positive)).mpr (by omega)
    obtain ⟨m, e, -, exponent, -, rounded⟩ := exists_ofRatio positive negative
    have unscaled : k * Nat.pow 10 (0 : Int).toNat = k := Nat.mul_one k
    simp only [Int.add_zero, Int.le_refl, if_true, unscaled, rounded]
    rw [if_neg (by omega), if_neg (by omega), if_neg (by omega)]
    rfl

end Double

/-! ### Numerals of digits -/

theorem takeWhile_digits {ds : Text} {other : UInt8 → Bool}
    (digits : ∀ b ∈ ds, Text.isDecimal b = true)
    (apart : ∀ b, Text.isDecimal b = true → other b = true) :
    ds.takeWhile other = ds ∧ ds.dropWhile other = [] := by
  induction ds with
  | nil => exact ⟨rfl, rfl⟩
  | cons b rest ih =>
    obtain ⟨first, later⟩ := List.forall_mem_cons.mp digits
    obtain ⟨taken, dropped⟩ := ih later
    rw [List.takeWhile_cons_of_pos (apart b first), List.dropWhile_cons_of_pos (apart b first), taken,
      dropped]
    exact ⟨rfl, rfl⟩

theorem ne_of_isDecimal {b other : UInt8} (decimal : Text.isDecimal b = true)
    (outside : Text.isDecimal other = false) : (b == other) = false := by
  refine beq_false_of_ne fun same => ?_
  rw [same, outside] at decimal
  contradiction

theorem Decimal.ofNumeral_digits {ds : Text} (digits : ∀ b ∈ ds, Text.isDecimal b = true) :
    ofNumeral ds = ⟨false, Text.digitsValue ds, 0⟩ ∧
      ofNumeral (0x2D :: ds) = ⟨true, Text.digitsValue ds, 0⟩ := by
  have unsigned : (ds.head? == some 0x2D) = false ∧ (ds.head? == some 0x2B) = false := by
    cases ds with
    | nil => exact ⟨rfl, rfl⟩
    | cons b rest =>
      have first := digits b List.mem_cons_self
      exact ⟨ne_of_isDecimal first rfl, ne_of_isDecimal first rfl⟩
  obtain ⟨mantissa, exponent⟩ := @takeWhile_digits ds (fun b => !(b == 0x65 || b == 0x45)) digits
    fun b decimal => by rw [ne_of_isDecimal decimal rfl, ne_of_isDecimal decimal rfl]; rfl
  obtain ⟨whole, fraction⟩ := @takeWhile_digits ds (· != 0x2E) digits
    fun b decimal => by rw [bne, ne_of_isDecimal decimal rfl]; rfl
  constructor
  · simp only [ofNumeral, unsigned, Bool.or_self, Bool.false_eq_true, if_false, mantissa, exponent, whole,
      fraction, List.drop_nil, List.append_nil]
    rfl
  · simp only [ofNumeral, List.head?_cons, beq_self_eq_true, Bool.true_or, if_true,
      List.drop_succ_cons, List.drop_zero, mantissa, exponent, whole, fraction, List.drop_nil,
      List.append_nil]
    rfl

end SystemLoops.Format

namespace SystemLoops

/-- An integer of 64 bits. -/
def IsWord (n : Int) : Prop :=
  -2 ^ 63 ≤ n ∧ n < 2 ^ 63

instance (n : Int) : Decidable (IsWord n) :=
  inferInstanceAs (Decidable (_ ∧ _))

/-- The numeral of an integer of 64 bits. -/
def IsWordNumeral (literal : Text) : Prop :=
  ∃ n, IsWord n ∧ literal = Text.ofInt n

namespace Document

open Format

theorem int64_ofInt {n : Int} (word : IsWord n) : int64? (Text.ofInt n) = some n := by
  obtain ⟨low, high⟩ := word
  have limit : Nat.pow 2 63 = 9223372036854775808 := rfl
  have natural (k : Nat) (small : k < Nat.pow 2 63) : int64? (Text.ofNat k) = some (k : Int) := by
    simp only [int64?, Text.unsigned_ofNat, Bool.false_eq_true, if_false, Text.toNat_ofNat,
      if_pos small]
  obtain ⟨k, rfl | rfl⟩ := Int.eq_nat_or_neg n
  · exact natural k (by omega)
  · rcases Nat.eq_zero_or_pos k with rfl | positive
    · exact natural 0 (by decide)
    · have small : k ≤ Nat.pow 2 63 := by omega
      rw [Text.ofInt_neg positive]
      simp only [int64?, List.head?_cons, beq_self_eq_true, if_true, List.drop_succ_cons,
        List.drop_zero, Text.toNat_ofNat, if_pos small]

/-- What denotes a number of 64 bits is written with digits and at most one sign. -/
theorem int64_eq_some {literal : Text} {n : Int} (read : int64? literal = some n) :
    IsWord n ∧ ∃ ds, (∀ b ∈ ds, Text.isDecimal b = true) ∧ Text.digitsValue ds ≤ 2 ^ 63 ∧
      (literal = ds ∧ n = Text.digitsValue ds ∨
        literal = 0x2D :: ds ∧ n = -(Text.digitsValue ds : Int)) := by
  have limit : Nat.pow 2 63 = 9223372036854775808 := rfl
  have digits {ds : Text} {k : Nat} (value : Text.toNat? ds = some k) :
      (∀ b ∈ ds, Text.isDecimal b = true) ∧ k = Text.digitsValue ds := by
    rw [Text.toNat?] at value
    split at value
    · contradiction
    · rename_i fine
      simp only [Bool.or_eq_true, Bool.not_eq_true', not_or, Bool.not_eq_false] at fine
      exact ⟨List.all_eq_true.mp fine.2, (Option.some.inj value).symm⟩
  simp only [int64?] at read
  split at read
  · contradiction
  · rename_i k value
    split at read
    · rename_i sign
      rw [if_pos sign] at value
      obtain ⟨rest, rfl⟩ : ∃ rest, literal = 0x2D :: rest := by
        cases literal with
        | nil => contradiction
        | cons b rest => exact ⟨rest, by simpa using sign⟩
      obtain ⟨decimal, rfl⟩ := digits value
      rw [List.drop_succ_cons, List.drop_zero] at decimal read
      split at read
      · rename_i small
        rw [← Option.some.inj read]
        exact ⟨⟨by omega, by omega⟩, rest, decimal, small, .inr ⟨rfl, rfl⟩⟩
      · contradiction
    · rename_i unsigned
      rw [if_neg unsigned] at value
      obtain ⟨decimal, rfl⟩ := digits value
      split at read
      · rename_i small
        rw [← Option.some.inj read]
        exact ⟨⟨by omega, by omega⟩, literal, decimal, Nat.le_of_lt small, .inl ⟨rfl, rfl⟩⟩
      · contradiction

/-- A number of 64 bits has a nearest double, and is a count when it is not negative. -/
theorem isCount_iff {literal : Text} {n : Int} (read : int64? literal = some n) :
    (Double.ofDecimal (Decimal.ofNumeral literal)).isSome = true ∧
      (Schema.isCount (.number literal) = true ↔ 0 ≤ n) := by
  obtain ⟨-, ds, digits, small, numeral⟩ := int64_eq_some read
  obtain ⟨plain, signed⟩ := Decimal.ofNumeral_digits digits
  obtain ⟨negative, decimal, sign⟩ : ∃ negative,
      Decimal.ofNumeral literal = ⟨negative, Text.digitsValue ds, 0⟩ ∧
        ((negative && Text.digitsValue ds != 0) = false ↔ 0 ≤ n) := by
    rcases numeral with ⟨rfl, rfl⟩ | ⟨rfl, rfl⟩
    · exact ⟨false, plain, by simp⟩
    · refine ⟨true, signed, ?_⟩
      simp only [Bool.true_and, bne_eq_false_iff_eq]
      omega
  have present := Double.ofDecimal_isSome small negative
  obtain ⟨x, nearest⟩ := Option.isSome_iff_exists.mp present
  obtain ⟨whole, below⟩ := Double.ofDecimal_whole nearest
  rw [decimal]
  refine ⟨present, ?_⟩
  rw [Schema.isCount, decimal]
  simp only [nearest, whole, below, Bool.true_and, Bool.not_eq_true', sign]

end Document

end SystemLoops
