import Mathlib.Algebra.Group.Nat.Defs
import SystemLoops.Text.Quote

namespace SystemLoops.Text

/-! ### Hexadecimal digits -/

theorem hexDigit_eq {d : Nat} (small : d < 16) : UInt8.ofNat d.digitChar.toNat = hexDigit d := by
  revert d
  decide

theorem hexValue_hexDigit {d : Nat} (small : d < 16) : hexValue? (hexDigit d) = some d := by
  revert d
  decide

theorem hexPadded_one {n : Nat} (small : n < 16) : hexPadded 1 n = [hexDigit n] := by
  simp [hexPadded, Nat.toDigits_of_lt_base small, hexDigit_eq small, replicate]

/-- The last digit stands for the remainder, the ones before it for the quotient. -/
theorem hexPadded_succ (width n : Nat) :
    hexPadded (width + 2) n = hexPadded (width + 1) (n / 16) ++ [hexDigit (n % 16)] := by
  have last := hexDigit_eq (Nat.mod_lt n (show 16 > 0 by decide))
  by_cases small : n < 16
  · rw [Nat.mod_eq_of_lt small] at last ⊢
    rw [Nat.div_eq_of_lt small]
    simp [hexPadded, Nat.toDigits_of_lt_base small, replicate, last, List.replicate_succ']
  · rw [hexPadded, Nat.toDigits_of_base_le (by decide) (Nat.le_of_not_lt small)]
    simp [hexPadded, last]

theorem length_hexPadded {width n : Nat} (fits : n < 16 ^ (width + 1)) :
    (hexPadded (width + 1) n).length = width + 1 := by
  induction width generalizing n with
  | zero => rw [hexPadded_one fits, List.length_singleton]
  | succ width ih =>
    rw [hexPadded_succ, List.length_append, ih (by omega), List.length_singleton]

theorem mem_hexPadded {width n : Nat} {b : UInt8} (fits : n < 16 ^ (width + 1))
    (member : b ∈ hexPadded (width + 1) n) : ∃ d < 16, b = hexDigit d := by
  induction width generalizing n with
  | zero =>
    rw [hexPadded_one fits, List.mem_singleton] at member
    exact ⟨n, fits, member⟩
  | succ width ih =>
    rw [hexPadded_succ, List.mem_append, List.mem_singleton] at member
    rcases member with earlier | last
    · exact ih (by omega) earlier
    · exact ⟨n % 16, Nat.mod_lt n (by decide), last⟩

theorem digitsIn_concat {t : Text} {value d : Nat} (before : digitsIn? 16 t = some value)
    (small : d < 16) : digitsIn? 16 (t ++ [hexDigit d]) = some (value * 16 + d) := by
  rw [digitsIn?] at before ⊢
  rw [List.foldlM_append, before]
  simp [hexValue_hexDigit small, small]

theorem digitsIn_hexPadded {width n : Nat} (fits : n < 16 ^ (width + 1)) :
    digitsIn? 16 (hexPadded (width + 1) n) = some n := by
  induction width generalizing n with
  | zero =>
    rw [hexPadded_one fits]
    simpa using digitsIn_concat (t := []) rfl fits
  | succ width ih =>
    rw [hexPadded_succ, digitsIn_concat (ih (by omega)) (Nat.mod_lt n (by decide))]
    congr 1
    omega

/-! ### Decimal numerals -/

theorem ofString_eq (s : String) : ofString s = ofChars s.toList := by
  rw [ofString, String.toUTF8, ← String.utf8Encode_toList]
  simp only [List.utf8Encode, List.toList_data_toByteArray]
  rfl

theorem ofChar_digit {c : Char} (digit : c.isDigit = true) : ofChar c = [UInt8.ofNat c.toNat] := by
  have small : c.toNat ≤ 0x39 := by
    rw [Char.isDigit, Bool.and_eq_true, decide_eq_true_eq, decide_eq_true_eq] at digit
    exact digit.2
  exact ofChar_ascii (by omega)

theorem ofChars_digits {cs : List Char} (digits : ∀ c ∈ cs, c.isDigit = true) :
    ofChars cs = cs.map fun c => UInt8.ofNat c.toNat := by
  induction cs with
  | nil => rfl
  | cons c rest ih =>
    rw [ofChars, List.flatMap_cons, ← ofChars, ofChar_digit (digits c List.mem_cons_self),
      ih fun other member => digits other (List.mem_cons_of_mem c member)]
    rfl

theorem isDigit_of_mem {n : Nat} {c : Char} (member : c ∈ Nat.toDigits 10 n) : c.isDigit = true :=
  Nat.isDigit_of_mem_toDigits (by decide) (by decide) member

theorem ofNat_eq (n : Nat) : ofNat n = (Nat.toDigits 10 n).map fun c => UInt8.ofNat c.toNat := by
  rw [ofNat, Nat.toString_eq_ofList_toDigits, ofString_eq, String.toList_ofList,
    ofChars_digits fun _ member => isDigit_of_mem member]

/-- The number of a digit is read from its byte. -/
theorem isDecimal_digit {c : Char} (digit : c.isDigit = true) :
    isDecimal (UInt8.ofNat c.toNat) = true ∧ (UInt8.ofNat c.toNat).toNat = c.toNat := by
  rw [Char.isDigit, Bool.and_eq_true, decide_eq_true_eq, decide_eq_true_eq] at digit
  have range : 0x30 ≤ c.toNat ∧ c.toNat ≤ 0x39 := digit
  have same : (UInt8.ofNat c.toNat).toNat = c.toNat :=
    UInt8.toNat_ofNat_of_lt' (show c.toNat < 256 by omega)
  refine ⟨?_, same⟩
  simp only [isDecimal, Bool.and_eq_true, decide_eq_true_eq, UInt8.le_iff_toNat_le, same]
  exact range

theorem ofNat_ne_nil (n : Nat) : ofNat n ≠ [] := by
  simp [ofNat_eq, Nat.toDigits_ne_nil]

theorem isDecimal_of_mem_ofNat {n : Nat} {b : UInt8} (member : b ∈ ofNat n) : isDecimal b = true := by
  rw [ofNat_eq, List.mem_map] at member
  obtain ⟨c, digit, rfl⟩ := member
  exact (isDecimal_digit (isDigit_of_mem digit)).1

theorem unsigned_ofNat (n : Nat) : ((ofNat n).head? == some 0x2D) = false := by
  obtain ⟨b, rest, digits⟩ := List.exists_cons_of_ne_nil (ofNat_ne_nil n)
  have decimal : isDecimal b = true := isDecimal_of_mem_ofNat (digits ▸ List.mem_cons_self)
  rw [digits, List.head?_cons]
  refine beq_false_of_ne fun same => ?_
  rw [Option.some.inj same] at decimal
  contradiction

theorem digitsValue_digits {cs : List Char} (digits : ∀ c ∈ cs, c.isDigit = true) (value : Nat) :
    (cs.map fun c => UInt8.ofNat c.toNat).foldl (fun n b => n * 10 + (b.toNat - 0x30)) value =
      Nat.ofDigitChars 10 cs value := by
  induction cs generalizing value with
  | nil => rfl
  | cons c rest ih =>
    rw [List.map_cons, List.foldl_cons, (isDecimal_digit (digits c List.mem_cons_self)).2,
      ih fun other member => digits other (List.mem_cons_of_mem c member), Nat.ofDigitChars_cons,
      Nat.mul_comm]
    rfl

theorem digitsValue_ofNat (n : Nat) : digitsValue (ofNat n) = n := by
  rw [digitsValue, ofNat_eq, digitsValue_digits (fun _ member => isDigit_of_mem member),
    Nat.ofDigitChars_ten_toDigits]

theorem toNat_ofNat (n : Nat) : toNat? (ofNat n) = some n := by
  have decimal : (ofNat n).all isDecimal = true :=
    List.all_eq_true.mpr fun _ member => isDecimal_of_mem_ofNat member
  simp [toNat?, ofNat_ne_nil, decimal, digitsValue_ofNat]

/-- Only the numeral of zero starts with a zero. -/
theorem head_ofNat {n : Nat} (positive : 0 < n) : (ofNat n).head? ≠ some 0x30 := by
  have single : ∀ d < 10, 0 < d → UInt8.ofNat d.digitChar.toNat ≠ 0x30 := by decide
  rw [ofNat_eq]
  induction n using Nat.strongRecOn with
  | _ n ih =>
    by_cases small : n < 10
    · rw [Nat.toDigits_of_lt_base small]
      simpa using single n small positive
    · rw [Nat.toDigits_of_base_le (by decide) (Nat.le_of_not_lt small), List.map_append,
        List.head?_append, Option.or_of_isSome (by simp [Nat.toDigits_ne_nil])]
      exact ih (n / 10) (by omega) (by omega)

theorem ofInt_neg {n : Nat} (positive : 0 < n) : ofInt (-n) = 0x2D :: ofNat n := by
  obtain ⟨m, rfl⟩ : ∃ m, n = m + 1 := ⟨n - 1, by omega⟩
  have sign : ofInt (-((m + 1 : Nat) : Int)) = ofString ("-" ++ toString (m + 1)) := rfl
  rw [sign, ofNat, ofString_eq, ofString_eq, String.toList_append, ofChars, List.flatMap_append]
  rfl

end SystemLoops.Text
