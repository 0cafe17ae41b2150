import SystemLoops.Text.Basic

namespace SystemLoops

/-- One character read from a text, with the number of bytes it took. -/
structure Rune where
  char : Char
  width : Nat
deriving Repr, DecidableEq, Inhabited

namespace Rune

/-- The replacement character, U+FFFD. -/
def replacement : Char := '\uFFFD'

def illFormed : Rune := ⟨replacement, 1⟩

/-- Whether the character was read from well-formed bytes. -/
def wellFormed (r : Rune) : Bool :=
  r != illFormed

private def continues (b : UInt8) : Bool :=
  0x80 ≤ b && b ≤ 0xBF

private def low6 (b : UInt8) : Nat :=
  b.toNat % 64

/-- The range of the second byte that makes a three-byte sequence well formed. -/
private def second3 (b c : UInt8) : Bool :=
  if b == 0xE0 then 0xA0 ≤ c && c ≤ 0xBF
  else if b == 0xED then 0x80 ≤ c && c ≤ 0x9F
  else continues c

/-- The range of the second byte that makes a four-byte sequence well formed. -/
private def second4 (b c : UInt8) : Bool :=
  if b == 0xF0 then 0x90 ≤ c && c ≤ 0xBF
  else if b == 0xF4 then 0x80 ≤ c && c ≤ 0x8F
  else continues c

/-- Read the character that starts at byte `b`. -/
def decode (b : UInt8) (rest : Text) : Rune :=
  if b < 0x80 then ⟨Char.ofNat b.toNat, 1⟩
  else if 0xC2 ≤ b && b ≤ 0xDF then
    match rest with
    | c :: _ =>
      if continues c then ⟨Char.ofNat (b.toNat % 32 * 64 + low6 c), 2⟩ else illFormed
    | [] => illFormed
  else if 0xE0 ≤ b && b ≤ 0xEF then
    match rest with
    | c :: d :: _ =>
      if second3 b c && continues d then
        ⟨Char.ofNat ((b.toNat % 16 * 64 + low6 c) * 64 + low6 d), 3⟩
      else illFormed
    | _ => illFormed
  else if 0xF0 ≤ b && b ≤ 0xF4 then
    match rest with
    | c :: d :: e :: _ =>
      if second4 b c && continues d && continues e then
        ⟨Char.ofNat (((b.toNat % 8 * 64 + low6 c) * 64 + low6 d) * 64 + low6 e), 4⟩
      else illFormed
    | _ => illFormed
  else illFormed

/-! ### Bytes and characters

The ranges of bytes as inequalities between their numbers, and one lemma in each direction for every
length of a sequence. -/

private theorem continues_iff {b : UInt8} :
    continues b = true ↔ 0x80 ≤ b.toNat ∧ b.toNat ≤ 0xBF := by
  simp [continues, UInt8.le_iff_toNat_le]

private theorem second3_iff {b c : UInt8} :
    second3 b c = true ↔ (0x80 ≤ c.toNat ∧ c.toNat ≤ 0xBF) ∧ (b.toNat = 0xE0 → 0xA0 ≤ c.toNat) ∧
      (b.toNat = 0xED → c.toNat ≤ 0x9F) := by
  by_cases low : b = 0xE0
  · simp [second3, low, UInt8.le_iff_toNat_le]
    omega
  · by_cases high : b = 0xED
    · simp [second3, high, UInt8.le_iff_toNat_le]
      omega
    · have apart : b.toNat ≠ 0xE0 ∧ b.toNat ≠ 0xED :=
        ⟨fun same => low (UInt8.toNat_inj.mp same), fun same => high (UInt8.toNat_inj.mp same)⟩
      simp [second3, low, high, continues_iff, apart]

private theorem second4_iff {b c : UInt8} :
    second4 b c = true ↔ (0x80 ≤ c.toNat ∧ c.toNat ≤ 0xBF) ∧ (b.toNat = 0xF0 → 0x90 ≤ c.toNat) ∧
      (b.toNat = 0xF4 → c.toNat ≤ 0x8F) := by
  by_cases low : b = 0xF0
  · simp [second4, low, UInt8.le_iff_toNat_le]
    omega
  · by_cases high : b = 0xF4
    · simp [second4, high, UInt8.le_iff_toNat_le]
      omega
    · have apart : b.toNat ≠ 0xF0 ∧ b.toNat ≠ 0xF4 :=
        ⟨fun same => low (UInt8.toNat_inj.mp same), fun same => high (UInt8.toNat_inj.mp same)⟩
      simp [second4, low, high, continues_iff, apart]

/-- A byte below 0x80 is no part of a longer sequence. -/
private theorem interrupts {c : UInt8} (ascii : c.toNat < 0x80) (b : UInt8) :
    continues c = false ∧ second3 b c = false ∧ second4 b c = false := by
  simp only [Bool.eq_false_iff, ne_eq, continues_iff, second3_iff, second4_iff]
  omega

theorem decode_interrupted {c : UInt8} (ascii : c.toNat < 0x80) (b : UInt8) (rest : Text) :
    decode b (c :: rest) = decode b [] := by
  obtain ⟨two, three, four⟩ := interrupts ascii b
  unfold decode
  cases rest with
  | nil => simp [two]
  | cons d rest => cases rest <;> simp [two, three, four]

theorem decode_interrupted₂ {d : UInt8} (ascii : d.toNat < 0x80) (b c : UInt8) (rest : Text) :
    decode b (c :: d :: rest) = decode b [c] := by
  obtain ⟨two, -, -⟩ := interrupts ascii b
  unfold decode
  cases rest <;> simp [two]

theorem decode_interrupted₃ {e : UInt8} (ascii : e.toNat < 0x80) (b c d : UInt8) (rest : Text) :
    decode b (c :: d :: e :: rest) = decode b [c, d] := by
  obtain ⟨two, -, -⟩ := interrupts ascii b
  unfold decode
  simp [two]

theorem decode_three_more (b c d e : UInt8) (rest : Text) :
    decode b (c :: d :: e :: rest) = decode b [c, d, e] :=
  rfl

/-- What is read depends on the bytes before the first one below 0x80 only. -/
theorem decode_takeWhile {more : UInt8 → Bool} (high : ∀ c, more c = false → c.toNat < 0x80) (b : UInt8)
    (rest : Text) : decode b (rest.takeWhile more) = decode b rest := by
  match rest with
  | [] => rfl
  | c :: rest =>
    cases first : more c with
    | false => rw [List.takeWhile_cons_of_neg (by simp [first]), decode_interrupted (high c first)]
    | true =>
      rw [List.takeWhile_cons_of_pos first]
      match rest with
      | [] => rfl
      | d :: rest =>
        cases second : more d with
        | false => rw [List.takeWhile_cons_of_neg (by simp [second]), decode_interrupted₂ (high d second)]
        | true =>
          rw [List.takeWhile_cons_of_pos second]
          match rest with
          | [] => rfl
          | e :: rest =>
            cases third : more e with
            | false => rw [List.takeWhile_cons_of_neg (by simp [third]), decode_interrupted₃ (high e third)]
            | true =>
              rw [List.takeWhile_cons_of_pos third, decode_three_more, decode_three_more b c d e rest]

/-- A character takes at least one byte, and no more than there are. -/
theorem decode_width (b : UInt8) (rest : Text) :
    1 ≤ (decode b rest).width ∧ (decode b rest).width ≤ rest.length + 1 := by
  unfold decode illFormed
  repeat' split
  all_goals simp

private theorem decode_one {b : UInt8} (ascii : b.toNat < 0x80) (rest : Text) :
    decode b rest = ⟨Char.ofNat b.toNat, 1⟩ :=
  if_pos ascii

private theorem decode_two {b c : UInt8} (lead : 0xC2 ≤ b.toNat ∧ b.toNat ≤ 0xDF)
    (second : continues c = true) (rest : Text) :
    decode b (c :: rest) = ⟨Char.ofNat (b.toNat % 32 * 64 + c.toNat % 64), 2⟩ := by
  have above : ¬ b.toNat < 0x80 := by omega
  simp [decode, UInt8.lt_iff_toNat_lt, UInt8.le_iff_toNat_le, above, lead, second, low6]

private theorem decode_three {b c d : UInt8} (lead : 0xE0 ≤ b.toNat ∧ b.toNat ≤ 0xEF)
    (second : second3 b c = true) (third : continues d = true) (rest : Text) :
    decode b (c :: d :: rest) =
      ⟨Char.ofNat ((b.toNat % 16 * 64 + c.toNat % 64) * 64 + d.toNat % 64), 3⟩ := by
  have above : ¬ b.toNat < 0x80 ∧ ¬ b.toNat ≤ 0xDF := by omega
  simp [decode, UInt8.lt_iff_toNat_lt, UInt8.le_iff_toNat_le, above, lead, second, third, low6]

private theorem decode_four {b c d e : UInt8} (lead : 0xF0 ≤ b.toNat ∧ b.toNat ≤ 0xF4)
    (second : second4 b c = true) (third : continues d = true) (fourth : continues e = true)
    (rest : Text) :
    decode b (c :: d :: e :: rest) = ⟨Char.ofNat
      (((b.toNat % 8 * 64 + c.toNat % 64) * 64 + d.toNat % 64) * 64 + e.toNat % 64), 4⟩ := by
  have above : ¬ b.toNat < 0x80 ∧ ¬ b.toNat ≤ 0xDF ∧ ¬ b.toNat ≤ 0xEF := by omega
  simp [decode, UInt8.lt_iff_toNat_lt, UInt8.le_iff_toNat_le, above, lead, second, third, fourth, low6]

private theorem encoded_ofNat {n : Nat} (scalar : n < 0xD800 ∨ 0xDFFF < n ∧ n < 0x110000) :
    String.utf8EncodeChar (Char.ofNat n) =
      if n ≤ 127 then [UInt8.ofNat n]
      else if n ≤ 2047 then [UInt8.ofNat (n / 64 % 32 + 192), UInt8.ofNat (n % 64 + 128)]
      else if n ≤ 65535 then
        [UInt8.ofNat (n / 4096 % 16 + 224), UInt8.ofNat (n / 64 % 64 + 128),
          UInt8.ofNat (n % 64 + 128)]
      else
        [UInt8.ofNat (n / 262144 % 8 + 240), UInt8.ofNat (n / 4096 % 64 + 128),
          UInt8.ofNat (n / 64 % 64 + 128), UInt8.ofNat (n % 64 + 128)] := by
  have same : (Char.ofNat n).toNat = n := congrArg Char.toNat (dif_pos scalar)
  rw [String.utf8EncodeChar.eq_1, ← Char.toNat, same]

private theorem ofNat_of_eq {n : Nat} {b : UInt8} (same : n = b.toNat) : UInt8.ofNat n = b := by
  rw [same, UInt8.ofNat_toNat]

private theorem encoded_two {b c : UInt8} (lead : 0xC2 ≤ b.toNat ∧ b.toNat ≤ 0xDF)
    (second : continues c = true) :
    String.utf8EncodeChar (Char.ofNat (b.toNat % 32 * 64 + low6 c)) = [b, c] := by
  have inner := continues_iff.mp second
  simp only [low6]
  rw [encoded_ofNat (by omega), if_neg (by omega), if_pos (by omega), ofNat_of_eq (b := b) (by omega),
    ofNat_of_eq (b := c) (by omega)]

private theorem encoded_three {b c d : UInt8} (lead : 0xE0 ≤ b.toNat ∧ b.toNat ≤ 0xEF)
    (second : second3 b c = true) (third : continues d = true) :
    String.utf8EncodeChar
      (Char.ofNat ((b.toNat % 16 * 64 + low6 c) * 64 + low6 d)) = [b, c, d] := by
  obtain ⟨inner, long, scalar⟩ := second3_iff.mp second
  have last := continues_iff.mp third
  simp only [low6]
  rw [encoded_ofNat (by omega), if_neg (by omega), if_neg (by omega), if_pos (by omega),
    ofNat_of_eq (b := b) (by omega), ofNat_of_eq (b := c) (by omega), ofNat_of_eq (b := d) (by omega)]

private theorem encoded_four {b c d e : UInt8} (lead : 0xF0 ≤ b.toNat ∧ b.toNat ≤ 0xF4)
    (second : second4 b c = true) (third : continues d = true) (fourth : continues e = true) :
    String.utf8EncodeChar (Char.ofNat
      (((b.toNat % 8 * 64 + low6 c) * 64 + low6 d) * 64 + low6 e)) = [b, c, d, e] := by
  obtain ⟨inner, long, scalar⟩ := second4_iff.mp second
  have next := continues_iff.mp third
  have last := continues_iff.mp fourth
  simp only [low6]
  rw [encoded_ofNat (by omega), if_neg (by omega), if_neg (by omega), if_neg (by omega),
    ofNat_of_eq (b := b) (by omega), ofNat_of_eq (b := c) (by omega), ofNat_of_eq (b := d) (by omega),
    ofNat_of_eq (b := e) (by omega)]

end Rune

namespace Text

/-- The characters of a text after its first `skip` bytes. -/
def runesFrom : (skip : Nat) → Text → List Rune
  | _, [] => []
  | skip + 1, _ :: rest => runesFrom skip rest
  | 0, b :: rest =>
    let r := Rune.decode b rest
    r :: runesFrom (r.width - 1) rest

/-- The characters of a text, in order. -/
def runes (t : Text) : List Rune :=
  runesFrom 0 t

/-- The characters of a text without their widths. -/
def chars (t : Text) : List Char :=
  (runes t).map Rune.char

/-- The UTF-8 bytes of a character. -/
def ofChar (c : Char) : Text :=
  String.utf8EncodeChar c

/-- The bytes of a character read as that character, whatever follows them. -/
theorem decode_ofChar (c : Char) :
    ∃ b tail, ofChar c = b :: tail ∧ ∀ rest, Rune.decode b (tail ++ rest) = ⟨c, tail.length + 1⟩ := by
  have same : Char.ofNat c.toNat = c := Char.ofNat_toNat c
  have scalar : c.toNat < 0xD800 ∨ 0xDFFF < c.toNat ∧ c.toNat < 0x110000 := c.valid
  have byte {k : Nat} (small : k < 256) : (UInt8.ofNat k).toNat = k := UInt8.toNat_ofNat_of_lt' small
  rw [ofChar, String.utf8EncodeChar.eq_1, ← Char.toNat]
  generalize c.toNat = n at same scalar ⊢
  subst same
  split
  · have lead := byte (k := n) (by omega)
    refine ⟨_, _, rfl, fun rest => (Rune.decode_one (by omega) rest).trans ?_⟩
    rw [lead]
    rfl
  · have last := byte (k := n % 64 + 128) (by omega)
    split
    · have lead := byte (k := n / 64 % 32 + 192) (by omega)
      refine ⟨_, _, rfl, fun rest => (Rune.decode_two (by omega)
        (Rune.continues_iff.mpr (by omega)) rest).trans ?_⟩
      rw [lead, last]
      congr 2
      omega
    · have third := byte (k := n / 64 % 64 + 128) (by omega)
      split
      · have lead := byte (k := n / 4096 % 16 + 224) (by omega)
        refine ⟨_, _, rfl, fun rest => (Rune.decode_three (by omega) (Rune.second3_iff.mpr (by omega))
          (Rune.continues_iff.mpr (by omega)) rest).trans ?_⟩
        rw [lead, third, last]
        congr 2
        omega
      · have lead := byte (k := n / 262144 % 8 + 240) (by omega)
        have second := byte (k := n / 4096 % 64 + 128) (by omega)
        refine ⟨_, _, rfl, fun rest => (Rune.decode_four (by omega) (Rune.second4_iff.mpr (by omega))
          (Rune.continues_iff.mpr (by omega)) (Rune.continues_iff.mpr (by omega)) rest).trans ?_⟩
        rw [lead, second, third, last]
        congr 2
        omega

/-- Well-formed bytes are the bytes of the character that they read as. -/
theorem ofChar_decode {b : UInt8} {rest : Text} (valid : (Rune.decode b rest).wellFormed = true) :
    ∃ tail behind, ofChar (Rune.decode b rest).char = b :: tail ∧ rest = tail ++ behind ∧
      (Rune.decode b rest).width = tail.length + 1 := by
  have flawed : Rune.illFormed.wellFormed ≠ true := by decide
  revert valid
  unfold Rune.decode ofChar
  split
  · rename_i ascii
    replace ascii : b.toNat < 0x80 := ascii
    refine fun _ => ⟨[], rest, ?_, rfl, rfl⟩
    rw [Rune.encoded_ofNat (by omega), if_pos (by omega), UInt8.ofNat_toNat]
  · split
    · rename_i lead
      simp only [Bool.and_eq_true, decide_eq_true_eq, UInt8.le_iff_toNat_le] at lead
      split
      · rename_i c behind
        split
        · rename_i second
          exact fun _ => ⟨[c], behind, Rune.encoded_two lead second, rfl, rfl⟩
        · exact fun valid => absurd valid flawed
      · exact fun valid => absurd valid flawed
    · split
      · rename_i lead
        simp only [Bool.and_eq_true, decide_eq_true_eq, UInt8.le_iff_toNat_le] at lead
        split
        · rename_i c d behind
          split
          · rename_i inner
            rw [Bool.and_eq_true] at inner
            exact fun _ => ⟨[c, d], behind, Rune.encoded_three lead inner.1 inner.2, rfl, rfl⟩
          · exact fun valid => absurd valid flawed
        · exact fun valid => absurd valid flawed
      · split
        · rename_i lead
          simp only [Bool.and_eq_true, decide_eq_true_eq, UInt8.le_iff_toNat_le] at lead
          split
          · rename_i c d e behind
            split
            · rename_i inner
              rw [Bool.and_eq_true, Bool.and_eq_true] at inner
              exact fun _ => ⟨[c, d, e], behind,
                Rune.encoded_four lead inner.1.1 inner.1.2 inner.2, rfl, rfl⟩
            · exact fun valid => absurd valid flawed
          · exact fun valid => absurd valid flawed
        · exact fun valid => absurd valid flawed

/-- A byte of a character below 0x80 is the whole character. -/
theorem mem_ofChar {c : Char} {b : UInt8} (member : b ∈ ofChar c) :
    0x80 ≤ b.toNat ∨ b.toNat = c.toNat := by
  have byte {k : Nat} (small : k < 256) : (UInt8.ofNat k).toNat = k := UInt8.toNat_ofNat_of_lt' small
  rw [ofChar, String.utf8EncodeChar.eq_1, ← Char.toNat] at member
  split at member
  · rw [List.mem_singleton.mp member, byte (by omega)]
    exact .inr rfl
  · left
    split at member
    · simp only [List.mem_cons, List.not_mem_nil, or_false] at member
      rcases member with rfl | rfl <;> rw [byte (by omega)] <;> omega
    · split at member
      · simp only [List.mem_cons, List.not_mem_nil, or_false] at member
        rcases member with rfl | rfl | rfl <;> rw [byte (by omega)] <;> omega
      · simp only [List.mem_cons, List.not_mem_nil, or_false] at member
        rcases member with rfl | rfl | rfl | rfl <;> rw [byte (by omega)] <;> omega

theorem ofChar_ascii {c : Char} (ascii : c.toNat < 0x80) : ofChar c = [UInt8.ofNat c.toNat] := by
  rw [ofChar, String.utf8EncodeChar.eq_1, ← Char.toNat, if_pos (by omega)]

/-- A character read from well-formed bytes takes no more room when it is written again. -/
theorem length_ofChar_decode_le {b : UInt8} {rest : Text}
    (valid : (Rune.decode b rest).wellFormed = true) :
    (ofChar (Rune.decode b rest).char).length ≤ rest.length + 1 := by
  obtain ⟨tail, behind, bytes, split, -⟩ := ofChar_decode valid
  rw [bytes, split, List.length_cons, List.length_append]
  omega

/-- The UTF-8 bytes of a sequence of characters. -/
def ofChars (cs : List Char) : Text :=
  cs.flatMap ofChar

/-- Whether every byte belongs to a well-formed UTF-8 sequence. -/
def isValid (t : Text) : Bool :=
  (runes t).all Rune.wellFormed

/-- The text with every ill-formed byte replaced by the replacement character. -/
def scrub (t : Text) : Text :=
  ofChars (chars t)

/-! ### Well-formed texts -/

theorem runesFrom_append (tail rest : Text) : runesFrom tail.length (tail ++ rest) = runes rest := by
  induction tail with
  | nil => rfl
  | cons b tail ih => exact ih

theorem runes_ofChar_append (c : Char) (rest : Text) :
    runes (ofChar c ++ rest) = ⟨c, (ofChar c).length⟩ :: runes rest := by
  obtain ⟨b, tail, bytes, reads⟩ := decode_ofChar c
  rw [bytes, List.cons_append, runes, runesFrom, reads, Nat.add_sub_cancel, runesFrom_append,
    List.length_cons]

theorem runes_ofChars (cs : List Char) :
    runes (ofChars cs) = cs.map fun c => ⟨c, (ofChar c).length⟩ := by
  induction cs with
  | nil => rfl
  | cons c rest ih =>
    rw [ofChars, List.flatMap_cons, ← ofChars, runes_ofChar_append, ih, List.map_cons]

theorem wellFormed_ofChar (c : Char) : Rune.wellFormed ⟨c, (ofChar c).length⟩ = true := by
  have width : (ofChar Rune.replacement).length ≠ 1 := by decide
  simp only [Rune.wellFormed, Rune.illFormed, bne_iff_ne, ne_eq, Rune.mk.injEq, not_and]
  rintro rfl
  exact width

theorem isValid_ofChars (cs : List Char) : isValid (ofChars cs) = true := by
  rw [isValid, runes_ofChars, List.all_map, List.all_eq_true]
  exact fun c _ => wellFormed_ofChar c

theorem exists_chars {t : Text} (valid : isValid t = true) : ∃ cs, t = ofChars cs := by
  induction size : t.length using Nat.strongRecOn generalizing t with
  | _ n ih =>
    cases t with
    | nil => exact ⟨[], rfl⟩
    | cons b rest =>
      rw [isValid, runes, runesFrom, List.all_cons, Bool.and_eq_true] at valid
      obtain ⟨tail, behind, bytes, split, width⟩ := ofChar_decode valid.1
      have others : isValid behind = true := by
        have later := valid.2
        rwa [width, Nat.add_sub_cancel, split, runesFrom_append] at later
      have shorter : behind.length < n := by
        rw [← size, split, List.length_cons, List.length_append]
        omega
      obtain ⟨cs, same⟩ := ih behind.length shorter others rfl
      refine ⟨(Rune.decode b rest).char :: cs, ?_⟩
      rw [ofChars, List.flatMap_cons, ← ofChars, bytes, ← same, List.cons_append, ← split]

/-- White space: the ASCII blanks and the space separators of other scripts. -/
def isSpace (c : Char) : Bool :=
  let n := c.toNat
  (0x09 ≤ n && n ≤ 0x0D) || n == 0x20 || n == 0x85 || n == 0xA0 || n == 0x1680
    || (0x2000 ≤ n && n ≤ 0x200A) || n == 0x2028 || n == 0x2029 || n == 0x202F || n == 0x205F
    || n == 0x3000

def trimSpaceEnd (t : Text) : Text :=
  t.take (total (((runes t).reverse.dropWhile fun r => isSpace r.char).map Rune.width))

/-- The text without white space at either end. -/
def trimSpace (t : Text) : Text :=
  trimSpaceEnd (t.drop (total (((runes t).takeWhile fun r => isSpace r.char).map Rune.width)))

/-- The words of a text: what stands between white space. -/
def words (t : Text) : List Text :=
  let pieces := (chars t).splitBy fun a b => isSpace a == isSpace b
  (pieces.filter fun piece => !piece.all isSpace).map ofChars

/-- Whether a text holds white space only. -/
def isBlank (t : Text) : Bool :=
  (chars t).all isSpace

end Text

end SystemLoops
