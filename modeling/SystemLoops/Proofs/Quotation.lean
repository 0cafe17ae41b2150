import SystemLoops.Method
import SystemLoops.Proofs.Digits

namespace SystemLoops.Text

/-- What follows a backslash between double quotes: it has a meaning, and holds no quote unless it is
one. -/
structure Escape (piece meaning : Text) : Prop where
  read : ∀ rest, unescape? 0x22 (piece ++ rest) = some (meaning, piece.length)
  single : piece = [0x22] ∨ 0x22 ∉ piece

/-- A piece of a text between double quotes, and what it stands for: a character as it is, or an
escape. -/
inductive Piece : (piece meaning : Text) → Prop where
  | plain (visible : ∀ b ∈ ofChar c, b ≠ 0x22 ∧ b ≠ newline ∧ b ≠ 0x5C) : Piece (ofChar c) (ofChar c)
  | escape (inner : Escape piece meaning) : Piece (0x5C :: piece) meaning

/-- A text between double quotes as the pieces that it is made of, and what they stand for. -/
inductive Pieces : (inside meaning : Text) → Prop where
  | nil : Pieces [] []
  | cons (first : Piece piece meaning) (others : Pieces inside rest) :
      Pieces (piece ++ inside) (meaning ++ rest)

/-- A piece of a quoted text stands for a meaning, whatever follows it. -/
def StandsFor (mark : UInt8) (piece meaning : Text) : Prop :=
  ∀ rest, unquotedFrom mark 0 (piece ++ rest) = (unquotedFrom mark 0 rest).map (meaning ++ ·)

variable {mark b letter : UInt8} {c : Char} {piece meaning t : Text}

/-! ### Reading one piece -/

theorem quotedFrom_append (mark : UInt8) (tail rest : Text) :
    quotedFrom mark tail.length (tail ++ rest) = quotedFrom mark 0 rest := by
  induction tail with
  | nil => rfl
  | cons b tail ih => exact ih

theorem unquotedFrom_append (mark : UInt8) (tail rest : Text) :
    unquotedFrom mark tail.length (tail ++ rest) = unquotedFrom mark 0 rest := by
  induction tail with
  | nil => rfl
  | cons b tail ih => exact ih

theorem standsFor_escape (other : mark ≠ 0x5C)
    (read : ∀ rest, unescape? mark (piece ++ rest) = some (meaning, piece.length)) :
    StandsFor mark (0x5C :: piece) meaning := by
  intro rest
  have apart : ((0x5C : UInt8) == mark) = false := beq_false_of_ne other.symm
  have inside : ((0x5C : UInt8) == newline) = false := rfl
  rw [List.cons_append, unquotedFrom]
  simp only [apart, inside, Bool.or_self, Bool.false_eq_true, if_false, beq_self_eq_true, if_true,
    read, Option.bind_eq_bind, Option.bind_some, unquotedFrom_append]
  cases unquotedFrom mark 0 rest <;> rfl

theorem standsFor_char (plain : ∀ b ∈ ofChar c, b ≠ mark ∧ b ≠ newline ∧ b ≠ 0x5C) :
    StandsFor mark (ofChar c) (ofChar c) := by
  intro rest
  obtain ⟨b, tail, bytes, reads⟩ := decode_ofChar c
  obtain ⟨notMark, notEnd, notEscape⟩ := plain b (bytes ▸ List.mem_cons_self)
  rw [bytes, List.cons_append, unquotedFrom]
  simp only [beq_false_of_ne notMark, beq_false_of_ne notEnd, beq_false_of_ne notEscape, Bool.or_self,
    Bool.false_eq_true, if_false, reads, Nat.add_sub_cancel, unquotedFrom_append, bytes]
  cases unquotedFrom mark 0 rest <;> rfl

/-! ### The escapes -/

theorem hexPadded_quoteless {width n : Nat} (fits : n < 16 ^ (width + 1)) (lead : b ≠ 0x22) :
    0x22 ∉ b :: hexPadded (width + 1) n := by
  have digit : ∀ d < 16, hexDigit d ≠ 0x22 := by decide
  intro member
  rcases List.mem_cons.mp member with same | later
  · exact lead same.symm
  · obtain ⟨d, small, same⟩ := mem_hexPadded fits later
    exact digit d small same.symm

theorem escape_byte {n : Nat} (fits : n < 16 ^ 2) :
    Escape (0x78 :: hexPadded 2 n) [UInt8.ofNat n] := by
  refine ⟨fun rest => ?_, .inr (hexPadded_quoteless fits (by decide))⟩
  have width : (hexPadded 2 n).length = 2 := length_hexPadded fits
  have value : digitsIn? 16 (hexPadded 2 n) = some n := digitsIn_hexPadded fits
  have taken : (hexPadded 2 n ++ rest).take 2 = hexPadded 2 n := List.take_left' width
  have enough : ¬ (hexPadded 2 n ++ rest).length < 2 := by
    rw [List.length_append]
    omega
  simp [unescape?, width, taken, value, -List.length_append, enough]

theorem escape_point {lead : UInt8} {width : Nat}
    (form : lead = 0x75 ∧ width = 3 ∨ lead = 0x55 ∧ width = 7) (fits : c.toNat < 16 ^ (width + 1)) :
    Escape (lead :: hexPadded (width + 1) c.toNat) (ofChar c) := by
  have length := length_hexPadded fits
  have value := digitsIn_hexPadded fits
  have scalar : c.toNat < 0xD800 ∨ 0xDFFF < c.toNat ∧ c.toNat < 0x110000 := c.valid
  have range : c.toNat ≤ 0x10FFFF ∧ (0xD800 ≤ c.toNat → 0xE000 ≤ c.toNat) := by omega
  constructor
  · intro rest
    have taken : (hexPadded (width + 1) c.toNat ++ rest).take (width + 1) =
        hexPadded (width + 1) c.toNat := List.take_left' length
    rcases form with ⟨rfl, rfl⟩ | ⟨rfl, rfl⟩
    · simpa [unescape?, length, taken, value] using range
    · simpa [unescape?, length, taken, value] using range
  · have other : lead ≠ 0x22 := by
      rcases form with ⟨rfl, -⟩ | ⟨rfl, -⟩ <;> decide
    exact .inr (hexPadded_quoteless fits other)

theorem ofChar_of_toNat {n : Nat} (same : c.toNat = n) (ascii : n < 0x80) :
    ofChar c = [UInt8.ofNat n] := by
  rw [ofChar_ascii (same ▸ ascii), same]

theorem escape_letter {n : Nat} (short : shortEscape? n = some letter) :
    n < 0x80 ∧ Escape [letter] [UInt8.ofNat n] := by
  unfold shortEscape? at short
  split at short
  case h_8 => cases short
  all_goals
    obtain rfl := Option.some.inj short
    exact ⟨by decide, fun rest => rfl, .inr (by decide)⟩

theorem piece_escapeChar (c : Char) : Piece (escapeChar 0x22 c) (ofChar c) := by
  unfold escapeChar
  simp only
  split
  · rename_i mark
    simp only [Bool.or_eq_true, beq_iff_eq] at mark
    rcases mark with same | same
    · rw [ofChar_of_toNat same (by decide), same]
      exact .escape ⟨fun rest => rfl, .inl rfl⟩
    · rw [ofChar_of_toNat same (by decide), same]
      exact .escape ⟨fun rest => rfl, .inr (by decide)⟩
  · rename_i unmarked
    simp only [Bool.or_eq_true, beq_iff_eq, not_or] at unmarked
    split
    · rename_i printable
      have other {k : UInt8} (small : k.toNat < 0x80) (differs : c.toNat ≠ k.toNat) :
          ∀ b ∈ ofChar c, b ≠ k := by
        rintro _ member rfl
        rcases mem_ofChar member with large | same
        · omega
        · exact differs same.symm
      have visible : c.toNat ≠ newline.toNat := by
        intro same
        have control : c = '\n' := by rw [← Char.ofNat_toNat c, same]; rfl
        subst control
        revert printable
        decide
      exact .plain fun b member => ⟨other (by decide) unmarked.1 b member,
        other (by decide) visible b member, other (k := 0x5C) (by decide) unmarked.2 b member⟩
    · split
      · rename_i letter short
        obtain ⟨ascii, inner⟩ := escape_letter short
        exact .escape (ofChar_ascii ascii ▸ inner)
      · split
        · rename_i control
          simp only [Bool.or_eq_true, decide_eq_true_eq, beq_iff_eq] at control
          exact .escape (ofChar_ascii (show c.toNat < 0x80 by omega) ▸ escape_byte (by omega))
        · split
          · rename_i small
            exact .escape (escape_point (.inl ⟨rfl, rfl⟩) small)
          · have scalar : c.toNat < 0xD800 ∨ 0xDFFF < c.toNat ∧ c.toNat < 0x110000 := c.valid
            exact .escape (escape_point (.inr ⟨rfl, rfl⟩) (by omega))

/-! ### Whole texts -/

theorem pieces_quotedFrom (t : Text) : Pieces (quotedFrom 0x22 0 t) t := by
  induction size : t.length using Nat.strongRecOn generalizing t with
  | _ n ih =>
    cases t with
    | nil => exact .nil
    | cons b rest =>
      rw [quotedFrom]
      by_cases valid : (Rune.decode b rest).wellFormed = true
      · obtain ⟨tail, behind, bytes, split, width⟩ := ofChar_decode valid
        have shorter : behind.length < n := by
          rw [← size, split, List.length_cons, List.length_append]
          omega
        have later : quotedFrom 0x22 ((Rune.decode b rest).width - 1) rest =
            quotedFrom 0x22 0 behind := by
          rw [width, Nat.add_sub_cancel, split, quotedFrom_append]
        have whole : b :: rest = ofChar (Rune.decode b rest).char ++ behind := by
          rw [bytes, List.cons_append, ← split]
        simp only [valid, if_true, later]
        rw [whole]
        exact .cons (piece_escapeChar _) (ih behind.length shorter behind rfl)
      · have alone : Rune.decode b rest = Rune.illFormed := by
          simpa [Rune.wellFormed] using valid
        have byte : b.toNat < 16 ^ 2 := b.toNat_lt
        have inner := escape_byte byte
        rw [UInt8.ofNat_toNat] at inner
        rw [alone]
        exact .cons (.escape inner) (ih rest.length (by simp [← size]) rest rfl)

theorem Piece.standsFor (first : Piece piece meaning) : StandsFor 0x22 piece meaning := by
  cases first with
  | plain visible => exact standsFor_char visible
  | escape inner => exact standsFor_escape (by decide) inner.read

theorem Pieces.unquotedFrom_eq {inside : Text} (pieces : Pieces inside meaning) :
    unquotedFrom 0x22 0 inside = some meaning := by
  induction pieces with
  | nil => rfl
  | cons first _ ih => rw [first.standsFor, ih, Option.map_some]

/-- Quoting tells all texts apart. -/
theorem quotedFrom_inj {s t : Text} (same : quotedFrom 0x22 0 s = quotedFrom 0x22 0 t) : s = t := by
  have read := (pieces_quotedFrom s).unquotedFrom_eq
  rw [same, (pieces_quotedFrom t).unquotedFrom_eq] at read
  exact (Option.some.inj read).symm

/-! ### Quotes inside -/

/-- Every double quote follows a backslash. -/
def QuotesEscaped (t : Text) : Prop :=
  ∀ before behind, t = before ++ 0x22 :: behind → before.getLast? = some 0x5C

theorem QuotesEscaped.append {s t : Text} (first : QuotesEscaped s) (second : QuotesEscaped t) :
    QuotesEscaped (s ++ t) := by
  intro before behind split
  rcases List.append_eq_append_iff.mp split with ⟨middle, rfl, inSecond⟩ | ⟨middle, inFirst, rest⟩
  · have last := second middle behind inSecond
    rw [List.getLast?_append, last, Option.some_or]
  · cases middle with
    | nil =>
      have start := second [] behind (by simpa using rest.symm)
      cases start
    | cons b middle =>
      obtain ⟨rfl, -⟩ := List.cons.inj rest
      exact first before middle inFirst

theorem quotesEscaped_of_not_mem (quoteless : 0x22 ∉ t) : QuotesEscaped t := by
  rintro before behind rfl
  exact absurd (List.mem_append_right before List.mem_cons_self) quoteless

theorem Piece.quotesEscaped (first : Piece piece meaning) : QuotesEscaped piece := by
  cases first with
  | plain visible => exact quotesEscaped_of_not_mem fun member => (visible _ member).1 rfl
  | escape inner =>
    rcases inner.single with rfl | quoteless
    · intro before behind split
      cases before with
      | nil => exact absurd (List.cons.inj split).1 (by decide)
      | cons first before =>
        obtain ⟨rfl, rest⟩ := List.cons.inj split
        cases before with
        | nil => rfl
        | cons second before => cases before <;> cases (List.cons.inj rest).2
    · apply quotesEscaped_of_not_mem
      intro member
      rcases List.mem_cons.mp member with same | later
      · revert same
        decide
      · exact quoteless later

theorem Pieces.quotesEscaped {inside : Text} (pieces : Pieces inside meaning) :
    QuotesEscaped inside := by
  induction pieces with
  | nil => exact quotesEscaped_of_not_mem List.not_mem_nil
  | cons first _ ih => exact first.quotesEscaped.append ih

theorem blank_quote_not_inside (s before behind : Text) :
    quotedFrom 0x22 0 s ≠ before ++ 0x20 :: 0x22 :: behind := by
  intro split
  have last := (pieces_quotedFrom s).quotesEscaped (before ++ [0x20]) behind (by simp [split])
  rw [List.getLast?_concat] at last
  exact absurd (Option.some.inj last) (by decide)

theorem quotedFrom_behind_blank {s t before : Text}
    (same : 0x20 :: 0x22 :: quotedFrom 0x22 0 s = before ++ 0x20 :: 0x22 :: quotedFrom 0x22 0 t) :
    before = [] ∧ s = t := by
  cases before with
  | nil =>
    have inside : quotedFrom 0x22 0 s = quotedFrom 0x22 0 t := by simpa using same
    exact ⟨rfl, quotedFrom_inj inside⟩
  | cons blank before =>
    have rest := (List.cons.inj same).2
    cases before with
    | nil => exact absurd (List.cons.inj rest).1 (by decide)
    | cons mark before => exact absurd (List.cons.inj rest).2 (blank_quote_not_inside s before _)

/-- A quoted text behind a blank is told from what precedes it. -/
theorem append_quotedFrom_inj {s t before before' : Text}
    (same : before ++ 0x20 :: 0x22 :: quotedFrom 0x22 0 s =
      before' ++ 0x20 :: 0x22 :: quotedFrom 0x22 0 t) : before = before' ∧ s = t := by
  rcases List.append_eq_append_iff.mp same with ⟨middle, rfl, rest⟩ | ⟨middle, rfl, rest⟩
  · obtain ⟨rfl, inside⟩ := quotedFrom_behind_blank rest
    exact ⟨(List.append_nil before).symm, inside⟩
  · obtain ⟨rfl, inside⟩ := quotedFrom_behind_blank rest
    exact ⟨List.append_nil before', inside.symm⟩

end SystemLoops.Text

namespace SystemLoops.Import

theorem render_unnamed (path : Text) :
    render ⟨[], path⟩ = (0x22 :: Text.quotedFrom 0x22 0 path) ++ [0x22] := rfl

theorem render_named (b : UInt8) (name path : Text) :
    render ⟨b :: name, path⟩ =
      ((b :: name) ++ 0x20 :: 0x22 :: Text.quotedFrom 0x22 0 path) ++ [0x22] := by
  have blank : Text.ofString " " = [0x20] := by decide
  simp [render, Text.quote, blank]

theorem render_unnamed_ne (path other : Text) (b : UInt8) (name : Text) :
    render ⟨[], path⟩ ≠ render ⟨b :: name, other⟩ := by
  intro same
  rw [render_unnamed, render_named] at same
  have inside := (List.cons.inj (List.append_cancel_right same)).2
  exact Text.blank_quote_not_inside path name _ inside

theorem render_inj {i j : Import} (same : i.render = j.render) : i = j := by
  obtain ⟨name, path⟩ := i
  obtain ⟨name', path'⟩ := j
  cases name with
  | nil =>
    cases name' with
    | nil =>
      rw [render_unnamed, render_unnamed] at same
      have inside := (List.cons.inj (List.append_cancel_right same)).2
      rw [Text.quotedFrom_inj inside]
    | cons b name' => exact absurd same (render_unnamed_ne path path' b name')
  | cons b name =>
    cases name' with
    | nil => exact absurd same.symm (render_unnamed_ne path' path b name)
    | cons b' name' =>
      rw [render_named, render_named] at same
      obtain ⟨names, paths⟩ := Text.append_quotedFrom_inj (List.append_cancel_right same)
      rw [names, paths]

end SystemLoops.Import
