import Mathlib.Data.List.Count
import Mathlib.Data.List.Pairwise
import Mathlib.Data.Nat.Basic
import SystemLoops.Discovery

/-!
The spans of a block. The statements of a block and the comments between them are read as spans of its
source: a span starts with what it is taken for, and that of a statement runs on to the end of comments on
the statement's last line. Main statement: every statement has a span of its own and no comment is left
out, but the spans are apart only if no such comments come after the start of a further statement.
-/

namespace SystemLoops

open Source

/-- The statements of a block, without the empty ones. -/
def Source.Block.substance (b : Block) : List Statement :=
  b.statements.filter fun s => !s.isEmpty

namespace SourceFile

/-- What a span is taken for. -/
inductive Kept where
  | statement (s : Statement)
  | comments (g : CommentGroup)

namespace Kept

def start : Kept → Pos
  | .statement s => s.start
  | .comments g => CommentGroup.start g

def finish : Kept → Pos
  | .statement s => s.finish
  | .comments g => CommentGroup.finish g

def statement? : Kept → Option Statement
  | .statement s => some s
  | .comments _ => none

theorem start_of_statement {k : Kept} {s : Statement} (own : k.statement? = some s) :
    k.start = s.start := by
  cases k with
  | statement t =>
    cases own
    rfl
  | comments => cases own

end Kept

/-- A stretch of source that becomes one statement. -/
structure Span where
  kept : Kept
  finish : Pos

namespace Span

def start (p : Span) : Pos :=
  p.kept.start

def ofComments (g : CommentGroup) : Span :=
  ⟨.comments g, CommentGroup.finish g⟩

/-- Whether a span holds all that lies between two places. -/
def covers (p : Span) (start finish : Pos) : Bool :=
  decide (p.start ≤ start) && decide (finish ≤ p.finish)

end Span

/-- The end of a statement with the comments on its last line, and the comments left behind it. -/
def extend (f : SourceFile) (finish : Pos) : List CommentGroup → Pos × List CommentGroup
  | [] => (finish, [])
  | g :: others =>
    if f.line (CommentGroup.start g) == f.line finish then (CommentGroup.finish g, others)
    else (finish, g :: others)

/-- The comments that start at or behind a place, when those before come first. -/
def commentsFrom (p : Pos) (comments : List CommentGroup) : List CommentGroup :=
  comments.dropWhile fun g => decide (CommentGroup.start g < p)

/-- The comments that start before a place, when they come first. -/
def commentsBefore (p : Pos) (comments : List CommentGroup) : List CommentGroup :=
  comments.takeWhile fun g => decide (CommentGroup.start g < p)

/-- The end of a statement with the comments that belong to it, and the comments that come behind. -/
def reach (f : SourceFile) (s : Statement) (comments : List CommentGroup) : Pos × List CommentGroup :=
  f.extend s.finish (commentsFrom (max s.start s.finish) comments)

/-- The spans of statements up to a closing brace among the comments that are left. -/
def spansAmong (f : SourceFile) (rbrace : Pos) (comments : List CommentGroup) :
    List Statement → List Span
  | [] => (commentsBefore rbrace comments).map .ofComments
  | s :: rest =>
    if s.isEmpty then spansAmong f rbrace comments rest
    else
      (commentsBefore s.start comments).map .ofComments ++
        ⟨.statement s, (f.reach s comments).1⟩ :: spansAmong f rbrace (f.reach s comments).2 rest

def spans (f : SourceFile) (b : Block) : List Span :=
  f.spansAmong b.rbrace (f.commentsWithin b.lbrace b.rbrace) b.statements

/-- The statement that a span becomes. -/
def emit (f : SourceFile) (p : Span) : Stmt :=
  match p.kept with
  | .statement s => f.ofShape s.start p.finish s.shape
  | .comments _ => .text (f.dedented p.start p.finish) (f.position p.start)

/-- Statements and groups of comments are given in the order of the source, and a group lies before a
statement, inside of it or behind it. -/
structure InOrder (statements : List Statement) (comments : List CommentGroup) : Prop where
  sorted : statements.Pairwise fun s t => s.finish ≤ t.start
  proper : ∀ s ∈ statements, s.start < s.finish
  commentsSorted : comments.Pairwise fun g h => CommentGroup.finish g ≤ CommentGroup.start h
  worded : ∀ g ∈ comments, CommentGroup.start g < CommentGroup.finish g
  apart : ∀ s ∈ statements, ∀ g ∈ comments, CommentGroup.finish g ≤ s.start ∨
    (s.start ≤ CommentGroup.start g ∧ CommentGroup.finish g ≤ s.finish) ∨
    s.finish ≤ CommentGroup.start g

/-- Spans do not meet and follow the order of the source; each statement and each group of comments is in
exactly one of them. -/
structure Partitioned (spans : List Span) (statements : List Statement) (comments : List CommentGroup) :
    Prop where
  apart : spans.Pairwise fun p q => p.finish ≤ q.start
  statement_once : ∀ s ∈ statements, spans.countP (·.covers s.start s.finish) = 1
  comments_once : ∀ g ∈ comments,
    spans.countP (·.covers (CommentGroup.start g) (CommentGroup.finish g)) = 1

/-- The first comments at or behind a place. -/
structure IsFirstFrom (bound : Pos) (comments : List CommentGroup) (g : CommentGroup) : Prop where
  there : g ∈ comments
  behind : bound ≤ CommentGroup.start g
  first : ∀ h ∈ comments, bound ≤ CommentGroup.start h → CommentGroup.start g ≤ CommentGroup.start h

/-- The first comments behind a statement start on its last line, but not before a further statement. -/
structure Overhangs (f : SourceFile) (comments : List CommentGroup) (s t : Statement) (g : CommentGroup) :
    Prop where
  first : IsFirstFrom s.finish comments g
  same : f.line (CommentGroup.start g) = f.line s.finish
  behind : s.finish ≤ t.start
  beyond : t.start ≤ CommentGroup.start g

variable {f : SourceFile} {s t : Statement} {rest statements : List Statement} {g h : CommentGroup}
  {comments : List CommentGroup} {rbrace bound : Pos} {p q : Span}

/-! ### Statements are what spans become -/

theorem source_ofShape (start finish : Pos) (shape : StatementShape) :
    (f.ofShape start finish shape).source = f.dedented start finish ∧
      (f.ofShape start finish shape).position = f.position start := by
  cases shape with
  | expr x =>
    obtain ⟨_, _, shape⟩ := x
    cases shape with
    | call fn _ arguments _ _ =>
      simp only [ofShape, ofExpr]
      split
      · simp only [Stmt.source, Stmt.position, and_self]
      · split <;> simp only [Stmt.source, Stmt.position, and_self]
    | _ => simp [ofShape, ofExpr, Stmt.source, Stmt.position]
  | _ => simp [ofShape, Stmt.source, Stmt.position]

theorem source_emit (f : SourceFile) (p : Span) :
    (f.emit p).source = f.dedented p.start p.finish ∧ (f.emit p).position = f.position p.start := by
  obtain ⟨kept, finish⟩ := p
  cases kept with
  | statement s => exact source_ofShape _ _ _
  | comments => exact ⟨rfl, rfl⟩

theorem spansAmong_empty (nothing : s.isEmpty = true) :
    f.spansAmong rbrace comments (s :: rest) = f.spansAmong rbrace comments rest := by
  rw [spansAmong, if_pos nothing]

theorem spansAmong_proper (proper : s.isEmpty = false) :
    f.spansAmong rbrace comments (s :: rest) =
      (commentsBefore s.start comments).map .ofComments ++
        ⟨.statement s, (f.reach s comments).1⟩ :: f.spansAmong rbrace (f.reach s comments).2 rest := by
  rw [spansAmong, if_neg (by simp [proper])]

theorem extend_same {others : List CommentGroup}
    (same : f.line (CommentGroup.start g) = f.line bound) :
    f.extend bound (g :: others) = (CommentGroup.finish g, others) :=
  if_pos (beq_iff_eq.mpr same)

theorem extend_other {others : List CommentGroup}
    (other : f.line (CommentGroup.start g) ≠ f.line bound) :
    f.extend bound (g :: others) = (bound, g :: others) :=
  if_neg (mt beq_iff_eq.mp other)

/-- Reading statements is cutting the source into spans and then reading each span. -/
theorem ofStatements_eq (f : SourceFile) (rbrace : Pos) (comments : List CommentGroup)
    (statements : List Statement) :
    f.ofStatements rbrace comments statements = (f.spansAmong rbrace comments statements).map f.emit := by
  induction statements generalizing comments with
  | nil =>
    rw [ofStatements, spansAmong, List.map_map]
    rfl
  | cons s rest ih =>
    obtain ⟨start, finish, shape⟩ := s
    by_cases empty : shape = .empty
    · subst empty
      rw [ofStatements, spansAmong_empty rfl, ih]
    · have proper : (Statement.mk start finish shape).isEmpty = false := by
        cases shape <;> first | rfl | exact absurd rfl empty
      have behind : (comments.dropWhile fun g => decide (CommentGroup.start g < max start finish)) =
          commentsFrom (max (Statement.mk start finish shape).start (Statement.mk start finish shape).finish)
            comments := rfl
      rw [ofStatements, spansAmong_proper proper, List.map_append, List.map_map, List.map_cons, ← ih]
      · rw [behind, reach]
        generalize commentsFrom _ comments = after
        cases after with
        | nil => rfl
        | cons g others =>
          by_cases same : f.line (CommentGroup.start g) = f.line (Statement.mk start finish shape).finish
          · have attached : (f.line (CommentGroup.start g) == f.line finish) = true := beq_iff_eq.mpr same
            rw [extend_same same]
            simp only [if_pos attached]
            rfl
          · have left : ¬ (f.line (CommentGroup.start g) == f.line finish) = true := mt beq_iff_eq.mp same
            rw [extend_other same]
            simp only [if_neg left]
            rfl
      · exact empty

theorem ofBlock_eq (f : SourceFile) (b : Block) : f.ofBlock b = (f.spans b).map f.emit := by
  obtain ⟨lbrace, statements, rbrace⟩ := b
  rw [ofBlock, ofStatements_eq]
  rfl

/-! ### Comments in order -/

namespace InOrder

theorem sublist {others : List CommentGroup} (order : InOrder statements comments)
    (fewer : others.Sublist comments) : InOrder statements others :=
  ⟨order.sorted, order.proper, order.commentsSorted.sublist fewer, fun h member =>
    order.worded h (fewer.subset member), fun s one h member =>
    order.apart s one h (fewer.subset member)⟩

theorem tail (order : InOrder (s :: rest) comments) : InOrder rest comments :=
  ⟨order.sorted.of_cons, fun t member => order.proper t (List.mem_cons_of_mem s member),
    order.commentsSorted, order.worded, fun t member =>
    order.apart t (List.mem_cons_of_mem s member)⟩

theorem starts_later (order : InOrder statements (g :: comments)) (member : h ∈ comments) :
    CommentGroup.start g < CommentGroup.start h :=
  Nat.lt_of_lt_of_le (order.worded g List.mem_cons_self)
    (List.rel_of_pairwise_cons order.commentsSorted member)

theorem later_statement (order : InOrder (s :: rest) comments) (member : t ∈ rest) :
    s.finish ≤ t.start :=
  List.rel_of_pairwise_cons order.sorted member

theorem mem_commentsFrom (order : InOrder statements comments) :
    g ∈ commentsFrom bound comments ↔ g ∈ comments ∧ bound ≤ CommentGroup.start g := by
  unfold commentsFrom
  induction comments with
  | nil => simp
  | cons h others ih =>
    have later := fun k (member : k ∈ others) => order.starts_later member
    rw [List.dropWhile_cons]
    split
    · have := ih (order.sublist (List.sublist_cons_self h others))
      grind
    · grind

theorem mem_commentsBefore (order : InOrder statements comments) :
    g ∈ commentsBefore bound comments ↔ g ∈ comments ∧ CommentGroup.start g < bound := by
  unfold commentsBefore
  induction comments with
  | nil => simp
  | cons h others ih =>
    have later := fun k (member : k ∈ others) => order.starts_later member
    rw [List.takeWhile_cons]
    split
    · have := ih (order.sublist (List.sublist_cons_self h others))
      grind
    · grind

theorem finish_le_of_before (order : InOrder statements comments) (one : s ∈ statements)
    (early : g ∈ commentsBefore s.start comments) : CommentGroup.finish g ≤ s.start := by
  obtain ⟨member, sooner⟩ := order.mem_commentsBefore.mp early
  rcases order.apart s one g member with before | ⟨inside, -⟩ | behind
  · exact before
  · exact absurd sooner (Nat.not_lt.mpr inside)
  · have starts := Nat.le_of_lt (order.proper s one)
    exact absurd sooner (Nat.not_lt.mpr (Nat.le_trans starts behind))

theorem from_head {others : List CommentGroup} (order : InOrder statements comments)
    (head : commentsFrom bound comments = g :: others) : InOrder statements (g :: others) :=
  head ▸ order.sublist (List.dropWhile_sublist _)

theorem exists_commentsFrom_iff (order : InOrder statements comments) :
    (∃ others, commentsFrom bound comments = g :: others) ↔ IsFirstFrom bound comments g := by
  constructor
  · rintro ⟨others, head⟩
    obtain ⟨there, behind⟩ := order.mem_commentsFrom.mp (head ▸ List.mem_cons_self)
    refine ⟨there, behind, fun h member from_bound => ?_⟩
    rcases List.mem_cons.mp (head ▸ order.mem_commentsFrom.mpr ⟨member, from_bound⟩) with rfl | later
    · exact Nat.le_refl _
    · exact Nat.le_of_lt ((order.from_head head).starts_later later)
  · rintro ⟨there, behind, first⟩
    have member := order.mem_commentsFrom.mpr ⟨there, behind⟩
    cases head : commentsFrom bound comments with
    | nil => simp [head] at member
    | cons h others =>
      rw [head] at member
      rcases List.mem_cons.mp member with rfl | later
      · exact ⟨others, rfl⟩
      · obtain ⟨known, from_bound⟩ := order.mem_commentsFrom.mp (head ▸ List.mem_cons_self : h ∈ _)
        have sooner := (order.from_head head).starts_later later
        exact absurd sooner (Nat.not_lt.mpr (first h known from_bound))

/-- A statement ends where its source does, or with the first comments behind it when they start on its
last line. -/
theorem reach_cases (f : SourceFile) (order : InOrder statements comments) (member : s ∈ statements) :
    (f.reach s comments = (s.finish, commentsFrom s.finish comments) ∧
      ∀ g, IsFirstFrom s.finish comments g → f.line (CommentGroup.start g) ≠ f.line s.finish) ∨
    ∃ g others, commentsFrom s.finish comments = g :: others ∧ IsFirstFrom s.finish comments g ∧
      f.line (CommentGroup.start g) = f.line s.finish ∧
      f.reach s comments = (CommentGroup.finish g, others) := by
  have longer : max s.start s.finish = s.finish := Nat.max_eq_right (Nat.le_of_lt (order.proper s member))
  rw [reach, longer]
  cases head : commentsFrom s.finish comments with
  | nil =>
    refine .inl ⟨rfl, fun g first => ?_⟩
    obtain ⟨others, other⟩ := order.exists_commentsFrom_iff.mpr first
    cases head.symm.trans other
  | cons g others =>
    have first := order.exists_commentsFrom_iff.mp ⟨others, head⟩
    by_cases same : f.line (CommentGroup.start g) = f.line s.finish
    · exact .inr ⟨g, others, rfl, first, same, extend_same same⟩
    · refine .inl ⟨extend_other same, fun h other => ?_⟩
      obtain ⟨_, again⟩ := order.exists_commentsFrom_iff.mpr other
      cases head.symm.trans again
      exact same

theorem finish_le_reach (f : SourceFile) (order : InOrder statements comments) (member : s ∈ statements) :
    s.finish ≤ (f.reach s comments).1 := by
  rcases order.reach_cases f member with ⟨plain, -⟩ | ⟨g, others, -, first, -, extended⟩
  · rw [plain]
  · rw [extended]
    exact Nat.le_trans first.behind (Nat.le_of_lt (order.worded g first.there))

theorem mem_reach (f : SourceFile) (order : InOrder statements comments) (member : s ∈ statements) :
    g ∈ (f.reach s comments).2 ↔ g ∈ comments ∧ (f.reach s comments).1 ≤ CommentGroup.start g := by
  rcases order.reach_cases f member with ⟨plain, -⟩ | ⟨h, others, head, first, -, extended⟩
  · rw [plain]
    exact order.mem_commentsFrom
  · rw [extended]
    have kept := order.from_head head
    have proper := order.worded h first.there
    constructor
    · intro later
      have known := order.mem_commentsFrom.mp (head ▸ List.mem_cons_of_mem h later : g ∈ _)
      exact ⟨known.1, List.rel_of_pairwise_cons kept.commentsSorted later⟩
    · rintro ⟨known, behind⟩
      have after : g ∈ commentsFrom s.finish comments := order.mem_commentsFrom.mpr
        ⟨known, Nat.le_trans first.behind (Nat.le_trans (Nat.le_of_lt proper) behind)⟩
      rw [head] at after
      rcases List.mem_cons.mp after with rfl | later
      · exact absurd proper (Nat.not_lt.mpr behind)
      · exact later

theorem finish_le_of_attached (f : SourceFile) (order : InOrder statements comments)
    (one : s ∈ statements) (member : g ∈ comments) (behind : s.finish ≤ CommentGroup.start g)
    (early : CommentGroup.start g < (f.reach s comments).1) :
    CommentGroup.finish g ≤ (f.reach s comments).1 := by
  rcases order.reach_cases f one with ⟨plain, -⟩ | ⟨h, others, head, -, -, extended⟩
  · rw [plain] at early
    exact absurd early (Nat.not_lt.mpr behind)
  · rw [extended] at early ⊢
    have kept := order.from_head head
    rcases List.mem_cons.mp (head ▸ order.mem_commentsFrom.mpr ⟨member, behind⟩) with rfl | later
    · exact Nat.le_refl _
    · exact absurd early (Nat.not_lt.mpr (List.rel_of_pairwise_cons kept.commentsSorted later))

theorem reach_order (f : SourceFile) (order : InOrder (s :: rest) comments) :
    InOrder rest (f.reach s comments).2 := by
  refine order.tail.sublist ?_
  rcases order.reach_cases f List.mem_cons_self with ⟨plain, -⟩ | ⟨g, others, head, -, -, extended⟩
  · rw [plain]
    exact List.dropWhile_sublist _
  · rw [extended]
    exact (List.sublist_cons_self g others).trans (head ▸ List.dropWhile_sublist _)

end InOrder

/-! ### Spans apart -/

theorem cases_of_mem (order : InOrder statements comments)
    (proper : ∀ s ∈ statements, s.isEmpty = false)
    (member : p ∈ f.spansAmong rbrace comments statements) :
    (∃ s ∈ statements, p.kept = .statement s ∧ s.finish ≤ p.finish) ∨
      ∃ g ∈ comments, p = .ofComments g := by
  induction statements generalizing comments with
  | nil =>
    obtain ⟨g, early, rfl⟩ := List.mem_map.mp member
    exact .inr ⟨g, (order.mem_commentsBefore.mp early).1, rfl⟩
  | cons s rest ih =>
    rw [spansAmong_proper (proper s List.mem_cons_self)] at member
    rcases List.mem_append.mp member with before | member
    · obtain ⟨g, early, rfl⟩ := List.mem_map.mp before
      exact .inr ⟨g, (order.mem_commentsBefore.mp early).1, rfl⟩
    · rcases List.mem_cons.mp member with rfl | later
      · exact .inl ⟨s, List.mem_cons_self, rfl, order.finish_le_reach f List.mem_cons_self⟩
      · rcases ih (order.reach_order f) (List.forall_mem_cons.mp proper).2 later with
          ⟨t, one, own⟩ | ⟨g, one, own⟩
        · exact .inl ⟨t, List.mem_cons_of_mem s one, own⟩
        · exact .inr ⟨g, ((order.mem_reach f List.mem_cons_self).mp one).1, own⟩

theorem finish_le_of_mem (order : InOrder statements comments)
    (proper : ∀ s ∈ statements, s.isEmpty = false)
    (member : p ∈ f.spansAmong rbrace comments statements) : p.kept.finish ≤ p.finish := by
  rcases cases_of_mem order proper member with ⟨s, -, own, holds⟩ | ⟨g, -, rfl⟩
  · rw [own]
    exact holds
  · exact Nat.le_refl _

theorem start_lt_of_mem (order : InOrder statements comments)
    (proper : ∀ s ∈ statements, s.isEmpty = false)
    (member : p ∈ f.spansAmong rbrace comments statements) : p.start < p.finish := by
  rcases cases_of_mem order proper member with ⟨s, one, own, holds⟩ | ⟨g, one, rfl⟩
  · rw [Span.start, own]
    exact Nat.lt_of_lt_of_le (order.proper s one) holds
  · exact order.worded g one

theorem statements_spansAmong (f : SourceFile) (rbrace : Pos) (comments : List CommentGroup)
    (proper : ∀ s ∈ statements, s.isEmpty = false) :
    (f.spansAmong rbrace comments statements).filterMap (·.kept.statement?) = statements := by
  induction statements generalizing comments with
  | nil => simp [spansAmong, Span.ofComments, Kept.statement?]
  | cons s rest ih =>
    rw [spansAmong_proper (proper s List.mem_cons_self), List.filterMap_append, List.filterMap_cons,
      ih _ (List.forall_mem_cons.mp proper).2]
    simp [Span.ofComments, Kept.statement?]

theorem exists_covers_statement (order : InOrder statements comments)
    (proper : ∀ s ∈ statements, s.isEmpty = false) (one : s ∈ statements) :
    ∃ p ∈ f.spansAmong rbrace comments statements, p.covers s.start s.finish = true := by
  have listed := one
  rw [← statements_spansAmong f rbrace comments proper] at listed
  obtain ⟨p, member, own⟩ := List.mem_filterMap.mp listed
  refine ⟨p, member, ?_⟩
  have holds := finish_le_of_mem order proper member
  obtain ⟨kept, finish⟩ := p
  cases kept with
  | statement t =>
    cases own
    simp only [Span.covers, Span.start, Kept.start, Nat.le_refl, decide_true, Bool.true_and]
    exact decide_eq_true holds
  | comments => cases own

theorem exists_covers_comments (order : InOrder statements comments)
    (proper : ∀ s ∈ statements, s.isEmpty = false)
    (within : ∀ g ∈ comments, CommentGroup.start g < rbrace) (member : g ∈ comments) :
    ∃ p ∈ f.spansAmong rbrace comments statements,
      p.covers (CommentGroup.start g) (CommentGroup.finish g) = true := by
  have alone : (Span.ofComments g).covers (CommentGroup.start g) (CommentGroup.finish g) = true := by
    simp [Span.covers, Span.ofComments, Span.start, Kept.start]
  induction statements generalizing comments with
  | nil =>
    exact ⟨.ofComments g, List.mem_map_of_mem (order.mem_commentsBefore.mpr ⟨member, within g member⟩),
      alone⟩
  | cons s rest ih =>
    have own := order.finish_le_reach f List.mem_cons_self
    have held : s.start ≤ CommentGroup.start g → CommentGroup.finish g ≤ (f.reach s comments).1 →
        (Span.mk (.statement s) (f.reach s comments).1).covers (CommentGroup.start g)
          (CommentGroup.finish g) = true := by
      intro from_start to_finish
      simp [Span.covers, Span.start, Kept.start, from_start, to_finish]
    rw [spansAmong_proper (proper s List.mem_cons_self)]
    rcases order.apart s List.mem_cons_self g member with before | ⟨from_start, to_finish⟩ | behind
    · have early := order.mem_commentsBefore.mpr
        ⟨member, Nat.lt_of_lt_of_le (order.worded g member) before⟩
      exact ⟨_, List.mem_append_left _ (List.mem_map_of_mem early), alone⟩
    · exact ⟨_, List.mem_append_right _ List.mem_cons_self, held from_start (Nat.le_trans to_finish own)⟩
    · by_cases later : (f.reach s comments).1 ≤ CommentGroup.start g
      · have left := (order.mem_reach f List.mem_cons_self).mpr ⟨member, later⟩
        obtain ⟨p, there, covered⟩ := ih (order.reach_order f)
          (List.forall_mem_cons.mp proper).2
          (fun h one => within h ((order.mem_reach f List.mem_cons_self).mp one).1) left
        exact ⟨p, List.mem_append_right _ (List.mem_cons_of_mem _ there), covered⟩
      · refine ⟨_, List.mem_append_right _ List.mem_cons_self, held ?_ ?_⟩
        · exact Nat.le_trans (Nat.le_of_lt (order.proper s List.mem_cons_self)) behind
        · exact order.finish_le_of_attached f List.mem_cons_self member behind (Nat.not_le.mp later)

theorem countP_covers_le {spans : List Span} {start finish : Pos} (some_source : start < finish)
    (apart : spans.Pairwise fun p q => p.finish ≤ q.start) :
    spans.countP (·.covers start finish) ≤ 1 := by
  induction apart with
  | nil => simp
  | @cons p rest later _ ih =>
    rw [List.countP_cons]
    split
    · rename_i held
      have none : rest.countP (·.covers start finish) = 0 := by
        refine List.countP_eq_zero.mpr fun q member again => ?_
        simp only [Span.covers, Bool.and_eq_true, decide_eq_true_eq] at held again
        have met : finish ≤ start := Nat.le_trans held.2 (Nat.le_trans (later q member) again.1)
        exact absurd some_source (Nat.not_lt.mpr met)
      rw [none]
    · exact ih

/-- A statement with its comments ends before the others start unless its comments overhang. -/
theorem reach_le_iff (f : SourceFile) (order : InOrder (s :: rest) comments) :
    (∀ t ∈ rest, (f.reach s comments).1 ≤ t.start) ↔ ∀ t ∈ rest, ∀ g, ¬ f.Overhangs comments s t g := by
  rcases order.reach_cases f List.mem_cons_self with ⟨plain, other⟩ | ⟨h, others, -, first, same, extended⟩
  · rw [plain]
    exact iff_of_true (fun t member => order.later_statement member)
      fun t _ g overhang => other g overhang.first overhang.same
  · rw [extended]
    have proper := order.worded h first.there
    constructor
    · intro clear t member g overhang
      have sooner := overhang.first.first h first.there first.behind
      have met := Nat.le_trans (clear t member) (Nat.le_trans overhang.beyond sooner)
      exact absurd proper (Nat.not_lt.mpr met)
    · intro clear t member
      have behind := order.later_statement member
      rcases order.apart t (List.mem_cons_of_mem s member) h first.there with before | ⟨inside, -⟩ | beyond
      · exact before
      · exact absurd ⟨first, same, behind, inside⟩ (clear t member h)
      · have starts := Nat.le_of_lt (order.proper t (List.mem_cons_of_mem s member))
        exact absurd ⟨first, same, behind, Nat.le_trans starts beyond⟩ (clear t member h)

/-- Which comments are the first behind a later statement does not depend on those that came before. -/
theorem isFirstFrom_reach_iff (order : InOrder (s :: rest) comments)
    (clear : (f.reach s comments).1 ≤ bound) :
    IsFirstFrom bound (f.reach s comments).2 g ↔ IsFirstFrom bound comments g := by
  have same : ∀ h, bound ≤ CommentGroup.start h → (h ∈ (f.reach s comments).2 ↔ h ∈ comments) := by
    intro h behind
    rw [order.mem_reach f List.mem_cons_self]
    exact and_iff_left (Nat.le_trans clear behind)
  constructor
  · rintro ⟨there, behind, first⟩
    exact ⟨(same g behind).mp there, behind, fun h one later => first h ((same h later).mpr one) later⟩
  · rintro ⟨there, behind, first⟩
    exact ⟨(same g behind).mpr there, behind, fun h one later => first h ((same h later).mp one) later⟩

theorem overhangs_reach_iff (order : InOrder (s :: rest) comments) (member : t ∈ rest)
    (clear : (f.reach s comments).1 ≤ t.start) (u : Statement) :
    f.Overhangs (f.reach s comments).2 t u g ↔ f.Overhangs comments t u g := by
  have starts := Nat.le_of_lt (order.proper t (List.mem_cons_of_mem s member))
  have firsts := isFirstFrom_reach_iff (g := g) order (Nat.le_trans clear starts)
  constructor
  · rintro ⟨first, same, behind, beyond⟩
    exact ⟨firsts.mp first, same, behind, beyond⟩
  · rintro ⟨first, same, behind, beyond⟩
    exact ⟨firsts.mpr first, same, behind, beyond⟩

theorem not_overhangs_earlier (order : InOrder (s :: rest) comments) (member : t ∈ s :: rest) :
    ¬ f.Overhangs comments t s g := by
  rintro ⟨-, -, behind, -⟩
  have proper := order.proper t member
  rcases List.mem_cons.mp member with rfl | later
  · exact absurd proper (Nat.not_lt.mpr behind)
  · have starts := Nat.le_of_lt (order.proper s List.mem_cons_self)
    have met := Nat.le_trans behind (Nat.le_trans starts (order.later_statement later))
    exact absurd proper (Nat.not_lt.mpr met)

/-- The spans of a statement and of those behind it are apart when it ends before they start. -/
theorem pairwise_cons_iff (order : InOrder (s :: rest) comments)
    (proper : ∀ t ∈ s :: rest, t.isEmpty = false) :
    (f.spansAmong rbrace comments (s :: rest)).Pairwise (fun p q => p.finish ≤ q.start) ↔
      (∀ t ∈ rest, (f.reach s comments).1 ≤ t.start) ∧
        (f.spansAmong rbrace (f.reach s comments).2 rest).Pairwise fun p q => p.finish ≤ q.start := by
  have properRest : ∀ t ∈ rest, t.isEmpty = false := (List.forall_mem_cons.mp proper).2
  have starts := Nat.le_of_lt (order.proper s List.mem_cons_self)
  rw [spansAmong_proper (proper s List.mem_cons_self), List.pairwise_append, List.pairwise_cons]
  constructor
  · rintro ⟨-, ⟨clear, later⟩, -⟩
    refine ⟨fun t member => ?_, later⟩
    rw [← statements_spansAmong f rbrace (f.reach s comments).2 properRest] at member
    obtain ⟨q, there, own⟩ := List.mem_filterMap.mp member
    rw [← Kept.start_of_statement own]
    exact clear q there
  · rintro ⟨clear, later⟩
    have behind : ∀ q ∈ f.spansAmong rbrace (f.reach s comments).2 rest, (f.reach s comments).1 ≤ q.start := by
      intro q member
      rcases cases_of_mem (order.reach_order f) properRest member with ⟨t, one, own, -⟩ | ⟨g, one, rfl⟩
      · rw [Span.start, own]
        exact clear t one
      · exact ((order.mem_reach f List.mem_cons_self).mp one).2
    refine ⟨?_, ⟨behind, later⟩, ?_⟩
    · rw [List.pairwise_map]
      exact order.commentsSorted.sublist (List.takeWhile_sublist _)
    · intro p before q member
      obtain ⟨g, early, rfl⟩ := List.mem_map.mp before
      have apart := order.finish_le_of_before List.mem_cons_self early
      rcases List.mem_cons.mp member with rfl | member
      · exact apart
      · have own := Nat.le_trans starts (order.finish_le_reach f List.mem_cons_self)
        exact Nat.le_trans apart (Nat.le_trans own (behind q member))

theorem pairwise_spansAmong_iff (f : SourceFile) (rbrace : Pos) (order : InOrder statements comments)
    (proper : ∀ s ∈ statements, s.isEmpty = false) :
    (f.spansAmong rbrace comments statements).Pairwise (fun p q => p.finish ≤ q.start) ↔
      ∀ s ∈ statements, ∀ t ∈ statements, ∀ g, ¬ f.Overhangs comments s t g := by
  induction statements generalizing comments with
  | nil =>
    refine iff_of_true ?_ (by simp)
    rw [spansAmong, List.pairwise_map]
    exact order.commentsSorted.sublist (List.takeWhile_sublist _)
  | cons s rest ih =>
    rw [pairwise_cons_iff order proper,
      ih (order.reach_order f) (List.forall_mem_cons.mp proper).2]
    constructor
    · rintro ⟨clear, later⟩ r one t other g overhang
      rcases List.mem_cons.mp other with rfl | behind
      · exact not_overhangs_earlier order one overhang
      · rcases List.mem_cons.mp one with rfl | tail
        · exact (reach_le_iff f order).mp clear t behind g overhang
        · have left := (overhangs_reach_iff order tail (clear r tail) t).mpr overhang
          exact later r tail t behind g left
    · intro none
      have clear := (reach_le_iff f order).mpr fun t other g =>
        none s List.mem_cons_self t (List.mem_cons_of_mem s other) g
      refine ⟨clear, fun r one t other g overhang => ?_⟩
      exact none r (List.mem_cons_of_mem s one) t (List.mem_cons_of_mem s other) g
        ((overhangs_reach_iff order one (clear r one) t).mp overhang)

/-! ### Blocks -/

theorem spansAmong_substance (f : SourceFile) (rbrace : Pos) (comments : List CommentGroup)
    (statements : List Statement) :
    f.spansAmong rbrace comments (statements.filter fun s => !s.isEmpty) =
      f.spansAmong rbrace comments statements := by
  induction statements generalizing comments with
  | nil => rfl
  | cons s rest ih =>
    cases nothing : s.isEmpty with
    | true => rw [List.filter_cons_of_neg (by simp [nothing]), spansAmong_empty nothing, ih]
    | false =>
      rw [List.filter_cons_of_pos (by simp [nothing]), spansAmong_proper nothing,
        spansAmong_proper nothing, ih]

/-- Spans part the source exactly when no comments overhang. -/
theorem partitioned_spansAmong_iff (order : InOrder statements comments)
    (proper : ∀ s ∈ statements, s.isEmpty = false)
    (within : ∀ g ∈ comments, CommentGroup.start g < rbrace) :
    Partitioned (f.spansAmong rbrace comments statements) statements comments ↔
      ∀ s ∈ statements, ∀ t ∈ statements, ∀ g, ¬ f.Overhangs comments s t g := by
  rw [← pairwise_spansAmong_iff f rbrace order proper]
  constructor
  · exact Partitioned.apart
  · intro apart
    refine ⟨apart, fun s one => ?_, fun g member => ?_⟩
    · have held : 0 < (f.spansAmong rbrace comments statements).countP (·.covers s.start s.finish) :=
        List.countP_pos_iff.mpr (exists_covers_statement order proper one)
      exact Nat.le_antisymm (countP_covers_le (order.proper s one) apart) held
    · have held : 0 < (f.spansAmong rbrace comments statements).countP
          (·.covers (CommentGroup.start g) (CommentGroup.finish g)) :=
        List.countP_pos_iff.mpr (exists_covers_comments order proper within member)
      exact Nat.le_antisymm (countP_covers_le (order.worded g member) apart) held

/-- A block becomes the statements that its spans become, each with the source of its span. Every
statement that is not empty has a span of its own, which holds it, and every group of comments is in some
span. No source is in two spans, and the spans follow the order of the source, exactly when the comments on
the last line of a statement do not come after the start of a further statement. -/
theorem partitioned_iff (f : SourceFile) (b : Block)
    (order : InOrder b.substance (f.commentsWithin b.lbrace b.rbrace)) :
    f.ofBlock b = (f.spans b).map f.emit ∧
    (∀ p ∈ f.spans b, (f.emit p).position = f.position p.start ∧ ∃ blanks : Text,
      (∀ c ∈ blanks, c = 0x20 ∨ c = 0x09) ∧
        (f.emit p).source = dedent (blanks ++ f.slice p.start p.finish)) ∧
    (f.spans b).filterMap (·.kept.statement?) = b.substance ∧
    (∀ p ∈ f.spans b, p.kept.finish ≤ p.finish) ∧
    (∀ g ∈ f.commentsWithin b.lbrace b.rbrace, ∃ p ∈ f.spans b,
      p.covers (CommentGroup.start g) (CommentGroup.finish g) = true) ∧
    (Partitioned (f.spans b) b.substance (f.commentsWithin b.lbrace b.rbrace) ↔
      ∀ s ∈ b.substance, ∀ t ∈ b.substance, ∀ g,
        ¬ f.Overhangs (f.commentsWithin b.lbrace b.rbrace) s t g) := by
  have proper : ∀ s ∈ b.substance, s.isEmpty = false := fun s one => by
    simpa using (List.mem_filter.mp one).2
  have within : ∀ g ∈ f.commentsWithin b.lbrace b.rbrace, CommentGroup.start g < b.rbrace := by
    intro g member
    have inside := (List.mem_filter.mp member).2
    simp only [Bool.and_eq_true, decide_eq_true_eq] at inside
    exact Nat.lt_of_lt_of_le (order.worded g member) inside.2
  have same : f.spans b = f.spansAmong b.rbrace (f.commentsWithin b.lbrace b.rbrace) b.substance :=
    (spansAmong_substance _ _ _ _).symm
  refine ⟨ofBlock_eq f b, ?_⟩
  rw [same]
  refine ⟨fun p member => ?_, statements_spansAmong _ _ _ proper,
    fun p member => finish_le_of_mem order proper member,
    fun g member => exists_covers_comments order proper within member,
    partitioned_spansAmong_iff order proper within⟩
  obtain ⟨source, position⟩ := source_emit f p
  rw [source]
  exact ⟨position, f.exists_dedented (Nat.le_of_lt (start_lt_of_mem order proper member))⟩

/-- Two statements on one line, with comments behind the second one. -/
def crowded : Text :=
  "package motion\n\ntype Motion struct\x7b UpdateSystem \x7d\n\n" ++
    "func (m *Motion) Update() \x7b\n\ta(); b() // c\n\x7d\n"

def crowdedFile : SourceFile :=
  ⟨crowded.toArray, (parseScoped? "motion.go" crowded).get (by decide +kernel)⟩

def crowdedBlock : Block :=
  match crowdedFile.parsed.file.decls.getLast? with
  | some (.function d) => d.body.getD default
  | _ => default

def crowdedComments : List CommentGroup :=
  crowdedFile.commentsWithin crowdedBlock.lbrace crowdedBlock.rbrace

/-- The comments go to the first statement, so the second one is read twice. -/
theorem partitioned_iff_crowded :
    InOrder crowdedBlock.substance crowdedComments ∧
    (crowdedFile.ofBlock crowdedBlock).map Stmt.source = (["a(); b() // c", "b()"] : List Text) ∧
    ¬ Partitioned (crowdedFile.spans crowdedBlock) crowdedBlock.substance crowdedComments := by
  -- One evaluation gives all that can be computed, since it begins with reading the source.
  obtain ⟨sorted, proper, commentsSorted, worded, apart, sources, s, one, t, other, g, member, first, same,
      behind, beyond, sooner⟩ :
      (crowdedBlock.substance.Pairwise fun s t => s.finish ≤ t.start) ∧
      (∀ s ∈ crowdedBlock.substance, s.start < s.finish) ∧
      (crowdedComments.Pairwise fun g h => CommentGroup.finish g ≤ CommentGroup.start h) ∧
      (∀ g ∈ crowdedComments, CommentGroup.start g < CommentGroup.finish g) ∧
      (∀ s ∈ crowdedBlock.substance, ∀ g ∈ crowdedComments, CommentGroup.finish g ≤ s.start ∨
        (s.start ≤ CommentGroup.start g ∧ CommentGroup.finish g ≤ s.finish) ∨
        s.finish ≤ CommentGroup.start g) ∧
      (crowdedFile.ofBlock crowdedBlock).map Stmt.source = (["a(); b() // c", "b()"] : List Text) ∧
      ∃ s ∈ crowdedBlock.substance, ∃ t ∈ crowdedBlock.substance, ∃ g ∈ crowdedComments,
        s.finish ≤ CommentGroup.start g ∧
        crowdedFile.line (CommentGroup.start g) = crowdedFile.line s.finish ∧ s.finish ≤ t.start ∧
        t.start ≤ CommentGroup.start g ∧
        ∀ h ∈ crowdedComments, s.finish ≤ CommentGroup.start h →
          CommentGroup.start g ≤ CommentGroup.start h := by
    decide +kernel
  have order : InOrder crowdedBlock.substance crowdedComments :=
    ⟨sorted, proper, commentsSorted, worded, apart⟩
  obtain ⟨-, -, -, -, -, parted⟩ := partitioned_iff crowdedFile crowdedBlock order
  refine ⟨order, sources, fun whole => ?_⟩
  exact parted.mp whole s one t other g ⟨⟨member, first, sooner⟩, same, behind, beyond⟩

end SourceFile

end SystemLoops
