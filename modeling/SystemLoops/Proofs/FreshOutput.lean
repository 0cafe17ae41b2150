import Mathlib.Data.List.Nodup
import SystemLoops.Output
import SystemLoops.Proofs.Declarations
import SystemLoops.Proofs.Outcomes

/-!
Files after writing. Writing and checking each go through a batch on their own, and what they agree on is
decided by the units that belong at one place, since the last of them stays there. Main statement: after a
batch was written, it is up to date and writing it again writes nothing exactly when units that belong at
one place have one source.
-/

namespace SystemLoops

namespace Output

variable {σ π : Type} {disk : Disk σ} {place : Text → π} {folder path other content : Text}
  {files files' : σ} {r : Outcome} {b : Batch} {u v : GeneratedUnit}

/-! ### Disks that keep what is put on them -/

/-- Paths lead to places, and replacing a file changes what is at its place and nowhere else. -/
structure Disk.Faithful (disk : Disk σ) (place : Text → π) : Prop where
  read_replaced : ∀ {files files' path other content}, disk.replace files path content = .ok files' →
    place other = place path → disk.read? files' other = some content
  read_other : ∀ {files files' path other content}, disk.replace files path content = .ok files' →
    place other ≠ place path → disk.read? files' other = disk.read? files other
  read_congr : ∀ {path other} files, place other = place path →
    disk.read? files other = disk.read? files path

/-- Files kept as a map from paths to contents. -/
def table : Disk (Text → Option Text) where
  read? files path := files path
  replace files path content := .ok fun other => if other = path then some content else files other

theorem table_faithful : table.Faithful id where
  read_replaced := by
    rintro files files' path other content ⟨⟩ rfl
    exact if_pos rfl
  read_other := by
    rintro files files' path other content ⟨⟩ apart
    exact if_neg apart
  read_congr files same := congrArg files same

theorem failure_table {files : Text → Option Text} : (write table folder files b).failure = none := by
  fun_induction write table folder files b with
  | case1 => rfl
  | case2 files r rest unwritten ih => exact ih
  | case3 files r rest u writable path same ih => exact ih
  | case4 files r rest u writable path differs cause refused => cases refused
  | case5 files r rest u writable path differs files' replaced later ih => exact ih

private theorem lookup_without (entries : List (Text × Text)) (path other : Text) :
    (entries.filter fun f => f.1 != path).lookup other =
      if other = path then none else entries.lookup other := by
  induction entries with
  | nil => simp
  | cons f rest ih =>
    obtain ⟨name, content⟩ := f
    by_cases here : name = path
    · subst here
      rw [List.filter_cons_of_neg (by simp), ih, List.lookup_cons]
      split
      · rfl
      · rename_i apart
        rw [beq_false_of_ne apart]
    · rw [List.filter_cons_of_pos (by simp [here]), List.lookup_cons, List.lookup_cons, ih]
      by_cases same : other = path
      · subst same
        rw [if_pos rfl, if_pos rfl, beq_false_of_ne (Ne.symm here)]
      · rw [if_neg same, if_neg same]

theorem file?_put {t : FileTree} : (t.put path content).file? other =
    if Path.clean other = Path.clean path then some content else t.file? other := by
  simp only [FileTree.file?, FileTree.put, List.lookup_append, lookup_without]
  split
  · rename_i same
    simp [same]
  · rename_i apart
    simp [List.lookup_cons, beq_false_of_ne apart]

theorem put_of_replace {t t' : FileTree} (replaced : t.replace path content = .ok t') :
    t' = t.put path content := by
  unfold FileTree.replace at replaced
  dsimp only at replaced
  split at replaced
  · cases replaced
  · split at replaced
    · cases replaced
    · exact (Except.ok.inj replaced).symm

theorem tree_faithful : tree.Faithful Path.clean where
  read_replaced := by
    intro files files' path other content replaced same
    rw [put_of_replace replaced]
    exact file?_put.trans (if_pos same)
  read_other := by
    intro files files' path other content replaced apart
    rw [put_of_replace replaced]
    exact file?_put.trans (if_neg apart)
  read_congr files same := congrArg (List.lookup · files.files) same

/-! ### What is there after writing -/

def placeOf (place : Text → π) (folder : Text) (u : GeneratedUnit) : π :=
  place (Path.join folder u.fileName)

section

variable [DecidableEq π]

/-- What stays at a place of all that is written there: the source of the last unit. -/
def lastAt (place : Text → π) (folder : Text) (b : Batch) (x : π) : Option Text :=
  ((b.filterMap writable?).filter fun u => placeOf place folder u = x).getLast?.map
    GeneratedUnit.source

theorem lastAt_cons_of_none {x : π} (unwritten : writable? r = none) :
    lastAt place folder (r :: b) x = lastAt place folder b x := by
  rw [lastAt, List.filterMap_cons_none unwritten, lastAt]

theorem lastAt_cons_of_some {x : π} (written : writable? r = some u) :
    lastAt place folder (r :: b) x = (lastAt place folder b x).or
      (if placeOf place folder u = x then some u.source else none) := by
  rw [lastAt, List.filterMap_cons_some written, lastAt]
  split
  · rename_i here
    rw [List.filter_cons_of_pos (by simp [here]), List.getLast?_cons]
    cases ((b.filterMap writable?).filter fun u => placeOf place folder u = x).getLast? <;> rfl
  · rename_i elsewhere
    rw [List.filter_cons_of_neg (by simp [elsewhere]), Option.or_none]

theorem exists_lastAt (place : Text → π) (folder : Text) (member : u ∈ b.filterMap writable?) :
    ∃ v ∈ b.filterMap writable?, placeOf place folder v = placeOf place folder u ∧
      lastAt place folder b (placeOf place folder u) = some v.source := by
  have there : u ∈ (b.filterMap writable?).filter fun v =>
      placeOf place folder v = placeOf place folder u :=
    List.mem_filter.mpr ⟨member, by simp⟩
  have last := List.getLast?_eq_some_getLast (List.ne_nil_of_mem there)
  obtain ⟨known, same⟩ := List.mem_filter.mp (List.mem_of_getLast? last)
  exact ⟨_, known, of_decide_eq_true same, by rw [lastAt, last]; rfl⟩

/-- After a batch was written, the last unit that belongs at a place is there, and where no unit belongs
is what was there before. -/
theorem read_write (faithful : disk.Faithful place)
    (done : (write disk folder files b).failure = none) (path : Text) :
    disk.read? (write disk folder files b).files path =
      (lastAt place folder b (place path)).or (disk.read? files path) := by
  fun_induction write disk folder files b with
  | case1 files => rfl
  | case2 files r rest unwritten ih =>
    rw [lastAt_cons_of_none unwritten]
    exact ih done
  | case3 files r rest u written target same ih =>
    -- the file is left alone because it has the source already
    rw [ih done, lastAt_cons_of_some written, Option.or_assoc]
    congr 1
    split
    · rename_i here
      exact (faithful.read_congr files here.symm).trans (eq_of_beq same)
    · rfl
  | case4 files r rest u written target differs cause refused => cases done
  | case5 files r rest u written target differs files' replaced later ih =>
    rw [ih done, lastAt_cons_of_some written, Option.or_assoc]
    congr 1
    split
    · rename_i here
      exact faithful.read_replaced replaced here.symm
    · rename_i elsewhere
      exact faithful.read_other replaced (Ne.symm elsewhere)

end

/-! ### When a batch is up to date -/

/-- Every unit is where it belongs. -/
def UpToDate (disk : Disk σ) (folder : Text) (files : σ) (b : Batch) : Prop :=
  ∀ u ∈ b.filterMap Outcome.unit, disk.read? files (Path.join folder u.fileName) = some u.source

/-- Units that belong at one place have one source. -/
def Agree (place : Text → π) (folder : Text) (b : Batch) : Prop :=
  ∀ u ∈ b.filterMap Outcome.unit, ∀ v ∈ b.filterMap Outcome.unit,
    placeOf place folder u = placeOf place folder v → u.source = v.source

/-- Checking finds nothing when every unit is where it belongs. -/
theorem stale_eq_nil_iff : stale disk folder files b = [] ↔ UpToDate disk folder files b := by
  rw [stale, List.filterMap_eq_nil_iff]
  constructor
  · intro fresh u member
    obtain ⟨r, there, made⟩ := List.mem_filterMap.mp member
    have kept := fresh r there
    rw [made, Option.bind_some] at kept
    by_contra differs
    rw [if_neg (by simpa using differs)] at kept
    cases kept
  · intro current r there
    cases made : r.unit with
    | none => rfl
    | some u =>
      have same := current u (List.mem_filterMap.mpr ⟨r, there, made⟩)
      exact if_pos (beq_iff_eq.mpr same)

theorem units_eq (whole : ∀ r ∈ b, writable? r = r.unit) :
    b.filterMap Outcome.unit = b.filterMap writable? :=
  List.filterMap_congr fun r member => (whole r member).symm

/-- Writing has nothing to do when every unit is where it belongs. -/
theorem write_eq_iff (whole : ∀ r ∈ b, writable? r = r.unit) :
    write disk folder files b = ⟨[], none, files⟩ ↔ UpToDate disk folder files b := by
  rw [UpToDate, units_eq whole]
  -- what is left speaks of the written units only, so the induction needs no more of the batch
  clear whole
  induction b with
  | nil => simp [write]
  | cons r rest ih =>
    cases written : writable? r with
    | none =>
      rw [List.filterMap_cons_none written, write, written]
      exact ih
    | some u =>
      rw [List.filterMap_cons_some written, List.forall_mem_cons, write, written]
      dsimp only
      split
      · rename_i same
        exact ih.trans (and_iff_right (eq_of_beq same)).symm
      · rename_i differs
        have apart : ¬ disk.read? files (Path.join folder u.fileName) = some u.source := by
          simpa using differs
        split
        · simp [apart]
        · simp [apart]

/-- After a batch was written, every unit is where it belongs when those at one place agree. -/
theorem upToDate_write_iff (faithful : disk.Faithful place) (whole : ∀ r ∈ b, writable? r = r.unit)
    (done : (write disk folder files b).failure = none) :
    UpToDate disk folder (write disk folder files b).files b ↔ Agree place folder b := by
  classical
  have units := units_eq whole
  -- two units cannot both be read at one place, and the last one there speaks for all of them
  constructor
  · intro current u first v second same
    have one := (current v second).symm.trans
      ((faithful.read_congr _ same.symm).trans (current u first))
    exact (Option.some.inj one).symm
  · intro agree u member
    obtain ⟨v, known, same, last⟩ := exists_lastAt place folder (units ▸ member)
    rw [read_write faithful done]
    exact (congrArg (Option.or · _) last).trans (congrArg some (agree v (units ▸ known) u member same))

end Output

/-! ### Batches of generated units -/

theorem Batch.eq_map_of_run {o : BatchOptions} {generates isCancelled : Bool} {methods : List Method}
    {b : Batch} (ran : run o generates isCancelled methods = .ok b) :
    b = methods.map (Outcome.process o generates) := by
  unfold run at ran
  split at ran
  · cases ran
  · exact (Except.ok.inj ran).symm

namespace Outcome

variable {o : BatchOptions} {m : Method} {u : GeneratedUnit}

theorem fileName_process (made : (process o true m).unit = some u) :
    u.fileName = Identifier.fileName m.system o.unit.complete.outputSuffix := by
  rcases process_cases o m with ⟨unit, -⟩ | ⟨a, v, analysed, generated, unit, -⟩
  · cases unit.symm.trans made
  · cases unit.symm.trans made
    obtain ⟨-, parts, warnings, source, -, -, rfl⟩ := GeneratedUnit.ofAnalysis_eq_ok.mp generated
    obtain ⟨preamble, nodes, findings, -, -, rfl⟩ := Method.growth_of_analyse analysed
    rfl

/-- Writing passes over the outcomes that have no unit, and over no other. -/
theorem writable?_process : Output.writable? (process o true m) = (process o true m).unit := by
  unfold Output.writable?
  split
  · rename_i f failed
    rcases process_cases o m with ⟨unit, -⟩ | ⟨a, v, -, -, -, failure⟩
    · exact unit.symm
    · cases failed.symm.trans failure
  · rfl

end Outcome

namespace Output

variable {σ π : Type} {disk : Disk σ} {place : Text → π} {folder : Text} {files : σ} {b : Batch}
  {o : BatchOptions} {isCancelled : Bool} {methods : List Method}

theorem agree_of_nodup (ran : Batch.run o true isCancelled methods = .ok b)
    (apart : (methods.map fun m => place (Path.join folder
      (Identifier.fileName m.system o.unit.complete.outputSuffix))).Nodup) :
    Agree place folder b := by
  cases Batch.eq_map_of_run ran
  intro u first v second same
  simp only [List.mem_filterMap, List.mem_map] at first second
  obtain ⟨-, ⟨m, asked, rfl⟩, made⟩ := first
  obtain ⟨-, ⟨m', asked', rfl⟩, made'⟩ := second
  rw [placeOf, placeOf, Outcome.fileName_process made, Outcome.fileName_process made'] at same
  cases List.inj_on_of_nodup_map apart asked asked' same
  cases made.symm.trans made'
  rfl

/-- However the methods went, and whatever files there were: when a batch was written without an error,
checking finds nothing, every unit is in its file, and writing again writes nothing, each of them exactly
when units that belong at one place have one source. They do when the file names of the methods lead to
places of their own, which names of systems that differ do not ensure. -/
theorem written_fresh_iff (faithful : disk.Faithful place)
    (ran : Batch.run o true isCancelled methods = .ok b)
    (done : (write disk folder files b).failure = none) :
    (stale disk folder (write disk folder files b).files b = [] ↔ Agree place folder b) ∧
    ((∀ r ∈ b, ∀ u, r.unit = some u →
        disk.read? (write disk folder files b).files (Path.join folder u.fileName) = some u.source) ↔
      Agree place folder b) ∧
    (write disk folder (write disk folder files b).files b =
        ⟨[], none, (write disk folder files b).files⟩ ↔ Agree place folder b) ∧
    ((methods.map fun m => place (Path.join folder
        (Identifier.fileName m.system o.unit.complete.outputSuffix))).Nodup →
      Agree place folder b) := by
  have whole : ∀ r ∈ b, writable? r = r.unit := by
    intro r member
    rw [Batch.eq_map_of_run ran] at member
    obtain ⟨m, -, rfl⟩ := List.mem_map.mp member
    exact Outcome.writable?_process
  have current := upToDate_write_iff faithful whole done
  refine ⟨stale_eq_nil_iff.trans current, ?_, (write_eq_iff whole).trans current, agree_of_nodup ran⟩
  rw [← current, UpToDate]
  simp only [List.mem_filterMap, forall_exists_index, and_imp]
  exact ⟨fun held u r member made => held r member u made,
    fun held r member u made => held u r member made⟩

/-- Units are written as they are laid out. -/
def plainly : BatchOptions :=
  { unit := { format := false } }

/-- Two systems with names of their own, from two files, and with one file for their units. -/
def namesakes : List Method :=
  [{ system := "MoveSystem", position := ⟨"move.go", 1, 1⟩ },
    { system := "Move_system", position := ⟨"walk.go", 1, 1⟩ }]

private theorem units_of_namesakes :
    ∃ r r' u u', namesakes.map (Outcome.process plainly true) = [r, r'] ∧ r.unit = some u ∧
      r'.unit = some u' ∧ u.fileName = u'.fileName ∧ u.source ≠ u'.source := by
  have named : ∀ m ∈ namesakes, (Outcome.process plainly true m).unit.map GeneratedUnit.fileName =
      some (Text.ofString "move_system_ecs.go") := by decide +kernel
  have sources : ((namesakes.map (Outcome.process plainly true)).map
      fun r => r.unit.map GeneratedUnit.source).Nodup := by decide +kernel
  obtain ⟨u, made, file⟩ := Option.map_eq_some_iff.mp (named _ (List.mem_cons_self ..))
  obtain ⟨u', made', file'⟩ :=
    Option.map_eq_some_iff.mp (named _ (List.mem_cons_of_mem _ (List.mem_cons_self ..)))
  refine ⟨_, _, u, u', rfl, made, made', file.trans file'.symm, fun same => ?_⟩
  simp [namesakes, made, made', same] at sources

/-- Both systems have a unit, and the second takes the place of the first: what was just written is out of
date, and writing it again does not help. -/
theorem written_fresh_iff_namesakes :
    ∃ b, Batch.run plainly true false namesakes = .ok b ∧ (namesakes.map Method.system).Nodup ∧
      (write table "out" (fun _ => none) b).failure = none ∧
      stale table "out" (write table "out" (fun _ => none) b).files b ≠ [] ∧
      (∃ r ∈ b, ∃ u, r.unit = some u ∧ table.read? (write table "out" (fun _ => none) b).files
        (Path.join "out" u.fileName) ≠ some u.source) ∧
      write table "out" (write table "out" (fun _ => none) b).files b ≠
        ⟨[], none, (write table "out" (fun _ => none) b).files⟩ := by
  obtain ⟨r, r', u, u', outcomes, made, made', file, source⟩ := units_of_namesakes
  have ran : Batch.run plainly true false namesakes = .ok [r, r'] := congrArg Except.ok outcomes
  have disagree : ¬ Agree id "out" [r, r'] := by
    intro agree
    refine source (agree u ?_ u' ?_ (congrArg (Path.join "out") file))
    · exact List.mem_filterMap.mpr ⟨r, by simp, made⟩
    · exact List.mem_filterMap.mpr ⟨r', by simp, made'⟩
  have done : (write table "out" (fun _ => none) [r, r']).failure = none := failure_table
  obtain ⟨fresh, held, again, -⟩ := written_fresh_iff table_faithful ran done
  refine ⟨_, ran, by decide, done, mt fresh.mp disagree, ?_, mt again.mp disagree⟩
  simpa only [not_forall, exists_prop, ne_eq] using mt held.mp disagree

end Output

end SystemLoops
