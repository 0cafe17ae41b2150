import SystemLoops.Proofs.FreshOutput

/-!
Writing that stops midway. The results of a batch are written in order until a file cannot be replaced, and
what was done by then stays. Main statement: whether or not writing stops, the files are those that the
results before the stop leave, a place that none of them belongs at is as it was, and the paths that are
reported are those of the units that differed from their file when their turn came.
-/

namespace SystemLoops

namespace Output

variable {σ π : Type} {disk : Disk σ} {place : Text → π} {folder path : Text} {files : σ} {r : Outcome}
  {b first second : Batch} {u : GeneratedUnit}

/-- The error about a file that cannot be replaced. -/
def writeFailure (path : Text) (cause : Failure) : Failure :=
  (Failure.wrap .outputWrite ("cannot write " ++ path) cause).withContext "path" path

/-- What stopped writing at a result: its unit differs from its file, and the file cannot be replaced. -/
structure Stopped (disk : Disk σ) (folder : Text) (files : σ) (r : Outcome) (u : GeneratedUnit)
    (cause : Failure) : Prop where
  wanted : writable? r = some u
  differs : disk.read? files (Path.join folder u.fileName) ≠ some u.source
  refused : disk.replace files (Path.join folder u.fileName) u.source = .error cause

/-! ### One result after the other -/

theorem write_cons_of_none (unwritten : writable? r = none) :
    write disk folder files (r :: b) = write disk folder files b := by
  rw [write, unwritten]

theorem write_cons_of_same (wanted : writable? r = some u)
    (same : disk.read? files (Path.join folder u.fileName) = some u.source) :
    write disk folder files (r :: b) = write disk folder files b := by
  rw [write, wanted]
  exact if_pos (beq_iff_eq.mpr same)

theorem write_cons_of_replaced {files' : σ} (wanted : writable? r = some u)
    (differs : disk.read? files (Path.join folder u.fileName) ≠ some u.source)
    (replaced : disk.replace files (Path.join folder u.fileName) u.source = .ok files') :
    write disk folder files (r :: b) =
      { write disk folder files' b with
        paths := Path.join folder u.fileName :: (write disk folder files' b).paths } := by
  rw [write, wanted]
  dsimp only
  rw [if_neg (by simpa using differs), replaced]

theorem write_cons_of_stopped {cause : Failure} (stopped : Stopped disk folder files r u cause) :
    write disk folder files (r :: b) =
      ⟨[], some (writeFailure (Path.join folder u.fileName) cause), files⟩ := by
  rw [write, stopped.wanted]
  dsimp only
  rw [if_neg (by simpa using stopped.differs), stopped.refused]
  rfl

theorem turn_cases (disk : Disk σ) (folder : Text) (files : σ) (r : Outcome) :
    writable? r = none ∨
    (∃ u, writable? r = some u ∧ disk.read? files (Path.join folder u.fileName) = some u.source) ∨
    (∃ u files', writable? r = some u ∧
      disk.read? files (Path.join folder u.fileName) ≠ some u.source ∧
      disk.replace files (Path.join folder u.fileName) u.source = .ok files') ∨
    ∃ u cause, Stopped disk folder files r u cause := by
  cases wanted : writable? r with
  | none => exact .inl rfl
  | some u =>
    by_cases same : disk.read? files (Path.join folder u.fileName) = some u.source
    · exact .inr (.inl ⟨u, rfl, same⟩)
    · cases outcome : disk.replace files (Path.join folder u.fileName) u.source with
      | ok files' => exact .inr (.inr (.inl ⟨u, files', rfl, same, outcome⟩))
      | error cause => exact .inr (.inr (.inr ⟨u, cause, wanted, same, outcome⟩))

/-- Writing that has come to the end of some results goes on from the files that they leave. -/
theorem write_append (done : (write disk folder files first).failure = none) :
    write disk folder files (first ++ second) =
      let later := write disk folder (write disk folder files first).files second
      { later with paths := (write disk folder files first).paths ++ later.paths } := by
  induction first generalizing files with
  | nil => rfl
  | cons r rest ih =>
    rw [List.cons_append]
    obtain unwritten | ⟨u, wanted, same⟩ | ⟨u, files', wanted, differs, replaced⟩ | ⟨u, cause, stopped⟩ :=
      turn_cases disk folder files r
    · rw [write_cons_of_none unwritten] at done ⊢
      rw [write_cons_of_none unwritten, ih done]
    · rw [write_cons_of_same wanted same] at done ⊢
      rw [write_cons_of_same wanted same, ih done]
    · rw [write_cons_of_replaced wanted differs replaced] at done ⊢
      rw [write_cons_of_replaced wanted differs replaced, ih done]
      rfl
    · rw [write_cons_of_stopped stopped] at done
      cases done

theorem done_of_append (done : (write disk folder files (first ++ second)).failure = none) :
    (write disk folder files first).failure = none := by
  induction first generalizing files with
  | nil => rfl
  | cons r rest ih =>
    rw [List.cons_append] at done
    obtain unwritten | ⟨u, wanted, same⟩ | ⟨u, files', wanted, differs, replaced⟩ | ⟨u, cause, stopped⟩ :=
      turn_cases disk folder files r
    · rw [write_cons_of_none unwritten] at done ⊢
      exact ih done
    · rw [write_cons_of_same wanted same] at done ⊢
      exact ih done
    · rw [write_cons_of_replaced wanted differs replaced] at done ⊢
      exact ih done
    · rw [write_cons_of_stopped stopped] at done
      cases done

theorem paths_single (done : (write disk folder files [r]).failure = none) :
    (write disk folder files [r]).paths = ((writable? r).bind fun u =>
      if disk.read? files (Path.join folder u.fileName) = some u.source then none
      else some (Path.join folder u.fileName)).toList := by
  obtain unwritten | ⟨u, wanted, same⟩ | ⟨u, files', wanted, differs, replaced⟩ | ⟨u, cause, stopped⟩ :=
    turn_cases disk folder files r
  · rw [write_cons_of_none unwritten, unwritten]
    rfl
  · rw [write_cons_of_same wanted same, wanted, Option.bind_some, if_pos same]
    rfl
  · rw [write_cons_of_replaced wanted differs replaced, wanted, Option.bind_some, if_neg differs]
    rfl
  · rw [write_cons_of_stopped stopped] at done
    cases done

/-- Writing ends behind the last result or at one that stops it; it has done by then what writing the results
before that one does. -/
theorem exists_stop (disk : Disk σ) (folder : Text) (files : σ) (b : Batch) :
    ∃ done rest, b = done ++ rest ∧
      write disk folder files done =
        ⟨(write disk folder files b).paths, none, (write disk folder files b).files⟩ ∧
      (rest = [] ∧ (write disk folder files b).failure = none ∨
        ∃ r after u cause, rest = r :: after ∧
          Stopped disk folder (write disk folder files b).files r u cause ∧
          (write disk folder files b).failure =
            some (writeFailure (Path.join folder u.fileName) cause)) := by
  induction b generalizing files with
  | nil => exact ⟨[], [], rfl, rfl, .inl ⟨rfl, rfl⟩⟩
  | cons r b ih =>
    obtain unwritten | ⟨u, wanted, same⟩ | ⟨u, files', wanted, differs, replaced⟩ | ⟨u, cause, stopped⟩ :=
      turn_cases disk folder files r
    · obtain ⟨done, rest, split, before, stop⟩ := ih files
      rw [write_cons_of_none unwritten]
      exact ⟨r :: done, rest, congrArg _ split, (write_cons_of_none unwritten).trans before, stop⟩
    · obtain ⟨done, rest, split, before, stop⟩ := ih files
      rw [write_cons_of_same wanted same]
      exact ⟨r :: done, rest, congrArg _ split, (write_cons_of_same wanted same).trans before, stop⟩
    · obtain ⟨done, rest, split, before, stop⟩ := ih files'
      rw [write_cons_of_replaced wanted differs replaced]
      refine ⟨r :: done, rest, congrArg _ split, ?_, stop⟩
      rw [write_cons_of_replaced wanted differs replaced, before]
    · rw [write_cons_of_stopped stopped]
      exact ⟨[], r :: b, rfl, rfl, .inr ⟨r, b, u, cause, rfl, stopped, rfl⟩⟩

/-! ### What is there, and what is reported -/

section

variable [DecidableEq π]

/-- What is at a path when some results were written: the source of the last unit that belongs there, or else
what was there before. -/
def contentAfter (disk : Disk σ) (place : Text → π) (folder : Text) (files : σ) (b : Batch)
    (path : Text) : Option Text :=
  (lastAt place folder b (place path)).or (disk.read? files path)

/-- The path of the unit of a result, if the unit differs from what the results before it leave there. -/
def differing? (disk : Disk σ) (place : Text → π) (folder : Text) (files : σ) (before : Batch)
    (r : Outcome) : Option Text :=
  (writable? r).bind fun u =>
    if contentAfter disk place folder files before (Path.join folder u.fileName) = some u.source then none
    else some (Path.join folder u.fileName)

/-- The paths of the units that differ from their file when their turn comes, in order. -/
def differing (disk : Disk σ) (place : Text → π) (folder : Text) (files : σ) (b : Batch) : List Text :=
  b.zipIdx.filterMap fun turn => differing? disk place folder files (b.take turn.2) turn.1

theorem contentAfter_of_absent (absent : ∀ u ∈ b.filterMap writable?, placeOf place folder u ≠ place path) :
    contentAfter disk place folder files b path = disk.read? files path := by
  have nobody : (b.filterMap writable?).filter (fun u => placeOf place folder u = place path) = [] := by
    apply List.filter_eq_nil_iff.mpr
    intro u member
    simpa using absent u member
  rw [contentAfter, lastAt, nobody]
  rfl

/-- The last result has its turn when all the others were written. -/
theorem differing_concat (b : Batch) (r : Outcome) :
    differing disk place folder files (b ++ [r]) =
      differing disk place folder files b ++ (differing? disk place folder files b r).toList := by
  have earlier : ∀ turn ∈ b.zipIdx, (b ++ [r]).take turn.2 = b.take turn.2 := by
    intro turn member
    have within : turn.2 < b.length := by simpa using List.snd_lt_of_mem_zipIdx member
    exact List.take_append_of_le_length (Nat.le_of_lt within)
  have last : ([r].zipIdx b.length).filterMap (fun turn =>
      differing? disk place folder files ((b ++ [r]).take turn.2) turn.1) =
      (differing? disk place folder files b r).toList := by
    simp only [List.zipIdx_cons, List.zipIdx_nil, List.filterMap_cons, List.filterMap_nil, List.take_left]
    cases differing? disk place folder files b r <;> rfl
  rw [differing, List.zipIdx_append, List.filterMap_append, Nat.zero_add, last, differing]
  congr 1
  exact List.filterMap_congr fun turn member => by rw [earlier turn member]

/-- What is reported are the paths of the units that differed when their turn came. -/
theorem paths_write (faithful : disk.Faithful place)
    (done : (write disk folder files b).failure = none) :
    (write disk folder files b).paths = differing disk place folder files b := by
  induction b using List.reverseRecOn with
  | nil => rfl
  | append_singleton b r ih =>
    have before := done_of_append done
    rw [write_append before] at done ⊢
    dsimp only at done ⊢
    rw [differing_concat, ih before, paths_single done]
    simp only [read_write faithful before]
    rfl

/-- Writing comes to the end of some of the results, the first ones, and stops there, either because these
are all or because the file of the next one cannot be replaced, which is the error that is given. Every path
holds the source of the last of those results that has a unit there and did not fail, and where no such unit
belongs what was there before; so does the file of a result that failed. What is reported are the paths of
the units that differed from their file when their turn came. It is all that writing those results alone
does. -/
theorem write_stops (faithful : disk.Faithful place) (folder : Text) (files : σ) (b : Batch) :
    ∃ done rest, b = done ++ rest ∧
      write disk folder files done =
        ⟨(write disk folder files b).paths, none, (write disk folder files b).files⟩ ∧
      (∀ path, disk.read? (write disk folder files b).files path =
        contentAfter disk place folder files done path) ∧
      (∀ path, (∀ u ∈ done.filterMap writable?, placeOf place folder u ≠ place path) →
        disk.read? (write disk folder files b).files path = disk.read? files path) ∧
      (write disk folder files b).paths = differing disk place folder files done ∧
      (rest = [] ∧ (write disk folder files b).failure = none ∨
        ∃ r after u cause, rest = r :: after ∧
          Stopped disk folder (write disk folder files b).files r u cause ∧
          (write disk folder files b).failure =
            some (writeFailure (Path.join folder u.fileName) cause)) := by
  obtain ⟨done, rest, split, before, stop⟩ := exists_stop disk folder files b
  have ended : (write disk folder files done).failure = none := by rw [before]
  have there : ∀ path, disk.read? (write disk folder files b).files path =
      contentAfter disk place folder files done path := by
    intro path
    rw [contentAfter, ← read_write faithful ended, before]
  have reported := paths_write faithful ended
  rw [before] at reported
  refine ⟨done, rest, split, before, there, fun path absent => ?_, reported, stop⟩
  rw [there, contentAfter_of_absent absent]

end

/-! ### A disk on which any write may fail -/

/-- Files kept as a map from paths to contents, and whether the writes to come succeed. -/
structure Unreliable where
  contents : Text → Option Text
  succeeds : List Bool

/-- Writing to such a disk leaves everything as it was when it fails. -/
def unreliable : Disk Unreliable where
  read? files path := files.contents path
  replace files path content :=
    if files.succeeds.head?.getD true then
      .ok ⟨fun other => if other = path then some content else files.contents other, files.succeeds.tail⟩
    else .error (.plain "no space left on device")

theorem unreliable_faithful : unreliable.Faithful id where
  read_replaced := by
    rintro files files' path other content replaced rfl
    simp only [unreliable] at replaced ⊢
    split at replaced
    · cases replaced
      exact if_pos rfl
    · cases replaced
  read_other := by
    rintro files files' path other content replaced apart
    simp only [unreliable] at replaced ⊢
    split at replaced
    · cases replaced
      exact if_neg apart
    · cases replaced
  read_congr files same := congrArg files.contents same

/-- The unit of a system, with its file and its source. -/
def plainUnit (file source : Text) : GeneratedUnit :=
  { system := "Motion", fileName := file, source, digest := [], diagnostics := [] }

/-- Two units that share a file, a unit of a result that failed between them, and two units after them. -/
def sharing : Batch :=
  [{ system := "A", unit := some (plainUnit "a.go" "first") },
    { system := "B", unit := some (plainUnit "b.go" "new"), failure := some (.plain "failed") },
    { system := "C", unit := some (plainUnit "a.go" "second") },
    { system := "D", unit := some (plainUnit "d.go" "new") },
    { system := "E", unit := some (plainUnit "e.go" "new") }]

/-- A folder in which only the file of the last unit is missing, on a disk where the third write fails. -/
def halfway : Unreliable :=
  ⟨fun path => if path = Text.ofString "out/e.go" then none else some "old", [true, true, false]⟩

/-- Writing stops at the fourth result: the shared file has the second source and was reported twice, and the
files of the failed result and of those behind it are as they were. -/
theorem write_stops_halfway :
    (write unreliable "out" halfway sharing).paths = ["out/a.go", "out/a.go"].map Text.ofString ∧
    (write unreliable "out" halfway sharing).failure =
      some (writeFailure "out/d.go" (.plain "no space left on device")) ∧
    ["out/a.go", "out/b.go", "out/d.go", "out/e.go"].map (fun path =>
        (write unreliable "out" halfway sharing).files.contents (Text.ofString path)) =
      [some "second", some "old", some "old", none].map (Option.map Text.ofString) ∧
    ∃ done rest, sharing = done ++ rest ∧ rest ≠ [] ∧
      differing unreliable id "out" halfway done = ["out/a.go", "out/a.go"].map Text.ofString := by
  obtain ⟨done, rest, split, -, -, -, reported, stop⟩ :=
    write_stops unreliable_faithful "out" halfway sharing
  have failed : (write unreliable "out" halfway sharing).failure =
      some (writeFailure "out/d.go" (.plain "no space left on device")) := by rfl
  have paths : (write unreliable "out" halfway sharing).paths =
      ["out/a.go", "out/a.go"].map Text.ofString := by decide +kernel
  refine ⟨paths, failed, by decide +kernel, done, rest, split, ?_, reported.symm.trans paths⟩
  rcases stop with ⟨-, none⟩ | ⟨r, after, u, cause, rfl, -⟩
  · rw [failed] at none
    cases none
  · exact List.cons_ne_nil r after

end Output

end SystemLoops
