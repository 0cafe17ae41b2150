import Mathlib.Data.List.Basic
import SystemLoops.Proofs.Outcomes
import SystemLoops.Schedule

/-!
Results of schedules. What has happened in a run decides where its tasks are, what is in the slots and
which error it ends with; one step keeps this right, and so does a whole run. Main statement: in whatever
order the tasks take their steps, a run in which none of them was told to stop gives every method the
outcome that it has alone, each slot written once, and a run in which one was told gives the reason and
no batch. No run gets stuck, and every run comes to an end.
-/

namespace SystemLoops.Schedule

variable {p : Plan} {told : Option Failure} {events : List Event} {e d : Event} {s s' : State}
  {i j : Nat} {t a b : Task}

/-! ### Where tasks are -/

namespace State

theorem tasks_mark_self (found : s.tasks[i]? = some a) : (s.mark i b).tasks[i]? = some b :=
  List.getElem?_set_self (List.getElem?_eq_some_iff.mp found).1

theorem tasks_mark_of_ne (other : i ≠ j) : (s.mark i b).tasks[j]? = s.tasks[j]? :=
  List.getElem?_set_ne other

/-- A task that moves between two places is not seen from a third. -/
theorem tasks_mark_iff (found : s.tasks[i]? = some a) (old : a ≠ t) (new : b ≠ t) :
    (s.mark i b).tasks[j]? = some t ↔ s.tasks[j]? = some t := by
  by_cases here : i = j
  · subst here
    simp [tasks_mark_self found, found, old, new]
  · rw [tasks_mark_of_ne here]

end State

theorem countP_concat (counted : Event → Bool) :
    (events ++ [e]).countP counted = events.countP counted + if counted e then 1 else 0 := by
  rw [List.countP_append, List.countP_singleton]

theorem mem_concat_of_ne (other : d ≠ e) : d ∈ events ++ [e] ↔ d ∈ events := by
  simp [other]

/-! ### What has happened and what is there -/

/-- What is in a run is what has happened in it. -/
structure Recorded (p : Plan) (told : Option Failure) (events : List Event) (s : State) : Prop where
  tasks : s.tasks.length = p.methods.length
  slots : s.slots.length = p.methods.length
  filled : ∀ i : Nat, s.tasks[i]? = some Task.written → s.slots[i]? = p.methods[i]?.map p.outcome
  writes : ∀ i : Nat, events.countP (Event.writes i) =
    if s.tasks[i]? = some Task.written then 1 else 0
  stops : ∀ i : Nat, .stop i ∈ events ↔ s.tasks[i]? = some Task.stopped
  failure : s.failure.isSome ↔ ∃ i : Nat, s.tasks[i]? = some Task.stopped
  cause : ∀ f, s.failure = some f → s.told = some f
  reason : ∀ f, s.told = some f → told = some f ∨ .tell f ∈ events

namespace Recorded

theorem initial (p : Plan) (told : Option Failure) : Recorded p told [] (p.initial told) := by
  have nowhere : ∀ {t : Task} (i : Nat), t ≠ .pending → (p.initial told).tasks[i]? ≠ some t :=
    fun i moved found => moved (List.eq_of_mem_replicate (List.mem_of_getElem? found))
  refine
    { tasks := List.length_replicate
      slots := List.length_replicate
      filled := fun i found => (nowhere i (by decide) found).elim
      writes := ?_
      stops := ?_
      failure := ?_
      cause := fun f found => nomatch found
      reason := fun f found => .inl found }
  · intro i
    rw [if_neg (nowhere i (by decide))]
    rfl
  · intro i
    constructor
    · exact fun member => nomatch member
    · exact fun found => (nowhere i (by decide) found).elim
  · constructor
    · exact fun found => nomatch found
    · rintro ⟨i, found⟩
      exact (nowhere i (by decide) found).elim

/-- A task that starts or goes in leaves everything else as it is. -/
theorem advance (recorded : Recorded p told events s) (found : s.tasks[i]? = some a)
    (old : a.isOver = false) (new : b.isOver = false) (idle : ∀ j, e.writes j = false)
    (onward : ∀ j, .stop j ≠ e) : Recorded p told (events ++ [e]) (s.mark i b) := by
  have unseen : ∀ {t : Task} {j : Nat}, t.isOver = true →
      ((s.mark i b).tasks[j]? = some t ↔ s.tasks[j]? = some t) := by
    intro t j finished
    refine State.tasks_mark_iff found ?_ ?_
    · rintro rfl
      exact absurd finished (by simp [old])
    · rintro rfl
      exact absurd finished (by simp [new])
  refine
    { tasks := List.length_set.trans recorded.tasks
      slots := recorded.slots
      filled := fun j there => recorded.filled j ((unseen rfl).mp there)
      writes := ?_
      stops := ?_
      failure := ?_
      cause := recorded.cause
      reason := fun f there => (recorded.reason f there).imp_right (List.mem_append_left [e]) }
  · intro j
    rw [countP_concat, idle j, recorded.writes j]
    simp only [unseen (t := .written) rfl]
    rfl
  · intro j
    rw [mem_concat_of_ne (onward j), recorded.stops j, unseen rfl]
  · rw [State.mark, recorded.failure]
    exact exists_congr fun j => (unseen rfl).symm

/-- The first to be told keeps the reason. -/
theorem tell (recorded : Recorded p told events s) (cause : Failure) (untold : s.told = none) :
    Recorded p told (events ++ [.tell cause]) { s with told := some cause } := by
  refine
    { tasks := recorded.tasks
      slots := recorded.slots
      filled := recorded.filled
      writes := ?_
      stops := ?_
      failure := recorded.failure
      cause := ?_
      reason := ?_ }
  · exact fun j => countP_concat _ ▸ recorded.writes j
  · exact fun j => (mem_concat_of_ne (by simp)).trans (recorded.stops j)
  · intro f found
    rw [recorded.cause f found] at untold
    cases untold
  · intro f found
    cases found
    exact .inr (List.mem_append_right events (List.mem_singleton_self _))

theorem stop (recorded : Recorded p told events s) {cause : Failure}
    (started : s.tasks[i]? = some .started) (reason : s.told = some cause) :
    Recorded p told (events ++ [.stop i])
      { s.mark i .stopped with failure := s.failure.or (some cause) } := by
  have unwritten : ∀ j : Nat, (s.mark i .stopped).tasks[j]? = some .written ↔
      s.tasks[j]? = some .written :=
    fun j => State.tasks_mark_iff started (by decide) (by decide)
  refine
    { tasks := List.length_set.trans recorded.tasks
      slots := recorded.slots
      filled := fun j there => recorded.filled j ((unwritten j).mp there)
      writes := ?_
      stops := ?_
      failure := ?_
      cause := ?_
      reason := fun f there => (recorded.reason f there).imp_right (List.mem_append_left _) }
  · intro j
    rw [countP_concat, recorded.writes j]
    simp only [unwritten]
    rfl
  · intro j
    by_cases here : i = j
    · subst here
      simp [State.tasks_mark_self started]
    · have other : (Event.stop j) ≠ .stop i := fun same => here (Event.stop.inj same).symm
      rw [mem_concat_of_ne other, recorded.stops j, State.tasks_mark_of_ne here]
  · have ended : ∃ j : Nat, (s.mark i .stopped).tasks[j]? = some Task.stopped :=
      ⟨i, State.tasks_mark_self started⟩
    simpa using ended
  · intro f found
    rcases Option.or_eq_some_iff.mp found with earlier | ⟨-, first⟩
    · exact recorded.cause f earlier
    · exact reason.trans first

theorem write (recorded : Recorded p told events s) {m : Method}
    (entered : s.tasks[i]? = some .entered) (asked : p.methods[i]? = some m) :
    Recorded p told (events ++ [.write i])
      { s.mark i .written with slots := s.slots.set i (p.outcome m) } := by
  have running : ∀ j : Nat, (s.mark i .written).tasks[j]? = some .stopped ↔
      s.tasks[j]? = some .stopped :=
    fun j => State.tasks_mark_iff entered (by decide) (by decide)
  refine
    { tasks := List.length_set.trans recorded.tasks
      slots := List.length_set.trans recorded.slots
      filled := ?_
      writes := ?_
      stops := ?_
      failure := ?_
      cause := recorded.cause
      reason := fun f there => (recorded.reason f there).imp_right (List.mem_append_left _) }
  · intro j there
    by_cases here : i = j
    · subst here
      have inside : i < s.slots.length := by
        rw [recorded.slots, ← recorded.tasks]
        exact (List.getElem?_eq_some_iff.mp entered).1
      rw [List.getElem?_set_self inside, asked]
      rfl
    · rw [List.getElem?_set_ne here]
      exact recorded.filled j ((State.tasks_mark_of_ne here).symm.trans there)
  · intro j
    rw [countP_concat, recorded.writes j]
    by_cases here : i = j
    · subst here
      simp [State.tasks_mark_self entered, entered, Event.writes]
    · simp [State.tasks_mark_of_ne here, Event.writes, here]
  · intro j
    rw [mem_concat_of_ne (by simp), recorded.stops j, running j]
  · rw [State.mark, recorded.failure]
    exact exists_congr fun j => (running j).symm

theorem step (recorded : Recorded p told events s) (next : Step p s e s') :
    Recorded p told (events ++ [e]) s' := by
  cases next with
  | tell cause untold => exact recorded.tell cause untold
  | start pending => exact recorded.advance pending rfl rfl (fun _ => rfl) (by simp)
  | enter started => exact recorded.advance started rfl rfl (fun _ => rfl) (by simp)
  | stop started reason => exact recorded.stop started reason
  | write entered asked => exact recorded.write entered asked

end Recorded

theorem Run.recorded (run : Run p told events s) : Recorded p told events s := by
  induction run with
  | initial => exact .initial p told
  | step before next ih => exact ih.step next

/-! ### Runs come to an end -/

def Task.steps : Task → Nat
  | .pending => 0
  | .started => 1
  | .entered | .stopped => 2
  | .written => 3

/-- The steps of all tasks, and the one that tells the run to stop. -/
def State.steps (s : State) : Nat :=
  total (s.tasks.map Task.steps) + s.told.toList.length

private theorem total_map_set {tasks : List Task} (found : tasks[i]? = some a) :
    total ((tasks.set i b).map Task.steps) + a.steps = total (tasks.map Task.steps) + b.steps := by
  induction tasks generalizing i with
  | nil => cases found
  | cons first rest ih =>
    cases i with
    | zero =>
      cases found
      simp only [List.set_cons_zero, List.map_cons, total_cons]
      omega
    | succ i =>
      have later := ih (i := i) found
      simp only [List.set_cons_succ, List.map_cons, total_cons]
      omega

theorem State.steps_mark (found : s.tasks[i]? = some a) :
    (s.mark i b).steps + a.steps = s.steps + b.steps := by
  have moved := total_map_set (b := b) found
  simp only [State.steps, State.mark]
  omega

/-- Every event is a step of a task, or the one that tells the run to stop. -/
theorem steps_step (next : Step p s e s') : s'.steps = s.steps + 1 := by
  cases next with
  | tell cause untold => simp [State.steps, untold]
  | start found => exact State.steps_mark (b := .started) found
  | enter found => exact Nat.succ.inj (State.steps_mark (b := .entered) found)
  | stop found => exact Nat.succ.inj (State.steps_mark (b := .stopped) found)
  | write found => exact Nat.succ.inj (Nat.succ.inj (State.steps_mark (b := .written) found))

private theorem total_pending (n : Nat) :
    total ((List.replicate n Task.pending).map Task.steps) = 0 := by
  induction n with
  | zero => rfl
  | succ n ih => exact (Nat.zero_add _).trans ih

private theorem total_steps_le (tasks : List Task) :
    total (tasks.map Task.steps) ≤ 3 * tasks.length := by
  induction tasks with
  | nil => exact Nat.le_refl 0
  | cons t rest ih =>
    have one : t.steps ≤ 3 := by cases t <;> decide
    rw [List.map_cons, total_cons, List.length_cons]
    omega

theorem Run.steps_eq (run : Run p told events s) :
    s.steps = events.length + told.toList.length := by
  induction run with
  | initial => simp only [State.steps, Plan.initial, total_pending, List.length_nil]
  | step before next ih =>
    rw [steps_step next, ih, List.length_append, List.length_singleton]
    omega

/-- A run takes no more than three steps for every method, and one more when it is told to stop. -/
theorem Run.length_le (run : Run p told events s) : events.length ≤ 3 * p.methods.length + 1 := by
  have taken := total_steps_le s.tasks
  have once : s.told.toList.length ≤ 1 := by cases s.told <;> simp
  have counted := run.steps_eq
  rw [run.recorded.tasks] at taken
  rw [State.steps] at counted
  omega

theorem State.running_mark (found : s.tasks[i]? = some a) :
    (s.mark i b).running + (if a.isRunning then 1 else 0) =
      s.running + if b.isRunning then 1 else 0 := by
  obtain ⟨inside, rfl⟩ := List.getElem?_eq_some_iff.mp found
  have counted : (s.mark i b).running = s.running - (if s.tasks[i].isRunning then 1 else 0) +
      if b.isRunning then 1 else 0 :=
    List.countP_set inside
  have before : (if s.tasks[i].isRunning then 1 else 0) ≤ s.running := by
    split
    · rename_i runs
      exact List.countP_pos_iff.mpr ⟨_, List.getElem_mem inside, runs⟩
    · exact Nat.zero_le _
  omega

theorem Run.running_le (run : Run p told events s) : s.running ≤ p.jobs := by
  induction run with
  | initial => simp [State.running, Plan.initial, List.countP_replicate, Task.isRunning]
  | step before next ih =>
    cases next with
    | tell => exact ih
    | start found free =>
      have moved := State.running_mark (b := .started) found
      simp only [Task.isRunning, Bool.false_eq_true, if_true, if_false] at moved
      omega
    | enter found =>
      have moved := State.running_mark (b := .entered) found
      simp only [Task.isRunning, if_true] at moved
      omega
    | stop found =>
      have moved := State.running_mark (b := .stopped) found
      exact Nat.le_trans (Nat.le_of_succ_le (Nat.le_of_eq moved)) ih
    | write found =>
      have moved := State.running_mark (b := .written) found
      exact Nat.le_trans (Nat.le_of_succ_le (Nat.le_of_eq moved)) ih

theorem exists_step_of_running (recorded : Recorded p told events s) (found : s.tasks[i]? = some t)
    (running : t.isRunning = true) : ∃ e s', Step p s e s' := by
  cases t with
  | started =>
    cases reason : s.told with
    | none => exact ⟨_, _, .enter found reason⟩
    | some cause => exact ⟨_, _, .stop found reason⟩
  | entered =>
    have inside : i < p.methods.length := by
      rw [← recorded.tasks]
      exact (List.getElem?_eq_some_iff.mp found).1
    exact ⟨_, _, .write found (List.getElem?_eq_getElem inside)⟩
  | pending | written | stopped => cases running

/-- A run that is not over can go on, when a task may run at all. -/
theorem Run.exists_step (run : Run p told events s) (allowed : 0 < p.jobs)
    (unfinished : s.isOver = false) : ∃ e s', Step p s e s' := by
  obtain ⟨t, member, waiting⟩ := List.all_eq_false.mp unfinished
  obtain ⟨i, found⟩ := List.mem_iff_getElem?.mp member
  cases t with
  | started | entered => exact exists_step_of_running run.recorded found rfl
  | written | stopped => exact absurd rfl waiting
  | pending =>
    by_cases free : s.running < p.jobs
    · exact ⟨_, _, .start found free⟩
    · have busy : 0 < s.running := Nat.lt_of_lt_of_le allowed (Nat.le_of_not_lt free)
      obtain ⟨other, there, running⟩ := List.countP_pos_iff.mp busy
      obtain ⟨j, held⟩ := List.mem_iff_getElem?.mp there
      exact exists_step_of_running run.recorded held running

theorem Run.exists_over {events : List Event} {s : State} (run : Run p told events s)
    (allowed : 0 < p.jobs) : ∃ later s', Run p told (events ++ later) s' ∧ s'.isOver = true := by
  cases finished : s.isOver with
  | true => exact ⟨[], s, by rwa [List.append_nil], finished⟩
  | false =>
    obtain ⟨e, s', next⟩ := run.exists_step allowed finished
    obtain ⟨later, last, whole, ended⟩ := (run.step next).exists_over allowed
    exact ⟨e :: later, last, by rwa [List.append_assoc] at whole, ended⟩
termination_by 3 * p.methods.length + 1 - events.length
decreasing_by
  -- the longer run is still not too long
  have fits := (run.step next).length_le
  rw [List.length_append, List.length_singleton] at fits ⊢
  omega

/-! ### What a run comes to -/

namespace Recorded

theorem over_cases (recorded : Recorded p told events s) (finished : s.isOver = true)
    (inside : i < p.methods.length) :
    s.tasks[i]? = some .written ∨ s.tasks[i]? = some .stopped := by
  rw [← recorded.tasks] at inside
  have found := List.getElem?_eq_getElem inside
  have ended : s.tasks[i].isOver = true := List.all_eq_true.mp finished _ (List.getElem_mem inside)
  rw [found]
  cases here : s.tasks[i] with
  | written => exact .inl rfl
  | stopped => exact .inr rfl
  | pending | started | entered =>
    rw [here] at ended
    cases ended

/-- When no task was told to stop, every slot has the outcome of its method. -/
theorem slots_eq (recorded : Recorded p told events s) (finished : s.isOver = true)
    (unstopped : ∀ i : Nat, s.tasks[i]? ≠ some .stopped) :
    s.slots = p.methods.map p.outcome := by
  refine List.ext_getElem? fun i => ?_
  rw [List.getElem?_map]
  by_cases inside : i < p.methods.length
  · rcases recorded.over_cases finished inside with written | stopped
    · exact recorded.filled i written
    · exact absurd stopped (unstopped i)
  · have beyond := Nat.le_of_not_lt inside
    rw [List.getElem?_eq_none beyond, List.getElem?_eq_none (recorded.slots ▸ beyond)]
    rfl

/-- A run in which no task was told to stop has the outcomes of all methods. -/
theorem result_eq_ok (recorded : Recorded p told events s) (finished : s.isOver = true)
    (unstopped : ∀ i : Nat, s.tasks[i]? ≠ some .stopped) :
    s.result = .ok (p.methods.map p.outcome) := by
  have clean : s.failure = none := by
    refine Option.not_isSome_iff_eq_none.mp fun failed => ?_
    obtain ⟨i, stopped⟩ := recorded.failure.mp failed
    exact unstopped i stopped
  rw [State.result, clean, ← recorded.slots_eq finished unstopped]

/-- A run in which a task was told to stop has the reason for it. -/
theorem result_eq_error (recorded : Recorded p told events s)
    (stopped : s.tasks[i]? = some .stopped) :
    ∃ cause, s.result = .error cause ∧ s.told = some cause := by
  obtain ⟨cause, failed⟩ := Option.isSome_iff_exists.mp (recorded.failure.mpr ⟨i, stopped⟩)
  exact ⟨cause, by rw [State.result, failed], recorded.cause cause failed⟩

end Recorded

theorem Plan.run_singleton (p : Plan) (m : Method) :
    Batch.run p.options p.generates false [m] = .ok [p.outcome m] :=
  rfl

/-- In whatever order tasks start, go in and write, how many of them may run at a time, and
whenever the run is told to stop: when it is over and no task was told, every method has, in its place, the
outcome that it has alone, its slot was written once, and when units are generated that outcome names its
system and has a unit or else a failure. When a task was told, there is only the reason. -/
theorem Run.result_of_complete (run : Run p told events s) (finished : s.isOver = true) :
    ((∀ i, .stop i ∉ events) →
      ∃ batch, s.result = .ok batch ∧ batch.length = p.methods.length ∧
        ∀ i m, p.methods[i]? = some m →
          batch[i]? = some (Outcome.process p.options p.generates m) ∧
          Batch.run p.options p.generates false [m] =
            .ok [Outcome.process p.options p.generates m] ∧
          events.countP (Event.writes i) = 1 ∧
          (p.generates = true →
            (Outcome.process p.options p.generates m).system = m.system ∧
            ((Outcome.process p.options p.generates m).unit.isSome ↔
              (Outcome.process p.options p.generates m).failure = none))) ∧
    ((∃ i, .stop i ∈ events) →
      ∃ cause, s.result = .error cause ∧ (told = some cause ∨ .tell cause ∈ events)) := by
  have recorded := run.recorded
  refine ⟨fun quiet => ?_, ?_⟩
  · have unstopped : ∀ i : Nat, s.tasks[i]? ≠ some .stopped :=
      fun i stopped => quiet i ((recorded.stops i).mpr stopped)
    refine ⟨_, recorded.result_eq_ok finished unstopped, List.length_map p.outcome, ?_⟩
    intro i m asked
    refine ⟨?_, p.run_singleton m, ?_, ?_⟩
    · rw [List.getElem?_map, asked]
      rfl
    · have inside := (List.getElem?_eq_some_iff.mp asked).1
      have written := (recorded.over_cases finished inside).resolve_right (unstopped i)
      rw [recorded.writes i, if_pos written]
    · intro generates
      rw [generates]
      exact ⟨Outcome.system_process, Outcome.unit_isSome_iff⟩
  · rintro ⟨i, stop⟩
    obtain ⟨cause, result, reason⟩ := recorded.result_eq_error ((recorded.stops i).mp stop)
    exact ⟨cause, result, recorded.reason cause reason⟩

/-- Two methods, both processed at a time. -/
def pair : Plan where
  jobs := 2
  methods := [{ system := "Move" }, { system := "Fall" }]

/-- Both tasks are in before the run is told to stop: the second writes first, and nothing is lost.
When the second starts too late, the first writes in vain. -/
theorem Run.result_of_complete_overtaken :
    (∃ s batch, Run pair none
        [.start 0, .start 1, .enter 1, .enter 0, .write 1, .tell Batch.cancelled, .write 0] s ∧
      s.result = .ok batch ∧ batch.map Outcome.system = (["Move", "Fall"] : List Text)) ∧
    ∃ s, Run pair none
        [.start 0, .enter 0, .tell Batch.cancelled, .start 1, .stop 1, .write 0] s ∧
      s.result = .error Batch.cancelled := by
  constructor
  · have run : Run pair none
        [.start 0, .start 1, .enter 1, .enter 0, .write 1, .tell Batch.cancelled, .write 0] _ :=
      .step (.step (.step (.step (.step (.step (.step .initial (.start rfl (by decide)))
        (.start rfl (by decide))) (.enter rfl rfl)) (.enter rfl rfl)) (.write rfl rfl))
        (.tell _ rfl)) (.write rfl rfl)
    obtain ⟨batch, result, length, outcomes⟩ := (run.result_of_complete rfl).1 (by simp)
    obtain ⟨move, fall, rfl⟩ := List.length_eq_two.mp length
    obtain ⟨first, -, -, moves⟩ := outcomes 0 _ rfl
    obtain ⟨second, -, -, falls⟩ := outcomes 1 _ rfl
    refine ⟨_, [move, fall], run, result, ?_⟩
    rw [List.map_cons, List.map_cons, List.map_nil, Option.some.inj first, Option.some.inj second,
      (moves rfl).1, (falls rfl).1]
  · have run : Run pair none
        [.start 0, .enter 0, .tell Batch.cancelled, .start 1, .stop 1, .write 0] _ :=
      .step (.step (.step (.step (.step (.step .initial (.start rfl (by decide)))
        (.enter rfl rfl)) (.tell _ rfl)) (.start rfl (by decide))) (.stop rfl rfl)) (.write rfl rfl)
    obtain ⟨cause, result, reason⟩ := (run.result_of_complete rfl).2 ⟨1, by simp⟩
    have same : cause = Batch.cancelled := by simpa using reason
    exact ⟨_, run, same ▸ result⟩

/-! ### Runs that nobody tells to stop on the way -/

theorem Run.told_kept {cause : Failure} (run : Run p (some cause) events s) : s.told = some cause := by
  induction run with
  | initial => rfl
  | step before next ih =>
    cases next with
    | tell other untold => exact absurd untold (by simp [ih])
    | start | enter | stop | write => exact ih

/-- A run that was told to stop before it started lets no task in. -/
theorem Run.none_entered {cause : Failure} (run : Run p (some cause) events s) :
    ∀ t ∈ s.tasks, t ≠ .entered ∧ t ≠ .written := by
  induction run with
  | initial =>
    intro t member
    rw [List.eq_of_mem_replicate member]
    exact ⟨by decide, by decide⟩
  | step before next ih =>
    cases next with
    | tell => exact ih
    | start found | stop found =>
      intro t member
      rcases List.mem_or_eq_of_mem_set member with earlier | rfl
      · exact ih t earlier
      · exact ⟨by decide, by decide⟩
    | enter found untold => exact absurd untold (by simp [before.told_kept])
    | write found => exact absurd rfl (ih _ (List.mem_of_getElem? found)).1

/-- A run that is not told to stop on the way gives what processing one method after the other gives. -/
theorem Run.result_eq_run (run : Run p told events s) (finished : s.isOver = true)
    (untold : ∀ cause, .tell cause ∉ events) (cause : ∀ f, told = some f → f = Batch.cancelled) :
    s.result = Batch.run p.options p.generates told.isSome p.methods := by
  have recorded := run.recorded
  cases told with
  | none =>
    refine (recorded.result_eq_ok finished fun i stopped => ?_).trans rfl
    obtain ⟨f, -, reason⟩ := recorded.result_eq_error stopped
    rcases recorded.reason f reason with early | late
    · cases early
    · exact untold f late
  | some f =>
    cases cause f rfl
    cases methods : p.methods with
    | nil =>
      have empty : s.tasks = [] := List.length_eq_zero_iff.mp (by rw [recorded.tasks, methods]; rfl)
      have outcomes := recorded.result_eq_ok finished (by simp [empty])
      rw [methods] at outcomes
      exact outcomes
    | cons m rest =>
      have inside : 0 < p.methods.length := by simp [methods]
      have unwritten : s.tasks[0]? ≠ some .written :=
        fun written => (run.none_entered _ (List.mem_of_getElem? written)).2 rfl
      have stopped := (recorded.over_cases finished inside).resolve_left unwritten
      obtain ⟨f, result, reason⟩ := recorded.result_eq_error stopped
      rw [run.told_kept] at reason
      cases reason
      exact result

end SystemLoops.Schedule
