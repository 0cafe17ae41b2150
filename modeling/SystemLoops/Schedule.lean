import SystemLoops.Batch

/-!
Schedules. Every method of a batch is processed by a task of its own, and only so many tasks run at a time.
A task that has started looks once whether the run was told to stop: if so it ends with the reason,
otherwise it processes its method and writes the outcome into the slot of the method. The run may be told
to stop at any moment, and tasks take their steps in any order. A task that ends with an error tells the
others nothing new, since it has the error from the run.
-/

namespace SystemLoops.Schedule

/-- What is to be done: the methods to process, how, and how many of them at a time. -/
structure Plan where
  options : BatchOptions := {}
  generates : Bool := true
  jobs : Nat
  methods : List Method

inductive Task where
  | pending
  /-- It runs, and has not looked yet whether to stop. -/
  | started
  /-- It saw no reason to stop. -/
  | entered
  | written
  | stopped
deriving Repr, DecidableEq

namespace Task

/-- Whether a task counts against the limit. -/
def isRunning : Task → Bool
  | .started | .entered => true
  | .pending | .written | .stopped => false

def isOver : Task → Bool
  | .written | .stopped => true
  | .pending | .started | .entered => false

end Task

/-- A run on its way. Tasks and slots are in the order of the methods. -/
structure State where
  tasks : List Task
  slots : Batch
  /-- Why the run was told to stop. -/
  told : Option Failure
  /-- The error of the first task that ended with one. -/
  failure : Option Failure

namespace State

/-- The run with one task further on. -/
def mark (s : State) (i : Nat) (t : Task) : State :=
  { s with tasks := s.tasks.set i t }

/-- The number of tasks that run. -/
def running (s : State) : Nat :=
  s.tasks.countP Task.isRunning

/-- Whether all tasks have ended. -/
def isOver (s : State) : Bool :=
  s.tasks.all Task.isOver

/-- What a run that is over gives back. -/
def result (s : State) : Except Failure Batch :=
  match s.failure with
  | some f => .error f
  | none => .ok s.slots

end State

namespace Plan

def outcome (p : Plan) (m : Method) : Outcome :=
  Outcome.process p.options p.generates m

/-- The run before any task has started; it may have been told to stop already. -/
def initial (p : Plan) (told : Option Failure) : State where
  tasks := List.replicate p.methods.length .pending
  slots := List.replicate p.methods.length { system := [] }
  told
  failure := none

end Plan

/-- What may happen next. -/
inductive Event where
  | tell (cause : Failure)
  | start (i : Nat)
  | enter (i : Nat)
  | stop (i : Nat)
  | write (i : Nat)

def Event.writes (i : Nat) : Event → Bool
  | .write j => j == i
  | .tell _ | .start _ | .enter _ | .stop _ => false

inductive Step (p : Plan) : State → Event → State → Prop
  | tell {s : State} (cause : Failure) (untold : s.told = none) :
      Step p s (.tell cause) { s with told := some cause }
  | start {s : State} {i : Nat} (pending : s.tasks[i]? = some .pending) (free : s.running < p.jobs) :
      Step p s (.start i) (s.mark i .started)
  | enter {s : State} {i : Nat} (started : s.tasks[i]? = some .started) (untold : s.told = none) :
      Step p s (.enter i) (s.mark i .entered)
  | stop {s : State} {i : Nat} {cause : Failure} (started : s.tasks[i]? = some .started)
      (told : s.told = some cause) :
      Step p s (.stop i) { s.mark i .stopped with failure := s.failure.or (some cause) }
  | write {s : State} {i : Nat} {m : Method} (entered : s.tasks[i]? = some .entered)
      (asked : p.methods[i]? = some m) :
      Step p s (.write i) { s.mark i .written with slots := s.slots.set i (p.outcome m) }

/-- What may have happened in a run, and what it came to. -/
inductive Run (p : Plan) (told : Option Failure) : List Event → State → Prop
  | initial : Run p told [] (p.initial told)
  | step {events : List Event} {e : Event} {s s' : State} (before : Run p told events s)
      (next : Step p s e s') : Run p told (events ++ [e]) s'

end SystemLoops.Schedule
