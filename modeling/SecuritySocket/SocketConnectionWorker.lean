import Mathlib.Logic.Function.Basic
import SecuritySocket.Fifo
import SecuritySocket.Transition

/-!
# The worker of a connection (`SocketConnection::routine`)

A thread that runs queued tasks, beside one `startWorker`, one `stopWorker` and any number of
`addTask` on other threads.  `_cv.wait` tests its predicate under `_mtx`, releases the mutex and
blocks in one step, and locks it again when woken, by a notification or without one; `notify_all`
wakes the worker if it is blocked at that moment.  `_is_running` is read and written by single
steps, `_tasks` under the mutex.
-/

namespace SecuritySocket

open Transition Fifo

variable {T : Type}

inductive MtxOwner where
  | worker
  | adder (call : Nat)
deriving DecidableEq, Repr

/-- Where `routine` is.  It holds `_mtx` from `testing` to `blocking`, and from `checking` to
    `unlocking` or `leaving`; `crashed` is behind `front` of an empty queue. -/
inductive WorkerPc (T : Type) where
  | unborn
  | locking
  | testing
  | blocking
  | blocked
  | checking
  | popping
  | unlocking (task : T)
  | deciding (task : T)
  | calling (task : T)
  | looping
  | leaving
  | finished
  | crashed
deriving DecidableEq, Repr

def WorkerPc.notified : WorkerPc T → WorkerPc T
  | .blocked => .locking
  | pc => pc

/-- The task that is popped and not yet called. -/
def WorkerPc.inHand : WorkerPc T → List T
  | .unlocking task | .deciding task | .calling task => [task]
  | _ => []

inductive StartPc where
  | idle
  | spawning
  | returned
deriving DecidableEq, Repr

/-- Where `stopWorker` is; it throws when it is to join a thread that was not spawned. -/
inductive StopPc where
  | idle
  | notifying
  | joining
  | returned
  | threw
deriving DecidableEq, Repr

/-- Where a call of `addTask` is. -/
inductive AddPc (T : Type) where
  | idle
  | locking (task : T)
  | pushing (task : T)
  | unlocking
  | notifying
  | returned
deriving DecidableEq, Repr

/-- The call is under way, and will come to its `notify_all`. -/
def AddPc.underWay : AddPc T → Bool
  | .locking _ | .pushing _ | .unlocking | .notifying => true
  | .idle | .returned => false

/-- The worker's part of `SocketConnection`, and where its threads are.  `queued` and `executed` are
    the tasks in the order in which they were pushed and called. -/
structure ConnectionWorker (T : Type) where
  isRunning : Bool := false
  tasks : List T := []
  mtx : Option MtxOwner := none
  worker : WorkerPc T := .unborn
  starter : StartPc := .idle
  stopper : StopPc := .idle
  adders : Nat → AddPc T := fun _ => .idle
  queued : List T := []
  executed : List T := []

namespace ConnectionWorker

/-- Whose step it is; `wake` is a wakeup without a notification. -/
inductive Label (T : Type) where
  | start
  | stop
  | addTask (call : Nat) (task : T)
  | add (call : Nat)
  | work
  | wake
deriving DecidableEq, Repr

def constructed : ConnectionWorker T := {}

def startStep (s : ConnectionWorker T) : Option (ConnectionWorker T) :=
  match s.starter with
  | .idle => some { s with isRunning := true, starter := .spawning }
  | .spawning => some { s with worker := .locking, starter := .returned }
  | .returned => none

def stopStep (s : ConnectionWorker T) : Option (ConnectionWorker T) :=
  match s.stopper with
  | .idle => some { s with isRunning := false, stopper := .notifying }
  | .notifying => some { s with worker := s.worker.notified, stopper := .joining }
  | .joining =>
    match s.worker with
    | .unborn => some { s with stopper := .threw }
    | .finished => some { s with stopper := .returned }
    | _ => none
  | .returned | .threw => none

def setAdder (s : ConnectionWorker T) (call : Nat) (pc : AddPc T) : ConnectionWorker T :=
  { s with adders := Function.update s.adders call pc }

def addStep (s : ConnectionWorker T) (call : Nat) : Option (ConnectionWorker T) :=
  match s.adders call with
  | .locking task =>
    if s.mtx = none then some { s.setAdder call (.pushing task) with mtx := some (.adder call) }
    else none
  | .pushing task =>
    some { s.setAdder call .unlocking with
      tasks := s.tasks ++ [task]
      queued := s.queued ++ [task] }
  | .unlocking => some { s.setAdder call .notifying with mtx := none }
  | .notifying => some { s.setAdder call .returned with worker := s.worker.notified }
  | .idle | .returned => none

def predicate (s : ConnectionWorker T) : Bool := !(s.isRunning && s.tasks.isEmpty)

def workStep (s : ConnectionWorker T) : Option (ConnectionWorker T) :=
  match s.worker with
  | .locking => if s.mtx = none then some { s with mtx := some .worker, worker := .testing } else none
  | .testing => some { s with worker := if s.predicate then .checking else .blocking }
  | .blocking => some { s with mtx := none, worker := .blocked }
  | .checking =>
    some { s with worker := if !s.isRunning && s.tasks.isEmpty then .leaving else .popping }
  | .popping =>
    match s.tasks with
    | [] => some { s with worker := .crashed }
    | task :: rest => some { s with tasks := rest, worker := .unlocking task }
  | .unlocking task => some { s with mtx := none, worker := .deciding task }
  | .deciding task => some { s with worker := if s.isRunning then .calling task else .looping }
  | .calling task => some { s with executed := s.executed ++ [task], worker := .looping }
  | .looping => some { s with worker := if s.isRunning then .locking else .finished }
  | .leaving => some { s with mtx := none, worker := .finished }
  | .unborn | .blocked | .finished | .crashed => none

def step (s : ConnectionWorker T) : Label T → Option (ConnectionWorker T)
  | .start => s.startStep
  | .stop => s.stopStep
  | .addTask call task =>
    match s.adders call with
    | .idle => some (s.setAdder call (.locking task))
    | _ => none
  | .add call => s.addStep call
  | .work => s.workStep
  | .wake =>
    match s.worker with
    | .blocked => some { s with worker := .locking }
    | _ => none

/-- `stopWorker` waits for a worker that is blocked, and nobody is about to notify it. -/
def Stuck (s : ConnectionWorker T) : Prop :=
  s.stopper = .joining ∧ s.worker = .blocked ∧ ∀ call, (s.adders call).underWay = false

/-- No task is taken from an empty queue, the tasks are executed in the order in which they were
    queued, each at most once, and `stopWorker` does not wait for ever. -/
structure Clean (s : ConnectionWorker T) : Prop where
  intact : s.worker ≠ .crashed
  inOrder : s.executed <+: s.queued
  awake : ¬ s.Stuck

/-- `stopWorker` clears the flag after `startWorker` has set it, and does not notify while the worker
    is between its test and its block. -/
def Timely (s : ConnectionWorker T) : Label T → Prop
  | .stop =>
    (s.stopper = .idle → s.starter ≠ .idle) ∧ (s.stopper = .notifying → s.worker ≠ .blocking)
  | _ => True

instance decidableTimely [DecidableEq T] (s : ConnectionWorker T) (label : Label T) :
    Decidable (s.Timely label) :=
  match label with
  | .stop => inferInstanceAs (Decidable ((_ → _) ∧ (_ → _)))
  | .start | .addTask _ _ | .add _ | .work | .wake => .isTrue trivial

variable {s s' : ConnectionWorker T} {label : Label T}

/-! ### One step -/

/-- What a step of the worker can come to. -/
inductive Work (s : ConnectionWorker T) : ConnectionWorker T → Prop where
  | lock (h : s.worker = .locking) : Work s { s with mtx := some .worker, worker := .testing }
  | pass (h : s.worker = .testing) (hpredicate : s.predicate = true) :
      Work s { s with worker := .checking }
  | miss (h : s.worker = .testing) (hrunning : s.isRunning = true) :
      Work s { s with worker := .blocking }
  | block (h : s.worker = .blocking) : Work s { s with mtx := none, worker := .blocked }
  | quit (h : s.worker = .checking) : Work s { s with worker := .leaving }
  | proceed (h : s.worker = .checking) (htasks : s.isRunning = false → s.tasks ≠ []) :
      Work s { s with worker := .popping }
  | crash (h : s.worker = .popping) (htasks : s.tasks = []) : Work s { s with worker := .crashed }
  | pop {task : T} {rest : List T} (h : s.worker = .popping) (htasks : s.tasks = task :: rest) :
      Work s { s with tasks := rest, worker := .unlocking task }
  | unlock {task : T} (h : s.worker = .unlocking task) :
      Work s { s with mtx := none, worker := .deciding task }
  | keep {task : T} (h : s.worker = .deciding task) : Work s { s with worker := .calling task }
  | drop {task : T} (h : s.worker = .deciding task) (hstopped : s.isRunning = false) :
      Work s { s with worker := .looping }
  | call {task : T} (h : s.worker = .calling task) :
      Work s { s with executed := s.executed ++ [task], worker := .looping }
  | loop (h : s.worker = .looping) (hrunning : s.isRunning = true) :
      Work s { s with worker := .locking }
  | finish (h : s.worker = .looping) : Work s { s with worker := .finished }
  | leave (h : s.worker = .leaving) : Work s { s with mtx := none, worker := .finished }

theorem workStep_cases (h : s.workStep = some s') : Work s s' := by
  unfold workStep at h
  cases hworker : s.worker with
  | unborn | blocked | finished | crashed =>
    rw [hworker] at h
    cases h
  | locking =>
    simp only [hworker] at h
    split at h
    · cases h
      exact .lock hworker
    · cases h
  | testing =>
    simp only [hworker, Option.some.injEq] at h
    subst h
    split
    · rename_i hpredicate
      exact .pass hworker hpredicate
    · rename_i hpredicate
      refine .miss hworker ?_
      simp only [predicate, Bool.not_eq_true, Bool.not_eq_false', Bool.and_eq_true] at hpredicate
      exact hpredicate.1
  | blocking =>
    simp only [hworker, Option.some.injEq] at h
    subst h
    exact .block hworker
  | checking =>
    simp only [hworker, Option.some.injEq] at h
    subst h
    split
    · exact .quit hworker
    · rename_i hgoes
      refine .proceed hworker fun hstopped htasks => hgoes ?_
      simp [hstopped, htasks]
  | popping =>
    simp only [hworker] at h
    split at h
    · rename_i htasks
      cases h
      exact .crash hworker htasks
    · rename_i htasks
      cases h
      exact .pop hworker htasks
  | unlocking task =>
    simp only [hworker, Option.some.injEq] at h
    subst h
    exact .unlock hworker
  | deciding task =>
    simp only [hworker, Option.some.injEq] at h
    subst h
    split
    · exact .keep hworker
    · rename_i hstopped
      exact .drop hworker (Bool.eq_false_iff.mpr hstopped)
  | calling task =>
    simp only [hworker, Option.some.injEq] at h
    subst h
    exact .call hworker
  | looping =>
    simp only [hworker, Option.some.injEq] at h
    subst h
    split
    · rename_i hrunning
      exact .loop hworker hrunning
    · exact .finish hworker
  | leaving =>
    simp only [hworker, Option.some.injEq] at h
    subst h
    exact .leave hworker

/-- What a step can come to.  A step of `addTask` pushes a task, notifies, or leaves everything but
    the mutex and the calls of `addTask` alone. -/
inductive Move (s : ConnectionWorker T) : Label T → ConnectionWorker T → Prop where
  | start (h : s.starter = .idle) : Move s .start { s with isRunning := true, starter := .spawning }
  | spawn (h : s.starter = .spawning) :
      Move s .start { s with worker := .locking, starter := .returned }
  | stop (h : s.stopper = .idle) : Move s .stop { s with isRunning := false, stopper := .notifying }
  | notify (h : s.stopper = .notifying) :
      Move s .stop { s with worker := s.worker.notified, stopper := .joining }
  | join {pc : StopPc} (h : s.stopper = .joining) (hpc : pc = .threw ∨ pc = .returned) :
      Move s .stop { s with stopper := pc }
  | add {label : Label T} {mtx : Option MtxOwner} {adders : Nat → AddPc T} :
      Move s label { s with mtx := mtx, adders := adders }
  | push {call : Nat} {task : T} {adders : Nat → AddPc T} :
      Move s (.add call)
        { s with tasks := s.tasks ++ [task], queued := s.queued ++ [task], adders := adders }
  | addNotify {call : Nat} {adders : Nat → AddPc T} :
      Move s (.add call) { s with worker := s.worker.notified, adders := adders }
  | work {s' : ConnectionWorker T} (h : Work s s') : Move s .work s'
  | wake (h : s.worker = .blocked) : Move s .wake { s with worker := .locking }

theorem step_cases (h : step s label = some s') : Move s label s' := by
  cases label with
  | start =>
    simp only [step, startStep] at h
    split at h
    · rename_i hstarter
      cases h
      exact .start hstarter
    · rename_i hstarter
      cases h
      exact .spawn hstarter
    · cases h
  | stop =>
    simp only [step, stopStep] at h
    split at h
    · rename_i hstopper
      cases h
      exact .stop hstopper
    · rename_i hstopper
      cases h
      exact .notify hstopper
    · rename_i hstopper
      split at h
      · cases h
        exact .join hstopper (.inl rfl)
      · cases h
        exact .join hstopper (.inr rfl)
      · cases h
    · cases h
    · cases h
  | addTask call task =>
    simp only [step] at h
    split at h
    · cases h
      exact .add
    · cases h
  | add call =>
    simp only [step, addStep] at h
    split at h
    · split at h
      · cases h
        exact .add
      · cases h
    · cases h
      exact .push
    · cases h
      exact .add
    · cases h
      exact .addNotify
    · cases h
    · cases h
  | work => exact .work (workStep_cases h)
  | wake =>
    simp only [step] at h
    split at h
    · rename_i hworker
      cases h
      exact .wake hworker
    · cases h

/-! ### The thread -/

theorem notified_cases (pc : WorkerPc T) :
    pc.notified = pc ∨ pc = .blocked ∧ pc.notified = .locking := by
  cases pc <;> simp [WorkerPc.notified]

def Spawned (s : ConnectionWorker T) : Prop := s.starter ≠ .returned → s.worker = .unborn

theorem Work.born (h : Work s s') : s.worker ≠ .unborn := by
  intro hunborn
  cases h <;> simp_all

theorem Work.starter (h : Work s s') : s'.starter = s.starter := by
  cases h <;> rfl

theorem Work.stopper (h : Work s s') : s'.stopper = s.stopper := by
  cases h <;> rfl

theorem Work.isRunning (h : Work s s') : s'.isRunning = s.isRunning := by
  cases h <;> rfl

theorem Spawned.step (h : s.Spawned) (hstep : ConnectionWorker.step s label = some s') :
    s'.Spawned := by
  cases step_cases hstep with
  | start hstarter => exact fun _ => h (by simp [hstarter])
  | spawn hstarter => exact fun hnot => absurd rfl hnot
  | stop | join | add | push => exact h
  | notify | addNotify =>
    intro hnot
    simp only [h hnot, WorkerPc.notified]
  | work hwork =>
    intro hnot
    rw [hwork.starter] at hnot
    exact absurd (h hnot) hwork.born
  | wake hworker =>
    intro hnot
    rw [h hnot] at hworker
    cases hworker

/-! ### The queue is not empty -/

/-- Where the worker goes on to `front` there is a task. -/
structure Fed (s : ConnectionWorker T) : Prop where
  intact : s.worker ≠ .crashed
  checking : s.worker = .checking → s.isRunning = true → s.tasks ≠ []
  popping : s.worker = .popping → s.tasks ≠ []

theorem Fed.work (h : s.Fed) (hwork : Work s s') : s'.Fed := by
  cases hwork with
  | pass hworker hpredicate =>
    refine ⟨by simp, fun _ hrunning htasks => ?_, by simp⟩
    simp only at hrunning htasks
    simp [predicate, hrunning, htasks] at hpredicate
  | proceed hworker htasks =>
    refine ⟨by simp, by simp, fun _ => ?_⟩
    cases hrunning : s.isRunning with
    | true => exact h.checking hworker hrunning
    | false => exact htasks hrunning
  | crash hworker htasks => exact absurd htasks (h.popping hworker)
  | lock | miss | block | quit | pop | unlock | keep | drop | call | loop | finish | leave =>
    exact ⟨by simp, by simp, by simp⟩

theorem Fed.notified (h : s.Fed) : Fed { s with worker := s.worker.notified } := by
  rcases notified_cases s.worker with heq | ⟨-, heq⟩
  · rw [heq]
    exact h
  · rw [heq]
    exact ⟨by simp, by simp, by simp⟩

theorem Fed.step (h : s.Fed) (hspawned : s.Spawned)
    (hstep : ConnectionWorker.step s label = some s') : s'.Fed := by
  cases step_cases hstep with
  | start hstarter =>
    have hworker : s.worker = .unborn := hspawned (by simp [hstarter])
    exact ⟨by simp [hworker], by simp [hworker], by simp [hworker]⟩
  | spawn | wake => exact ⟨by simp, by simp, by simp⟩
  | stop hstopper => exact ⟨h.intact, by simp, h.popping⟩
  | join | add => exact ⟨h.intact, h.checking, h.popping⟩
  | push => exact ⟨h.intact, by simp, by simp⟩
  | notify hstopper => exact ⟨h.notified.intact, h.notified.checking, h.notified.popping⟩
  | addNotify => exact ⟨h.notified.intact, h.notified.checking, h.notified.popping⟩
  | work hwork => exact h.work hwork

/-! ### The order of the tasks -/

/-- A task was popped and not called; the worker is about to return, or has. -/
structure Dropped (s : ConnectionWorker T) : Prop where
  stopped : s.isRunning = false
  ending : s.worker = .looping ∨ s.worker = .finished
  inOrder : s.executed <+: s.queued

/-- The tasks that were pushed have been executed, or are in hand, or in the queue. -/
def Lined (s : ConnectionWorker T) : Prop :=
  InOrder s.queued (s.executed ++ s.worker.inHand) s.tasks ∨ s.Dropped

theorem Lined.executed_prefix (h : s.Lined) : s.executed <+: s.queued := by
  rcases h with hline | hdropped
  · exact (List.prefix_append _ _).trans hline.taken_prefix
  · exact hdropped.inOrder

theorem Dropped.work (h : s.Dropped) (hwork : Work s s') : s'.Dropped := by
  cases hwork with
  | loop hworker hrunning =>
    rw [h.stopped] at hrunning
    cases hrunning
  | finish hworker => exact ⟨h.stopped, .inr rfl, h.inOrder⟩
  | lock hworker | pass hworker | miss hworker | block hworker | quit hworker | proceed hworker
  | crash hworker | pop hworker | unlock hworker | keep hworker | drop hworker | call hworker
  | leave hworker =>
    rcases h.ending with hending | hending <;> cases hworker.symm.trans hending

theorem Lined.work (h : s.Lined) (hwork : Work s s') : s'.Lined := by
  rcases h with hline | hdropped
  · cases hwork with
    | pop hworker htasks =>
      rw [hworker, htasks] at hline
      simp only [WorkerPc.inHand, List.append_nil] at hline
      exact .inl hline.take
    | drop hworker hstopped =>
      refine .inr ⟨hstopped, .inl rfl, ?_⟩
      exact (List.prefix_append _ _).trans hline.taken_prefix
    | call hworker =>
      rw [hworker] at hline
      left
      simpa [WorkerPc.inHand] using hline
    | lock hworker | pass hworker | miss hworker | block hworker | quit hworker | proceed hworker
    | crash hworker | unlock hworker | keep hworker | loop hworker | finish hworker
    | leave hworker =>
      rw [hworker] at hline
      exact .inl hline
  · exact .inr (hdropped.work hwork)

theorem Lined.inOrder (h : s.Lined) (hlooping : s.worker ≠ .looping)
    (hfinished : s.worker ≠ .finished) :
    InOrder s.queued (s.executed ++ s.worker.inHand) s.tasks := by
  rcases h with hline | hdropped
  · exact hline
  · rcases hdropped.ending with hending | hending
    · exact absurd hending hlooping
    · exact absurd hending hfinished

theorem Lined.locking (h : s.Lined) {starter : StartPc}
    (hworker : s.worker = .unborn ∨ s.worker = .blocked) :
    Lined { s with worker := .locking, starter := starter } := by
  rcases hworker with hworker | hworker
  all_goals
    have hline := h.inOrder (by simp [hworker]) (by simp [hworker])
    rw [hworker] at hline
    exact .inl hline

theorem Lined.notified (h : s.Lined) : Lined { s with worker := s.worker.notified } := by
  rcases notified_cases s.worker with heq | ⟨hblocked, heq⟩
  · rw [heq]
    exact h
  · rw [heq]
    exact h.locking (.inr hblocked)

theorem Lined.step (h : s.Lined) (hspawned : s.Spawned)
    (hstep : ConnectionWorker.step s label = some s') : s'.Lined := by
  cases step_cases hstep with
  | start hstarter =>
    have hworker : s.worker = .unborn := hspawned (by simp [hstarter])
    have hline := h.inOrder (by simp [hworker]) (by simp [hworker])
    exact .inl hline
  | spawn hstarter => exact h.locking (.inl (hspawned (by simp [hstarter])))
  | stop hstopper =>
    rcases h with hline | hdropped
    · exact .inl hline
    · exact .inr ⟨rfl, hdropped.ending, hdropped.inOrder⟩
  | join | add =>
    rcases h with hline | hdropped
    · exact .inl hline
    · exact .inr ⟨hdropped.stopped, hdropped.ending, hdropped.inOrder⟩
  | @push call task adders =>
    rcases h with hline | hdropped
    · exact .inl (hline.push task)
    · have hqueued := List.prefix_append s.queued [task]
      exact .inr ⟨hdropped.stopped, hdropped.ending, hdropped.inOrder.trans hqueued⟩
  | notify | addNotify =>
    rcases h.notified with hline | hdropped
    · exact .inl hline
    · exact .inr ⟨hdropped.stopped, hdropped.ending, hdropped.inOrder⟩
  | work hwork => exact h.work hwork
  | wake hworker => exact h.locking (.inr hworker)

/-! ### A stop that comes in time -/

/-- After `stopWorker` has cleared the flag no test blocks the worker, and after it has notified the
    worker is awake. -/
structure Awake (s : ConnectionWorker T) : Prop where
  started : s.stopper ≠ .idle → s.starter ≠ .idle
  stopped : s.stopper ≠ .idle → s.isRunning = false
  heard : s.stopper ≠ .idle → s.stopper ≠ .notifying → s.worker ≠ .blocking ∧ s.worker ≠ .blocked

theorem Awake.not_stuck (h : s.Awake) : ¬ s.Stuck := by
  rintro ⟨hjoining, hblocked, -⟩
  have hheard := h.heard (by simp [hjoining]) (by simp [hjoining])
  exact hheard.2 hblocked

theorem notified_ne_blocked (pc : WorkerPc T) : pc.notified ≠ .blocked := by
  cases pc <;> simp [WorkerPc.notified]

theorem notified_ne_blocking {pc : WorkerPc T} (h : pc ≠ .blocking) : pc.notified ≠ .blocking := by
  rcases notified_cases pc with heq | ⟨-, heq⟩
  · rw [heq]
    exact h
  · simp [heq]

theorem Work.awake (h : Work s s') (hblocking : s.worker ≠ .blocking)
    (hstopped : s.isRunning = false) : s'.worker ≠ .blocking ∧ s'.worker ≠ .blocked := by
  cases h with
  | miss hworker hrunning =>
    rw [hstopped] at hrunning
    cases hrunning
  | block hworker => exact absurd hworker hblocking
  | lock | pass | quit | proceed | crash | pop | unlock | keep | drop | call | loop | finish
  | leave => exact ⟨by simp, by simp⟩

theorem Awake.step (h : s.Awake) (htimely : s.Timely label)
    (hstep : ConnectionWorker.step s label = some s') : s'.Awake := by
  cases step_cases hstep with
  | start hstarter =>
    have hidle : s.stopper = .idle := by
      by_contra hbegun
      exact h.started hbegun hstarter
    exact ⟨by simp, by simp [hidle], by simp [hidle]⟩
  | spawn hstarter => exact ⟨by simp, h.stopped, by simp⟩
  | stop hstopper => exact ⟨fun _ => htimely.1 hstopper, by simp, by simp⟩
  | notify hstopper =>
    have hbegun : s.stopper ≠ .idle := by simp [hstopper]
    refine ⟨fun _ => h.started hbegun, fun _ => h.stopped hbegun, fun _ _ => ?_⟩
    exact ⟨notified_ne_blocking (htimely.2 hstopper), notified_ne_blocked s.worker⟩
  | join hstopper hpc =>
    have hbegun : s.stopper ≠ .idle := by simp [hstopper]
    have hheard := h.heard hbegun (by simp [hstopper])
    exact ⟨fun _ => h.started hbegun, fun _ => h.stopped hbegun, fun _ _ => hheard⟩
  | add | push => exact ⟨h.started, h.stopped, h.heard⟩
  | addNotify =>
    refine ⟨h.started, h.stopped, fun hbegun hnotified => ?_⟩
    have hheard := h.heard hbegun hnotified
    exact ⟨notified_ne_blocking hheard.1, notified_ne_blocked s.worker⟩
  | work hwork =>
    refine ⟨?_, ?_, ?_⟩
    · rw [hwork.stopper, hwork.starter]
      exact h.started
    · rw [hwork.stopper, hwork.isRunning]
      exact h.stopped
    · rw [hwork.stopper]
      intro hbegun hnotified
      exact hwork.awake (h.heard hbegun hnotified).1 (h.stopped hbegun)
  | wake hworker => exact ⟨h.started, h.stopped, by simp⟩

/-! ### Runs -/

structure Sound (s : ConnectionWorker T) : Prop where
  spawned : s.Spawned
  fed : s.Fed
  lined : s.Lined

theorem Sound.constructed : (constructed : ConnectionWorker T).Sound where
  spawned := fun _ => rfl
  fed := ⟨nofun, nofun, nofun⟩
  lined := .inl rfl

theorem Awake.constructed : (constructed : ConnectionWorker T).Awake :=
  ⟨fun h => absurd rfl h, fun h => absurd rfl h, fun h => absurd rfl h⟩

theorem Sound.step (h : s.Sound) (hstep : ConnectionWorker.step s label = some s') : s'.Sound where
  spawned := h.spawned.step hstep
  fed := h.fed.step h.spawned hstep
  lined := h.lined.step h.spawned hstep

theorem Sound.run {labels : List (Label T)}
    (h : exec ConnectionWorker.step ConnectionWorker.constructed labels = some s) : s.Sound :=
  exec_invariant (fun _ _ _ hsound hstep => hsound.step hstep) h Sound.constructed

theorem Awake.run {labels : List (Label T)}
    (h : exec ConnectionWorker.step ConnectionWorker.constructed labels = some s)
    (htimely : Meets ConnectionWorker.step Timely ConnectionWorker.constructed labels) : s.Awake :=
  exec_invariant_of_meets (fun _ _ _ hawake hguard hstep => hawake.step hguard hstep) h htimely
    Awake.constructed

/-- In every run no task is taken from an empty queue and the tasks are executed in order; when
    `stopWorker` is timely it does not wait for ever either. -/
theorem shuts_down {labels : List (Label T)} (hrun : exec step constructed labels = some s) :
    (s.worker ≠ .crashed ∧ s.executed <+: s.queued) ∧
      (Meets step Timely constructed labels → s.Clean) := by
  have hsound := Sound.run hrun
  refine ⟨⟨hsound.fed.intact, hsound.lined.executed_prefix⟩, fun htimely => ?_⟩
  have hawake := Awake.run hrun htimely
  exact ⟨hsound.fed.intact, hsound.lined.executed_prefix, hawake.not_stuck⟩

def timelyRun : List (Label Nat) :=
  [.start, .start, .addTask 0 7, .add 0, .add 0, .add 0, .add 0,
    .work, .work, .work, .work, .work, .work, .work, .work, .work, .work, .work,
    .stop, .stop, .work, .work, .work, .work, .stop]

theorem shuts_down_timelyRun :
    ∃ s, exec step constructed timelyRun = some s ∧
      s.executed = [7] ∧ s.stopper = .returned ∧ s.Clean :=
  ⟨_, rfl, rfl, rfl, (@shuts_down Nat _ timelyRun rfl).2 (by decide)⟩

/-- When `stopWorker` notifies while the worker is about to block, and no task is being added, then
    the notification is lost. -/
theorem stuck_of_lost (hstopper : s.stopper = .notifying) (hworker : s.worker = .blocking)
    (hadders : ∀ call, (s.adders call).underWay = false) :
    ∃ s', exec step s [.stop, .work] = some s' ∧ s'.Stuck := by
  have hnotify : step s .stop = some { s with stopper := .joining } := by
    simp only [step, stopStep, hstopper, hworker, WorkerPc.notified]
  have hblock : step { s with stopper := .joining } .work =
      some { s with stopper := .joining, mtx := none, worker := .blocked } := by
    simp only [step, workStep, hworker]
  refine ⟨{ s with stopper := .joining, mtx := none, worker := .blocked }, ?_, rfl, rfl, hadders⟩
  simp only [exec, hnotify, hblock, Option.bind]

/-- The worker tests and finds the flag set, `stopWorker` clears it and notifies, and then the worker
    blocks. -/
theorem lost_notification :
    ∃ s, exec step (constructed : ConnectionWorker Nat)
        [.start, .start, .work, .work, .stop, .stop, .work] = some s ∧ s.Stuck ∧ ¬ s.Clean :=
  ⟨_, rfl, ⟨rfl, rfl, fun _ => rfl⟩, fun hclean => hclean.awake ⟨rfl, rfl, fun _ => rfl⟩⟩

end ConnectionWorker

end SecuritySocket
