import SecuritySocket.Progress
import SecuritySocket.SocketConnectionWorker

/-!
# The worker of a connection makes progress

Safety first: the mutex is held by the thread that is inside its critical section, and a worker
that sleeps while there are tasks is about to be notified.  From this and a measure: left to
themselves, `routine`, the calls of `addTask` and `stopWorker` come to an end.  Without a stop
every task that was added is executed before the worker sleeps for good, and a stop that comes
in time returns.
-/

namespace SecuritySocket

open Transition Fifo

variable {T : Type}

def WorkerPc.holding : WorkerPc T → Bool
  | .testing | .blocking | .checking | .popping | .unlocking _ | .leaving | .crashed => true
  | .unborn | .locking | .blocked | .deciding _ | .calling _ | .looping | .finished => false

def AddPc.holding : AddPc T → Bool
  | .pushing _ | .unlocking => true
  | .idle | .locking _ | .notifying | .returned => false

def AddPc.pushed : AddPc T → Bool
  | .unlocking | .notifying => true
  | .idle | .locking _ | .pushing _ | .returned => false

def AddPc.given : AddPc T → Option T
  | .locking task | .pushing task => some task
  | .idle | .unlocking | .notifying | .returned => none

theorem AddPc.underWay_of_pushed {pc : AddPc T} (h : pc.pushed = true) : pc.underWay = true := by
  cases pc <;> simp_all [pushed, underWay]

theorem AddPc.underWay_of_given {pc : AddPc T} {task : T} (h : pc.given = some task) :
    pc.underWay = true := by
  cases pc <;> simp_all [given, underWay]

theorem AddPc.underWay_of_holding {pc : AddPc T} (h : pc.holding = true) : pc.underWay = true := by
  cases pc <;> simp_all [holding, underWay]

@[simp] theorem WorkerPc.holding_notified (pc : WorkerPc T) :
    pc.notified.holding = pc.holding := by
  cases pc <;> rfl

namespace ConnectionWorker

variable {s s' : ConnectionWorker T} {label : Label T}

/-! ### Steps in detail -/

inductive Adding (s : ConnectionWorker T) (call : Nat) : ConnectionWorker T → Prop where
  | lock {task : T} (h : s.adders call = .locking task) (hmtx : s.mtx = none) :
      Adding s call { s.setAdder call (.pushing task) with mtx := some (.adder call) }
  | push {task : T} (h : s.adders call = .pushing task) :
      Adding s call { s.setAdder call .unlocking with
        tasks := s.tasks ++ [task]
        queued := s.queued ++ [task] }
  | unlock (h : s.adders call = .unlocking) :
      Adding s call { s.setAdder call .notifying with mtx := none }
  | notify (h : s.adders call = .notifying) :
      Adding s call { s.setAdder call .returned with worker := s.worker.notified }

theorem addStep_cases {call : Nat} (h : s.addStep call = some s') : Adding s call s' := by
  simp only [addStep] at h
  split at h
  · rename_i task hadder
    split at h
    · rename_i hmtx
      cases h
      exact .lock hadder hmtx
    · cases h
  · rename_i task hadder
    cases h
    exact .push hadder
  · rename_i hadder
    cases h
    exact .unlock hadder
  · rename_i hadder
    cases h
    exact .notify hadder
  · cases h
  · cases h

/-- What a step can come to, with the calls of `addTask` in full. -/
inductive Turn (s : ConnectionWorker T) : Label T → ConnectionWorker T → Prop where
  | start (h : s.starter = .idle) : Turn s .start { s with isRunning := true, starter := .spawning }
  | spawn (h : s.starter = .spawning) :
      Turn s .start { s with worker := .locking, starter := .returned }
  | stop (h : s.stopper = .idle) : Turn s .stop { s with isRunning := false, stopper := .notifying }
  | notify (h : s.stopper = .notifying) :
      Turn s .stop { s with worker := s.worker.notified, stopper := .joining }
  | throw (h : s.stopper = .joining) (hworker : s.worker = .unborn) :
      Turn s .stop { s with stopper := .threw }
  | join (h : s.stopper = .joining) (hworker : s.worker = .finished) :
      Turn s .stop { s with stopper := .returned }
  | addTask {call : Nat} {task : T} (h : s.adders call = .idle) :
      Turn s (.addTask call task) (s.setAdder call (.locking task))
  | add {call : Nat} {s' : ConnectionWorker T} (h : Adding s call s') : Turn s (.add call) s'
  | work {s' : ConnectionWorker T} (h : s.workStep = some s') : Turn s .work s'
  | wake (h : s.worker = .blocked) : Turn s .wake { s with worker := .locking }

theorem turn_of_step (h : step s label = some s') : Turn s label s' := by
  cases label with
  | start =>
    simp only [step, startStep] at h
    split at h
    · rename_i hstarter
      cases h
      exact .start hstarter
    · rename_i hstarter
      cases h
      exact .spawn hstarter
    · cases h
  | stop =>
    simp only [step, stopStep] at h
    split at h
    · rename_i hstopper
      cases h
      exact .stop hstopper
    · rename_i hstopper
      cases h
      exact .notify hstopper
    · rename_i hstopper
      split at h
      · rename_i hworker
        cases h
        exact .throw hstopper hworker
      · rename_i hworker
        cases h
        exact .join hstopper hworker
      · cases h
    · cases h
    · cases h
  | addTask call task =>
    simp only [step] at h
    split at h
    · rename_i hidle
      cases h
      exact .addTask hidle
    · cases h
  | add call => exact .add (addStep_cases h)
  | work => exact .work h
  | wake =>
    simp only [step] at h
    split at h
    · rename_i hworker
      cases h
      exact .wake hworker
    · cases h

theorem mtx_of_locking (hstep : s.workStep = some s') (hworker : s.worker = .locking) :
    s.mtx = none := by
  by_contra hmtx
  simp [workStep, hworker, hmtx] at hstep

theorem tasks_of_blocking (hstep : s.workStep = some s') (hworker : s'.worker = .blocking) :
    s'.tasks = [] := by
  have htesting : s.worker = .testing := by
    cases workStep_cases hstep with
    | miss htesting => exact htesting
    | _ => cases hworker
  simp only [workStep, htesting, Option.some.injEq] at hstep
  subst hstep
  split at hworker
  · cases hworker
  · rename_i hpredicate
    simp only [predicate, Bool.not_eq_true, Bool.not_eq_false', Bool.and_eq_true] at hpredicate
    exact List.isEmpty_iff.mp hpredicate.2

theorem stopped_of_ending (hstep : s.workStep = some s')
    (hending : s'.worker = .leaving ∨ s'.worker = .finished) :
    s.worker = .leaving ∨ s.isRunning = false := by
  by_cases hrunning : s.isRunning = true
  · left
    cases workStep_cases hstep with
    | leave hworker => exact hworker
    | quit hworker =>
      simp only [workStep, hworker, hrunning, Option.some.injEq] at hstep
      cases congrArg ConnectionWorker.worker hstep
    | finish hworker =>
      simp only [workStep, hworker, hrunning, Option.some.injEq] at hstep
      cases congrArg ConnectionWorker.worker hstep
    | _ => simp at hending
  · exact .inr (Bool.not_eq_true _ ▸ hrunning)

theorem Work.adders (h : Work s s') : s'.adders = s.adders := by
  cases h <;> rfl

theorem Work.queued (h : Work s s') : s'.queued = s.queued := by
  cases h <;> rfl

/-! ### The mutex -/

/-- The mutex is held by the one thread that is inside its critical section. -/
structure Guarded (s : ConnectionWorker T) : Prop where
  worker : s.mtx = some .worker ↔ s.worker.holding = true
  adder : ∀ call, s.mtx = some (.adder call) ↔ (s.adders call).holding = true

theorem Guarded.not_worker (h : s.Guarded) (call : Nat) (hadder : (s.adders call).holding = true) :
    s.worker.holding = false := by
  have hmtx := (h.adder call).mpr hadder
  by_contra hworker
  have hheld := h.worker.mpr (Bool.not_eq_false _ ▸ hworker)
  simp [hmtx] at hheld

theorem Guarded.not_adder (h : s.Guarded) (hworker : s.worker.holding = true) (call : Nat) :
    (s.adders call).holding = false := by
  by_contra hadder
  have hfree := h.not_worker call (Bool.not_eq_false _ ▸ hadder)
  simp [hworker] at hfree

theorem Guarded.worker_holding (h : s.Guarded) (pc : WorkerPc T)
    (hpc : pc.holding = s.worker.holding) : Guarded { s with worker := pc } :=
  ⟨by simpa [hpc] using h.worker, h.adder⟩

theorem Guarded.setAdder (h : s.Guarded) (call : Nat) (pc : AddPc T)
    (hpc : pc.holding = (s.adders call).holding) : (s.setAdder call pc).Guarded := by
  refine ⟨h.worker, fun other => ?_⟩
  by_cases hsame : other = call
  · subst hsame
    simpa [ConnectionWorker.setAdder, hpc] using h.adder other
  · simpa [ConnectionWorker.setAdder, hsame] using h.adder other

theorem Guarded.workStep (h : s.Guarded) (hstep : s.workStep = some s') : s'.Guarded := by
  cases workStep_cases hstep with
  | lock hworker =>
    have hmtx := mtx_of_locking hstep hworker
    refine ⟨by simp [WorkerPc.holding], fun call => ?_⟩
    have hcall := h.adder call
    simpa [hmtx] using hcall
  | block hworker | unlock hworker | leave hworker =>
    refine ⟨by simp [WorkerPc.holding], fun call => ?_⟩
    have hcall := h.not_adder (by simp [hworker, WorkerPc.holding]) call
    simp [hcall]
  | pass hworker | miss hworker | quit hworker | proceed hworker | crash hworker | pop hworker
  | keep hworker | drop hworker | call hworker | loop hworker | finish hworker =>
    exact ⟨by simpa [hworker, WorkerPc.holding] using h.worker, h.adder⟩

theorem Guarded.addStep (h : s.Guarded) {call : Nat} (hstep : s.addStep call = some s') :
    s'.Guarded := by
  cases addStep_cases hstep with
  | lock hadder hmtx =>
    have hworker := h.worker
    refine ⟨by simpa [ConnectionWorker.setAdder, hmtx] using hworker, fun other => ?_⟩
    by_cases hsame : other = call
    · subst hsame
      simp [ConnectionWorker.setAdder, AddPc.holding]
    · have hother := h.adder other
      simpa [ConnectionWorker.setAdder, hsame, Ne.symm hsame, hmtx] using hother
  | push hadder =>
    have hset := h.setAdder call .unlocking (by simp [hadder, AddPc.holding])
    exact ⟨hset.worker, hset.adder⟩
  | unlock hadder =>
    have hfree := h.not_worker call (by simp [hadder, AddPc.holding])
    have hmtx := (h.adder call).mpr (by simp [hadder, AddPc.holding])
    refine ⟨by simpa [ConnectionWorker.setAdder] using hfree, fun other => ?_⟩
    by_cases hsame : other = call
    · subst hsame
      simp [ConnectionWorker.setAdder, AddPc.holding]
    · have hother := h.adder other
      simpa [ConnectionWorker.setAdder, hsame, Ne.symm hsame, hmtx] using hother
  | notify hadder =>
    have hset := h.setAdder call .returned (by simp [hadder, AddPc.holding])
    exact hset.worker_holding _ (WorkerPc.holding_notified s.worker)

theorem Guarded.step (h : s.Guarded) (hspawned : s.Spawned)
    (hstep : ConnectionWorker.step s label = some s') : s'.Guarded := by
  cases turn_of_step hstep with
  | start | stop | throw | join => exact ⟨h.worker, h.adder⟩
  | spawn hstarter =>
    have hworker : s.worker = .unborn := hspawned (by simp [hstarter])
    have hset := h.worker_holding .locking (by simp [hworker, WorkerPc.holding])
    exact ⟨hset.worker, hset.adder⟩
  | notify hstopper =>
    have hset := h.worker_holding _ (WorkerPc.holding_notified s.worker)
    exact ⟨hset.worker, hset.adder⟩
  | addTask hidle => exact h.setAdder _ _ (by simp [hidle, AddPc.holding])
  | add hadding => exact h.addStep hstep
  | work hwork => exact h.workStep hwork
  | wake hworker => exact h.worker_holding .locking (by simp [hworker, WorkerPc.holding])

/-! ### Notifications -/

/-- A worker that sleeps while there are tasks is about to be notified. -/
structure Attended (s : ConnectionWorker T) : Prop where
  blocking : s.worker = .blocking → s.tasks = []
  blocked : s.worker = .blocked → s.tasks ≠ [] → ∃ call, (s.adders call).pushed = true

theorem Attended.setAdder (h : s.Attended) (call : Nat) (pc : AddPc T)
    (hpc : (s.adders call).pushed = true → pc.pushed = true) : (s.setAdder call pc).Attended := by
  refine ⟨h.blocking, fun hblocked htasks => ?_⟩
  obtain ⟨other, hother⟩ := h.blocked hblocked htasks
  by_cases hsame : other = call
  · subst hsame
    exact ⟨other, by simpa [ConnectionWorker.setAdder] using hpc hother⟩
  · exact ⟨other, by simpa [ConnectionWorker.setAdder, hsame] using hother⟩

theorem Attended.of_awake (hblocking : s.worker ≠ .blocking) (hblocked : s.worker ≠ .blocked) :
    s.Attended :=
  ⟨fun h => absurd h hblocking, fun h => absurd h hblocked⟩

theorem Attended.notified (h : s.Attended) : Attended { s with worker := s.worker.notified } := by
  refine ⟨fun hblocking => ?_, fun hblocked => absurd hblocked (notified_ne_blocked _)⟩
  rcases notified_cases s.worker with heq | ⟨-, heq⟩
  · exact h.blocking (heq ▸ hblocking)
  · simp only [heq] at hblocking
    cases hblocking

theorem Attended.addStep (h : s.Attended) (hguarded : s.Guarded) {call : Nat}
    (hadding : Adding s call s') : s'.Attended := by
  cases hadding with
  | @lock task hadder hmtx =>
    have hset := h.setAdder call (.pushing task) (by simp [hadder, AddPc.pushed])
    exact ⟨hset.blocking, hset.blocked⟩
  | push hadder =>
    -- the caller holds the mutex, so the worker is not between its test and its block
    have hfree := hguarded.not_worker call (by simp [hadder, AddPc.holding])
    refine ⟨fun hblocking => ?_, fun _ _ => ⟨call, ?_⟩⟩
    · simp only [ConnectionWorker.setAdder] at hblocking
      simp [hblocking, WorkerPc.holding] at hfree
    · simp [ConnectionWorker.setAdder, AddPc.pushed]
  | unlock hadder =>
    have hset := h.setAdder call .notifying (by simp [AddPc.pushed])
    exact ⟨hset.blocking, hset.blocked⟩
  | notify hadder =>
    exact ⟨h.notified.blocking, fun hblocked => absurd hblocked (notified_ne_blocked _)⟩

theorem Attended.workStep (h : s.Attended) (hstep : s.workStep = some s') : s'.Attended := by
  refine ⟨tasks_of_blocking hstep, fun hblocked htasks => ?_⟩
  cases workStep_cases hstep with
  | block hworker => exact absurd (h.blocking hworker) htasks
  | _ => cases hblocked

theorem Attended.step (h : s.Attended) (hguarded : s.Guarded)
    (hstep : ConnectionWorker.step s label = some s') : s'.Attended := by
  cases turn_of_step hstep with
  | start | stop | throw | join => exact ⟨h.blocking, h.blocked⟩
  | spawn | wake => exact .of_awake (by simp) (by simp)
  | notify hstopper => exact ⟨h.notified.blocking, h.notified.blocked⟩
  | addTask hidle => exact h.setAdder _ _ (by simp [hidle, AddPc.pushed])
  | add hadding => exact h.addStep hguarded hadding
  | work hwork => exact h.workStep hwork

/-! ### Where the worker and the calls can be -/

/-- The thread is there once `startWorker` has returned. -/
def Born (s : ConnectionWorker T) : Prop := s.starter = .returned → s.worker ≠ .unborn

theorem notified_ne_unborn {pc : WorkerPc T} (h : pc ≠ .unborn) : pc.notified ≠ .unborn := by
  rcases notified_cases pc with heq | ⟨-, heq⟩
  · rw [heq]
    exact h
  · simp [heq]

theorem Born.step (h : s.Born) (hstep : ConnectionWorker.step s label = some s') : s'.Born := by
  cases turn_of_step hstep with
  | start => simp [Born]
  | spawn | wake => simp [Born]
  | stop | throw | join | addTask => exact h
  | notify hstopper => exact fun hstarter => notified_ne_unborn (h hstarter)
  | add hadding =>
    cases hadding with
    | lock | push | unlock => exact h
    | notify hadder => exact fun hstarter => notified_ne_unborn (h hstarter)
  | work hwork =>
    intro _ hunborn
    cases workStep_cases hwork with
    | _ => cases hunborn

structure Lasting (s : ConnectionWorker T) : Prop where
  running : s.stopper = .idle → s.starter ≠ .idle → s.isRunning = true
  leaving : s.stopper = .idle → s.worker ≠ .leaving
  finished : s.stopper = .idle → s.worker ≠ .finished

theorem Lasting.notified (h : s.Lasting) : Lasting { s with worker := s.worker.notified } := by
  rcases notified_cases s.worker with heq | ⟨-, heq⟩
  · rw [heq]
    exact h
  · exact ⟨h.running, fun _ => by simp [heq], fun _ => by simp [heq]⟩

theorem Lasting.step (h : s.Lasting) (hspawned : s.Spawned)
    (hstep : ConnectionWorker.step s label = some s') : s'.Lasting := by
  cases turn_of_step hstep with
  | start hstarter => exact ⟨fun _ _ => rfl, h.leaving, h.finished⟩
  | spawn hstarter =>
    exact ⟨fun hidle _ => h.running hidle (by simp [hstarter]), by simp, by simp⟩
  | stop | notify | throw | join => exact ⟨by simp, by simp, by simp⟩
  | addTask => exact ⟨h.running, h.leaving, h.finished⟩
  | wake => exact ⟨h.running, by simp, by simp⟩
  | add hadding =>
    cases hadding with
    | lock | push | unlock => exact ⟨h.running, h.leaving, h.finished⟩
    | notify hadder => exact ⟨h.notified.running, h.notified.leaving, h.notified.finished⟩
  | work hwork =>
    have hmove := workStep_cases hwork
    have hborn : s.starter ≠ .idle := by
      intro hidle
      exact hmove.born (hspawned (by simp [hidle]))
    have hends : s.stopper = .idle → ¬ (s'.worker = .leaving ∨ s'.worker = .finished) := by
      intro hidle hending
      rcases stopped_of_ending hwork hending with hleaving | hstopped
      · exact h.leaving hidle hleaving
      · simp [h.running hidle hborn] at hstopped
    refine ⟨?_, ?_, ?_⟩
    · rw [hmove.stopper, hmove.starter, hmove.isRunning]
      exact h.running
    · rw [hmove.stopper]
      exact fun hidle hleaving => hends hidle (.inl hleaving)
    · rw [hmove.stopper]
      exact fun hidle hfinished => hends hidle (.inr hfinished)

theorem begun_step (h : Begun .idle s.adders) (hstep : ConnectionWorker.step s label = some s') :
    Begun .idle s'.adders := by
  cases turn_of_step hstep with
  | start | spawn | stop | notify | throw | join | wake => exact h
  | addTask => exact h.update _ _
  | add hadding =>
    cases hadding with
    | lock => exact h.update _ (.pushing _)
    | push => exact h.update _ .unlocking
    | unlock => exact h.update _ .notifying
    | notify => exact h.update _ .returned
  | work hwork => exact (workStep_cases hwork).adders ▸ h

structure Ready (s : ConnectionWorker T) : Prop where
  sound : s.Sound
  guarded : s.Guarded
  attended : s.Attended
  born : s.Born
  lasting : s.Lasting
  begun : Begun .idle s.adders

theorem Ready.constructed : (constructed : ConnectionWorker T).Ready where
  sound := .constructed
  guarded := ⟨iff_of_false nofun nofun, fun _ => iff_of_false nofun nofun⟩
  attended := .of_awake nofun nofun
  born := nofun
  lasting := ⟨fun _ hstarter => absurd rfl hstarter, fun _ => nofun, fun _ => nofun⟩
  begun := begun_const

theorem Ready.step (h : s.Ready) (hstep : ConnectionWorker.step s label = some s') : s'.Ready where
  sound := h.sound.step hstep
  guarded := h.guarded.step h.sound.spawned hstep
  attended := h.attended.step h.guarded hstep
  born := h.born.step hstep
  lasting := h.lasting.step h.sound.spawned hstep
  begun := begun_step h.begun hstep

theorem Ready.run {labels : List (Label T)}
    (h : exec ConnectionWorker.step ConnectionWorker.constructed labels = some s) : s.Ready :=
  exec_invariant (fun _ _ _ hready hstep => hready.step hstep) h Ready.constructed

end ConnectionWorker

/-! ### What is left to do -/

/-- The steps of `routine` from here until it blocks or pops; those that follow a `pop` up to the next
    turn are counted with the task. -/
def WorkerPc.weight : WorkerPc T → Nat
  | .unborn | .blocked | .finished | .crashed => 0
  | .blocking | .popping | .leaving => 1
  | .checking => 2
  | .testing => 3
  | .locking => 4
  | .looping => 5
  | .calling _ => 6
  | .deciding _ => 7
  | .unlocking _ => 8

/-- The steps of a call, its task, and the turn of `routine` that its `notify_all` starts. -/
def AddPc.weight : AddPc T → Nat
  | .idle | .returned => 0
  | .notifying => 5
  | .unlocking => 6
  | .pushing _ => 15
  | .locking _ => 16

/-- The same for `stopWorker`, once it is called. -/
def StopPc.weight : StopPc → Nat
  | .idle | .returned | .threw => 0
  | .joining => 1
  | .notifying => 6

theorem WorkerPc.weight_notified_le (pc : WorkerPc T) : pc.notified.weight ≤ pc.weight + 4 := by
  cases pc <;> simp [notified, weight]

namespace ConnectionWorker

variable {s₀ s s' : ConnectionWorker T} {label : Label T}

noncomputable def weight (s : ConnectionWorker T) : Nat :=
  8 * s.tasks.length + s.worker.weight + s.stopper.weight + total AddPc.weight s.adders

theorem total_setAdder (h : Begun .idle s.adders) (call : Nat) (pc : AddPc T) :
    total AddPc.weight (s.setAdder call pc).adders + (s.adders call).weight =
      total AddPc.weight s.adders + pc.weight :=
  total_update h rfl call pc

theorem Work.weight_lt (h : Work s s') : s'.weight < s.weight := by
  have hadders := h.adders
  have hstopper := h.stopper
  suffices hlt : 8 * s'.tasks.length + s'.worker.weight < 8 * s.tasks.length + s.worker.weight by
    simp only [weight, hadders, hstopper]
    omega
  cases h with
  | pop hworker htasks =>
    simp only [hworker, htasks, WorkerPc.weight, List.length_cons]
    omega
  | lock hworker | pass hworker | miss hworker | block hworker | quit hworker | proceed hworker
  | crash hworker | unlock hworker | keep hworker | drop hworker | call hworker | loop hworker
  | finish hworker | leave hworker =>
    simp only [hworker, WorkerPc.weight]
    omega

theorem Adding.weight_lt (hbegun : Begun .idle s.adders) {call : Nat} (h : Adding s call s') :
    s'.weight < s.weight := by
  have hwake := s.worker.weight_notified_le
  cases h with
  | @lock task hadder hmtx =>
    have hsum := total_setAdder hbegun call (.pushing task)
    simp only [hadder, AddPc.weight] at hsum
    simp only [weight, setAdder] at hsum ⊢
    omega
  | push hadder =>
    have hsum := total_setAdder hbegun call .unlocking
    simp only [hadder, AddPc.weight] at hsum
    simp only [weight, setAdder, List.length_append, List.length_singleton] at hsum ⊢
    omega
  | unlock hadder =>
    have hsum := total_setAdder hbegun call .notifying
    simp only [hadder, AddPc.weight] at hsum
    simp only [weight, setAdder] at hsum ⊢
    omega
  | notify hadder =>
    have hsum := total_setAdder hbegun call .returned
    simp only [hadder, AddPc.weight] at hsum
    simp only [weight, setAdder] at hsum ⊢
    omega

/-- A wakeup without a notification, or a new call of `addTask`. -/
def Label.disturbs : Label T → Nat
  | .wake | .addTask _ _ => 1
  | .start | .stop | .add _ | .work => 0

/-- Nobody starts the worker again, nobody calls `stopWorker` who has not yet, and it is timely. -/
def prompt (s : ConnectionWorker T) : Label T → Bool
  | .start => false
  | .stop =>
    match s.stopper, s.worker with
    | .idle, _ | .notifying, .blocking => false
    | _, _ => true
  | .addTask _ _ | .add _ | .work | .wake => true

theorem timely_of_prompt (h : s.prompt label = true) : s.Timely label := by
  cases label with
  | stop =>
    refine ⟨fun hidle => ?_, fun hnotifying hblocking => ?_⟩
    · simp [prompt, hidle] at h
    · simp [prompt, hnotifying, hblocking] at h
  | start | addTask | add | work | wake => trivial

theorem weight_step (hbegun : Begun .idle s.adders) (hprompt : s.prompt label = true)
    (hstep : step s label = some s') : s'.weight < s.weight + 17 * label.disturbs := by
  have hwake := s.worker.weight_notified_le
  cases turn_of_step hstep with
  | start | spawn => cases hprompt
  | stop hstopper => simp [prompt, hstopper] at hprompt
  | notify hstopper | throw hstopper | join hstopper =>
    simp only [weight, hstopper, StopPc.weight]
    omega
  | @addTask call task hidle =>
    have hsum := total_setAdder hbegun call (.locking task)
    simp only [hidle, AddPc.weight] at hsum
    simp only [weight, setAdder, Label.disturbs] at hsum ⊢
    omega
  | add hadding => exact Nat.lt_of_lt_of_le (hadding.weight_lt hbegun) (Nat.le_add_right _ _)
  | work hwork =>
    exact Nat.lt_of_lt_of_le (workStep_cases hwork).weight_lt (Nat.le_add_right _ _)
  | wake hworker =>
    simp only [weight, hworker, WorkerPc.weight, Label.disturbs]
    omega

theorem starter_step (hprompt : s.prompt label = true) (hstep : step s label = some s') :
    s'.starter = s.starter := by
  cases turn_of_step hstep with
  | start | spawn => cases hprompt
  | work hwork => exact (workStep_cases hwork).starter
  | add hadding => cases hadding <;> rfl
  | stop | notify | throw | join | addTask | wake => rfl

theorem stopper_step (hprompt : s.prompt label = true) (hstep : step s label = some s') :
    s'.stopper = s.stopper ∨ s.stopper = .notifying ∧ s'.stopper = .joining ∨
      s.stopper = .joining ∧
        (s.worker = .unborn ∨ s'.stopper = .returned ∧ s'.worker = .finished) := by
  cases turn_of_step hstep with
  | start | spawn => cases hprompt
  | stop hstopper => simp [prompt, hstopper] at hprompt
  | notify hstopper => exact .inr (.inl ⟨hstopper, rfl⟩)
  | throw hstopper hworker => exact .inr (.inr ⟨hstopper, .inl hworker⟩)
  | join hstopper hworker => exact .inr (.inr ⟨hstopper, .inr ⟨rfl, hworker⟩⟩)
  | work hwork => exact .inl (workStep_cases hwork).stopper
  | add hadding =>
    left
    cases hadding <;> rfl
  | addTask | wake => exact .inl rfl

theorem queued_step (hstep : step s label = some s') : s.queued <+: s'.queued := by
  cases turn_of_step hstep with
  | start | spawn | stop | notify | throw | join | addTask | wake => exact List.prefix_rfl
  | work hwork => exact (workStep_cases hwork).queued ▸ List.prefix_rfl
  | add hadding =>
    cases hadding with
    | push => exact List.prefix_append _ _
    | lock | unlock | notify => exact List.prefix_rfl

theorem given_step {call : Nat} {task : T} (hstep : step s label = some s')
    (hgiven : (s.adders call).given = some task) :
    (s'.adders call).given = some task ∨ task ∈ s'.queued := by
  cases turn_of_step hstep with
  | start | spawn | stop | notify | throw | join | wake => exact .inl hgiven
  | work hwork => exact .inl ((workStep_cases hwork).adders ▸ hgiven)
  | @addTask other new hidle =>
    have hother : call ≠ other := by
      rintro rfl
      simp [hidle, AddPc.given] at hgiven
    exact .inl (by simpa [setAdder, hother] using hgiven)
  | @add other s' hadding =>
    by_cases hsame : call = other
    · subst hsame
      cases hadding with
      | lock hadder hmtx =>
        left
        simpa [hadder, setAdder, AddPc.given] using hgiven
      | push hadder =>
        right
        rw [hadder] at hgiven
        cases hgiven
        exact List.mem_append_right _ (List.mem_singleton_self task)
      | unlock hadder | notify hadder => simp [hadder, AddPc.given] at hgiven
    · left
      cases hadding with
      | lock | push | unlock | notify => simpa [setAdder, hsame] using hgiven

/-! ### Some step is enabled -/

theorem Guarded.exists_add (h : s.Guarded) (hworker : s.worker.holding = false) {call : Nat}
    (hcall : (s.adders call).underWay = true) :
    ∃ other, (s.step (.add other)).isSome = true := by
  have hmoves : ∀ other, (s.adders other).holding = true →
      (s.step (.add other)).isSome = true := by
    intro other hother
    cases hadder : s.adders other with
    | pushing | unlocking => simp [ConnectionWorker.step, ConnectionWorker.addStep, hadder]
    | idle | locking | notifying | returned => simp [hadder, AddPc.holding] at hother
  cases hadder : s.adders call with
  | pushing | unlocking => exact ⟨call, hmoves call (by simp [hadder, AddPc.holding])⟩
  | notifying =>
    exact ⟨call, by simp [ConnectionWorker.step, ConnectionWorker.addStep, hadder]⟩
  | idle | returned => simp [hadder, AddPc.underWay] at hcall
  | locking task =>
    cases hmtx : s.mtx with
    | none => exact ⟨call, by simp [ConnectionWorker.step, ConnectionWorker.addStep, hadder, hmtx]⟩
    | some owner =>
      cases owner with
      | worker =>
        have hheld := h.worker.mp hmtx
        simp [hworker] at hheld
      | adder other => exact ⟨other, hmoves other ((h.adder other).mp hmtx)⟩

theorem Ready.exists_work (h : s.Ready) (hstarter : s.starter = .returned)
    (hblocked : s.worker ≠ .blocked) (hfinished : s.worker ≠ .finished) :
    (s.step .work).isSome = true ∨ ∃ call, (s.step (.add call)).isSome = true := by
  cases hworker : s.worker with
  | unborn => exact absurd hworker (h.born hstarter)
  | blocked => exact absurd hworker hblocked
  | finished => exact absurd hworker hfinished
  | crashed => exact absurd hworker h.sound.fed.intact
  | popping =>
    left
    cases htasks : s.tasks <;>
      simp [ConnectionWorker.step, ConnectionWorker.workStep, hworker, htasks]
  | locking =>
    cases hmtx : s.mtx with
    | none =>
      left
      simp [ConnectionWorker.step, ConnectionWorker.workStep, hworker, hmtx]
    | some owner =>
      right
      have hfree : s.worker.holding = false := by simp [hworker, WorkerPc.holding]
      cases owner with
      | worker =>
        have hheld := h.guarded.worker.mp hmtx
        simp [hfree] at hheld
      | adder call =>
        have hcall := (h.guarded.adder call).mp hmtx
        exact h.guarded.exists_add hfree (AddPc.underWay_of_holding hcall)
  | testing | blocking | checking | unlocking | deciding | calling | looping | leaving =>
    left
    simp [ConnectionWorker.step, ConnectionWorker.workStep, hworker]

/-- Prompt steps, with so many disturbances to come. -/
def disturbedStep : Budgeted (ConnectionWorker T) → Label T → Option (Budgeted (ConnectionWorker T)) :=
  Budgeted.step prompt (fun _ => Label.disturbs) step

def Moving (s : ConnectionWorker T) : Prop :=
  ∃ label s', s.prompt label = true ∧ label.disturbs = 0 ∧ s.step label = some s'

theorem moving_of_isSome (hprompt : s.prompt label = true) (hquiet : label.disturbs = 0)
    (hstep : (s.step label).isSome = true) : Moving s := by
  obtain ⟨s', hs'⟩ := Option.isSome_iff_exists.mp hstep
  exact ⟨label, s', hprompt, hquiet, hs'⟩

/-- A worker that is awake after `startWorker`, and the calls that are under way, can go on. -/
theorem Ready.moving (h : s.Ready) (hstarter : s.starter = .returned)
    (hblocked : s.worker ≠ .blocked) (hfinished : s.worker ≠ .finished) : Moving s := by
  rcases h.exists_work hstarter hblocked hfinished with hwork | ⟨call, hadd⟩
  · exact moving_of_isSome rfl rfl hwork
  · exact moving_of_isSome rfl rfl hadd

/-- The worker sleeps, no call of `addTask` is under way, and every task that had been pushed or was to
    be pushed has been executed, in the order in which they were pushed. -/
structure Drained (s₀ s : ConnectionWorker T) : Prop where
  asleep : s.worker = .blocked
  settled : ∀ call, (s.adders call).underWay = false
  executed : s.executed = s.queued
  queued : s₀.queued <+: s.queued
  given : ∀ call task, (s₀.adders call).given = some task → task ∈ s.executed

structure Draining (s₀ s : ConnectionWorker T) : Prop where
  ready : s.Ready
  started : s.starter = .returned
  unstopped : s.stopper = .idle
  queued : s₀.queued <+: s.queued
  given : ∀ call task, (s₀.adders call).given = some task →
    (s.adders call).given = some task ∨ task ∈ s.queued

theorem Draining.drained (h : Draining s₀ s) (hasleep : s.worker = .blocked)
    (hsettled : ∀ call, (s.adders call).underWay = false) : Drained s₀ s := by
  have htasks : s.tasks = [] := by
    by_contra hsome
    obtain ⟨call, hpushed⟩ := h.ready.attended.blocked hasleep hsome
    have hunderWay := AddPc.underWay_of_pushed hpushed
    simp [hsettled call] at hunderWay
  have hexecuted : s.executed = s.queued := by
    have hline := h.ready.sound.lined.inOrder (by simp [hasleep]) (by simp [hasleep])
    simpa [InOrder, hasleep, htasks, WorkerPc.inHand] using hline.symm
  refine ⟨hasleep, hsettled, hexecuted, h.queued, fun call task hgiven => ?_⟩
  rcases h.given call task hgiven with hstill | hqueued
  · have hunderWay := AddPc.underWay_of_given hstill
    simp [hsettled call] at hunderWay
  · exact hexecuted ▸ hqueued

theorem Draining.moving (h : Draining s₀ s) : Drained s₀ s ∨ Moving s := by
  by_cases hasleep : s.worker = .blocked
  · by_cases hsettled : ∀ call, (s.adders call).underWay = false
    · exact .inl (h.drained hasleep hsettled)
    · right
      obtain ⟨call, hcall⟩ := not_forall.mp hsettled
      have hfree : s.worker.holding = false := by simp [hasleep, WorkerPc.holding]
      obtain ⟨other, hother⟩ :=
        h.ready.guarded.exists_add hfree (Bool.not_eq_false _ ▸ hcall)
      exact @moving_of_isSome _ _ (.add other) rfl rfl hother
  · right
    have hfinished := h.ready.lasting.finished h.unstopped
    exact h.ready.moving h.started hasleep hfinished

theorem Draining.step (h : Draining s₀ s) (hprompt : s.prompt label = true)
    (hworker : ConnectionWorker.step s label = some s') : Draining s₀ s' := by
  refine ⟨h.ready.step hworker, ?_, ?_, h.queued.trans (queued_step hworker), ?_⟩
  · rw [starter_step hprompt hworker]
    exact h.started
  · rcases stopper_step hprompt hworker with hsame | ⟨hstopper, -⟩ | ⟨hstopper, -⟩
    · exact hsame.trans h.unstopped
    · simp [h.unstopped] at hstopper
    · simp [h.unstopped] at hstopper
  · intro call task hgiven
    rcases h.given call task hgiven with hstill | hqueued
    · exact given_step hworker hstill
    · exact .inr ((queued_step hworker).subset hqueued)

/-- **No task is forgotten.**  As long as nobody calls `stopWorker`, and however often the worker is
    woken without a notification and new tasks are added in between, the worker comes to sleep with
    every task executed. -/
theorem drains {labels : List (Label T)} (hexec : exec step constructed labels = some s₀)
    (hstarter : s₀.starter = .returned) (hstopper : s₀.stopper = .idle) (disturbances : Nat) :
    Inevitable disturbedStep (fun b => Drained s₀ b.state) ⟨s₀, disturbances⟩ := by
  have hstart : Draining s₀ s₀ :=
    ⟨.run hexec, hstarter, hstopper, List.prefix_rfl, fun _ _ hgiven => .inl hgiven⟩
  refine inevitable_of_budget weight 17 ?_ ?_ hstart disturbances
  · intro s h
    exact h.moving
  · intro s label s' h hprompt hstep
    exact .inr ⟨h.step hprompt hstep, weight_step h.ready.begun hprompt hstep⟩

def tasksToDo : List (Label Nat) :=
  [.start, .start, .addTask 0 7, .add 0, .add 0, .add 0, .add 0,
    .work, .work, .work, .work, .work, .addTask 1 8, .add 1]

theorem drains_tasksToDo : ∃ s, exec step constructed tasksToDo = some s ∧
    s.executed = [] ∧ (s.adders 1).given = some 8 ∧
      Inevitable disturbedStep (fun b => Drained s b.state) ⟨s, 2⟩ :=
  ⟨_, rfl, rfl, rfl, @drains Nat _ tasksToDo rfl rfl rfl 2⟩

structure Stopped (s : ConnectionWorker T) : Prop where
  returned : s.stopper = .returned
  finished : s.worker = .finished

/-- `stopWorker` is on the way there. -/
structure Stopping (s : ConnectionWorker T) : Prop where
  ready : s.Ready
  awake : s.Awake
  started : s.starter = .returned
  underWay : s.stopper = .notifying ∨ s.stopper = .joining

theorem Stopping.moving (h : Stopping s) : Moving s := by
  rcases h.underWay with hnotifying | hjoining
  · by_cases hblocking : s.worker = .blocking
    · exact h.ready.moving h.started (by simp [hblocking]) (by simp [hblocking])
    · refine @moving_of_isSome _ _ .stop ?_ rfl ?_
      · simp only [prompt, hnotifying]
        cases hworker : s.worker <;> simp_all
      · simp [ConnectionWorker.step, ConnectionWorker.stopStep, hnotifying]
  · have hheard := h.awake.heard (by simp [hjoining]) (by simp [hjoining])
    by_cases hfinished : s.worker = .finished
    · refine @moving_of_isSome _ _ .stop ?_ rfl ?_
      · simp [prompt, hjoining]
      · simp [ConnectionWorker.step, ConnectionWorker.stopStep, hjoining, hfinished]
    · exact h.ready.moving h.started hheard.2 hfinished

theorem Stopping.step (h : Stopping s) (hprompt : s.prompt label = true)
    (hworker : ConnectionWorker.step s label = some s') : Stopped s' ∨ Stopping s' := by
  have hready := h.ready.step hworker
  have hawake := h.awake.step (timely_of_prompt hprompt) hworker
  have hstarted := (starter_step hprompt hworker).trans h.started
  rcases stopper_step hprompt hworker with hsame | ⟨-, hjoining⟩ | ⟨-, hunborn | hjoined⟩
  · exact .inr ⟨hready, hawake, hstarted, hsame ▸ h.underWay⟩
  · exact .inr ⟨hready, hawake, hstarted, .inr hjoining⟩
  · exact absurd hunborn (h.ready.born h.started)
  · exact .inl ⟨hjoined.1, hjoined.2⟩

/-- **`stopWorker` returns.**  When the stop is timely and the worker was started, then from any state
    in which `stopWorker` is under way it comes to return, and the thread has ended. -/
theorem stop_returns {labels : List (Label T)} (hexec : exec step constructed labels = some s)
    (htimely : Meets step Timely constructed labels) (hstarter : s.starter = .returned)
    (hstopper : s.stopper = .notifying ∨ s.stopper = .joining) (disturbances : Nat) :
    Inevitable disturbedStep (fun b => Stopped b.state) ⟨s, disturbances⟩ := by
  have hstart : Stopping s := ⟨.run hexec, .run hexec htimely, hstarter, hstopper⟩
  refine inevitable_of_budget weight 17 ?_ ?_ hstart disturbances
  · intro s h
    exact .inr h.moving
  · intro s label s' h hprompt hstep
    rcases h.step hprompt hstep with hstopped | hstopping
    · exact .inl hstopped
    · exact .inr ⟨hstopping, weight_step h.ready.begun hprompt hstep⟩

def stopAsleep : List (Label Nat) := [.start, .start, .work, .work, .work, .stop]

theorem stop_returns_stopAsleep : ∃ s, exec step constructed stopAsleep = some s ∧
    s.worker = .blocked ∧ Inevitable disturbedStep (fun b => Stopped b.state) ⟨s, 1⟩ :=
  ⟨_, rfl, rfl, @stop_returns Nat _ stopAsleep rfl (by decide) rfl (.inl rfl) 1⟩

end ConnectionWorker

end SecuritySocket
