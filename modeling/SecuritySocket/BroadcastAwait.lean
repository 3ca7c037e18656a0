import SecuritySocket.SocketBroadcastAwait

/-!
# What a waiting call can rely on

Two things about the calls of `await` and `awaitClose`.  A result of `await` is borne out by
what the call saw under the mutex, save that its second critical section does not look
whether the list has become empty since the first.  And `close`, which changes the flag and
notifies without the mutex, wakes every call unless one of them stands between the test of
its predicate and its block.
-/

namespace SecuritySocket.BroadcastWaiters

open FixedWidth Transition BroadcastServer

variable {s s' : BroadcastWaiters} {call : Nat}

/-! ### The steps of a call -/

/-- Everything a step of the call with number `call` can do. -/
inductive WaitMove (s : BroadcastWaiters) (call : Nat) : WaitEvent → BroadcastWaiters → Prop where
  | started {kind : WaitKind} (hpc : s.waiters call = .idle) :
      WaitMove s call (.start kind)
        { s.setWaiter call (.locking false) with kinds := Function.update s.kinds call kind }
  | woken {event : WaitEvent} {timedOut : Bool} (hpc : s.waiters call = .blocked)
      (hevent : event = if timedOut then .timeout else .spurious) :
      WaitMove s call event (s.setWaiter call (.locking timedOut))
  | locked {timedOut : Bool} (hpc : s.waiters call = .locking timedOut) (hfree : s.free = true) :
      WaitMove s call .go { s.setWaiter call (.testing timedOut) with holder := some call }
  | passed {timedOut : Bool} (hpc : s.waiters call = .testing timedOut)
      (htest : (s.server.predicate (s.kinds call) || timedOut) = true) :
      WaitMove s call .go (s.setWaiter call .checking)
  | refused {timedOut : Bool} (hpc : s.waiters call = .testing timedOut)
      (htest : s.server.predicate (s.kinds call) = false) :
      WaitMove s call .go (s.setWaiter call .blocking)
  | blocked (hpc : s.waiters call = .blocking) : WaitMove s call .go (s.unlock call .blocked)
  | checkedClose (hpc : s.waiters call = .checking) (hkind : s.kinds call = .awaitClose) :
      WaitMove s call .go (s.unlock call (.returned s.server.awaitClose s.server.seen))
  | checked {result : SocketResult} (hpc : s.waiters call = .checking)
      (hkind : s.kinds call = .await) (hresult : s.server.awaitFirst = some result) :
      WaitMove s call .go (s.unlock call (.returned result s.server.seen))
  | released (hpc : s.waiters call = .checking) (hkind : s.kinds call = .await)
      (hresult : s.server.awaitFirst = none) : WaitMove s call .go (s.unlock call .gap)
  | relocked (hpc : s.waiters call = .gap) (hfree : s.free = true) :
      WaitMove s call .go { s.setWaiter call .counting with holder := some call }
  | counted (hpc : s.waiters call = .counting) :
      WaitMove s call .go (s.unlock call (.returned s.server.awaitSecond s.server.seen))

theorem waitStep_cases {event : WaitEvent} (h : s.waitStep call event = some s') :
    WaitMove s call event s' := by
  cases event with
  | start kind =>
    simp only [waitStep] at h
    split at h
    · rename_i hpc
      cases h
      exact .started hpc
    · cases h
  | spurious =>
    simp only [waitStep] at h
    split at h
    · rename_i hpc
      cases h
      exact .woken hpc rfl
    · cases h
  | timeout =>
    simp only [waitStep] at h
    split at h
    · rename_i hpc
      cases h
      exact .woken hpc rfl
    · cases h
  | go =>
    cases hpc : s.waiters call with
    | idle | blocked | returned => simp [waitStep, hpc] at h
    | locking timedOut =>
      simp only [waitStep, hpc, lock] at h
      split at h
      · rename_i hfree
        cases h
        exact .locked hpc hfree
      · cases h
    | testing timedOut =>
      simp only [waitStep, hpc] at h
      split at h
      · rename_i htest
        cases h
        exact .passed hpc htest
      · rename_i htest
        cases h
        exact .refused hpc (by simpa using And.left (by simpa using htest))
    | blocking =>
      simp only [waitStep, hpc, Option.some.injEq] at h
      exact h ▸ .blocked hpc
    | checking =>
      simp only [waitStep, hpc] at h
      cases hkind : s.kinds call with
      | awaitClose =>
        simp only [hkind, Option.some.injEq] at h
        exact h ▸ .checkedClose hpc hkind
      | await =>
        simp only [hkind] at h
        cases hresult : s.server.awaitFirst with
        | some result =>
          simp only [hresult, Option.some.injEq] at h
          exact h ▸ .checked hpc hkind hresult
        | none =>
          simp only [hresult, Option.some.injEq] at h
          exact h ▸ .released hpc hkind hresult
    | gap =>
      simp only [waitStep, hpc, lock] at h
      split at h
      · rename_i hfree
        cases h
        exact .relocked hpc hfree
      · cases h
    | counting =>
      simp only [waitStep, hpc, Option.some.injEq] at h
      exact h ▸ .counted hpc

theorem step_cases {label : Label} (h : s.step label = some s') :
    (∃ l server, label = .server l ∧ s.owes l.party = false ∧
      (s.holder = none ∨ s.server.locks l = false) ∧ s.server.step l = some server ∧
      s' = { s with
        server := server
        owes := Function.update s.owes l.party (s.server.notifies l) }) ∨
    (∃ party, label = .notify party ∧ s.owes party = true ∧
      s' = { s with
        waiters := fun call => (s.waiters call).notified
        owes := Function.update s.owes party false }) ∨
    ∃ call event, label = .wait call event ∧ WaitMove s call event s' := by
  cases label with
  | server l =>
    simp only [step] at h
    split at h
    · cases h
    · rename_i hblocked
      obtain ⟨server, hserver, rfl⟩ := Option.map_eq_some_iff.mp h
      simp only [Bool.or_eq_true, Bool.and_eq_true, not_or, not_and, Bool.not_eq_true] at hblocked
      refine .inl ⟨l, server, rfl, hblocked.1, ?_, hserver, rfl⟩
      cases hholder : s.holder with
      | none => exact .inl rfl
      | some call => exact .inr (hblocked.2 (by simp [hholder]))
  | notify party =>
    simp only [step] at h
    split at h
    · rename_i howes
      cases h
      exact .inr (.inl ⟨party, rfl, howes, rfl⟩)
    · cases h
  | wait call event => exact .inr (.inr ⟨call, event, rfl, waitStep_cases h⟩)

theorem reachable_server {fd : Int} (h : Reachable step (opened fd) s) :
    Reachable BroadcastServer.step (BroadcastServer.opened fd) s.server := by
  refine h.invariant (I := fun s => Reachable BroadcastServer.step (BroadcastServer.opened fd)
    s.server) (.refl _) ?_
  intro s label s' hs hstep
  rcases step_cases hstep with ⟨l, server, _, _, _, hserver, rfl⟩ | ⟨party, _, _, rfl⟩ |
    ⟨call, event, _, hmove⟩
  · exact hs.tail hserver
  · exact hs
  · cases hmove <;> exact hs

/-! ### The mutex -/

def holds : WaitPc → Bool
  | .testing _ | .blocking | .checking | .counting => true
  | .idle | .locking _ | .blocked | .gap | .returned _ _ => false

/-- One call holds the mutex at a time, and no other party with it. -/
structure Exclusive (s : BroadcastWaiters) : Prop where
  holder : ∀ call, s.holder = some call ↔ holds (s.waiters call) = true
  alone : s.holder ≠ none → s.server.clientsMtx = none

theorem holds_notified (pc : WaitPc) : holds pc.notified = holds pc := by
  cases pc <;> rfl

theorem clientsMtx_of_not_locks {server server' : BroadcastServer} {l : BroadcastServer.Label}
    (hstep : server.step l = some server') (hlocks : server.locks l = false)
    (hfree : server.clientsMtx = none) : server'.clientsMtx = none := by
  rcases BroadcastServer.step_cases hstep with ⟨a, rfl, hmove⟩ | ⟨c, rfl, hmove⟩ | ⟨rfl, hmove⟩
  · cases hmove <;> exact hfree
  · cases hmove with
    | started hpc => simp [locks, hpc] at hlocks
    | handedOver => rfl
    | _ => exact hfree
  · cases hmove with
    | locked hpc => simp [locks, hpc] at hlocks
    | drained => rfl
    | _ => exact hfree

theorem free_iff : s.free = true ↔ s.holder = none ∧ s.server.clientsMtx = none := by
  simp [free]

theorem exclusive_opened (fd : Int) : Exclusive (opened fd) := by
  constructor <;> simp [opened, holds]

theorem Exclusive.kept (h : Exclusive s) {pc : WaitPc} (hpc : holds pc = holds (s.waiters call))
    (hwaiters : s'.waiters = Function.update s.waiters call pc) (hholder : s'.holder = s.holder)
    (hserver : s'.server = s.server) : Exclusive s' where
  holder c := by
    rw [hholder, hwaiters, h.holder]
    by_cases hc : c = call
    · subst hc
      rw [Function.update_self, hpc]
    · rw [Function.update_of_ne hc]
  alone := by
    rw [hholder, hserver]
    exact h.alone

theorem Exclusive.lock (h : Exclusive s) {pc : WaitPc} (hfree : s.free = true)
    (hpc : holds pc = true) : Exclusive { s.setWaiter call pc with holder := some call } where
  holder c := by
    have hnone : holds (s.waiters c) = false := by
      rw [← Bool.not_eq_true, ← h.holder]
      simp [(free_iff.mp hfree).1]
    by_cases hc : c = call
    · subst hc
      simp [setWaiter, hpc]
    · simp [setWaiter, hc, hnone, Ne.symm hc]
  alone _ := (free_iff.mp hfree).2

theorem Exclusive.unlock (h : Exclusive s) {pc : WaitPc} (hheld : holds (s.waiters call) = true)
    (hpc : holds pc = false) : Exclusive (s.unlock call pc) where
  holder c := by
    have hholder := (h.holder call).mpr hheld
    by_cases hc : c = call
    · subst hc
      simp [BroadcastWaiters.unlock, setWaiter, hpc]
    · have hnone : holds (s.waiters c) = false := by
        rw [← Bool.not_eq_true, ← h.holder, hholder]
        simp [Ne.symm hc]
      simp [BroadcastWaiters.unlock, setWaiter, hc, hnone]
  alone hne := absurd rfl hne

theorem Exclusive.step (h : Exclusive s) {label : Label} (hstep : s.step label = some s') :
    Exclusive s' := by
  rcases step_cases hstep with ⟨l, server, _, _, hblocked, hserver, rfl⟩ | ⟨party, _, _, rfl⟩ |
    ⟨call, event, _, hmove⟩
  · refine ⟨h.holder, fun hne => ?_⟩
    exact clientsMtx_of_not_locks hserver (hblocked.resolve_left hne) (h.alone hne)
  · exact ⟨fun c => by rw [holds_notified]; exact h.holder c, h.alone⟩
  · cases hmove with
    | started hpc => exact h.kept (by rw [hpc]; rfl) rfl rfl rfl
    | woken hpc | passed hpc | refused hpc => exact h.kept (by rw [hpc]; rfl) rfl rfl rfl
    | locked hpc hfree | relocked hpc hfree => exact h.lock hfree rfl
    | blocked hpc | checkedClose hpc | checked hpc | released hpc | counted hpc =>
      exact h.unlock (by rw [hpc]; rfl) rfl

theorem reachable_exclusive {fd : Int} (h : Reachable step (opened fd) s) : Exclusive s :=
  h.invariant (exclusive_opened fd) fun _ _ _ hs hstep => hs.step hstep

/-- While a call holds the mutex nobody changes the active list: what it sees there at one
    point of a critical section it sees throughout. -/
theorem activeClients_of_held {fd : Int} (hreach : Reachable step (opened fd) s)
    (hheld : holds (s.waiters call) = true) {label : Label} (hstep : s.step label = some s') :
    s'.server.activeClients = s.server.activeClients := by
  have hexclusive := reachable_exclusive hreach
  have hholder : s.holder ≠ none := by simp [(hexclusive.holder call).mpr hheld]
  rcases step_cases hstep with ⟨l, server, _, _, hblocked, hserver, rfl⟩ | ⟨party, _, _, rfl⟩ |
    ⟨call, event, _, hmove⟩
  · have hlocks := hblocked.resolve_left hholder
    have hfree := hexclusive.alone hholder
    have hcontrol := reachable_control (reachable_server hreach)
    rcases BroadcastServer.step_cases hserver with ⟨a, rfl, hmove⟩ | ⟨c, rfl, hmove⟩ | ⟨rfl, hmove⟩
    · cases hmove with
      | pushed hpc | erased hpc => simp [locks, hpc] at hlocks
      | _ => rfl
    · cases hmove with
      | started hpc => simp [locks, hpc] at hlocks
      | _ => rfl
    · cases hmove with
      | drained hpc =>
        have hmutex := hcontrol.closing.mpr (by rw [hpc]; rfl)
        rw [hfree] at hmutex
        cases hmutex
      | _ => rfl
  · rfl
  · cases hmove <;> rfl

/-! ### The results of `await` -/

/-- The result is borne out by what the call saw under the mutex. -/
structure Justified (result : SocketResult) (seen : Seen) : Prop where
  success : result.code = .success → seen.monitoring = true ∧ seen.active ≠ [] ∧
    result.bytes = toInt32 seen.active.length ∧ (seen.active.length < 2 ^ 31 → 1 ≤ result.bytes)
  timeout : result.code = .socketTimeout → seen.active = []
  closed : result.code = .socketClosed → seen.monitoring = false

/-- Every `await` call that has returned has a justified result. -/
def Sound (s : BroadcastWaiters) : Prop :=
  ∀ call result seen, s.kinds call = .await → s.waiters call = .returned result seen →
    Justified result seen

/-- The step reads the count of an empty list, in the second critical section of an `await`
    call on a server that is monitoring. -/
def countsNobody (s : BroadcastWaiters) : Label → Bool
  | .wait call .go =>
    s.waiters call == .counting && s.server.isMonitoring && s.server.activeClients.isEmpty
  | .wait _ (.start _) | .wait _ .spurious | .wait _ .timeout | .server _ | .notify _ => false

theorem justified_first {server : BroadcastServer} {result : SocketResult}
    (h : server.awaitFirst = some result) : Justified result server.seen := by
  unfold awaitFirst at h
  split at h
  · rename_i hclosed
    cases h
    exact ⟨by simp, by simp, fun _ => by simpa [seen] using hclosed⟩
  · split at h
    · rename_i hempty
      cases h
      exact ⟨by simp, fun _ => by simpa [seen] using hempty, by simp⟩
    · cases h

/-- The second critical section checks half of what the first does. -/
theorem justified_second (server : BroadcastServer) :
    Justified server.awaitSecond server.seen ↔
      (server.isMonitoring && server.activeClients.isEmpty) = false := by
  unfold awaitSecond
  cases hmonitoring : server.isMonitoring with
  | false => exact iff_of_true ⟨by simp, by simp, fun _ => hmonitoring⟩ rfl
  | true =>
    simp only [Bool.not_true, Bool.false_eq_true, if_false, Bool.true_and]
    constructor
    · intro h
      simpa [seen] using (h.success rfl).2.1
    · intro hempty
      have hactive : server.activeClients ≠ [] := by simpa using hempty
      refine ⟨fun _ => ⟨hmonitoring, hactive, rfl, fun hlt => ?_⟩, by simp, by simp⟩
      have hpos := List.length_pos_iff.mpr hactive
      dsimp only [seen] at hlt ⊢
      rw [toInt32_of_lt hlt]
      omega

def Sectioned (s : BroadcastWaiters) : Prop :=
  ∀ call, s.waiters call = .gap ∨ s.waiters call = .counting → s.kinds call = .await

theorem notified_eq {pc target : WaitPc} (h : pc.notified = target)
    (hne : target ≠ .locking false) : pc = target := by
  cases pc with
  | blocked => exact absurd h.symm hne
  | _ => exact h

theorem Sectioned.step (h : Sectioned s) {label : Label} (hstep : s.step label = some s') :
    Sectioned s' := by
  rcases step_cases hstep with ⟨l, server, _, _, _, _, rfl⟩ | ⟨party, _, _, rfl⟩ |
    ⟨call, event, _, hmove⟩
  · exact h
  · intro c hc
    refine h c (hc.imp (fun hgap => ?_) fun hcounting => ?_)
    · exact notified_eq hgap (by simp)
    · exact notified_eq hcounting (by simp)
  · intro c hc
    by_cases hcall : c = call
    · subst hcall
      cases hmove with
      | released hpc hkind => exact hkind
      | relocked hpc hfree => exact h c (.inl hpc)
      | _ => simp [unlock, setWaiter] at hc
    · have hold : s.waiters c = .gap ∨ s.waiters c = .counting := by
        cases hmove <;> simpa [unlock, setWaiter, hcall] using hc
      have hkind := h c hold
      cases hmove <;> simpa [unlock, setWaiter, hcall] using hkind

theorem sound_update {pc : WaitPc} (hrunning : ∀ result seen, s.waiters call ≠ .returned result seen)
    (hwaiters : s'.waiters = Function.update s.waiters call pc)
    (hkinds : ∀ c, c ≠ call → s'.kinds c = s.kinds c) :
    Sound s' ↔ Sound s ∧ (s'.kinds call = .await →
      ∀ result seen, pc = .returned result seen → Justified result seen) := by
  constructor
  · refine fun h => ⟨fun c result seen hkind hpc => ?_, fun hkind result seen hpc => ?_⟩
    · have hc : c ≠ call := by
        rintro rfl
        exact hrunning result seen hpc
      exact h c result seen ((hkinds c hc).trans hkind) (by rw [hwaiters]; simpa [hc] using hpc)
    · exact h call result seen hkind (by rw [hwaiters, Function.update_self, hpc])
  · rintro ⟨h, hcall⟩ c result seen hkind hpc
    rw [hwaiters] at hpc
    by_cases hc : c = call
    · subst hc
      exact hcall hkind result seen (by simpa using hpc)
    · exact h c result seen ((hkinds c hc).symm.trans hkind) (by simpa [hc] using hpc)

theorem WaitMove.sound {event : WaitEvent} (h : Sectioned s) (hmove : WaitMove s call event s') :
    Sound s' ↔ Sound s ∧ s.countsNobody (.wait call event) = false := by
  have hrunning : ∀ result seen, s.waiters call ≠ .returned result seen := by
    intro result seen hreturned
    cases hmove <;> simp_all
  -- the call does not return in this step
  have hgoes : ∀ {s' : BroadcastWaiters} {pc : WaitPc}, s.waiters call ≠ .counting →
      (∀ result seen, pc ≠ .returned result seen) →
      s'.waiters = Function.update s.waiters call pc →
      (∀ c, c ≠ call → s'.kinds c = s.kinds c) →
      (Sound s' ↔ Sound s ∧ s.countsNobody (.wait call event) = false) := by
    intro s' pc hcounting hpc hwaiters hkinds
    have hquiet : s.countsNobody (.wait call event) = false := by
      cases event <;> simp [countsNobody, hcounting]
    rw [sound_update hrunning hwaiters hkinds, hquiet]
    exact and_congr_right fun _ =>
      iff_of_true (fun _ result seen heq => absurd heq (hpc result seen)) rfl
  cases hmove with
  | started hpc =>
    exact hgoes (by simp [hpc]) (by simp) rfl
      fun c hc => Function.update_of_ne hc _ _
  | woken hpc hevent =>
    exact hgoes (by simp [hpc]) (by simp) rfl fun _ _ => rfl
  | locked hpc | passed hpc | refused hpc | blocked hpc | released hpc | relocked hpc =>
    exact hgoes (by simp [hpc]) (by simp) rfl fun _ _ => rfl
  | checkedClose hpc hkind =>
    refine Iff.trans (sound_update hrunning rfl fun _ _ => rfl) ?_
    refine and_congr_right fun _ => iff_of_true (fun hawait => ?_) (by simp [countsNobody, hpc])
    cases hkind.symm.trans hawait
  | checked hpc hkind hresult =>
    refine Iff.trans (sound_update hrunning rfl fun _ _ => rfl) ?_
    refine and_congr_right fun _ => iff_of_true (fun _ result seen heq => ?_)
      (by simp [countsNobody, hpc])
    cases heq
    exact justified_first hresult
  | counted hpc =>
    refine Iff.trans (sound_update hrunning rfl fun _ _ => rfl) ?_
    refine and_congr_right fun _ => ?_
    simp only [countsNobody, hpc, BEq.rfl, Bool.true_and]
    rw [← justified_second]
    constructor
    · exact fun hjustified => hjustified (h call (.inr hpc)) _ _ rfl
    · rintro hjustified - result seen heq
      cases heq
      exact hjustified

/-- A step gives no unjustified result exactly when it does not count nobody. -/
theorem step_sound (h : Sectioned s) {label : Label} (hstep : s.step label = some s') :
    Sound s' ↔ Sound s ∧ s.countsNobody label = false := by
  rcases step_cases hstep with ⟨l, server, rfl, _, _, _, rfl⟩ | ⟨party, rfl, _, rfl⟩ |
    ⟨call, event, rfl, hmove⟩
  · simp only [countsNobody, and_true]
    exact Iff.rfl
  · simp only [countsNobody, and_true]
    constructor
    · intro hsound c result seen hkind hpc
      exact hsound c result seen hkind (by simp [hpc, WaitPc.notified])
    · intro hsound c result seen hkind hpc
      exact hsound c result seen hkind (notified_eq hpc (by simp))
  · exact hmove.sound h

/-- **The results of `await`.**  In a run every result is borne out by what its call saw under
    the mutex exactly when no call counts an empty list in its second critical section. -/
theorem sound_iff {fd : Int} {labels : List Label}
    (hexec : exec step (opened fd) labels = some s) :
    Sound s ↔ Meets step (fun s label => s.countsNobody label = false) (opened fd) labels := by
  have hiff := exec_iff_meets (I := Sectioned) (P := Sound) (fun _ _ _ h hstep => h.step hstep)
    (fun _ _ _ h hstep => step_sound h hstep) hexec (by simp [Sectioned, opened])
  have hopened : Sound (opened fd) := by simp [Sound, opened]
  rw [hiff, and_iff_right hopened]

def acceptOne (fd : Int) : List Label :=
  let answer : MonitorAnswer :=
    { poll := .ready [{ pollin := true }], accept := { descriptor := fd } }
  (monitorRound 7 answer).map .server ++ [.notify .monitor] ++ (monitorRound 2 answer).map .server

def awaitedClient : List Label :=
  [.wait 0 (.start .await), .wait 0 .go, .wait 0 .go, .wait 0 .go] ++ acceptOne 4 ++
    List.replicate 5 (.wait 0 .go)

theorem awaitedClient_sound :
    ∃ s, exec step (opened 3) awaitedClient = some s ∧
      s.waiters 0 = .returned { code := .success, bytes := 1 } { monitoring := true, active := [0] } ∧
      Sound s := by
  have hmeets : Meets step (fun s label => s.countsNobody label = false) (opened 3)
      awaitedClient := by decide
  exact ⟨_, rfl, rfl, (sound_iff rfl).mpr hmeets⟩

/-- The client is dropped between the two critical sections. -/
def droppedInGap : List Label :=
  acceptOne 4 ++ [.wait 0 (.start .await)] ++ List.replicate 3 (.wait 0 .go) ++
    List.replicate 3 (.server (.dropAll 0)) ++ List.replicate 2 (.wait 0 .go)

theorem droppedInGap_not_sound :
    ∃ s, exec step (opened 3) droppedInGap = some s ∧
      s.waiters 0 = .returned { code := .success, bytes := 0 } { monitoring := true, active := [] } ∧
      ¬ Sound s := by
  refine ⟨_, rfl, rfl, fun h => ?_⟩
  exact ((h 0 _ _ rfl rfl).success rfl).2.1 rfl

/-! ### Being woken by `close` -/

/-- `close` is past its `notify_all`, and the call is blocked. -/
structure Stranded (s : BroadcastWaiters) (call : Nat) : Prop where
  stopped : s.server.isMonitoring = false
  notified : s.owes .close = false
  blocked : s.waiters call = .blocked

/-- The step is the `notify_all` of `close`, while a call stands between the test of its
    predicate and its block. -/
def misses (s : BroadcastWaiters) : Label → Bool
  | .notify .close => s.holder.any fun call => s.waiters call == .blocking
  | .notify .monitor | .notify (.dropAll _) | .server _ | .wait _ _ => false

/-- After the `notify_all` of `close` no call is blocked or about to block. -/
def Alert (s : BroadcastWaiters) : Prop :=
  s.server.isMonitoring = false → s.owes .close = false →
    ∀ call, s.waiters call ≠ .blocking ∧ s.waiters call ≠ .blocked

theorem isMonitoring_step {server server' : BroadcastServer} {l : BroadcastServer.Label}
    (hstep : server.step l = some server') :
    server'.isMonitoring = server.isMonitoring ∨ (l = .close ∧ server.notifies l = true) := by
  rcases BroadcastServer.step_cases hstep with ⟨a, rfl, hmove⟩ | ⟨c, rfl, hmove⟩ | ⟨rfl, hmove⟩
  · cases hmove <;> exact .inl rfl
  · cases hmove <;> exact .inl rfl
  · cases hmove with
    | stopped hpc => exact .inr ⟨rfl, by simp [notifies, hpc]⟩
    | _ => exact .inl rfl

theorem Alert.server (h : Alert s) {l : BroadcastServer.Label} {server : BroadcastServer}
    (howes : s.owes l.party = false) (hstep : s.server.step l = some server) :
    Alert { s with
      server := server
      owes := Function.update s.owes l.party (s.server.notifies l) } := by
  intro hstopped hnotified
  rcases isMonitoring_step hstep with hsame | ⟨rfl, hnotifies⟩
  · refine h (hsame ▸ hstopped) ?_
    by_cases hparty : l.party = .close
    · rw [← hparty]
      exact howes
    · simpa [Ne.symm hparty] using hnotified
  · rw [BroadcastServer.Label.party] at hnotified
    dsimp only at hnotified
    rw [Function.update_self, hnotifies] at hnotified
    cases hnotified

theorem Alert.notify (h : Alert s) (hexclusive : Exclusive s) {party : Party}
    (hmiss : s.misses (.notify party) = false) :
    Alert { s with
      waiters := fun call => (s.waiters call).notified
      owes := Function.update s.owes party false } := by
  have hwoken : ∀ pc : WaitPc, pc.notified ≠ .blocked := by
    rintro (_ | _) <;> simp [WaitPc.notified]
  intro hstopped hnotified call
  refine ⟨fun hblocking => ?_, hwoken _⟩
  have htested : s.waiters call = .blocking := notified_eq hblocking (by simp)
  by_cases hparty : party = .close
  · subst hparty
    have hholder := (hexclusive.holder call).mpr (by rw [htested]; rfl)
    simp [misses, hholder, htested] at hmiss
  · exact (h hstopped (by simpa [Ne.symm hparty] using hnotified) call).1 htested

theorem Alert.wait (h : Alert s) {event : WaitEvent} (hmove : WaitMove s call event s') :
    Alert s' := by
  have hserver : s'.server = s.server ∧ s'.owes = s.owes := by cases hmove <;> exact ⟨rfl, rfl⟩
  intro hstopped hnotified c
  rw [hserver.1] at hstopped
  rw [hserver.2] at hnotified
  have hold := h hstopped hnotified
  by_cases hc : c = call
  · subst hc
    cases hmove with
    | refused hpc htest =>
      -- the predicate holds of a server that has been stopped
      cases hkind : s.kinds c <;> simp [predicate, hkind, hstopped] at htest
    | blocked hpc => exact absurd hpc (hold c).1
    | _ => simp [unlock, setWaiter]
  · cases hmove <;> simpa [unlock, setWaiter, hc] using hold c

/-- **Waking by `close`.**  In a run in which no call stands between the test of its predicate
    and its block when `close` calls `notify_all`, no call is left blocked after it. -/
theorem unstranded_of_unmissed {fd : Int} {labels : List Label}
    (hexec : exec step (opened fd) labels = some s)
    (hmeets : Meets step (fun s label => s.misses label = false) (opened fd) labels) :
    ∀ call, ¬ Stranded s call := by
  have hend := exec_invariant_of_meets (I := fun s => Exclusive s ∧ Alert s) ?_ hexec hmeets
    ⟨exclusive_opened fd, nofun⟩
  · exact fun call h => (hend.2 h.stopped h.notified call).2 h.blocked
  · rintro s label s' ⟨hexclusive, halert⟩ hmiss hstep
    refine ⟨hexclusive.step hstep, ?_⟩
    rcases step_cases hstep with ⟨l, server, _, howes, _, hserver, rfl⟩ | ⟨party, rfl, _, rfl⟩ |
      ⟨call, event, _, hmove⟩
    · exact halert.server howes hserver
    · exact halert.notify hexclusive hmiss
    · exact halert.wait hmove

def closedInWait : List Label :=
  [.wait 0 (.start .await)] ++ List.replicate 3 (.wait 0 .go) ++
    [.server .close, .notify .close] ++ List.replicate 3 (.wait 0 .go)

theorem closedInWait_unstranded :
    ∃ s, exec step (opened 3) closedInWait = some s ∧
      s.waiters 0 = .returned { code := .socketClosed } { monitoring := false, active := [] } ∧
      ∀ call, ¬ Stranded s call := by
  have hmeets : Meets step (fun s label => s.misses label = false) (opened 3) closedInWait := by
    decide
  exact ⟨_, rfl, rfl, unstranded_of_unmissed rfl hmeets⟩

/-- `close` changes the flag and notifies after the call has found its predicate false and
    before it blocks; then it joins the monitor and returns. -/
def closedBeforeBlock : List Label :=
  [.wait 0 (.start .await)] ++ List.replicate 2 (.wait 0 .go) ++
    [.server .close, .notify .close, .wait 0 .go] ++ (monitorRound 1 {}).map .server ++
    List.replicate 4 (.server .close)

/-- Nobody is left who would notify the call again. -/
theorem closedBeforeBlock_stranded :
    ∃ s, exec step (opened 3) closedBeforeBlock = some s ∧ s.server.closer = .returned ∧
      s.server.monitor = .exited ∧ (∀ call, s.server.drops call = .idle) ∧
      (∀ party, s.owes party = false) ∧ Stranded s 0 := by
  refine ⟨_, rfl, rfl, rfl, fun _ => rfl, fun party => ?_, rfl, rfl, rfl⟩
  cases party <;> rfl

end SecuritySocket.BroadcastWaiters
