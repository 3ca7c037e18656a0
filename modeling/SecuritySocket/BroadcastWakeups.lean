import SecuritySocket.BroadcastAwait

/-!
# Waking the calls that wait for clients

`monitorClient` and `dropAll` change the active list under `_clients_mtx` and notify later: the
monitor after it has closed the client and told the handler, `dropAll` after it has taken every
client off the listener.  In between, a blocked call of `await` or `awaitClose` whose predicate has
become true is not forgotten: the party that owes it the notification never waits on the way
there, and no other party, call or wakeup can come in between for good.
-/

namespace SecuritySocket

open Transition

namespace BroadcastServer

variable {s s' : BroadcastServer} {l : Label}

/-- The steps that a party which has changed the active list makes up to its `notify_all`. -/
def debt (s : BroadcastServer) : Party → Nat
  | .monitor =>
    match s.monitor with
    | .closing _ .load _ => 4
    | .closing _ (.call _) _ => 3
    | .closing _ .store _ => 2
    | .telling _ _ => 1
    | .top | .clearing | .waiting | .polling _ _ | .dispatching _ | .registering _ _
    | .pushing _ _ | .announcing _ _ | .erasing _ _ | .exited | .faulted => 0
  | .dropAll call =>
    match s.drops call with
    | .removing _ todo => todo.length + 1
    | .idle | .closing _ _ _ | .telling _ _ _ | .returned => 0
  | .close => 0

/-- Who changes the active list of a server that is not being closed will notify. -/
theorem debt_of_change (hcontrol : Control s) (hstep : s.step l = some s')
    (hmonitoring : s'.isMonitoring = true) :
    s'.activeClients = s.activeClients ∨ 0 < s'.debt l.party ∨ s.notifies l = true := by
  rcases step_cases hstep with ⟨a, rfl, hmove⟩ | ⟨c, rfl, hmove⟩ | ⟨rfl, hmove⟩
  · cases hmove with
    | pushed hpc => exact .inr (.inr (by simp [notifies, hpc]))
    | erased hpc => exact .inr (.inl (by simp [debt, Label.party]))
    | _ => exact .inl rfl
  · cases hmove with
    | started hpc => exact .inr (.inl (by simp [debt, Label.party]))
    | _ => exact .inl rfl
  · cases hmove with
    | drained hpc =>
      have hidle := hcontrol.monitoring.mp hmonitoring
      rw [hidle] at hpc
      cases hpc
    | _ => exact .inl rfl

theorem debt_own (hstep : s.step l = some s') (hdebt : 0 < s.debt l.party) :
    s.notifies l = true ∨ 0 < s'.debt l.party ∧ s'.debt l.party < s.debt l.party := by
  rcases step_cases hstep with ⟨a, rfl, hmove⟩ | ⟨c, rfl, hmove⟩ | ⟨rfl, hmove⟩
  · cases hmove with
    | loaded hpc | closed hpc | stored hpc => exact .inr (by simp [debt, Label.party, hpc])
    | told hpc => exact .inl (by simp [notifies, hpc])
    | tested hpc | cleared hpc | copied hpc | timedOut hpc | failed hpc | unmatched hpc
    | reported hpc | batchDone hpc | refused hpc | accepted hpc | miscast hpc | unregistered hpc
    | skipped hpc | registered hpc | pushed hpc | announced hpc | erased hpc | stale hpc =>
      simp [debt, Label.party, hpc] at hdebt
  · cases hmove with
    | unregistered hpc => exact .inr (by simp [debt, Label.party, hpc])
    | handedOver hpc => exact .inl (by simp [notifies, hpc])
    | started hpc | loaded hpc | closed hpc | stored hpc | told hpc | returned hpc =>
      simp [debt, Label.party, hpc] at hdebt
  · exact absurd hdebt (Nat.lt_irrefl 0)

theorem debt_other (hstep : s.step l = some s') {party : Party} (hother : party ≠ l.party) :
    s'.debt party = s.debt party := by
  rcases step_cases hstep with ⟨a, rfl, hmove⟩ | ⟨c, rfl, hmove⟩ | ⟨rfl, hmove⟩
  · cases party with
    | monitor => exact absurd rfl hother
    | dropAll call => cases hmove <;> rfl
    | close => rfl
  · cases party with
    | monitor => cases hmove <;> rfl
    | dropAll call =>
      have hcall : call ≠ c := by
        rintro rfl
        exact hother rfl
      cases hmove <;> simp only [debt, Function.update_of_ne hcall]
    | close => rfl
  · cases party with
    | monitor => cases hmove <;> rfl
    | dropAll call => cases hmove <;> rfl
    | close => rfl

theorem exists_step_of_debt {party : Party} (hdebt : 0 < s.debt party) :
    ∃ l, l.party = party ∧ (s.step l).isSome = true ∧ s.locks l = false := by
  cases party with
  | monitor =>
    refine ⟨.monitor {}, rfl, ?_⟩
    cases hpc : s.monitor with
    | closing id stage batch =>
      cases stage <;> simp [step, monitorStep, closeSocket, locks, hpc]
    | telling => simp [step, monitorStep, locks, hpc]
    | _ => simp [debt, hpc] at hdebt
  | dropAll call =>
    refine ⟨.dropAll call, rfl, ?_⟩
    cases hpc : s.drops call with
    | removing dropped todo => cases todo <;> simp [step, dropStep, locks, hpc]
    | _ => simp [debt, hpc] at hdebt
  | close => exact absurd hdebt (Nat.lt_irrefl 0)

end BroadcastServer

namespace BroadcastWaiters

open BroadcastServer (Control reachable_control)

variable {s s' : BroadcastWaiters} {call : Nat}

/-- The steps of the party up to and with its `notify_all`. -/
def debt (s : BroadcastWaiters) (party : Party) : Nat :=
  if s.owes party then 1
  else if s.server.debt party = 0 then 0
  else s.server.debt party + 1

def Label.own (party : Party) : Label → Bool
  | .server l => l.party == party
  | .notify other => other == party
  | .wait _ _ => false

def Label.pays (party : Party) : Label → Bool
  | .notify other => other == party
  | .server _ | .wait _ _ => false

/-- A call that waits although the list is as it wants it is owed a notification. -/
structure Told (s : BroadcastWaiters) : Prop where
  blocking : ∀ call, s.waiters call = .blocking → s.server.isMonitoring = true →
    s.server.predicate (s.kinds call) = false
  blocked : ∀ call, s.waiters call = .blocked → s.server.isMonitoring = true →
    s.server.predicate (s.kinds call) = true → ∃ party, 0 < s.debt party

theorem isMonitoring_of_step {server server' : BroadcastServer} {l : BroadcastServer.Label}
    (hstep : server.step l = some server') (hmonitoring : server'.isMonitoring = true) :
    server.isMonitoring = true := by
  rcases BroadcastServer.step_cases hstep with ⟨a, rfl, hmove⟩ | ⟨c, rfl, hmove⟩ | ⟨rfl, hmove⟩
  · cases hmove <;> exact hmonitoring
  · cases hmove <;> exact hmonitoring
  · cases hmove with
    | stopped hpc => cases hmonitoring
    | _ => exact hmonitoring

theorem predicate_of_activeClients {server server' : BroadcastServer}
    (hmonitoring : server'.isMonitoring = server.isMonitoring)
    (hactive : server'.activeClients = server.activeClients) (kind : WaitKind) :
    server'.predicate kind = server.predicate kind := by
  cases kind <;> simp only [BroadcastServer.predicate, hmonitoring, hactive]

theorem debt_pos_of_owes {party : Party} (h : s.owes party = true) : 0 < s.debt party := by
  simp [debt, h]

theorem debt_pos_of_server {party : Party} (h : 0 < s.server.debt party) : 0 < s.debt party := by
  unfold debt
  split
  · exact Nat.one_pos
  · rw [if_neg (Nat.ne_of_gt h)]
    exact Nat.succ_pos _

theorem debt_server {l : BroadcastServer.Label} {server : BroadcastServer}
    (howes : s.owes l.party = false) (hserver : s.server.step l = some server)
    (hs' : s' = { s with
      server := server
      owes := Function.update s.owes l.party (s.server.notifies l) }) (party : Party) :
    (party ≠ l.party → s'.debt party = s.debt party) ∧
      (party = l.party → 0 < s.debt party → 0 < s'.debt party ∧ s'.debt party < s.debt party) := by
  subst hs'
  constructor
  · intro hother
    have hdebt := BroadcastServer.debt_other hserver hother
    simp only [debt, Function.update_of_ne hother, hdebt]
  · rintro rfl hpos
    have hserverPos : 0 < s.server.debt l.party := by
      by_contra hzero
      simp [debt, howes, Nat.eq_zero_of_not_pos hzero] at hpos
    have hold : s.debt l.party = s.server.debt l.party + 1 := by
      simp [debt, howes, Nat.ne_of_gt hserverPos]
    rcases BroadcastServer.debt_own hserver hserverPos with hnotifies | ⟨hpos', hlt⟩
    · simp only [debt, Function.update_self, hnotifies, if_pos]
      simp only [debt, howes] at hold ⊢
      omega
    · cases hnotifies : s.server.notifies l with
      | true =>
        rw [hold]
        simp only [debt, Function.update_self, if_pos]
        omega
      | false =>
        rw [hold]
        simp only [debt, Function.update_self, Bool.false_eq_true, if_false,
          if_neg (Nat.ne_of_gt hpos')]
        omega

theorem Told.server (h : Told s) {fd : Int} (hreach : Reachable BroadcastWaiters.step (opened fd) s)
    {l : BroadcastServer.Label} {server : BroadcastServer} (howes : s.owes l.party = false)
    (hserver : s.server.step l = some server)
    (hstep : s.step (.server l) = some { s with
      server := server
      owes := Function.update s.owes l.party (s.server.notifies l) }) :
    Told { s with
      server := server
      owes := Function.update s.owes l.party (s.server.notifies l) } where
  blocking call hblocking hmonitoring := by
    have hheld : holds (s.waiters call) = true := by
      rw [hblocking]
      rfl
    have hactive := activeClients_of_held hreach hheld hstep
    have hmonitored := isMonitoring_of_step hserver hmonitoring
    have hsame := predicate_of_activeClients (hmonitoring.trans hmonitored.symm) hactive
      (s.kinds call)
    exact hsame.trans (h.blocking call hblocking hmonitored)
  blocked call hblocked hmonitoring hpredicate := by
    have hcontrol := reachable_control (reachable_server hreach)
    have hmonitored := isMonitoring_of_step hserver hmonitoring
    rcases BroadcastServer.debt_of_change hcontrol hserver hmonitoring with hactive | hpos |
      hnotifies
    · have hsame := predicate_of_activeClients (hmonitoring.trans hmonitored.symm) hactive
        (s.kinds call)
      obtain ⟨party, hpos⟩ := h.blocked call hblocked hmonitored (hsame.symm.trans hpredicate)
      obtain ⟨hother, hown⟩ := debt_server howes hserver rfl party
      by_cases hparty : party = l.party
      · exact ⟨party, (hown hparty hpos).1⟩
      · exact ⟨party, hother hparty ▸ hpos⟩
    · exact ⟨l.party, debt_pos_of_server hpos⟩
    · exact ⟨l.party, debt_pos_of_owes (by simpa using hnotifies)⟩

theorem Told.waitMove (h : Told s) {call : Nat} {event : WaitEvent}
    (hmove : WaitMove s call event s') : Told s' := by
  have hserver : s'.server = s.server ∧ s'.owes = s.owes := by cases hmove <;> exact ⟨rfl, rfl⟩
  have hdebts : ∀ party, s'.debt party = s.debt party := by
    intro party
    simp only [debt, hserver.1, hserver.2]
  have hothers : ∀ c, c ≠ call → s'.waiters c = s.waiters c ∧ s'.kinds c = s.kinds c := by
    intro c hc
    cases hmove <;> simp [unlock, setWaiter, hc]
  constructor
  · intro c hblocking hmonitoring
    rw [hserver.1] at hmonitoring ⊢
    by_cases hc : c = call
    · subst hc
      cases hmove with
      | refused hpc htest => exact htest
      | _ => simp [unlock, setWaiter] at hblocking
    · rw [(hothers c hc).2]
      exact h.blocking c ((hothers c hc).1 ▸ hblocking) hmonitoring
  · intro c hblocked hmonitoring hpredicate
    rw [hserver.1] at hmonitoring hpredicate
    by_cases hc : c = call
    · subst hc
      cases hmove with
      | blocked hpc =>
        -- it was tested under the mutex, which the call has held since
        have hfalse := h.blocking c hpc hmonitoring
        simp only [unlock, setWaiter, hfalse, Bool.false_eq_true] at hpredicate
      | _ => simp [unlock, setWaiter] at hblocked
    · rw [(hothers c hc).2] at hpredicate
      obtain ⟨party, hpos⟩ :=
        h.blocked c ((hothers c hc).1 ▸ hblocked) hmonitoring hpredicate
      exact ⟨party, (hdebts party).symm ▸ hpos⟩

theorem Told.step (h : Told s) {fd : Int} (hreach : Reachable BroadcastWaiters.step (opened fd) s)
    {label : Label} (hstep : s.step label = some s') : Told s' := by
  rcases step_cases hstep with ⟨l, server, rfl, howes, hlocks, hserver, rfl⟩ |
    ⟨party, rfl, howes, rfl⟩ | ⟨call, event, rfl, hmove⟩
  · exact h.server hreach howes hserver hstep
  · constructor
    · intro call hblocking hmonitoring
      exact h.blocking call (notified_eq hblocking (by simp)) hmonitoring
    · intro call hblocked
      cases hpc : s.waiters call <;> simp [hpc, WaitPc.notified] at hblocked
  · exact h.waitMove hmove

theorem told_opened (fd : Int) : Told (opened fd) := by
  constructor <;> simp [opened]

/-! ### The notification comes -/

theorem exists_own_step {party : Party} (hpos : 0 < s.debt party) :
    ∃ label, Label.own party label = true ∧ (s.step label).isSome = true := by
  cases howes : s.owes party with
  | true => exact ⟨.notify party, by simp [Label.own], by simp [BroadcastWaiters.step, howes]⟩
  | false =>
    have hserver : 0 < s.server.debt party := by
      by_contra hzero
      simp [debt, howes, Nat.eq_zero_of_not_pos hzero] at hpos
    obtain ⟨l, rfl, hsome, hlocks⟩ := BroadcastServer.exists_step_of_debt hserver
    refine ⟨.server l, by simp [Label.own], ?_⟩
    simp [BroadcastWaiters.step, howes, hlocks, hsome]

theorem exists_notify_of_debt {party : Party} {labels : List Label}
    (hexec : exec step s labels = some s') (hpos : 0 < s.debt party)
    (henough : s.debt party ≤ labels.countP (Label.own party)) :
    ∃ label ∈ labels, Label.pays party label = true := by
  refine @exists_payment_of_debt _ _ step (fun s => s.debt party) _ _ ?_ ?_ _ _ _ hexec hpos henough
  · intro s label s' hstep hpos hown
    rcases step_cases hstep with ⟨l, server, rfl, howes, -, hserver, hs'⟩ |
      ⟨other, rfl, -, -⟩ | ⟨call, event, rfl, -⟩
    · have hparty : party = l.party := (beq_iff_eq.mp hown).symm
      exact .inr ((debt_server howes hserver hs' party).2 hparty hpos)
    · exact .inl hown
    · cases hown
  · intro s label s' hstep hpos hother
    have hkept : s'.debt party = s.debt party := by
      rcases step_cases hstep with ⟨l, server, rfl, howes, -, hserver, hs'⟩ |
        ⟨other, rfl, -, rfl⟩ | ⟨call, event, rfl, hmove⟩
      · have hparty : party ≠ l.party := by
          rintro rfl
          simp [Label.own] at hother
        exact (debt_server howes hserver hs' party).1 hparty
      · have hparty : party ≠ other := by
          rintro rfl
          simp [Label.own] at hother
        simp only [debt, Function.update_of_ne hparty]
      · cases hmove <;> rfl
    exact ⟨hkept ▸ hpos, Nat.le_of_eq hkept⟩

theorem not_blocked_of_notify {party : Party} (hstep : s.step (.notify party) = some s') (call : Nat) :
    s'.waiters call ≠ .blocked := by
  rcases step_cases hstep with ⟨l, server, hlabel, -⟩ | ⟨other, -, -, rfl⟩ |
    ⟨call, event, hlabel, -⟩
  · cases hlabel
  · cases hpc : s.waiters call <;> simp [hpc, WaitPc.notified]
  · cases hlabel

/-- The call is about to be woken: some party owes it a notification, can always make its next step,
    and in every run in which that party makes as many steps as it has left, whatever the others
    do in between, the call is not blocked at some point. -/
def AboutToWake (s : BroadcastWaiters) (call : Nat) : Prop :=
  ∃ party, (∃ label, Label.own party label = true ∧ (s.step label).isSome = true) ∧
    ∀ labels s', exec step s labels = some s' →
      s.debt party ≤ labels.countP (Label.own party) →
        ∃ before m, before <+: labels ∧ exec step s before = some m ∧ m.waiters call ≠ .blocked

/-- **No wakeup is lost.**  In every run, a call of `await` or `awaitClose` that is blocked while the
    server is monitoring and the active list is as the call wants it is about to be woken. -/
theorem aboutToWake_of_blocked {fd : Int} {labels : List Label}
    (hexec : exec step (opened fd) labels = some s) (hblocked : s.waiters call = .blocked)
    (hmonitoring : s.server.isMonitoring = true)
    (hpredicate : s.server.predicate (s.kinds call) = true) : s.AboutToWake call := by
  have htold : Told s ∧ Reachable step (opened fd) s := by
    refine exec_invariant (I := fun s => Told s ∧ Reachable step (opened fd) s) ?_ hexec
      ⟨told_opened fd, .refl _⟩
    rintro s label s' ⟨htold, hreach⟩ hstep
    exact ⟨htold.step hreach hstep, hreach.tail hstep⟩
  obtain ⟨party, hpos⟩ := htold.1.blocked call hblocked hmonitoring hpredicate
  refine ⟨party, exists_own_step hpos, fun labels s' hrun henough => ?_⟩
  obtain ⟨label, hmem, hpays⟩ := exists_notify_of_debt hrun hpos henough
  obtain ⟨before, after, rfl⟩ := List.append_of_mem hmem
  obtain ⟨m, hbefore, hrest⟩ := exec_append_eq_some.mp hrun
  obtain ⟨next, hnext, -⟩ := exec_cons_eq_some.mp hrest
  have hlabel : label = .notify party := by
    cases label with
    | notify other => simpa [Label.pays] using hpays
    | server | wait => cases hpays
  refine ⟨before ++ [label], next, ?_, ?_, ?_⟩
  · exact ⟨after, by simp⟩
  · exact exec_append_eq_some.mpr ⟨m, hbefore, exec_cons_eq_some.mpr ⟨next, hnext, rfl⟩⟩
  · exact not_blocked_of_notify (hlabel ▸ hnext) call

/-- A call of `awaitClose` blocks on the one client there is, which `dropAll` then takes off the
    list. -/
def droppedInWait : List Label :=
  acceptOne 4 ++ [.wait 0 (.start .awaitClose)] ++ List.replicate 3 (.wait 0 .go) ++
    [.server (.dropAll 0)]

theorem aboutToWake_droppedInWait : ∃ s, exec step (opened 3) droppedInWait = some s ∧
    s.debt (.dropAll 0) = 3 ∧ s.AboutToWake 0 :=
  ⟨_, rfl, rfl, @aboutToWake_of_blocked _ 0 3 droppedInWait rfl rfl rfl rfl⟩

end BroadcastWaiters

end SecuritySocket
