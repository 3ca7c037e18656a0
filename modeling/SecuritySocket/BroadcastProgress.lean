import SecuritySocket.BroadcastEndOfStream
import SecuritySocket.Progress

/-!
# The broadcast server makes progress

A round of the monitor is finite, since it polls finitely many descriptors and does finitely many
things for each; a `dropAll` takes each client once; and `close` has each client of the list to
close.  Whoever holds `_clients_mtx` can go on.  So `close` returns, however its steps and those of
the monitor and of any number of `dropAll` calls come one after another, and a client whose
connection has been reset does not stay on the list.
-/

namespace SecuritySocket

/-! ### What is left to do -/

/-- The steps of the monitor up to the top of its loop, or from there up to the dispatch.  Each entry
    of a batch may be a client that is accepted. -/
def MonitorPc.weight (entries : Nat) : MonitorPc → Nat
  | .exited | .faulted => 0
  | .top => 20 * entries + 4
  | .clearing => 20 * entries + 3
  | .waiting => 20 * entries + 2
  | .polling _ handle => 20 * handle.length + 1
  | .dispatching batch => 20 * batch.length
  | .registering _ batch => 20 * batch.length + 19
  | .pushing _ batch => 20 * batch.length + 18
  | .announcing _ batch => 20 * batch.length + 1
  | .erasing _ batch => 20 * batch.length + 5
  | .closing _ .load batch => 20 * batch.length + 4
  | .closing _ (.call _) batch => 20 * batch.length + 3
  | .closing _ .store batch => 20 * batch.length + 2
  | .telling _ batch => 20 * batch.length + 1

def DropPc.weight : DropPc → Nat
  | .idle | .returned => 0
  | .removing dropped todo => 4 * dropped.length + todo.length + 2
  | .closing _ _ [] => 1
  | .closing .load _ (_ :: todo) => 4 * todo.length + 5
  | .closing (.call _) _ (_ :: todo) => 4 * todo.length + 4
  | .closing .store _ (_ :: todo) => 4 * todo.length + 3
  | .telling _ _ todo => 4 * todo.length + 2

/-- The steps of `close`; `active` clients are on the list that it has not locked yet. -/
def ClosePc.weight (active : Nat) : ClosePc → Nat
  | .idle => 3 * active + 5
  | .joining => 3 * active + 4
  | .locking => 3 * active + 3
  | .closing _ [] => 2
  | .closing .load (_ :: todo) => 3 * todo.length + 5
  | .closing (.call _) (_ :: todo) => 3 * todo.length + 4
  | .closing .store (_ :: todo) => 3 * todo.length + 3
  | .finishing => 1
  | .returned => 0

@[simp] theorem DropPc.weight_load (dropped todo : List Nat) :
    (DropPc.closing .load dropped todo).weight = 4 * todo.length + 1 := by
  cases todo <;> rfl

@[simp] theorem ClosePc.weight_load (active : Nat) (todo : List Nat) :
    (ClosePc.closing .load todo).weight active = 3 * todo.length + 2 := by
  cases todo <;> rfl

theorem ClosePc.weight_le {active active' : Nat} (h : active' ≤ active) (pc : ClosePc) :
    pc.weight active' ≤ pc.weight active := by
  cases pc with
  | idle | joining | locking => simp only [ClosePc.weight]; omega
  | closing stage todo => cases todo <;> cases stage <;> exact Nat.le_refl _
  | finishing | returned => exact Nat.le_refl _

theorem ClosePc.weight_succ_le (active : Nat) (pc : ClosePc) :
    pc.weight (active + 1) ≤ pc.weight active + 3 := by
  cases pc with
  | idle | joining | locking => simp only [ClosePc.weight]; omega
  | closing stage todo => cases todo <;> cases stage <;> simp [ClosePc.weight]
  | finishing | returned => simp [ClosePc.weight]

theorem MonitorPc.weight_le {entries entries' : Nat} (h : entries' ≤ entries) (pc : MonitorPc) :
    pc.weight entries' ≤ pc.weight entries := by
  cases pc with
  | top | clearing | waiting => simp only [MonitorPc.weight]; omega
  | closing id stage batch => cases stage <;> exact Nat.le_refl _
  | _ => exact Nat.le_refl _

namespace BroadcastServer

open Transition SocketMultiEventListener

variable {s s' : BroadcastServer} {label : Label}

/-- What is left for all of them: a client on the list is still to be dropped, or closed. -/
noncomputable def weight (s : BroadcastServer) : Nat :=
  s.monitor.weight s.listener.handle.length + s.closer.weight s.activeClients.length +
    total DropPc.weight s.drops + 5 * s.activeClients.length

theorem length_collected {contexts : List ContextPtr} {handle : List PollFd}
    {revents : List Revents} {reported : List (Reported ContextPtr)}
    (hcollect : collect s.fdOf contexts (handle.zip revents) = some reported) :
    reported.length ≤ handle.length := by
  have hreports := congrArg List.length (collect_reports hcollect).1
  rw [List.length_map] at hreports
  calc reported.length = (reports (handle.zip revents)).length := hreports
    _ ≤ (handle.zip revents).length := by
      rw [reports, List.length_map]
      exact List.length_filter_le _ _
    _ ≤ handle.length := by
      rw [List.length_zip]
      exact Nat.min_le_left _ _

theorem MonitorMove.weight_lt {a : MonitorAnswer} (hmove : MonitorMove s a s') :
    s'.monitor = .top ∨ s'.weight < s.weight := by
  cases hmove with
  | timedOut | batchDone => exact .inl rfl
  | tested hpc =>
    right
    cases hmonitoring : s.isMonitoring <;> simp [weight, hpc, MonitorPc.weight]
  | reported hpc hret hcollect =>
    have hle := length_collected hcollect
    right
    simp only [weight, hpc, MonitorPc.weight, List.length_map]
    omega
  | registered hpc =>
    right
    simp only [weight, hpc, MonitorPc.weight]
    omega
  | pushed hpc =>
    have hcloser := ClosePc.weight_succ_le s.activeClients.length s.closer
    right
    simp only [weight, hpc, MonitorPc.weight, List.length_append, List.length_singleton]
    omega
  | @erased id batch hpc hfree hactive =>
    have hle : (s.activeClients.erase id).length ≤ s.activeClients.length := List.length_erase_le
    have hcloser := ClosePc.weight_le hle s.closer
    right
    simp only [weight, hpc, MonitorPc.weight]
    omega
  | cleared hpc | copied hpc | failed hpc | unmatched hpc | refused hpc | accepted hpc
  | miscast hpc | unregistered hpc | skipped hpc | announced hpc | stale hpc | loaded hpc
  | closed hpc | stored hpc | told hpc =>
    right
    simp only [weight, hpc, MonitorPc.weight, List.length_cons]
    omega

theorem DropMove.weight_lt {call : Nat} (hbegun : Begun .idle s.drops) (hmove : DropMove s call s') :
    s'.weight < s.weight + 3 * if s.drops call = .idle then 1 else 0 := by
  have htotal := fun pc => @total_update _ _ _ _ DropPc.weight _ hbegun rfl call pc
  cases hmove with
  | started hpc hfree =>
    have hsum := htotal (.removing s.activeClients s.activeClients)
    have hcloser := ClosePc.weight_le (Nat.zero_le s.activeClients.length) s.closer
    simp only [hpc, DropPc.weight] at hsum
    simp only [weight, hpc, if_true, List.length_nil]
    omega
  | @unregistered id dropped todo hpc =>
    have hsum := htotal (.removing dropped todo)
    have hentries : (s.listener.removeEvent (.peer id) (s.fdOf (.peer id))).handle.length ≤
      s.listener.handle.length := List.length_eraseP_le
    have hmonitor := MonitorPc.weight_le hentries s.monitor
    simp only [hpc, DropPc.weight, List.length_cons] at hsum
    simp only [weight]
    omega
  | @handedOver dropped hpc =>
    have hsum := htotal (.closing .load dropped dropped)
    rw [DropPc.weight_load] at hsum
    simp only [hpc, DropPc.weight, List.length_nil] at hsum
    simp only [weight]
    omega
  | @loaded id dropped todo hpc =>
    have hsum := htotal (.closing (.call (s.clients id).socket.socket) dropped (id :: todo))
    simp only [hpc, DropPc.weight] at hsum
    simp only [weight]
    omega
  | @closed id fd dropped todo hpc =>
    have hsum := htotal (.closing .store dropped (id :: todo))
    simp only [hpc, DropPc.weight] at hsum
    simp only [weight]
    omega
  | @stored id dropped todo hpc =>
    have hsum := htotal (.telling id dropped todo)
    simp only [hpc, DropPc.weight] at hsum
    simp only [weight]
    omega
  | @told id dropped todo hpc =>
    have hsum := htotal (.closing .load dropped todo)
    rw [DropPc.weight_load] at hsum
    simp only [hpc, DropPc.weight] at hsum
    simp only [weight]
    omega
  | @returned stage dropped hpc =>
    have hsum := htotal .returned
    simp only [hpc, DropPc.weight] at hsum
    simp only [weight]
    omega

theorem CloseMove.weight_lt (hmove : CloseMove s s') : s'.weight < s.weight := by
  cases hmove with
  | drained hpc =>
    simp only [weight, hpc, ClosePc.weight, List.length_nil]
    omega
  | locked hpc | stored hpc =>
    simp only [weight, hpc, ClosePc.weight_load]
    simp only [ClosePc.weight]
    omega
  | stopped hpc | joined hpc | loaded hpc | closed hpc | finished hpc =>
    simp only [weight, hpc, ClosePc.weight]
    omega

def begins (s : BroadcastServer) : Label → Nat
  | .dropAll call => if s.drops call = .idle then 1 else 0
  | .monitor _ | .close => 0

theorem begun_step (h : Begun .idle s.drops) (hstep : s.step label = some s') :
    Begun .idle s'.drops := by
  rcases step_cases hstep with ⟨a, rfl, hmove⟩ | ⟨call, rfl, hmove⟩ | ⟨rfl, hmove⟩
  · cases hmove <;> exact h
  · cases hmove <;> exact h.update call _
  · cases hmove <;> exact h

/-- The monitor comes to the top of its loop with the step into `s'`. -/
def Rounds (label : Label) (s' : BroadcastServer) : Prop :=
  (∃ a, label = .monitor a) ∧ s'.monitor = .top

theorem weight_step (h : Begun .idle s.drops) (hstep : s.step label = some s') :
    Rounds label s' ∨ s'.weight < s.weight + 3 * s.begins label := by
  rcases step_cases hstep with ⟨a, rfl, hmove⟩ | ⟨call, rfl, hmove⟩ | ⟨rfl, hmove⟩
  · rcases hmove.weight_lt with htop | hlt
    · exact .inl ⟨⟨a, rfl⟩, htop⟩
    · exact .inr (Nat.lt_of_lt_of_le hlt (Nat.le_add_right _ _))
  · exact .inr (hmove.weight_lt h)
  · exact .inr (Nat.lt_of_lt_of_le hmove.weight_lt (Nat.le_add_right _ _))

/-! ### The accept socket -/

/-- No poll reports a hangup of the accept socket. -/
def spares (s : BroadcastServer) : Label → Bool
  | .monitor a =>
    match s.monitor, a.poll with
    | .polling _ handle, .ready revents =>
      (handle.zip revents).all fun entry => entry.1.fd != s.serverContext.fd || !entry.2.hangup
    | _, _ => true
  | .dropAll _ | .close => true

/-- The monitor has not crashed, and is not going to on the accept context. -/
structure Intact (s : BroadcastServer) : Prop where
  type : s.serverContext.type ≠ .disconnected
  running : s.monitor ≠ .faulted

/-- The accept context keeps its type, or is given one for what the poll reported. -/
theorem type_reported (href : Referenced s) {contexts : List ContextPtr} {handle : List PollFd}
    {revents : List Revents} {reported : List (Reported ContextPtr)}
    (hpc : s.monitor = .polling contexts handle)
    (hcollect : collect s.fdOf contexts (handle.zip revents) = some reported)
    (hspared : ∀ entry ∈ handle.zip revents, entry.1.fd = s.serverContext.fd →
      entry.2.hangup = false) (htype : s.serverContext.type ≠ .disconnected) :
    (s.storeTypes reported).serverContext.type ≠ .disconnected := by
  obtain ⟨hsub, hnodup⟩ := href.snapshot contexts handle hpc
  have honce := nodup_collected (hnodup.sublist hsub) hcollect
  change ((s.storeTypes reported).context .server).type ≠ .disconnected
  by_cases hin : ContextPtr.server ∈ reported.map (·.context)
  · obtain ⟨e, he, hcontext⟩ := List.mem_map.mp hin
    obtain ⟨entry, hentry, hzero, hfd, hrevents⟩ := exists_reporting hcollect he
    have hserver : entry.1.fd = s.serverContext.fd := by
      rw [hfd, ← ((collect_reports hcollect).2 e he).2, hcontext]
      rfl
    rw [← hcontext, type_storeTypes honce he, ne_eq, eventType_eq_disconnected (hrevents ▸ hzero),
      ← hrevents, hspared entry hentry hserver]
    exact Bool.false_ne_true
  · rw [context_storeTypes_of_not_mem hin]
    exact htype

theorem Referenced.exists_collected (href : Referenced s) {contexts : List ContextPtr}
    {handle : List PollFd} (hpc : s.monitor = .polling contexts handle) (revents : List Revents) :
    collect s.fdOf contexts (handle.zip revents) ≠ none := by
  have hsub := (href.snapshot contexts handle hpc).1
  obtain ⟨reported, hcollect⟩ := @exists_collect _ s.fdOf contexts (handle.zip revents)
    fun entry hentry => hsub.subset (List.mem_map_of_mem (List.of_mem_zip hentry).1)
  simp [hcollect]

theorem Intact.step (h : Intact s) (href : Referenced s) (hspares : s.spares label = true)
    (hstep : BroadcastServer.step s label = some s') : Intact s' := by
  rcases step_cases hstep with ⟨a, rfl, hmove⟩ | ⟨call, rfl, hmove⟩ | ⟨rfl, hmove⟩
  · cases hmove with
    | unmatched hpc hret hcollect => exact absurd hcollect (href.exists_collected hpc _)
    | miscast hpc htype => exact absurd htype h.type
    | @reported contexts handle revents reported serverContext clients hpc hret hcollect hretyped
        hstore =>
      have hspared : ∀ entry ∈ handle.zip revents, entry.1.fd = s.serverContext.fd →
          entry.2.hangup = false := by
        simpa [spares, hpc, hret, or_iff_not_imp_left] using hspares
      have htype := type_reported href hpc hcollect hspared h.type
      rw [hstore] at htype
      refine ⟨htype, ?_⟩
      intro hfaulted
      cases hfaulted
    | tested hpc =>
      refine ⟨h.type, ?_⟩
      cases hmonitoring : s.isMonitoring <;> simp
    | _ =>
      refine ⟨h.type, ?_⟩
      intro hfaulted
      cases hfaulted
  · cases hmove <;> exact ⟨h.type, h.running⟩
  · cases hmove <;> exact ⟨h.type, h.running⟩

/-- Once a hangup of the accept socket is stored, the monitor crashes on it in the same batch. -/
def Doomed (s : BroadcastServer) : Prop :=
  s.serverContext.type = .disconnected →
    s.monitor = .faulted ∨ ContextPtr.server ∈ s.monitor.batch

theorem Doomed.monitorMove (h : Doomed s) {a : MonitorAnswer} (hmove : MonitorMove s a s') :
    Doomed s' := by
  have hdoomed : ∀ {pc : MonitorPc}, s.monitor = pc → s.serverContext.type = .disconnected →
      pc = .faulted ∨ ContextPtr.server ∈ pc.batch := fun hpc htype => hpc ▸ h htype
  intro htype
  cases hmove with
  | @reported contexts handle revents reported serverContext clients hpc hret hcollect hretyped
      hstore =>
    refine .inr ?_
    by_contra hnot
    -- the accept context was not reported, so it was disconnected before the poll
    have hsame := context_storeTypes_of_not_mem (s := s) hnot
    rw [hstore] at hsame
    have htype' : s.serverContext.type = .disconnected := (congrArg (·.type) hsame).symm.trans htype
    simpa [MonitorPc.batch] using hdoomed hpc htype'
  | refused hpc haccept | accepted hpc haccept =>
    rcases hdoomed hpc htype with hfaulted | hin
    · cases hfaulted
    · rcases List.mem_cons.mp hin with rfl | hin
      · cases haccept.symm.trans htype
      · exact .inr hin
  | unregistered hpc hdisconnected =>
    refine .inr ?_
    simpa [MonitorPc.batch] using hdoomed hpc htype
  | skipped hpc hother =>
    rcases hdoomed hpc htype with hfaulted | hin
    · cases hfaulted
    · rcases List.mem_cons.mp hin with rfl | hin
      · exact absurd htype hother.2
      · exact .inr hin
  | tested hpc => simpa [MonitorPc.batch] using hdoomed hpc htype
  | unmatched | miscast => exact .inl rfl
  | _ hpc => simpa [MonitorPc.batch] using hdoomed hpc htype

theorem reachable_doomed {fd : Int} (h : Reachable step (opened fd) s) : Doomed s := by
  refine h.invariant (I := Doomed) (fun htype => by cases htype) fun s label s' hs hstep => ?_
  rcases step_cases hstep with ⟨a, rfl, hmove⟩ | ⟨call, rfl, hmove⟩ | ⟨rfl, hmove⟩
  · exact hs.monitorMove hmove
  · cases hmove <;> exact hs
  · cases hmove <;> exact hs

structure Spared (fd : Int) (s : BroadcastServer) : Prop where
  reach : Reachable step (opened fd) s
  intact : Intact s
  begun : Begun .idle s.drops

theorem Spared.step {fd : Int} (h : Spared fd s) (hspares : s.spares label = true)
    (hstep : BroadcastServer.step s label = some s') : Spared fd s' where
  reach := h.reach.tail hstep
  intact := h.intact.step (reachable_referenced h.reach) hspares hstep
  begun := begun_step h.begun hstep

theorem Spared.run {fd : Int} {labels : List Label}
    (hexec : exec BroadcastServer.step (opened fd) labels = some s)
    (hspares : Meets BroadcastServer.step (fun s label => s.spares label = true) (opened fd) labels) :
    Spared fd s :=
  exec_invariant_of_meets (fun _ _ _ h hguard hstep => h.step hguard hstep) hexec hspares
    ⟨.refl _, ⟨by simp [opened], by simp [opened]⟩, begun_const⟩

/-- At every top of the loop the monitor has survived its batch. -/
theorem Spared.top {fd : Int} (hreach : Reachable BroadcastServer.step (opened fd) s)
    (htop : s.monitor = .top) : Spared fd s where
  reach := hreach
  intact := by
    refine ⟨fun htype => ?_, by simp [htop]⟩
    simpa [htop, MonitorPc.batch] using reachable_doomed hreach htype
  begun := hreach.invariant begun_const fun _ _ _ hs hstep => begun_step hs hstep

/-! ### Some step is enabled -/

/-- Some party can go on, without a new call and without a hangup of the accept socket. -/
def Moving (s : BroadcastServer) : Prop :=
  ∃ label s', s.spares label = true ∧ s.begins label = 0 ∧ s.step label = some s'

theorem moving_of_isSome (hspares : s.spares label = true) (hbegins : s.begins label = 0)
    (hstep : (s.step label).isSome = true) : Moving s := by
  obtain ⟨s', hs'⟩ := Option.isSome_iff_exists.mp hstep
  exact ⟨label, s', hspares, hbegins, hs'⟩

theorem moving_of_dropAll {call : Nat}
    (hcall : ¬ (s.drops call = .idle ∨ s.drops call = .returned)) : Moving s := by
  rw [not_or] at hcall
  refine @moving_of_isSome s (.dropAll call) rfl (by simp [begins, hcall.1]) ?_
  cases hpc : s.drops call with
  | idle => exact absurd hpc hcall.1
  | returned => exact absurd hpc hcall.2
  | removing dropped todo => cases todo <;> simp [step, dropStep, hpc]
  | closing stage dropped todo =>
    cases todo with
    | nil => simp [step, dropStep, hpc]
    | cons id todo => cases stage <;> simp [step, dropStep, closeSocket, hpc]
  | telling id dropped todo => simp [step, dropStep, hpc]

theorem moving_of_close (hpc : s.closer.holdsLock = true ∨ s.closer = .finishing) : Moving s := by
  refine @moving_of_isSome s .close rfl rfl ?_
  cases hcloser : s.closer with
  | closing stage todo =>
    cases todo with
    | nil => simp [step, closeStep, hcloser]
    | cons id todo => cases stage <;> simp [step, closeStep, closeSocket, hcloser]
  | finishing => simp [step, closeStep, hcloser]
  | idle | joining | locking | returned => simp [hcloser, ClosePc.holdsLock] at hpc

theorem Control.moving (h : Control s) (hheld : s.clientsMtx ≠ none) : Moving s := by
  cases hmtx : s.clientsMtx with
  | none => exact absurd hmtx hheld
  | some party =>
    cases party with
    | monitor => exact absurd hmtx h.free
    | close => exact moving_of_close (.inl (h.closing.mp hmtx))
    | dropAll call =>
      have hholds := (h.removing call).mp hmtx
      refine @moving_of_dropAll s call ?_
      rintro (hidle | hreturned)
      · simp [hidle, DropPc.holdsLock] at hholds
      · simp [hreturned, DropPc.holdsLock] at hholds

/-- While the lock is free the monitor can go on: the poll may time out, and `accept` fail. -/
theorem Intact.moving (h : Intact s) (hfree : s.clientsMtx = none) (hpc : s.monitor ≠ .exited) :
    Moving s := by
  refine @moving_of_isSome s (.monitor {}) ?_ rfl ?_
  · cases hmonitor : s.monitor <;> simp [spares, hmonitor]
  · cases hmonitor : s.monitor with
    | exited => exact absurd hmonitor hpc
    | faulted => exact absurd hmonitor h.running
    | top | waiting | registering | announcing | telling => simp [BroadcastServer.step, monitorStep, hmonitor]
    | clearing | pushing => simp [BroadcastServer.step, monitorStep, hmonitor, hfree]
    | polling contexts handle => simp [BroadcastServer.step, monitorStep, hmonitor, MultiPollReturn.consistent]
    | erasing id batch =>
      simp only [BroadcastServer.step, monitorStep, hmonitor, hfree, if_true]
      split <;> rfl
    | closing id stage batch => cases stage <;> simp [BroadcastServer.step, monitorStep, closeSocket, hmonitor]
    | dispatching batch =>
      cases batch with
      | nil => simp [BroadcastServer.step, monitorStep, hmonitor]
      | cons p batch =>
        simp only [BroadcastServer.step, monitorStep, hmonitor, dispatch]
        cases htype : (s.context p).type with
        | disconnected =>
          cases p with
          | server => exact absurd htype h.type
          | peer id => rfl
        | accept => simp [AcceptReturn.fits]
        | undefined | connect | read | write | readWrite => rfl

/-! ### `close` -/

def sparingStep : Budgeted BroadcastServer → Label → Option (Budgeted BroadcastServer) :=
  Budgeted.step spares begins step

/-- The session is over: `close` has returned, the thread has ended, and every call of `dropAll` that
    was made has returned. -/
structure Ended (s : BroadcastServer) : Prop where
  returned : s.closer = .returned
  exited : s.monitor = .exited
  settled : NoDropAll s

/-- `close` has been called. -/
structure Closing (fd : Int) (s : BroadcastServer) : Prop where
  spared : Spared fd s
  begun : s.closer ≠ .idle

theorem Closing.moving {fd : Int} (h : Closing fd s) : Ended s ∨ Moving s := by
  have hcontrol := reachable_control h.spared.reach
  by_cases hsettled : NoDropAll s
  · by_cases hfree : s.clientsMtx = none
    · by_cases hexited : s.monitor = .exited
      · cases hcloser : s.closer with
        | idle => exact absurd hcloser h.begun
        | returned => exact .inl ⟨hcloser, hexited, hsettled⟩
        | joining =>
          exact .inr (@moving_of_isSome s .close rfl rfl (by simp [step, closeStep, hcloser, hexited]))
        | locking =>
          exact .inr (@moving_of_isSome s .close rfl rfl (by simp [step, closeStep, hcloser, hfree]))
        | closing stage todo => exact .inr (moving_of_close (.inl (by simp [hcloser, ClosePc.holdsLock])))
        | finishing => exact .inr (moving_of_close (.inr hcloser))
      · exact .inr (h.spared.intact.moving hfree hexited)
    · exact .inr (hcontrol.moving hfree)
  · obtain ⟨call, hcall⟩ := not_forall.mp hsettled
    exact .inr (moving_of_dropAll hcall)

theorem closer_step (hstep : s.step label = some s') (h : s.closer ≠ .idle) : s'.closer ≠ .idle := by
  rcases step_cases hstep with ⟨a, rfl, hmove⟩ | ⟨call, rfl, hmove⟩ | ⟨rfl, hmove⟩
  · cases hmove <;> exact h
  · cases hmove <;> exact h
  · cases hmove <;> simp

theorem Closing.step {fd : Int} (h : Closing fd s) (hspares : s.spares label = true)
    (hstep : BroadcastServer.step s label = some s') : Closing fd s' where
  spared := h.spared.step hspares hstep
  begun := closer_step hstep h.begun

/-- At the top of its loop, or past it, the monitor does not begin another round. -/
theorem Closing.leaves {fd : Int} (h : Closing fd s) (hpc : s.monitor = .top ∨ s.monitor = .exited)
    (hstep : BroadcastServer.step s label = some s') :
    (s'.monitor = .top ∨ s'.monitor = .exited) ∧ s'.weight < s.weight + 3 * s.begins label := by
  have hmonitoring : s.isMonitoring = false := by
    rw [← Bool.not_eq_true, (reachable_control h.spared.reach).monitoring]
    exact h.begun
  have hweight := weight_step h.spared.begun hstep
  rcases step_cases hstep with ⟨a, rfl, hmove⟩ | ⟨call, rfl, hmove⟩ | ⟨rfl, hmove⟩
  · cases hmove with
    | tested htop => simpa [Rounds, hmonitoring] using hweight
    | _ hother => rcases hpc with hpc | hpc <;> simp [hpc] at hother
  · refine ⟨?_, hweight.resolve_left (by simp [Rounds])⟩
    cases hmove <;> exact hpc
  · refine ⟨?_, hweight.resolve_left (by simp [Rounds])⟩
    cases hmove <;> exact hpc

/-- **`close` returns.**  In a run whose polls never report a hangup of the accept socket, from any
    state in which `close` has been called, and however often `dropAll` is still called: the
    session comes to its end. -/
theorem close_returns {fd : Int} {labels : List Label}
    (hexec : exec step (opened fd) labels = some s)
    (hspares : Meets step (fun s label => s.spares label = true) (opened fd) labels)
    (hclose : s.closer ≠ .idle) (calls : Nat) :
    Inevitable sparingStep (fun b => Ended b.state) ⟨s, calls⟩ := by
  have hstart : Closing fd s := ⟨.run hexec hspares, hclose⟩
  -- the round that is under way comes to its end
  have hround : Inevitable sparingStep
      (fun b => Ended b.state ∨ Closing fd b.state ∧ b.state.monitor = .top) ⟨s, calls⟩ := by
    refine @inevitable_of_budget _ _ _ _ _ _
      (fun s => Ended s ∨ Closing fd s ∧ s.monitor = .top) weight 3 ?_ ?_ _ hstart calls
    · intro s h
      exact h.moving.imp_left .inl
    · intro s label s' h hspares hstep
      have hclosing := h.step hspares hstep
      rcases weight_step h.spared.begun hstep with ⟨-, htop⟩ | hlt
      · exact .inl (.inr ⟨hclosing, htop⟩)
      · exact .inr ⟨hclosing, hlt⟩
  refine hround.trans ?_
  rintro ⟨s, left⟩ (hended | ⟨hclosing, htop⟩)
  · exact .now hended
  · refine @inevitable_of_budget _ _ _ _ _
      (fun s => Closing fd s ∧ (s.monitor = .top ∨ s.monitor = .exited)) _ weight 3 ?_ ?_ _
      ⟨hclosing, .inl htop⟩ left
    · rintro s ⟨h, -⟩
      exact h.moving
    · rintro s label s' ⟨h, hpc⟩ hspares hstep
      obtain ⟨hpc', hlt⟩ := h.leaves hpc hstep
      exact .inr ⟨⟨h.step hspares hstep, hpc'⟩, hlt⟩

/-- The monitor waits in `poll` and a `dropAll` holds the lock when `close` is called. -/
def closedWhileDropping : List Label :=
  acceptRound 4 [] ++ monitorRound 3 {} ++ [.dropAll 0, .close]

theorem close_returns_whileDropping : ∃ s, exec step (opened 3) closedWhileDropping = some s ∧
    s.drops 0 = .removing [0] [0] ∧ s.closer = .joining ∧
      Inevitable sparingStep (fun b => Ended b.state) ⟨s, 1⟩ :=
  ⟨_, rfl, rfl, rfl, @close_returns _ 3 closedWhileDropping rfl (by decide) (by decide) 1⟩

/-! ### The clients that have been dropped -/

variable {id : Nat}

def fails (s : BroadcastServer) : Label → Bool
  | .monitor a =>
    match s.monitor, a.poll with
    | .polling _ _, .error => true
    | _, _ => false
  | .dropAll _ | .close => false

/-- No poll fails, and none reports a hangup of the accept socket. -/
def sustains (s : BroadcastServer) (label : Label) : Bool := s.spares label && !s.fails label

def sustainedStep : Budgeted BroadcastServer → Label → Option (Budgeted BroadcastServer) :=
  Budgeted.step sustains begins step

structure Sustained (fd : Int) (s : BroadcastServer) : Prop where
  spared : Spared fd s
  closed : s.monitor = .exited → s.closer ≠ .idle

theorem sustains_iff : s.sustains label = true ↔ s.spares label = true ∧ s.fails label = false := by
  simp [sustains]

theorem Sustained.step {fd : Int} (h : Sustained fd s) (hsustains : s.sustains label = true)
    (hstep : BroadcastServer.step s label = some s') : Sustained fd s' := by
  obtain ⟨hspares, hfails⟩ := sustains_iff.mp hsustains
  refine ⟨h.spared.step hspares hstep, ?_⟩
  have hcontrol := reachable_control h.spared.reach
  intro hexited
  rcases step_cases hstep with ⟨a, rfl, hmove⟩ | ⟨call, rfl, hmove⟩ | ⟨rfl, hmove⟩
  · cases hmove with
    | tested hpc =>
      have hmonitoring : s.isMonitoring ≠ true := by
        intro hmonitoring
        simp [hmonitoring] at hexited
      rwa [ne_eq, hcontrol.monitoring] at hmonitoring
    | failed hpc hret => simp [fails, hpc, hret] at hfails
    | _ => cases hexited
  · have hsame : s'.monitor = s.monitor ∧ s'.closer = s.closer := by
      cases hmove <;> exact ⟨rfl, rfl⟩
    rw [hsame.2]
    exact h.closed (hsame.1 ▸ hexited)
  · have hsame : s'.monitor = s.monitor := by cases hmove <;> rfl
    exact closer_step hstep (h.closed (hsame ▸ hexited))

theorem Sustained.run {fd : Int} {labels : List Label}
    (hexec : exec BroadcastServer.step (opened fd) labels = some s)
    (hsustains : Meets BroadcastServer.step (fun s label => s.sustains label = true) (opened fd)
      labels) : Sustained fd s := by
  have hopened : Spared fd (opened fd) := @Spared.run _ fd [] rfl trivial
  refine exec_invariant_of_meets (fun _ _ _ h hguard hstep => h.step hguard hstep) hexec hsustains
    ⟨hopened, ?_⟩
  intro hexited
  cases hexited

theorem Moving.sustained (h : Moving s) :
    ∃ label s', s.sustains label = true ∧ s.begins label = 0 ∧ s.step label = some s' := by
  obtain ⟨label, s', hspares, hbegins, hstep⟩ := h
  by_cases hfails : s.fails label = true
  · obtain ⟨a, rfl⟩ : ∃ a, label = .monitor a := by
      cases label with
      | monitor a => exact ⟨a, rfl⟩
      | dropAll call => cases hfails
      | close => cases hfails
    cases hmonitor : s.monitor with
    | polling contexts handle =>
      refine ⟨.monitor {}, s.polled contexts handle .timeout, ?_, rfl, ?_⟩
      · simp [sustains, spares, fails, hmonitor]
      · simp [BroadcastServer.step, monitorStep, hmonitor, MultiPollReturn.consistent]
    | _ => simp [fails, hmonitor] at hfails
  · exact ⟨label, s', sustains_iff.mpr ⟨hspares, by simpa using hfails⟩, hbegins, hstep⟩

theorem Sustained.moving {fd : Int} (h : Sustained fd s) (hpending : id ∈ s.pendingDestruction) :
    ∃ label s', s.sustains label = true ∧ s.begins label = 0 ∧ s.step label = some s' := by
  have hmoving : Moving s := by
    by_cases hexited : s.monitor = .exited
    · refine (Closing.moving ⟨h.spared, h.closed hexited⟩).resolve_left ?_
      intro hended
      have hempty := (reachable_emptied h.spared.reach).pending (.inr hended.returned)
      simp [hempty] at hpending
    · by_cases hfree : s.clientsMtx = none
      · exact h.spared.intact.moving hfree hexited
      · exact (reachable_control h.spared.reach).moving hfree
  exact hmoving.sustained

theorem Sustained.clears {fd : Int} (h : Sustained fd s)
    (hpc : s.monitor = .top ∨ s.monitor = .clearing ∨ s.monitor = .exited)
    (hstep : BroadcastServer.step s label = some s') :
    id ∉ s'.pendingDestruction ∨
      (s'.monitor = .top ∨ s'.monitor = .clearing ∨ s'.monitor = .exited) ∧
        s'.weight < s.weight + 3 * s.begins label := by
  have hweight := weight_step h.spared.begun hstep
  rcases step_cases hstep with ⟨a, rfl, hmove⟩ | ⟨call, rfl, hmove⟩ | ⟨rfl, hmove⟩
  · cases hmove with
    | tested htop =>
      refine .inr ⟨by cases s.isMonitoring <;> simp, hweight.resolve_left ?_⟩
      cases s.isMonitoring <;> simp [Rounds]
    | cleared => exact .inl List.not_mem_nil
    | _ hother => rcases hpc with hpc | hpc | hpc <;> simp [hpc] at hother
  · have hsame : s'.monitor = s.monitor := by cases hmove <;> rfl
    exact .inr ⟨hsame ▸ hpc, hweight.resolve_left (by simp [Rounds])⟩
  · have hsame : s'.monitor = s.monitor := by cases hmove <;> rfl
    exact .inr ⟨hsame ▸ hpc, hweight.resolve_left (by simp [Rounds])⟩

/-- **Nothing that was dropped is kept.**  In a run whose polls neither fail nor report a hangup of the
    accept socket, every client that waits to be destroyed comes to be, by the next pass of the
    monitor or by `close`, however often `dropAll` is still called. -/
theorem dropped_released {fd : Int} {labels : List Label}
    (hexec : exec step (opened fd) labels = some s)
    (hsustains : Meets step (fun s label => s.sustains label = true) (opened fd) labels)
    (id calls : Nat) :
    Inevitable sustainedStep (fun b => id ∉ b.state.pendingDestruction) ⟨s, calls⟩ := by
  -- the round that is under way comes to its end
  have hround : Inevitable sustainedStep (fun b => id ∉ b.state.pendingDestruction ∨
      Sustained fd b.state ∧ b.state.monitor = .top) ⟨s, calls⟩ := by
    refine @inevitable_of_budget _ _ _ _ _ (Sustained fd)
      (fun s => id ∉ s.pendingDestruction ∨ Sustained fd s ∧ s.monitor = .top) weight 3 ?_ ?_ _
      (.run hexec hsustains) calls
    · intro s h
      by_cases hpending : id ∈ s.pendingDestruction
      · exact .inr (h.moving hpending)
      · exact .inl (.inl hpending)
    · intro s label s' h hsustains hstep
      have hsustained := h.step hsustains hstep
      rcases weight_step h.spared.begun hstep with ⟨-, htop⟩ | hlt
      · exact .inl (.inr ⟨hsustained, htop⟩)
      · exact .inr ⟨hsustained, hlt⟩
  refine hround.trans ?_
  rintro ⟨s, left⟩ (hgone | ⟨hsustained, htop⟩)
  · exact .now hgone
  · refine @inevitable_of_budget _ _ _ _ _
      (fun s => Sustained fd s ∧ (s.monitor = .top ∨ s.monitor = .clearing ∨ s.monitor = .exited))
      (fun s => id ∉ s.pendingDestruction) weight 3 ?_ ?_ _ ⟨hsustained, .inl htop⟩ left
    · rintro s ⟨h, -⟩
      by_cases hpending : id ∈ s.pendingDestruction
      · exact .inr (h.moving hpending)
      · exact .inl hpending
    · rintro s label s' ⟨h, hpc⟩ hsustains hstep
      refine (h.clears hpc hstep).imp_right ?_
      rintro ⟨hpc', hlt⟩
      exact ⟨⟨h.step hsustains hstep, hpc'⟩, hlt⟩

/-- A client is dropped while the monitor waits in `poll`. -/
def droppedInPoll : List Label :=
  acceptRound 4 [] ++ monitorRound 3 {} ++ [.dropAll 0, .dropAll 0, .dropAll 0]

theorem dropped_released_inPoll : ∃ s, exec step (opened 3) droppedInPoll = some s ∧
    s.pendingDestruction = [0] ∧
      Inevitable sustainedStep (fun b => 0 ∉ b.state.pendingDestruction) ⟨s, 5⟩ :=
  ⟨_, rfl, rfl, @dropped_released _ 3 droppedInPoll rfl (by decide) 0 5⟩

/-! ### A connection that has been reset -/

/-- Every poll reports a hangup of the descriptor of connection `id` if it is polled, and none
    fails. -/
def resets (id : Nat) (s : BroadcastServer) : Label → Bool
  | .monitor a =>
    match s.monitor, a.poll with
    | .polling _ handle, .timeout =>
      handle.all fun entry => s.kernel.connectionAt entry.fd != some id
    | .polling _ _, .error => false
    | .polling _ handle, .ready revents =>
      (handle.zip revents).all fun entry =>
        s.kernel.connectionAt entry.1.fd != some id || entry.2.hangup
    | _, _ => true
  | .dropAll _ | .close => true

/-- Any step, as long as the connection `id` is one that has been reset. -/
def resetStep (id : Nat) (s : BroadcastServer) (label : Label) : Option BroadcastServer :=
  if s.spares label && s.resets id label then s.step label else none

theorem resetStep_eq_some : resetStep id s label = some s' ↔
    s.spares label = true ∧ s.resets id label = true ∧ s.step label = some s' := by
  unfold resetStep
  split <;> simp_all

/-- The client is on the list, and will be among those the monitor asks `poll` about. -/
inductive Polled (id : Nat) (s : BroadcastServer) : Prop where
  | coming (hpc : s.monitor = .top ∨ s.monitor = .clearing ∨ s.monitor = .waiting)
      (hfd : s.fdOf (.peer id) ∈ s.listener.fds) : Polled id s
  | asked {contexts : List ContextPtr} {handle : List PollFd}
      (hpc : s.monitor = .polling contexts handle) (hcontext : .peer id ∈ contexts)
      (hfd : s.fdOf (.peer id) ∈ handle.map (·.fd)) : Polled id s

/-- It is, unless the monitor has returned and `close` is going to find the client. -/
structure Awaiting (fd : Int) (id : Nat) (s : BroadcastServer) : Prop where
  spared : Spared fd s
  active : id ∈ s.activeClients
  polled : Polled id s ∨ s.monitor = .exited ∧ s.closer ≠ .idle

/-- The poll has reported it. -/
structure Flagged (fd : Int) (id : Nat) (s : BroadcastServer) : Prop where
  spared : Spared fd s
  active : id ∈ s.activeClients
  leaving : Leaving s id

theorem connectionAt_of_monitored {fd : Int} (hreach : Reachable step (opened fd) s)
    (hmonitor : s.monitor ≠ .exited) (hactive : id ∈ s.activeClients) :
    s.kernel.connectionAt (s.fdOf (.peer id)) = some id := by
  have hcontrol := reachable_control hreach
  obtain ⟨place, hledger⟩ := reachable_ledger hreach
  have hplace := whereabouts hledger hcontrol (hcontrol.running hmonitor)
  have hopen : (place id).isOpen = true := by
    rw [(hplace.active id).mp hactive]
    rfl
  have hfd : s.fdOf (.peer id) = (s.clients id).socket.socket :=
    hledger.referring.contextFd id hopen
  rw [hfd]
  exact hledger.referring.opened id hopen

theorem connectionAt_server {fd : Int} (hreach : Reachable step (opened fd) s)
    (hmonitor : s.monitor ≠ .exited) : s.kernel.connectionAt s.serverContext.fd = none := by
  have hrunning := (reachable_control hreach).running hmonitor
  obtain ⟨place, hledger⟩ := reachable_ledger hreach
  have hlistening : s.kernel.fdTable s.serverContext.fd = some .listening :=
    hledger.referring.listening _ (if_neg (by rcases hrunning with h | h <;> simp [h]))
  simp [Kernel.connectionAt, hlistening]

/-- What a poll reports when nothing has happened except that connection `id` has been reset. -/
def resetPoll (id : Nat) (kernel : Kernel) (handle : List PollFd) : List Revents :=
  handle.map fun entry => { pollhup := kernel.connectionAt entry.fd == some id }

theorem Spared.exists_poll {fd : Int} (h : Spared fd s) {contexts : List ContextPtr}
    {handle : List PollFd} (hpc : s.monitor = .polling contexts handle) :
    ∃ label s', resetStep id s label = some s' := by
  have hserver := connectionAt_server h.reach (by simp [hpc])
  by_cases hany : ∃ entry ∈ handle, s.kernel.connectionAt entry.fd = some id
  · let answer : MonitorAnswer := { poll := .ready (resetPoll id s.kernel handle) }
    have hzip : handle.zip (resetPoll id s.kernel handle) = handle.map fun entry =>
        (entry, { pollhup := s.kernel.connectionAt entry.fd == some id }) :=
      List.map_prod_left_eq_zip.symm
    have hconsistent : answer.poll.consistent handle = true := by
      simp only [answer, MultiPollReturn.consistent, hzip]
      simpa [resetPoll, Revents.isZero, Revents.hangup, Revents.allowedBy] using hany
    have hspares : s.spares (.monitor answer) = true := by
      simp only [spares, hpc, answer, hzip, List.all_map, List.all_eq_true]
      intro entry _
      by_cases hfd : entry.fd = s.serverContext.fd
      · simp [Revents.hangup, hfd, hserver]
      · simp [hfd]
    have hresets : s.resets id (.monitor answer) = true := by
      simp only [resets, hpc, answer, hzip, List.all_map, List.all_eq_true]
      intro entry _
      by_cases hid : s.kernel.connectionAt entry.fd = some id
      · simp [Revents.hangup, hid]
      · simp [hid]
    refine ⟨.monitor answer, s.polled contexts handle answer.poll, resetStep_eq_some.mpr ?_⟩
    exact ⟨hspares, hresets, by simp only [BroadcastServer.step, monitorStep, hpc, hconsistent, if_true]⟩
  · have hresets : s.resets id (.monitor {}) = true := by
      simpa [resets, hpc] using hany
    refine ⟨.monitor {}, s.polled contexts handle .timeout, resetStep_eq_some.mpr ?_⟩
    exact ⟨by simp [spares, hpc], hresets, by
      simp [BroadcastServer.step, monitorStep, hpc, MultiPollReturn.consistent]⟩

theorem hangup_of_resets {fd : Int} (hreach : Reachable step (opened fd) s)
    (hactive : id ∈ s.activeClients) {contexts : List ContextPtr} {handle : List PollFd}
    (hpc : s.monitor = .polling contexts handle) (hfd : s.fdOf (.peer id) ∈ handle.map (·.fd))
    {a : MonitorAnswer} (hresets : s.resets id (.monitor a) = true)
    (hstep : s.step (.monitor a) = some s') : s.hangup id a = true := by
  have hown := connectionAt_of_monitored hreach (by simp [hpc]) hactive
  obtain ⟨entry, hentry, heq⟩ := List.mem_map.mp hfd
  have hconsistent : a.poll.consistent handle = true := by
    by_contra hnot
    simp [step, monitorStep, hpc, hnot] at hstep
  cases hret : a.poll with
  | error => simp [resets, hpc, hret] at hresets
  | timeout =>
    simp only [resets, hpc, hret, List.all_eq_true, bne_iff_ne] at hresets
    exact absurd (heq ▸ hown) (hresets entry hentry)
  | ready revents =>
    simp only [resets, hpc, hret, List.all_eq_true, Bool.or_eq_true, bne_iff_ne] at hresets
    have hlength : revents.length = handle.length := by
      simp only [hret, MultiPollReturn.consistent, Bool.and_eq_true, beq_iff_eq] at hconsistent
      exact hconsistent.1.1
    have hpolled : entry ∈ (handle.zip revents).map Prod.fst := by
      rwa [List.map_fst_zip (Nat.le_of_eq hlength.symm)]
    obtain ⟨⟨_, flags⟩, hin, rfl⟩ := List.mem_map.mp hpolled
    have hflag := (hresets _ hin).resolve_left fun hne => hne (heq ▸ hown)
    simp only [hangup, hpc, hret, List.any_eq_true, Bool.and_eq_true, beq_iff_eq]
    exact ⟨_, hin, heq, hflag⟩

theorem not_mem_of_begins (hstep : s.step label = some s') (hbegins : s.begins label ≠ 0) :
    id ∉ s'.activeClients := by
  rcases step_cases hstep with ⟨a, rfl, hmove⟩ | ⟨call, rfl, hmove⟩ | ⟨rfl, hmove⟩
  · exact absurd rfl hbegins
  · have hidle : s.drops call = .idle := by simpa [begins] using hbegins
    cases hmove with
    | started => exact List.not_mem_nil
    | _ hpc => simp [hidle] at hpc
  · exact absurd rfl hbegins

/-- Until the monitor polls, nobody else takes the descriptor of an active client off the
    listener. -/
theorem Polled.dropMove {fd : Int} (h : Polled id s) (hreach : Reachable step (opened fd) s)
    (hactive : id ∈ s.activeClients) {call : Nat} (hmove : DropMove s call s') : Polled id s' := by
  have hfdOf := hmove.fdOf (.peer id)
  have hmonitor : s'.monitor = s.monitor := by cases hmove <;> rfl
  cases h with
  | asked hpc hcontext hfd => exact .asked (hmonitor.trans hpc) hcontext (hfdOf ▸ hfd)
  | coming hpc hfd =>
    refine .coming (hmonitor.symm ▸ hpc) ?_
    rw [hfdOf]
    cases hmove with
    | @unregistered other dropped todo hdrop =>
      have hrunning := (reachable_control hreach).running (by
        rcases hpc with hpc | hpc | hpc <;> simp [hpc])
      obtain ⟨hregistry, -⟩ := reachable_registry hreach hrunning
      obtain ⟨place, hledger⟩ := reachable_ledger hreach
      have hplace := whereabouts hledger (reachable_control hreach) hrunning
      have hheld := hplace.taken call other (hregistry.todo call other (by simp [hdrop, DropPc.todo]))
      have hplaced := (hplace.active id).mp hactive
      have hne : s.fdOf (.peer other) ≠ s.fdOf (.peer id) := by
        intro hsame
        have heq := fdOf_injective hledger hrunning (by simp [Openly, hheld, Custody.Place.isOpen])
          (by simp [Openly, hplaced, Custody.Place.isOpen]) hsame
        cases heq
        simp [hplaced] at hheld
      change s.fdOf (.peer id) ∈ (s.listener.removeEvent (.peer other) (s.fdOf (.peer other))).fds
      rw [fds_removeEvent]
      exact (List.mem_erase_of_ne (Ne.symm hne)).mpr hfd
    | _ => exact hfd

theorem Polled.closeMove (h : Polled id s) (hmove : CloseMove s s') : Polled id s' := by
  have hfdOf := hmove.fdOf (.peer id)
  have hsame : s'.monitor = s.monitor ∧ s'.listener = s.listener := by
    cases hmove <;> exact ⟨rfl, rfl⟩
  cases h with
  | asked hpc hcontext hfd => exact .asked (hsame.1.trans hpc) hcontext (hfdOf ▸ hfd)
  | coming hpc hfd => exact .coming (hsame.1.symm ▸ hpc) (by rwa [hfdOf, hsame.2])

/-- The monitor polls next, and then has the client in its batch as disconnected. -/
theorem Polled.monitorMove {fd : Int} (h : Polled id s) (hreach : Reachable step (opened fd) s)
    (hactive : id ∈ s.activeClients) {a : MonitorAnswer} (hresets : s.resets id (.monitor a) = true)
    (hstep : s.step (.monitor a) = some s') :
    Leaving s' id ∨ Polled id s' ∧ s'.monitor ≠ .top ∨ s'.monitor = .exited ∧ s.isMonitoring = false := by
  have href := reachable_referenced hreach
  cases h with
  | coming hpc hfd =>
    cases monitorStep_cases hstep with
    | tested htop =>
      cases hmonitoring : s.isMonitoring with
      | true => exact .inr (.inl ⟨.coming (.inr (.inl rfl)) hfd, by simp⟩)
      | false => exact .inr (.inr ⟨rfl, rfl⟩)
    | cleared hclearing => exact .inr (.inl ⟨.coming (.inr (.inr rfl)) hfd, by simp⟩)
    | copied hwaiting =>
      have hrunning := (reachable_control hreach).running (by simp [hwaiting])
      have hregistry := (reachable_registry hreach hrunning).1
      have hcontext := (hregistry.active id hactive).resolve_right (by
        simp [hwaiting, MonitorPc.erasing?])
      exact .inr (.inl ⟨.asked rfl hcontext hfd, by simp⟩)
    | _ hother => rcases hpc with hpc | hpc | hpc <;> simp [hpc] at hother
  | @asked contexts handle hpc hcontext hfd =>
    have hhangup := hangup_of_resets hreach hactive hpc hfd hresets hstep
    have hknown : id < s.kernel.nextConnection :=
      href.known id (by simpa [hpc, MonitorPc.references] using hcontext)
    have hstaying : Staying s id := by
      refine ⟨hactive, fun contexts' handle' hpc' => ?_, by simp [hpc, MonitorPc.erasing?],
        by simp [hpc, MonitorPc.batch]⟩
      rw [hpc] at hpc'
      cases hpc'
      exact hcontext
    have hmove := monitorStep_cases hstep
    rcases hstaying.hangup href hknown hhangup hmove with hhalted | hleaving
    · cases hmove with
      | unmatched hpc' hret hcollect => exact absurd hcollect (href.exists_collected hpc' _)
      | timedOut hpc' hret | failed hpc' hret => simp [hangup, hpc, hret] at hhangup
      | reported => rcases hhalted with hhalted | hhalted <;> cases hhalted
      | _ hpc' => simp [hpc] at hpc'
    · exact .inl hleaving

theorem Awaiting.step {fd : Int} (h : Awaiting fd id s) (hspares : s.spares label = true)
    (hresets : s.resets id label = true) (hstep : BroadcastServer.step s label = some s') :
    id ∉ s'.activeClients ∨ Flagged fd id s' ∨
      Awaiting fd id s' ∧ ¬ Rounds label s' := by
  have hspared := h.spared.step hspares hstep
  have hcontrol := reachable_control h.spared.reach
  by_cases hactive : id ∈ s'.activeClients
  · right
    rcases h.polled with hpolled | ⟨hexited, hclosing⟩
    · rcases step_cases hstep with ⟨a, rfl, hmove⟩ | ⟨call, rfl, hmove⟩ | ⟨rfl, hmove⟩
      · rcases hpolled.monitorMove h.spared.reach h.active hresets hstep with hleaving |
          ⟨hpolled', hnot⟩ | ⟨hexited, hmonitoring⟩
        · exact .inl ⟨hspared, hactive, hleaving⟩
        · exact .inr ⟨⟨hspared, hactive, .inl hpolled'⟩, fun hrounds => hnot hrounds.2⟩
        · have hbegun : s.closer ≠ .idle := by
            rw [ne_eq, ← hcontrol.monitoring, hmonitoring]
            exact Bool.false_ne_true
          refine .inr ⟨⟨hspared, hactive, .inr ⟨hexited, closer_step hstep hbegun⟩⟩, ?_⟩
          rintro ⟨_, htop⟩
          simp [hexited] at htop
      · refine .inr ⟨⟨hspared, hactive, .inl ?_⟩, by simp [Rounds]⟩
        exact hpolled.dropMove h.spared.reach h.active hmove
      · exact .inr ⟨⟨hspared, hactive, .inl (hpolled.closeMove hmove)⟩, by simp [Rounds]⟩
    · have hexited' : s'.monitor = .exited := by
        rcases step_cases hstep with ⟨a, rfl, hmove⟩ | ⟨call, rfl, hmove⟩ | ⟨rfl, hmove⟩
        · cases hmove <;> simp_all
        · cases hmove <;> exact hexited
        · cases hmove <;> exact hexited
      refine .inr ⟨⟨hspared, hactive, .inr ⟨hexited', closer_step hstep hclosing⟩⟩, ?_⟩
      rintro ⟨_, htop⟩
      simp [hexited'] at htop
  · exact .inl hactive

theorem Flagged.step {fd : Int} (h : Flagged fd id s) (hspares : s.spares label = true)
    (hstep : BroadcastServer.step s label = some s') :
    id ∉ s'.activeClients ∨ Flagged fd id s' ∧ ¬ Rounds label s' := by
  have hspared := h.spared.step hspares hstep
  by_cases hactive : id ∈ s'.activeClients
  · have hdue := h.leaving.leaving.resolve_left (fun hnot => hnot h.active)
    have hrunning : s.monitor ≠ .exited := by
      intro hexited
      simp [hexited, MonitorPc.erasing?, MonitorPc.batch] at hdue
    have hrunning' : s'.monitor ≠ .exited := by
      rcases step_cases hstep with ⟨a, rfl, hmove⟩ | ⟨call, rfl, hmove⟩ | ⟨rfl, hmove⟩
      · cases hmove with
        | tested hpc | failed hpc => simp [hpc, MonitorPc.erasing?, MonitorPc.batch] at hdue
        | _ =>
          intro hexited
          cases hexited
      · cases hmove <;> exact hrunning
      · cases hmove <;> exact hrunning
    have hcontrol := reachable_control h.spared.reach
    obtain ⟨place, hledger⟩ := reachable_ledger h.spared.reach
    have hplace := whereabouts hledger hcontrol (hcontrol.running hrunning)
    have hleaving := (h.leaving.step hplace.nodup hstep).resolve_left (by
      rintro (hexited | hfaulted)
      · exact hrunning' hexited
      · exact hspared.intact.running hfaulted)
    refine .inr ⟨⟨hspared, hactive, hleaving⟩, ?_⟩
    rintro ⟨_, htop⟩
    exact hleaving.not_mem htop hactive
  · exact .inl hactive

theorem resets_of_not_polling (h : ∀ contexts handle, s.monitor ≠ .polling contexts handle) :
    s.resets id label = true := by
  cases label with
  | monitor a =>
    cases hpc : s.monitor with
    | polling contexts handle => exact absurd hpc (h contexts handle)
    | _ => simp [resets, hpc]
  | dropAll | close => rfl

theorem Spared.exists_resetStep {fd : Int} (h : Spared fd s) (hactive : id ∈ s.activeClients)
    (hclosing : s.monitor = .exited → s.closer ≠ .idle) :
    ∃ label s', resetStep id s label = some s' := by
  by_cases hpolling : ∃ contexts handle, s.monitor = .polling contexts handle
  · obtain ⟨contexts, handle, hpc⟩ := hpolling
    exact h.exists_poll hpc
  · have hmoving : Moving s := by
      by_cases hexited : s.monitor = .exited
      · refine (Closing.moving ⟨h, hclosing hexited⟩).resolve_left fun hended => ?_
        have hempty := (reachable_emptied h.reach).active (.inr hended.returned)
        simp [hempty] at hactive
      · by_cases hfree : s.clientsMtx = none
        · exact h.intact.moving hfree hexited
        · exact (reachable_control h.reach).moving hfree
    obtain ⟨label, s', hspares, -, hstep⟩ := hmoving
    refine ⟨label, s', resetStep_eq_some.mpr ⟨hspares, resets_of_not_polling ?_, hstep⟩⟩
    intro contexts handle hpc
    exact hpolling ⟨contexts, handle, hpc⟩

/-- **A connection that has been reset leaves.**  From any loop top at which the listener polls an
    active client, if every poll from there on reports a hangup of its descriptor, the client comes
    off the list, whatever the calls of `dropAll` and `close` and the other clients do. -/
theorem reset_leaves {fd : Int} (hreach : Reachable step (opened fd) s)
    (htop : s.monitor = .top) (hactive : id ∈ s.activeClients)
    (hpolled : s.fdOf (.peer id) ∈ s.listener.fds) :
    Inevitable (resetStep id) (fun s => id ∉ s.activeClients) s := by
  have hstart : Awaiting fd id s :=
    ⟨.top hreach htop, hactive, .inl (.coming (.inl htop) hpolled)⟩
  refine @inevitable_of_measure _ _ _ (fun s => Awaiting fd id s ∨ Flagged fd id s) _ weight
    ?_ ?_ s (.inl hstart)
  · rintro s (h | h)
    · refine .inr (h.spared.exists_resetStep h.active fun hexited => ?_)
      rcases h.polled with hpolled | ⟨-, hclosing⟩
      · cases hpolled with
        | coming hpc => rcases hpc with hpc | hpc | hpc <;> simp [hpc] at hexited
        | asked hpc => simp [hpc] at hexited
      · exact hclosing
    · refine .inr (h.spared.exists_resetStep h.active fun hexited => ?_)
      have hdue := h.leaving.leaving.resolve_left (fun hnot => hnot h.active)
      simp [hexited, MonitorPc.erasing?, MonitorPc.batch] at hdue
  · intro s label s' h hstep
    obtain ⟨hspares, hresets, hstep⟩ := resetStep_eq_some.mp hstep
    by_cases hbegins : s.begins label = 0
    · have hlt := fun (hbegun : Begun .idle s.drops) (hnot : ¬ Rounds label s') =>
        (weight_step hbegun hstep).resolve_left hnot
      simp only [hbegins, Nat.mul_zero, Nat.add_zero] at hlt
      rcases h with h | h
      · rcases h.step hspares hresets hstep with hgone | hflagged | ⟨hawaiting, hnot⟩
        · exact .inl hgone
        · have hnot : ¬ Rounds label s' := by
            intro hrounds
            exact hflagged.leaving.not_mem hrounds.2 hflagged.active
          exact .inr ⟨.inr hflagged, hlt h.spared.begun hnot⟩
        · exact .inr ⟨.inl hawaiting, hlt h.spared.begun hnot⟩
      · rcases h.step hspares hstep with hgone | ⟨hflagged, hnot⟩
        · exact .inl hgone
        · exact .inr ⟨.inr hflagged, hlt h.spared.begun hnot⟩
    · exact .inl (not_mem_of_begins hstep hbegins)

def twoAccepted : List Label := acceptRound 4 [] ++ acceptRound 5 [{}]

theorem reset_leaves_second : ∃ s, exec step (opened 3) twoAccepted = some s ∧
    s.activeClients = [0, 1] ∧ Inevitable (resetStep 1) (fun s => 1 ∉ s.activeClients) s :=
  ⟨_, rfl, rfl, @reset_leaves _ 1 3 ⟨twoAccepted, rfl⟩ rfl (by decide) (by decide)⟩

end BroadcastServer

end SecuritySocket
