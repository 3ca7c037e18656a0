import SecuritySocket.BroadcastMoves
import SecuritySocket.CustodyLedger

/-!
# The broadcast server keeps custody

The faithful model refines the ownership view: `custody` reads a `Custody` off a state of
the server, and every step of the server is one of its steps or leaves it unchanged.  What
was proved about places, descriptors and events there then holds of the server.
-/

namespace SecuritySocket

/-! ### The duties of the parties -/

def MonitorPc.duty : MonitorPc → Duty
  | .registering id _ | .pushing id _ => { accepting := some id }
  | .closing id stage _ => stage.duty [id]
  | .telling id _ => { untold := [id] }
  | .top | .clearing | .waiting | .polling _ _ | .dispatching _ | .announcing _ _ | .erasing _ _
  | .exited | .faulted => {}

def DropPc.duty : DropPc → Duty
  | .removing dropped _ => CloseStage.duty .load dropped
  | .closing stage _ todo => stage.duty todo
  | .telling id _ todo => { unclosed := todo, untold := id :: todo }
  | .idle | .returned => {}

def ClosePc.duty : ClosePc → Duty
  | .closing stage todo => stage.duty todo
  | .idle | .joining | .locking | .finishing | .returned => {}

def DropPc.holdsLock : DropPc → Bool
  | .removing _ _ => true
  | .idle | .closing _ _ _ | .telling _ _ _ | .returned => false

def ClosePc.holdsLock : ClosePc → Bool
  | .closing _ _ => true
  | .idle | .joining | .locking | .finishing | .returned => false

@[simp] theorem CloseStage.duty_accepting (stage : CloseStage) (todo : List Nat) :
    (stage.duty todo).accepting = none := by
  cases stage <;> rfl

@[simp] theorem CloseStage.duty_nil (stage : CloseStage) : stage.duty [] = {} := by
  cases stage <;> rfl

namespace BroadcastServer

open Transition

variable {s s' : BroadcastServer}

def duties (monitor : MonitorPc) (drops : Nat → DropPc) (closer : ClosePc) : Party → Duty
  | .monitor => monitor.duty
  | .dropAll call => (drops call).duty
  | .close => closer.duty

/-- The ownership view of a state. -/
def custody (s : BroadcastServer) : Custody where
  kernel := s.kernel
  listening := if s.closer = .returned then none else some s.serverContext.fd
  socket id := (s.clients id).socket.socket
  contextFd id := (s.clients id).context.fd
  active := s.activeClients
  mutex := s.clientsMtx
  duty := duties s.monitor s.drops s.closer
  events := s.events

section Duties

variable {monitor pc : MonitorPc} {drops : Nat → DropPc} {closer next : ClosePc} {call : Nat}
  {dropPc : DropPc}

theorem duties_monitor :
    duties pc drops closer = Function.update (duties monitor drops closer) .monitor pc.duty := by
  funext p
  cases p <;> simp [duties]

theorem duties_monitor_self (h : pc.duty = monitor.duty) :
    duties pc drops closer = duties monitor drops closer := by
  funext p
  cases p <;> simp [duties, h]

theorem duties_drop :
    duties monitor (Function.update drops call dropPc) closer =
      Function.update (duties monitor drops closer) (.dropAll call) dropPc.duty := by
  funext p
  cases p with
  | monitor => simp [duties]
  | dropAll other =>
    by_cases hother : other = call
    · subst hother
      simp [duties]
    · simp [duties, hother]
  | close => simp [duties]

theorem duties_drop_self (h : dropPc.duty = (drops call).duty) :
    duties monitor (Function.update drops call dropPc) closer = duties monitor drops closer := by
  rw [duties_drop, h]
  exact Function.update_eq_self _ _

theorem duties_close :
    duties monitor drops next = Function.update (duties monitor drops closer) .close next.duty := by
  funext p
  cases p <;> simp [duties]

theorem duties_close_self (h : next.duty = closer.duty) :
    duties monitor drops next = duties monitor drops closer := by
  funext p
  cases p <;> simp [duties, h]

end Duties

/-! ### Who holds the lock, and who is still running -/

/-- What the program counters say about the lock and the session. -/
structure Control (s : BroadcastServer) : Prop where
  removing : ∀ call, s.clientsMtx = some (.dropAll call) ↔ (s.drops call).holdsLock
  closing : s.clientsMtx = some .close ↔ s.closer.holdsLock
  free : s.clientsMtx ≠ some .monitor
  joined : s.closer ≠ .idle → s.closer ≠ .joining → s.monitor = .exited
  monitoring : s.isMonitoring = true ↔ s.closer = .idle

theorem control_opened (fd : Int) : Control (opened fd) := by
  constructor <;> simp [opened, DropPc.holdsLock, ClosePc.holdsLock]

theorem Control.monitorMove (h : Control s) {a : MonitorAnswer} (hmove : MonitorMove s a s') :
    Control s' := by
  have hjoined : s.monitor ≠ .exited → s.closer = .idle ∨ s.closer = .joining := by
    intro hne
    by_contra hnot
    exact hne (h.joined (fun hidle => hnot (.inl hidle)) fun hjoining => hnot (.inr hjoining))
  obtain ⟨hremoving, hclosing, hfree, -, hmonitoring⟩ := h
  cases hmove
  all_goals
    refine ⟨hremoving, hclosing, hfree, fun hidle hjoining => ?_, hmonitoring⟩
    exact absurd (hjoined (by simp [*])) (by simp [hidle, hjoining])

theorem Control.dropMove (h : Control s) {call : Nat} (hmove : DropMove s call s') :
    Control s' := by
  cases hmove <;> constructor <;> cases h <;> grind [DropPc.holdsLock, ClosePc.holdsLock]

theorem Control.closeMove (h : Control s) (hmove : CloseMove s s') : Control s' := by
  cases hmove <;> constructor <;> cases h <;> grind [DropPc.holdsLock, ClosePc.holdsLock]

theorem Control.step (h : Control s) {label : Label} (hstep : s.step label = some s') :
    Control s' := by
  rcases step_cases hstep with ⟨a, _, hmove⟩ | ⟨call, _, hmove⟩ | ⟨_, hmove⟩
  · exact h.monitorMove hmove
  · exact h.dropMove hmove
  · exact h.closeMove hmove

theorem reachable_control {fd : Int} (h : Reachable step (opened fd) s) : Control s :=
  h.invariant (control_opened fd) fun _ _ _ hs hstep => hs.step hstep

/-! ### The simulation -/

theorem custody_retyped {serverContext : SocketEventContext} {clients : Nat → BroadcastClient}
    (hretyped : Retyped s serverContext clients) :
    ({ s with serverContext := serverContext, clients := clients } : BroadcastServer).custody =
      s.custody := by
  simp only [custody, hretyped.serverFd, hretyped.socket, hretyped.fd]

/-- A step of the monitor that changes nothing but its program counter and listener keeps
    the view when the duty stays. -/
theorem custody_monitor {listener : SocketMultiEventListener ContextPtr} {pc : MonitorPc}
    {pending : List Nat} (hduty : pc.duty = s.monitor.duty) :
    ({ s with
        listener := listener
        pendingDestruction := pending
        monitor := pc } : BroadcastServer).custody = s.custody :=
  Custody.ext rfl rfl rfl rfl rfl rfl (duties_monitor_self hduty) rfl

theorem custody_newClient (clients : Nat → BroadcastClient) (id : Nat) (r : AcceptReturn) :
    (fun id' => (Function.update clients id (newClient r) id').socket.socket) =
        Function.update (fun id' => (clients id').socket.socket) id r.descriptor ∧
      (fun id' => (Function.update clients id (newClient r) id').context.fd) =
        Function.update (fun id' => (clients id').context.fd) id r.descriptor := by
  constructor <;> funext id' <;> by_cases hid : id' = id <;> simp [hid, newClient]

theorem custody_closedClient (clients : Nat → BroadcastClient) (id : Nat) :
    (fun id' => (Function.update clients id
        { clients id with socket := (clients id).socket.closed } id').socket.socket) =
        Function.update (fun id' => (clients id').socket.socket) id (-1) ∧
      (fun id' => (Function.update clients id
        { clients id with socket := (clients id).socket.closed } id').context.fd) =
        fun id' => (clients id').context.fd := by
  constructor <;> funext id' <;> by_cases hid : id' = id <;>
    simp [hid, ServerActiveSocket.closed]

section Monitor

variable {r : AcceptReturn} {p : ContextPtr} {id : Nat} {fd : Int} {batch : List ContextPtr}

theorem duty_monitor {pc : MonitorPc} (hpc : s.monitor = pc) :
    s.custody.duty .monitor = pc.duty := by
  rw [← hpc]
  rfl

theorem custody_refused (hpc : s.monitor = .dispatching (p :: batch)) (hfits : r.fits s.kernel)
    (hdescriptor : ¬ 0 < r.descriptor) :
    Custody.Step s.custody ({ s with
      kernel := s.kernel.accept r
      events := s.events ++ BroadcastEvent.ofAccept s.kernel r
      monitor := .dispatching batch } : BroadcastServer).custody := by
  convert Custody.Step.refused (c := s.custody) hfits hdescriptor using 1
  exact Custody.ext rfl rfl rfl rfl rfl rfl (duties_monitor_self (by rw [hpc]; rfl)) rfl

theorem custody_accepted (hpc : s.monitor = .dispatching (p :: batch)) (hfits : r.fits s.kernel)
    (hdescriptor : 0 < r.descriptor) :
    Custody.Step s.custody ({ s with
      kernel := s.kernel.accept r
      events := s.events ++ BroadcastEvent.ofAccept s.kernel r
      clients := Function.update s.clients s.kernel.nextConnection (newClient r)
      monitor := .registering s.kernel.nextConnection batch } : BroadcastServer).custody := by
  obtain ⟨hsocket, hcontext⟩ := custody_newClient s.clients s.kernel.nextConnection r
  convert Custody.Step.accepted hfits hdescriptor (duty_monitor hpc) using 1
  exact Custody.ext rfl rfl hsocket hcontext rfl rfl duties_monitor rfl

theorem custody_pushed (hpc : s.monitor = .pushing id batch) (hfree : s.clientsMtx = none) :
    Custody.Step s.custody ({ s with
      activeClients := s.activeClients ++ [id]
      monitor := .announcing id batch } : BroadcastServer).custody := by
  convert Custody.Step.shared (duty_monitor hpc) hfree using 1
  exact Custody.ext rfl rfl rfl rfl rfl rfl duties_monitor rfl

theorem custody_announced (hpc : s.monitor = .announcing id batch) :
    Custody.Step s.custody ({ s with
      events := s.events ++ [.connected id]
      monitor := .dispatching batch } : BroadcastServer).custody := by
  convert Custody.Step.announced id using 1
  exact Custody.ext rfl rfl rfl rfl rfl rfl (duties_monitor_self (by rw [hpc]; rfl)) rfl

theorem custody_erased (hpc : s.monitor = .erasing id batch) (hfree : s.clientsMtx = none)
    (hactive : id ∈ s.activeClients) :
    Custody.Step s.custody ({ s with
      activeClients := s.activeClients.erase id
      events := s.events ++ [.removed id .monitor]
      monitor := .closing id .load batch } : BroadcastServer).custody := by
  convert Custody.Step.taken (duty_monitor hpc) hfree hactive using 1
  exact Custody.ext rfl rfl rfl rfl rfl rfl duties_monitor rfl

theorem custody_loaded (hpc : s.monitor = .closing id .load batch) :
    Custody.Step s.custody ({ s with
      monitor := .closing id (.call (s.clients id).socket.socket) batch } :
        BroadcastServer).custody := by
  convert Custody.Step.loaded (duty_monitor hpc) using 1
  exact Custody.ext rfl rfl rfl rfl rfl rfl duties_monitor rfl

theorem custody_closed (hpc : s.monitor = .closing id (.call fd) batch) :
    Custody.Step s.custody ({ s with
      kernel := s.kernel.close fd
      events := s.events ++ [.closed id .monitor (s.kernel.fdTable fd)]
      monitor := .closing id .store batch } : BroadcastServer).custody := by
  convert Custody.Step.closed (duty_monitor hpc) using 1
  exact Custody.ext rfl rfl rfl rfl rfl rfl duties_monitor rfl

theorem custody_stored (hpc : s.monitor = .closing id .store batch) :
    Custody.Step s.custody ({ s with
      clients := Function.update s.clients id
        { s.clients id with socket := (s.clients id).socket.closed }
      monitor := .telling id batch } : BroadcastServer).custody := by
  obtain ⟨hsocket, hcontext⟩ := custody_closedClient s.clients id
  convert Custody.Step.stored (by simp) (duty_monitor hpc) using 1
  exact Custody.ext rfl rfl hsocket hcontext rfl rfl duties_monitor rfl

theorem custody_told (hpc : s.monitor = .telling id batch) :
    Custody.Step s.custody ({ s with
      events := s.events ++ [.disconnected id .monitor]
      monitor := .dispatching batch } : BroadcastServer).custody := by
  convert Custody.Step.told (by simp) (duty_monitor hpc) using 1
  exact Custody.ext rfl rfl rfl rfl rfl rfl duties_monitor rfl

end Monitor

theorem MonitorMove.custody {a : MonitorAnswer} (hmove : MonitorMove s a s') :
    s'.custody = s.custody ∨ Custody.Step s.custody s'.custody := by
  cases hmove with
  | tested hpc =>
    refine .inl (custody_monitor ?_)
    rw [hpc]
    split <;> rfl
  | @reported contexts handle revents reported serverContext clients hpc hret hcollect hretyped
      hstore =>
    refine .inl (Eq.trans ?_ (custody_retyped hretyped))
    exact custody_monitor (s := { s with serverContext := serverContext, clients := clients })
      (by dsimp only; rw [hpc]; rfl)
  | refused hpc htype hfits hdescriptor => exact .inr (custody_refused hpc hfits hdescriptor)
  | accepted hpc htype hfits hdescriptor => exact .inr (custody_accepted hpc hfits hdescriptor)
  | pushed hpc hfree => exact .inr (custody_pushed hpc hfree)
  | announced hpc => exact .inr (custody_announced hpc)
  | erased hpc hfree hactive => exact .inr (custody_erased hpc hfree hactive)
  | loaded hpc => exact .inr (custody_loaded hpc)
  | closed hpc => exact .inr (custody_closed hpc)
  | stored hpc => exact .inr (custody_stored hpc)
  | told hpc => exact .inr (custody_told hpc)
  | cleared hpc | copied hpc | timedOut hpc | failed hpc | unmatched hpc | batchDone hpc
  | miscast hpc | unregistered hpc | skipped hpc | registered hpc | stale hpc =>
    -- the monitor has no client in hand before or after
    exact .inl (custody_monitor (by rw [hpc]; rfl))

theorem duty_drop {call : Nat} {pc : DropPc} (hpc : s.drops call = pc) :
    s.custody.duty (.dropAll call) = pc.duty := by
  rw [← hpc]
  rfl

theorem duty_close {pc : ClosePc} (hpc : s.closer = pc) : s.custody.duty .close = pc.duty := by
  rw [← hpc]
  rfl

theorem DropMove.custody (hcontrol : Control s) {call : Nat} (hmove : DropMove s call s') :
    s'.custody = s.custody ∨ Custody.Step s.custody s'.custody := by
  cases hmove with
  | started hpc hfree =>
    refine .inr ?_
    convert Custody.Step.takenAll (duty_drop hpc) hfree using 1
    exact Custody.ext rfl rfl rfl rfl rfl rfl duties_drop rfl
  | @unregistered id dropped todo hpc =>
    have hsame : (DropPc.removing dropped todo).duty = (s.drops call).duty := by rw [hpc]; rfl
    exact .inl (Custody.ext rfl rfl rfl rfl rfl rfl (duties_drop_self hsame) rfl)
  | @handedOver dropped hpc =>
    have hmutex : s.custody.mutex = some (.dropAll call) :=
      (hcontrol.removing call).mpr (by rw [hpc]; rfl)
    have hsame : (DropPc.closing .load dropped dropped).duty = (s.drops call).duty := by
      rw [hpc]; rfl
    refine .inr ?_
    convert Custody.Step.released hmutex using 1
    exact Custody.ext rfl rfl rfl rfl rfl rfl (duties_drop_self hsame) rfl
  | loaded hpc =>
    refine .inr ?_
    convert Custody.Step.loaded (duty_drop hpc) using 1
    exact Custody.ext rfl rfl rfl rfl rfl rfl duties_drop rfl
  | closed hpc =>
    refine .inr ?_
    convert Custody.Step.closed (duty_drop hpc) using 1
    exact Custody.ext rfl rfl rfl rfl rfl rfl duties_drop rfl
  | @stored id dropped todo hpc =>
    obtain ⟨hsocket, hcontext⟩ := custody_closedClient s.clients id
    refine .inr ?_
    convert Custody.Step.stored (by simp) (duty_drop hpc) using 1
    exact Custody.ext rfl rfl hsocket hcontext rfl rfl duties_drop rfl
  | told hpc =>
    refine .inr ?_
    convert Custody.Step.told (by simp) (duty_drop hpc) using 1
    exact Custody.ext rfl rfl rfl rfl rfl rfl duties_drop rfl
  | @returned stage dropped hpc =>
    have hsame : DropPc.returned.duty = (s.drops call).duty := by
      rw [hpc]
      exact stage.duty_nil.symm
    exact .inl (Custody.ext rfl rfl rfl rfl rfl rfl (duties_drop_self hsame) rfl)

theorem CloseMove.custody (hcontrol : Control s) (hmove : CloseMove s s') :
    s'.custody = s.custody ∨ Custody.Step s.custody s'.custody := by
  -- until `close` returns the server listens
  have hopen : s.custody.listening = some s.serverContext.fd := by
    refine if_neg ?_
    cases hmove <;> simp [*]
  cases hmove with
  | stopped hpc =>
    exact .inl (Custody.ext rfl hopen.symm rfl rfl rfl rfl
      (duties_close_self (by rw [hpc]; rfl)) rfl)
  | joined hpc hexited =>
    exact .inl (Custody.ext rfl hopen.symm rfl rfl rfl rfl
      (duties_close_self (by rw [hpc]; rfl)) rfl)
  | locked hpc hfree =>
    refine .inr ?_
    convert Custody.Step.locked (duty_close hpc) hfree using 1
    exact Custody.ext rfl hopen.symm rfl rfl rfl rfl duties_close rfl
  | loaded hpc =>
    refine .inr ?_
    convert Custody.Step.loaded (duty_close hpc) using 1
    exact Custody.ext rfl hopen.symm rfl rfl rfl rfl duties_close rfl
  | closed hpc =>
    refine .inr ?_
    convert Custody.Step.closed (duty_close hpc) using 1
    exact Custody.ext rfl hopen.symm rfl rfl rfl rfl duties_close rfl
  | @stored id todo hpc =>
    obtain ⟨hsocket, hcontext⟩ := custody_closedClient s.clients id
    refine .inr ?_
    convert Custody.Step.storedByClose (duty_close hpc) using 1
    exact Custody.ext rfl hopen.symm hsocket hcontext rfl rfl duties_close rfl
  | @drained stage hpc =>
    have hduty : s.custody.duty .close = {} := (duty_close hpc).trans stage.duty_nil
    have hmutex : s.custody.mutex = some .close := hcontrol.closing.mpr (by rw [hpc]; rfl)
    refine .inr ?_
    convert Custody.Step.drained hduty hmutex using 1
    exact Custody.ext rfl hopen.symm rfl rfl rfl rfl
      (duties_close_self (by rw [hpc]; exact stage.duty_nil.symm)) rfl
  | finished hpc =>
    refine .inr ?_
    convert Custody.Step.finished hopen using 1
    exact Custody.ext rfl rfl rfl rfl rfl rfl (duties_close_self (by rw [hpc]; rfl)) rfl

/-- **Refinement.**  A step of the server is a step of the ownership view, or leaves it
    unchanged. -/
theorem custody_step (hcontrol : Control s) {label : Label} (hstep : s.step label = some s') :
    s'.custody = s.custody ∨ Custody.Step s.custody s'.custody := by
  rcases step_cases hstep with ⟨a, _, hmove⟩ | ⟨call, _, hmove⟩ | ⟨_, hmove⟩
  · exact hmove.custody
  · exact hmove.custody hcontrol
  · exact hmove.custody hcontrol

theorem ledger_opened (fd : Int) : Custody.Ledger (opened fd).custody fun _ => .absent := by
  have hduty : ∀ p, (opened fd).custody.duty p = {} := by
    intro p
    cases p <;> rfl
  have hnone : ∀ fd' id, (opened fd).kernel.connectionAt fd' ≠ some id := by
    intro fd' id
    rw [Ne, Kernel.connectionAt_eq_some]
    by_cases hfd : fd' = fd <;> simp [opened, Kernel.listening, hfd]
  have hevents : (opened fd).custody.events = [] := rfl
  have hactive : (opened fd).custody.active = [] := rfl
  have hmutex : (opened fd).custody.mutex = none := rfl
  refine ⟨?_, ?_, ?_⟩
  · constructor <;> simp [hduty, hactive, hmutex]
  · refine ⟨Kernel.wellFormed_listening fd, by simp [Custody.Place.isOpen],
      by simp [Custody.Place.isOpen], by simp [Custody.Place.isOpen], fun fd' id hid => absurd hid (hnone fd' id),
      by simp [hduty], by simp [hduty], fun fd' hfd' => ?_⟩
    cases hfd'
    simp [custody, opened, Kernel.listening]
  · constructor <;>
      simp [hduty, hevents, removals, closes, disconnections, Custody.Place.removals,
        Custody.Place.closes]

/-- **Custody.**  In every reachable state the clients have places. -/
theorem reachable_ledger {fd : Int} (h : Reachable step (opened fd) s) :
    ∃ place, Custody.Ledger s.custody place :=
  h.simulation (I := Control) (J := fun c => ∃ place, Custody.Ledger c place)
    (control_opened fd) ⟨_, ledger_opened fd⟩ (fun _ _ _ hs hstep => hs.step hstep)
    (fun _ _ _ hs hstep => custody_step hs hstep)
    fun _ _ ⟨_, hledger⟩ hstep => hstep.ledger hledger

/-! ### After `close` -/

def NoDropAll (s : BroadcastServer) : Prop :=
  ∀ call, s.drops call = .idle ∨ s.drops call = .returned

theorem NoDropAll.unclosed (h : NoDropAll s) (call : Nat) : (s.drops call).duty.unclosed = [] := by
  rcases h call with hdrop | hdrop <;> simp [hdrop, DropPc.duty]

/-- Once `close` has emptied the lists they stay empty. -/
structure Emptied (s : BroadcastServer) : Prop where
  active : s.closer = .finishing ∨ s.closer = .returned → s.activeClients = []
  pending : s.closer = .finishing ∨ s.closer = .returned → s.pendingDestruction = []
  dropped : s.closer = .finishing ∨ s.closer = .returned →
    ∀ call dropped todo, s.drops call = .removing dropped todo → dropped = []

theorem Emptied.step (h : Emptied s) (hcontrol : Control s) {label : Label}
    (hstep : s.step label = some s') : Emptied s' := by
  rcases step_cases hstep with ⟨a, _, hmove⟩ | ⟨call, _, hmove⟩ | ⟨_, hmove⟩
  · by_cases hdone : s.closer = .finishing ∨ s.closer = .returned
    · have hexited : s.monitor = .exited := by
        rcases hdone with hdone | hdone <;> exact hcontrol.joined (by simp [hdone]) (by simp [hdone])
      cases hmove <;> simp_all
    · cases hmove <;> exact ⟨fun h => absurd h hdone, fun h => absurd h hdone,
        fun h => absurd h hdone⟩
  · cases hmove <;> constructor <;> cases h <;> grind
  · cases hmove with
    | @drained stage hpc =>
      have hmutex := hcontrol.closing.mpr (by rw [hpc]; rfl)
      refine ⟨fun _ => rfl, fun _ => rfl, fun _ call dropped todo hdrop => ?_⟩
      have hlock := (hcontrol.removing call).mpr (by rw [show s.drops call = _ from hdrop]; rfl)
      simp [hmutex] at hlock
    | finished hpc => exact ⟨fun _ => h.active (.inl hpc), fun _ => h.pending (.inl hpc),
        fun _ => h.dropped (.inl hpc)⟩
    | _ => constructor <;> simp

theorem reachable_emptied {fd : Int} (h : Reachable step (opened fd) s) : Emptied s := by
  refine (h.invariant (I := fun s => Control s ∧ Emptied s) ⟨control_opened fd, ?_⟩ ?_).2
  · constructor <;> simp [opened]
  · rintro s label s' ⟨hcontrol, hemptied⟩ hstep
    exact ⟨hcontrol.step hstep, hemptied.step hcontrol hstep⟩

theorem drops_of_exec {call : Nat} {labels : List Label} (hexec : exec step s labels = some s')
    (hother : ∀ label ∈ labels, ∀ other, label = .dropAll other → other ≠ call) :
    s'.drops call = s.drops call := by
  refine exec_invariant_of_meets (I := fun m => m.drops call = s.drops call) ?_ hexec
    (meets_of_forall_label hother) rfl
  intro m label m' hm hlabel hstep
  rw [← hm]
  rcases step_cases hstep with ⟨a, _, hmove⟩ | ⟨other, rfl, hmove⟩ | ⟨_, hmove⟩
  · cases hmove <;> rfl
  · have hne := (hlabel other rfl).symm
    cases hmove <;> exact Function.update_of_ne hne _ _
  · cases hmove <;> rfl

theorem noDropAll_of_exec {fd : Int} (call : Nat) {labels : List Label}
    (hexec : exec step (opened fd) labels = some s)
    (honly : ∀ label ∈ labels, ∀ other, label = .dropAll other → other = call)
    (hreturned : s.drops call = .returned) : NoDropAll s := by
  intro other
  by_cases hother : other = call
  · rw [hother]
    exact .inr hreturned
  · refine .inl (drops_of_exec hexec fun label hlabel third hthird => ?_)
    rw [honly label hlabel third hthird]
    exact Ne.symm hother

/-- Every client has left, once; nothing of it is left behind. -/
structure Vacated (s : BroadcastServer) : Prop where
  active : s.activeClients = []
  pending : s.pendingDestruction = []
  left : ∀ id fd, BroadcastEvent.accepted id fd ∈ s.events → 1 ≤ fd →
    ∃ by_, removals s.events id = [by_] ∧ closes s.events id = [by_]
  own : ∀ id by_ endpoint, BroadcastEvent.closed id by_ endpoint ∈ s.events →
    endpoint = some (.connection id)
  told : ∀ id, disconnections s.events id ≤ 1
  closed : ∀ fd id, s.kernel.connectionAt fd = some id → ¬ 1 ≤ fd

section Returned

variable {fd : Int}

/-- Once `close` has returned, every client has left unless a `dropAll` call still has it to
    close. -/
theorem closed_of_returned {place : Nat → Custody.Place} (h : Reachable step (opened fd) s)
    (hplaced : Custody.Placed s.custody place) (hreturned : s.closer = .returned)
    (hdrops : ∀ call, (s.drops call).duty.unclosed = []) (id : Nat) :
    place id = .absent ∨ ∃ by_, place id = .closed by_ := by
  have hcontrol := reachable_control h
  have hexited := hcontrol.joined (by simp [hreturned]) (by simp [hreturned])
  have hactive := (reachable_emptied h).active (.inr hreturned)
  have hmonitor : s.custody.duty .monitor = {} := duty_monitor hexited
  cases hid : place id with
  | absent => exact .inl rfl
  | accepting =>
    have haccepting := (hplaced.accepting id).mpr hid
    simp [hmonitor] at haccepting
  | active =>
    have hmem := (hplaced.active id).mpr (.inl hid)
    simp [custody, hactive] at hmem
  | drained =>
    have hmem := (hplaced.active id).mpr (.inr hid)
    simp [custody, hactive] at hmem
  | held by_ =>
    have hby : by_ ≠ .close := by
      rintro rfl
      exact hplaced.notByClose id hid
    have hmem := (hplaced.held by_ id hby).mpr hid
    cases by_ with
    | monitor => simp [hmonitor] at hmem
    | dropAll call => simp [custody, duties, hdrops] at hmem
    | close => exact absurd rfl hby
  | closed by_ => exact .inr ⟨by_, rfl⟩

theorem vacated_of_closed (h : Reachable step (opened fd) s) (hreturned : s.closer = .returned)
    (hdrops : ∀ call, (s.drops call).duty.unclosed = []) : Vacated s := by
  obtain ⟨place, hplaced, href, hlogged⟩ := reachable_ledger h
  have hemptied := reachable_emptied h
  have hplace := closed_of_returned h hplaced hreturned hdrops
  refine ⟨hemptied.active (.inr hreturned), hemptied.pending (.inr hreturned),
    fun id fd' hid hfd => ?_, hlogged.endpoint, hlogged.once, fun fd' id hid hfd => ?_⟩
  · have hnot := (hlogged.numbered id fd' hid).2 (by omega)
    obtain ⟨by_, hclosed⟩ := (hplace id).resolve_left hnot
    have hremovals := hlogged.removals id
    have hcloses := hlogged.closes id
    rw [hclosed] at hremovals hcloses
    exact ⟨by_, hremovals, hcloses⟩
  · rcases href.connections fd' id hid with hzero | hopen
    · omega
    · rcases hplace id with hid | ⟨by_, hid⟩ <;> simp [hid, Custody.Place.isOpen] at hopen

theorem open_of_unclosed (h : Reachable step (opened fd) s) {call id : Nat}
    (hid : id ∈ (s.drops call).duty.unclosed) :
    ∃ fd', 1 ≤ fd' ∧ s.kernel.connectionAt fd' = some id := by
  obtain ⟨place, hplaced, href, _⟩ := reachable_ledger h
  have hopen : (place id).isOpen := by
    rw [(hplaced.held (.dropAll call) id (by simp)).mp hid]
    rfl
  exact ⟨_, href.positive id hopen, href.opened id hopen⟩

/-- Exactly when `close` has left nothing behind. -/
theorem vacated_iff_closed (h : Reachable step (opened fd) s)
    (hreturned : s.closer = .returned) :
    Vacated s ↔ ∀ call, (s.drops call).duty.unclosed = [] := by
  refine ⟨fun hvacated call => ?_, vacated_of_closed h hreturned⟩
  rw [List.eq_nil_iff_forall_not_mem]
  intro id hid
  obtain ⟨fd', hfd, hopen⟩ := open_of_unclosed h hid
  exact hvacated.closed fd' id hopen hfd

end Returned

/-- **Every client leaves exactly once.**  After `close` has returned, with no `dropAll` in
    progress, every client whose descriptor was at least 1 has been taken off the list by
    exactly one party and its own descriptor closed once, by that party. -/
theorem vacated_of_returned {fd : Int} (h : Reachable step (opened fd) s)
    (hreturned : s.closer = .returned) (hdrops : NoDropAll s) : Vacated s := by
  exact (vacated_iff_closed h hreturned).mpr hdrops.unclosed

def monitorRound (steps : Nat) (answer : MonitorAnswer) : List Label :=
  List.replicate steps (.monitor answer)

/-- A round that accepts a client on `fd`, the listening socket being polled first. -/
def acceptRound (fd : Int) (others : List Revents) : List Label :=
  monitorRound 9
    { poll := .ready ({ pollin := true } :: others), accept := { descriptor := fd } }

/-- One client disconnects, one is dropped, and one is there when `close` is called. -/
def threeLeave : List Label :=
  acceptRound 4 [] ++ monitorRound 11 { poll := .ready [{}, { pollhup := true }] } ++
    acceptRound 4 [] ++ List.replicate 8 (.dropAll 0) ++
    acceptRound 4 [] ++ [.close] ++ monitorRound 1 {} ++ List.replicate 7 .close

theorem threeLeave_vacated :
    ∃ s, Reachable step (opened 3) s ∧ removals s.events 0 = [.monitor] ∧
      removals s.events 1 = [.dropAll 0] ∧ removals s.events 2 = [.close] ∧ Vacated s := by
  have hrun : exec step (opened 3) threeLeave =
      some ((exec step (opened 3) threeLeave).getD (opened 3)) := rfl
  have hdrops := noDropAll_of_exec 0 hrun
    (by simp +contextual [threeLeave, acceptRound, monitorRound]) rfl
  exact ⟨_, ⟨threeLeave, hrun⟩, rfl, rfl, rfl,
    vacated_of_returned ⟨threeLeave, hrun⟩ rfl hdrops⟩

/-- `close` is called with one client on descriptor 4 and no `dropAll` in progress. -/
def closeCalled : List Label := acceptRound 4 []

/-- While `close` joins the monitor, a `dropAll` call takes the client off the list; it has
    not closed the socket when `close` returns. -/
def droppedWhileJoining : List Label :=
  [.close] ++ List.replicate 3 (.dropAll 0) ++ monitorRound 1 {} ++ List.replicate 4 .close

/-- The accepted descriptor is open after `close` has returned. -/
theorem droppedWhileJoining_not_vacated :
    ∃ s₀ s, exec step (opened 3) closeCalled = some s₀ ∧ s₀.closer = .idle ∧ NoDropAll s₀ ∧
      s₀.activeClients = [0] ∧ exec step s₀ droppedWhileJoining = some s ∧
      s.closer = .returned ∧ s.kernel.connectionAt 4 = some 0 ∧ ¬ Vacated s := by
  refine ⟨(exec step (opened 3) closeCalled).getD (opened 3),
    (exec step (opened 3) (closeCalled ++ droppedWhileJoining)).getD (opened 3), rfl, rfl,
    fun call => .inl rfl, rfl, rfl, rfl, rfl, fun hvacated => ?_⟩
  exact hvacated.closed 4 0 rfl (by decide)

end BroadcastServer

end SecuritySocket
