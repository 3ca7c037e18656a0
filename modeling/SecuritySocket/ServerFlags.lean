import SecuritySocket.SocketBroadcastAwait
import SecuritySocket.SocketBroadcastOpen
import SecuritySocket.SocketRequestServerOpen

/-!
# The running flags (`_is_running`, `_is_monitoring`)

`open` sets the flag of its server and starts the thread, `close` clears it and joins.  The
loop also ends by itself, when `poll` fails, and then leaves the flag as it is: the server
looks alive from outside, and no thread serves it.
-/

namespace SecuritySocket

open Transition

/-! ### The request server -/

namespace RequestServerImpl

/-- The flag tells whether the loop goes on, and `open` goes by it. -/
structure Agrees (s : RequestServerImpl) : Prop where
  flag : s.server.isRunning = true ↔ s.server.loop ≠ .exited
  reopened : s.server.loop = .exited → ∀ handler a,
    (s.open_ handler a).2.code ≠ .socketServerAlreadyRunning

/-- `poll` fails while the flag is set. -/
def abandons (s : RequestServerImpl) : Label → Bool
  | .server (.poll .error) => s.server.isRunning
  | _ => false

/-- A thread and a caller that is not in `close` mean that the flag is set. -/
structure Staffed (s : RequestServerImpl) : Prop where
  joining : s.caller = .joining → s.server.isRunning = false
  routine : s.routine.isSome → s.caller = .idle → s.server.isRunning = true

variable {configuration : SocketConfiguration} {s s' : RequestServerImpl}

theorem staffed_constructed : Staffed constructed := by
  constructor <;> simp [constructed]

theorem openPassive_code_ne_alreadyRunning (a : OpenAnswer) :
    (openPassive a).code ≠ .socketServerAlreadyRunning := by
  have hcall : ∀ ret errno,
      (PassiveSocket.callResult ret errno).code ≠ .socketServerAlreadyRunning := by
    intro ret errno
    unfold PassiveSocket.callResult createResult
    split
    · split
      · simp
      · cases errno <;> simp [createResultFromSocketError]
    · simp
  have hmake : (PassiveSocket.make a.socket a.errno).result =
      PassiveSocket.callResult a.socket a.errno := by
    unfold PassiveSocket.make PassiveSocket.callResult
    split <;> rfl
  unfold openPassive
  dsimp only
  rw [hmake]
  split
  · exact hcall _ _
  · split
    · cases a.address <;> simp [SocketAddress.result]
    · split <;> exact hcall _ _

theorem agrees_of_flag (h : s.server.isRunning = true ↔ s.server.loop ≠ .exited) : Agrees s := by
  refine ⟨h, fun hexited handler a => ?_⟩
  have hstopped : ¬ s.server.isRunning = true := fun hrunning => h.mp hrunning hexited
  rw [open_, if_neg hstopped]
  dsimp only
  split <;> exact openPassive_code_ne_alreadyRunning a

theorem Staffed.step (h : Staffed s) {label : Label}
    (hstep : s.step configuration label = some s') : Staffed s' := by
  rcases step_cases hstep with ⟨handler, a, rfl, hcaller, rfl⟩ | ⟨rfl, hcaller, rfl⟩ |
    ⟨rfl, hcaller, hexited, rfl⟩ | ⟨label, handler, server, rfl, hlabel, _, hserver, rfl⟩
  · unfold open_
    split
    · exact h
    · dsimp only
      split
      · exact ⟨h.joining, h.routine⟩
      · exact ⟨fun hjoining => absurd (hcaller.symm.trans hjoining) (by simp), fun _ _ => rfl⟩
  · unfold close
    split
    · exact ⟨fun _ => rfl, fun _ hidle => by cases hidle⟩
    · exact h
  · exact ⟨fun hjoining => (by cases hjoining), fun hroutine => (by cases hroutine)⟩
  · have hflag := RequestServer.step_isRunning hlabel hserver
    refine ⟨fun hjoining => ?_, fun hroutine hidle => ?_⟩
    · rw [hflag]
      exact h.joining hjoining
    · rw [hflag]
      exact h.routine hroutine hidle

theorem exited_step {handler : SocketRequestHandler} {server server' : RequestServer}
    {label : RequestServer.Label} (hlabel : label ≠ .stop)
    (hstep : server.step handler configuration label = some server') :
    server.loop ≠ .exited ∧
      (server'.loop = .exited ↔
        label = .poll .error ∨ (label = .leave ∧ server.isRunning = false)) := by
  rcases RequestServer.step_cases hstep with ⟨rfl, _⟩ | ⟨ret, rfl, hloop, _, rfl⟩ | ⟨rfl, rfl⟩ |
    ⟨a, p, rest, rfl, hloop, hdispatch⟩
  · exact absurd rfl hlabel
  · refine ⟨by simp [hloop], ?_⟩
    unfold RequestServer.poll
    cases ret with
    | timeout => simp [hloop]
    | error => simp
    | ready revents =>
      dsimp only
      split
      · split <;> simp
      · simp
  · simp only [RequestServer.step] at hstep
    split at hstep
    · rename_i hloop
      cases hrunning : server.isRunning with
      | true => simp [hrunning] at hstep
      | false => simp [hloop]
    all_goals cases hstep
  · refine ⟨by simp [hloop], ?_⟩
    rcases (RequestServer.dispatch_cases hdispatch).loop with hafter | ⟨fault, hafter⟩
    · simp [hafter]
    · simp [hafter]

theorem Agrees.open_ (h : Agrees s) (handler : SocketRequestHandler) (a : OpenAnswer) :
    Agrees (s.open_ handler a).1 := by
  unfold RequestServerImpl.open_
  split
  · exact h
  · dsimp only
    split
    · exact agrees_of_flag h.flag
    · exact agrees_of_flag (by simp [RequestServer.start])

/-- A step of the loop of a server nobody is closing ends it against the flag exactly if it is a
    failed `poll`. -/
theorem agrees_server_step (h : Staffed s) (hcaller : s.caller = .idle)
    {handler : SocketRequestHandler} (hroutine : s.routine = some handler)
    {label : RequestServer.Label} (hlabel : label ≠ .stop) {server : RequestServer}
    (hserver : s.server.step handler configuration label = some server) :
    Agrees { s with server := server } ↔ s.abandons (.server label) = false := by
  obtain ⟨hloop, hexited⟩ := exited_step hlabel hserver
  have hrunning := h.routine (by simp [hroutine]) hcaller
  have hflag := (RequestServer.step_isRunning hlabel hserver).trans hrunning
  have hleft : server.loop = .exited ↔ s.abandons (.server label) = true := by
    rw [hexited]
    unfold abandons
    split <;> simp_all
  rw [← Bool.not_eq_true, ← hleft]
  constructor
  · intro hafter
    exact hafter.flag.mp hflag
  · intro hrunsOn
    exact agrees_of_flag ⟨fun _ => hrunsOn, fun _ => hflag⟩

theorem Staffed.not_abandons (h : Staffed s) (hcaller : s.caller ≠ .idle) (label : Label) :
    s.abandons label = false := by
  have hjoining : s.caller = .joining := by
    cases hs : s.caller with
    | idle => exact absurd hs hcaller
    | joining => rfl
  unfold abandons
  split
  · exact h.joining hjoining
  · rfl

/-- The flag and the loop of a server nobody is opening or closing agree after a step exactly
    if the step is not a failed `poll` of a server that is running. -/
theorem agrees_step (h : Staffed s) (hagrees : s.caller = .idle → Agrees s) {label : Label}
    (hstep : s.step configuration label = some s') :
    (s'.caller = .idle → Agrees s') ↔ s.abandons label = false := by
  rcases step_cases hstep with ⟨handler, a, rfl, hcaller, rfl⟩ | ⟨rfl, hcaller, rfl⟩ |
    ⟨rfl, hcaller, hexited, rfl⟩ | ⟨label, handler, server, rfl, hlabel, hroutine, hserver, rfl⟩
  · exact iff_of_true (fun _ => (hagrees hcaller).open_ handler a) rfl
  · refine iff_of_true (fun hidle => ?_) rfl
    unfold close at hidle ⊢
    split
    · rename_i hrunning
      rw [if_pos hrunning] at hidle
      cases hidle
    · exact hagrees hcaller
  · refine iff_of_true (fun _ => agrees_of_flag ?_) rfl
    simp [joined, hexited, h.joining hcaller]
  · by_cases hcaller : s.caller = .idle
    · rw [← agrees_server_step h hcaller hroutine hlabel hserver]
      exact ⟨fun hafter => hafter hcaller, fun hafter _ => hafter⟩
    · exact iff_of_true (fun hidle => absurd hidle hcaller) (h.not_abandons hcaller _)

end RequestServerImpl

/-! ### The broadcast server -/

namespace BroadcastServerImpl

open BroadcastServer

/-- What the caller does, and the steps of the monitor, of the `dropAll` calls and of
    `close`. -/
inductive Label where
  | open_ (handler : Option Nat) (a : OpenAnswer)
  | server (label : BroadcastServer.Label)

/-- One step of `close`, on a server that may have been opened and closed before: with no
    monitor to wait for it begins at the lock, and it closes the socket in `_container`. -/
def closeStep (s : BroadcastServerImpl) : Option BroadcastServerImpl :=
  match s.server.closer with
  | .returned => some { s with server := { s.server with closer := .locking } }
  | .finishing =>
    some {
      server := { s.server with kernel := s.server.kernel.close s.socket.socket, closer := .returned }
      socket := { s.socket with socket := -1 }
      handler := none }
  | _ => s.server.closeStep.map fun server => { s with server := server }

def step (s : BroadcastServerImpl) : Label → Option BroadcastServerImpl
  | .open_ handler a =>
    if (s.server.closer == .idle || s.server.closer == .returned) && a.fits s.server.kernel then
      some (s.open_ handler a).1
    else none
  | .server .close => s.closeStep
  | .server label => (s.server.step label).map fun server => { s with server := server }

/-- No `open` and no `close` is in progress. -/
def Settled (s : BroadcastServerImpl) : Prop :=
  s.server.closer = .idle ∨ s.server.closer = .returned

/-- The flag tells whether the monitor goes on; once it has ended, no `await` and no
    `awaitClose` blocks, and both say that the server is closed. -/
structure Agrees (s : BroadcastServerImpl) : Prop where
  flag : s.server.isMonitoring = true ↔ s.server.monitor ≠ .exited
  wakes : s.server.monitor = .exited → ∀ kind, s.server.predicate kind = true
  await : s.server.monitor = .exited → s.server.awaitFirst = some { code := .socketClosed }
  awaitClose : s.server.monitor = .exited → s.server.awaitClose = { code := .socketClosed }

/-- `poll` fails while the flag is set. -/
def abandons (s : BroadcastServerImpl) : Label → Bool
  | .server (.monitor a) =>
    match s.server.monitor, a.poll with
    | .polling _ _, .error => s.server.isMonitoring
    | _, _ => false
  | _ => false

variable {s s' : BroadcastServerImpl}

theorem step_cases {label : Label} (hstep : s.step label = some s') :
    (∃ handler a, label = .open_ handler a ∧ Settled s ∧ s' = (s.open_ handler a).1) ∨
    (∃ label' server, label = .server label' ∧ s.server.step label' = some server ∧
      s' = { s with server := server }) ∨
    (label = .server .close ∧ s.server.closer = .returned ∧
      s' = { s with server := { s.server with closer := .locking } }) ∨
    (label = .server .close ∧ s.server.closer = .finishing ∧ s'.server =
      { s.server with kernel := s.server.kernel.close s.socket.socket, closer := .returned }) := by
  cases label with
  | open_ handler a =>
    simp only [BroadcastServerImpl.step, Bool.and_eq_true, Bool.or_eq_true, beq_iff_eq] at hstep
    split at hstep
    · rename_i hguard
      exact .inl ⟨handler, a, rfl, hguard.1, (Option.some.inj hstep).symm⟩
    · cases hstep
  | server label =>
    cases label with
    | close =>
      simp only [BroadcastServerImpl.step, closeStep] at hstep
      split at hstep
      · rename_i hreturned
        exact .inr (.inr (.inl ⟨rfl, hreturned, (Option.some.inj hstep).symm⟩))
      · rename_i hfinishing
        cases hstep
        exact .inr (.inr (.inr ⟨rfl, hfinishing, rfl⟩))
      · obtain ⟨server, hserver, hs'⟩ := Option.map_eq_some_iff.mp hstep
        exact .inr (.inl ⟨.close, server, rfl, hserver, hs'.symm⟩)
    | monitor a =>
      obtain ⟨server, hserver, hs'⟩ := Option.map_eq_some_iff.mp hstep
      exact .inr (.inl ⟨.monitor a, server, rfl, hserver, hs'.symm⟩)
    | dropAll call =>
      obtain ⟨server, hserver, hs'⟩ := Option.map_eq_some_iff.mp hstep
      exact .inr (.inl ⟨.dropAll call, server, rfl, hserver, hs'.symm⟩)

/-- `open` starts a monitor exactly when there is none. -/
theorem open_server (s : BroadcastServerImpl) (handler : Option Nat) (a : OpenAnswer) :
    (∃ kernel, (s.open_ handler a).1.server = { s.server with kernel := kernel }) ∨
    ∃ kernel serverContext listener, (s.open_ handler a).1.server =
      if s.server.isMonitoring then
        { s.server with kernel := kernel, serverContext := serverContext, listener := listener }
      else
        { s.server with
          kernel := kernel
          serverContext := serverContext
          listener := listener
          isMonitoring := true
          monitor := .top
          closer := .idle } := by
  unfold open_
  dsimp only
  split
  · exact .inl ⟨_, rfl⟩
  · exact .inr ⟨_, _, _, rfl⟩

theorem control_constructed : Control constructed.server := by
  constructor <;>
    simp [constructed, BroadcastServer.opened, DropPc.holdsLock, ClosePc.holdsLock]

theorem control_step (h : Control s.server) {label : Label} (hstep : s.step label = some s') :
    Control s'.server := by
  rcases step_cases hstep with ⟨handler, a, rfl, hsettled, rfl⟩ | ⟨label, server, rfl, hserver, rfl⟩ |
    ⟨rfl, hreturned, rfl⟩ | ⟨rfl, hfinishing, hs'⟩
  · rcases open_server s handler a with ⟨kernel, hopen⟩ | ⟨kernel, serverContext, listener, hopen⟩
    · rw [hopen]
      exact ⟨h.removing, h.closing, h.free, h.joined, h.monitoring⟩
    · rw [hopen]
      split
      · exact ⟨h.removing, h.closing, h.free, h.joined, h.monitoring⟩
      · have hunlocked : s.server.closer.holdsLock = false := by
          rcases hsettled with hcloser | hcloser <;> simp [hcloser, ClosePc.holdsLock]
        have hclosing := h.closing
        rw [hunlocked] at hclosing
        exact ⟨h.removing, hclosing, h.free, fun hne => absurd rfl hne, by simp⟩
  · exact h.step hserver
  · have hclosing := h.closing
    have hmonitoring := h.monitoring
    rw [hreturned] at hclosing hmonitoring
    exact ⟨h.removing, hclosing, h.free, fun _ _ => h.joined (by simp [hreturned]) (by simp [hreturned]),
      hmonitoring.trans (by simp)⟩
  · have hclosing := h.closing
    have hmonitoring := h.monitoring
    rw [hfinishing] at hclosing hmonitoring
    rw [hs']
    exact ⟨h.removing, hclosing, h.free,
      fun _ _ => h.joined (by simp [hfinishing]) (by simp [hfinishing]),
      hmonitoring.trans (by simp)⟩

/-- With the flag cleared, no waiting call blocks, and each returns that the server is closed. -/
theorem agrees_of_flag (h : s.server.isMonitoring = true ↔ s.server.monitor ≠ .exited) :
    Agrees s := by
  have hstopped : s.server.monitor = .exited → s.server.isMonitoring = false := by
    intro hexited
    rw [← Bool.not_eq_true, h]
    exact not_not_intro hexited
  refine ⟨h, fun hexited kind => ?_, fun hexited => ?_, fun hexited => ?_⟩
  · cases kind <;> simp [predicate, hstopped hexited]
  · simp [awaitFirst, hstopped hexited]
  · simp [BroadcastServer.awaitClose, hstopped hexited]

/-- All that can go wrong is a monitor that has ended before anybody called `close`. -/
theorem agrees_iff (h : Control s.server) :
    (Settled s → Agrees s) ↔ (s.server.closer = .idle → s.server.monitor ≠ .exited) := by
  constructor
  · intro hagrees hidle
    exact (hagrees (.inl hidle)).flag.mp (h.monitoring.mpr hidle)
  · rintro hrunsOn (hidle | hreturned)
    · exact agrees_of_flag ⟨fun _ => hrunsOn hidle, fun _ => h.monitoring.mpr hidle⟩
    · have hexited := h.joined (by simp [hreturned]) (by simp [hreturned])
      have hmonitoring := h.monitoring
      rw [hreturned] at hmonitoring
      exact agrees_of_flag (hmonitoring.trans (by simp [hexited]))

theorem exited_move {server server' : BroadcastServer} {a : MonitorAnswer}
    (hmove : MonitorMove server a server') :
    server.monitor ≠ .exited ∧ server'.closer = server.closer ∧
      (server'.monitor = .exited ↔
        (∃ contexts handle, server.monitor = .polling contexts handle ∧ a.poll = .error) ∨
          (server.monitor = .top ∧ server.isMonitoring = false)) := by
  cases hmove with
  | tested hpc =>
    refine ⟨by simp [hpc], rfl, ?_⟩
    cases hmonitoring : server.isMonitoring <;> simp [hpc]
  | timedOut hpc hret => exact ⟨by simp [hpc], rfl, by simp [hpc, hret]⟩
  | failed hpc hret => exact ⟨by simp [hpc], rfl, by simp [hpc, hret]⟩
  | unmatched hpc hret => exact ⟨by simp [hpc], rfl, by simp [hpc, hret]⟩
  | reported hpc hret => exact ⟨by simp [hpc], rfl, by simp [hpc, hret]⟩
  | _ => simp [*]

theorem abandons_iff {a : MonitorAnswer} : s.abandons (.server (.monitor a)) = false ↔
    ¬ ((∃ contexts handle, s.server.monitor = .polling contexts handle ∧ a.poll = .error) ∧
      s.server.isMonitoring = true) := by
  unfold abandons
  dsimp only
  split
  · rename_i contexts handle hpc hret
    simp [hpc, hret]
  · rename_i hnot
    refine iff_of_true rfl ?_
    rintro ⟨⟨contexts, handle, hpc, hret⟩, _⟩
    exact hnot contexts handle hpc hret

/-- The monitor of a server nobody has closed goes on after a step exactly if the step is not
    a failed `poll`. -/
theorem agrees_step (h : Control s.server) (hagrees : Settled s → Agrees s) {label : Label}
    (hstep : s.step label = some s') :
    (Settled s' → Agrees s') ↔ s.abandons label = false := by
  have hbefore := (agrees_iff h).mp hagrees
  rw [agrees_iff (control_step h hstep)]
  rcases step_cases hstep with ⟨handler, a, rfl, hsettled, rfl⟩ | ⟨label, server, rfl, hserver, rfl⟩ |
    ⟨rfl, hreturned, rfl⟩ | ⟨rfl, hfinishing, hs'⟩
  · refine iff_of_true ?_ rfl
    rcases open_server s handler a with ⟨kernel, hopen⟩ | ⟨kernel, serverContext, listener, hopen⟩
    · rw [hopen]
      exact hbefore
    · rw [hopen]
      split
      · exact hbefore
      · simp
  · rcases BroadcastServer.step_cases hserver with ⟨a, rfl, hmove⟩ | ⟨call, rfl, hmove⟩ |
      ⟨rfl, hmove⟩
    · obtain ⟨hnot, hcloser, hexited⟩ := exited_move hmove
      rw [hcloser]
      by_cases hidle : s.server.closer = .idle
      · have hmonitoring := h.monitoring.mpr hidle
        rw [abandons_iff, ne_eq, hexited, hmonitoring]
        simp [hidle]
      · have hmonitoring : ¬ s.server.isMonitoring = true := fun hflag =>
          hidle (h.monitoring.mp hflag)
        rw [abandons_iff]
        exact iff_of_true (fun hclosed => absurd hclosed hidle) fun hboth => hmonitoring hboth.2
    · refine iff_of_true ?_ rfl
      cases hmove <;> exact hbefore
    · refine iff_of_true ?_ rfl
      cases hmove <;> simp
  · exact iff_of_true (by simp) rfl
  · exact iff_of_true (by simp [hs']) rfl

end BroadcastServerImpl

/-! ### Both servers -/

/-- **The flags.**  In a run of the request server, and in one of the broadcast server, the flag
    agrees with the loop whenever no `open` and no `close` is in progress, exactly if `poll`
    never fails while the flag is set. -/
theorem flags_agree_iff {configuration : SocketConfiguration}
    {requestLabels : List RequestServerImpl.Label} {request : RequestServerImpl}
    {broadcastLabels : List BroadcastServerImpl.Label} {broadcast : BroadcastServerImpl}
    (hrequest : exec (RequestServerImpl.step configuration) RequestServerImpl.constructed
      requestLabels = some request)
    (hbroadcast : exec BroadcastServerImpl.step BroadcastServerImpl.constructed
      broadcastLabels = some broadcast) :
    (Always (RequestServerImpl.step configuration)
        (fun s => s.caller = .idle → RequestServerImpl.Agrees s)
        RequestServerImpl.constructed requestLabels ↔
      Meets (RequestServerImpl.step configuration) (fun s label => s.abandons label = false)
        RequestServerImpl.constructed requestLabels) ∧
    (Always BroadcastServerImpl.step
        (fun s => BroadcastServerImpl.Settled s → BroadcastServerImpl.Agrees s)
        BroadcastServerImpl.constructed broadcastLabels ↔
      Meets BroadcastServerImpl.step (fun s label => s.abandons label = false)
        BroadcastServerImpl.constructed broadcastLabels) := by
  constructor
  · apply always_iff_meets (fun _ _ _ hs hstep => hs.step hstep)
      (fun _ _ _ hs hagrees hstep => RequestServerImpl.agrees_step hs hagrees hstep) hrequest
      RequestServerImpl.staffed_constructed
    exact fun _ => RequestServerImpl.agrees_of_flag (by simp [RequestServerImpl.constructed])
  · apply always_iff_meets (I := fun s => BroadcastServer.Control s.server)
      (fun _ _ _ hs hstep => BroadcastServerImpl.control_step hs hstep)
      (fun _ _ _ hs hagrees hstep => BroadcastServerImpl.agrees_step hs hagrees hstep) hbroadcast
      BroadcastServerImpl.control_constructed
    exact fun _ => BroadcastServerImpl.agrees_of_flag (by simp [BroadcastServerImpl.constructed])

section

open RequestServer (bytePdu)

open SocketConnection (byteHandler)

open BroadcastServer (acceptRound monitorRound)

def quietRequest : List RequestServerImpl.Label :=
  [.open_ byteHandler { socket := 3 }, .server (.poll .timeout), .close, .server .leave, .joined]

/-- A broadcast server that is opened, is closed while its `poll` is interrupted, and is opened
    again. -/
def quietBroadcast : List BroadcastServerImpl.Label :=
  [.open_ (some 0) { socket := 3 }] ++ (monitorRound 3 {}).map .server ++ [.server .close] ++
    (monitorRound 1 { poll := .error }).map .server ++ List.replicate 4 (.server .close) ++
    [.open_ (some 0) { socket := 3 }]

theorem quiet_flags_agree :
    ∃ request broadcast,
      exec (RequestServerImpl.step bytePdu) RequestServerImpl.constructed quietRequest =
        some request ∧
      exec BroadcastServerImpl.step BroadcastServerImpl.constructed quietBroadcast =
        some broadcast ∧
      request.server.isRunning = false ∧ broadcast.server.isMonitoring = true ∧
      Always (RequestServerImpl.step bytePdu)
        (fun s => s.caller = .idle → RequestServerImpl.Agrees s)
        RequestServerImpl.constructed quietRequest ∧
      Always BroadcastServerImpl.step
        (fun s => BroadcastServerImpl.Settled s → BroadcastServerImpl.Agrees s)
        BroadcastServerImpl.constructed quietBroadcast := by
  have hrequest : Meets (RequestServerImpl.step bytePdu) (fun s label => s.abandons label = false)
      RequestServerImpl.constructed quietRequest := by decide
  have hbroadcast : Meets BroadcastServerImpl.step (fun s label => s.abandons label = false)
      BroadcastServerImpl.constructed quietBroadcast := by decide
  have hiff := @flags_agree_iff bytePdu quietRequest _ quietBroadcast _ rfl rfl
  exact ⟨_, _, rfl, rfl, rfl, rfl, hiff.1.mpr hrequest, hiff.2.mpr hbroadcast⟩

/-- The first `poll` of each server is interrupted, that of the broadcast server when a client
    is connected. -/
theorem interrupted_disagrees :
    (∃ s, exec (RequestServerImpl.step bytePdu) RequestServerImpl.constructed
        [.open_ byteHandler { socket := 3 }, .server (.poll .error)] = some s ∧
      s.caller = .idle ∧ s.server.loop = .exited ∧
      (s.open_ byteHandler { socket := 4 }).2.code = .socketServerAlreadyRunning ∧
      ¬ RequestServerImpl.Agrees s) ∧
    ∃ s, exec BroadcastServerImpl.step BroadcastServerImpl.constructed
        ([.open_ (some 0) { socket := 3 }] ++ (acceptRound 4 []).map .server ++
          (monitorRound 4 { poll := .error }).map .server) = some s ∧
      s.server.closer = .idle ∧ s.server.monitor = .exited ∧
      s.server.awaitClose.code = .socketTimeout ∧ ¬ BroadcastServerImpl.Agrees s := by
  refine ⟨⟨_, rfl, rfl, rfl, rfl, fun h => ?_⟩, _, rfl, rfl, rfl, by decide, fun h => ?_⟩
  · exact h.flag.mp rfl rfl
  · exact h.flag.mp rfl rfl

end

end SecuritySocket
