import SecuritySocket.BroadcastRegistry
import SecuritySocket.PassiveSocket

/-!
# Opening the broadcast server (`SocketBroadcastServerImpl::open`)

`open` has no test for a server that is already running.  It replaces the passive socket
before the steps that can fail, and on success registers the accept context once more with
the listener, which keeps its two vectors over `close`.
-/

namespace SecuritySocket

/-- `SocketBroadcastServerImpl`: the parties' state, the socket in `_container`, and the
    handler. -/
structure BroadcastServerImpl where
  server : BroadcastServer
  socket : PassiveSocket
  handler : Option Nat

namespace BroadcastServer

/-- The last part of `open`, once the socket listens: the accept context is registered, and
    a monitor is started unless there is one. -/
def listen (s : BroadcastServer) (fd : Int) : BroadcastServer :=
  let s := { s with
    serverContext := { fd := fd }
    listener := s.listener.addEvent .server fd .accept }
  if s.isMonitoring then s else { s with isMonitoring := true, monitor := .top, closer := .idle }

end BroadcastServer

namespace BroadcastServerImpl

open BroadcastServer SocketMultiEventListener Transition

def open_ (s : BroadcastServerImpl) (handler : Option Nat) (a : OpenAnswer) :
    BroadcastServerImpl × SocketResult :=
  let s := { s with
    socket := PassiveSocket.make a.socket a.errno
    server := { s.server with kernel := s.server.kernel.socket a.socket } }
  let result := openPassive a
  if result.code ≠ .success then (s, result)
  else ({ s with handler := handler, server := s.server.listen s.socket.socket }, result)

def constructed : BroadcastServerImpl where
  server :=
    { BroadcastServer.opened 0 with
      isMonitoring := false
      serverContext := {}
      listener := {}
      monitor := .exited
      closer := .returned
      kernel := { fdTable := fun _ => none, nextConnection := 0 } }
  socket := {}
  handler := none

/-- The first `open` of a server, when it succeeds, leads to the state `opened` describes. -/
theorem open_constructed (handler : Option Nat) (a : OpenAnswer) (hsocket : 0 ≤ a.socket)
    (hsuccess : (openPassive a).code = .success) :
    (constructed.open_ handler a).1.server = BroadcastServer.opened a.socket := by
  rw [open_]
  simp only [hsuccess, ne_eq, not_true_eq_false, if_false, PassiveSocket.make_socket,
    Kernel.socket_of_nonneg hsocket]
  rfl

/-! ### An open that fails -/

/-- `s'` is `s` as far as the monitor, the callers of the server and the process see it. -/
structure Undisturbed (s s' : BroadcastServerImpl) : Prop where
  socket : s'.socket = s.socket
  handler : s'.handler = s.handler
  serverContext : s'.server.serverContext = s.server.serverContext
  listener : s'.server.listener = s.server.listener
  active : s'.server.activeClients = s.server.activeClients
  descriptors : ∀ fd, s'.server.kernel.fdTable fd = s.server.kernel.fdTable fd

/-- **A failed open.**  It leaves the server as it was exactly when it fails to create a
    socket, and the socket the monitor accepts on was already one that failed in the same
    way. -/
theorem undisturbed_iff (s : BroadcastServerImpl) (handler : Option Nat) (a : OpenAnswer)
    (hfits : a.fits s.server.kernel) (hfailed : (s.open_ handler a).2.code ≠ .success) :
    Undisturbed s (s.open_ handler a).1 ↔
      a.socket < 0 ∧ s.socket = PassiveSocket.make a.socket a.errno := by
  have hcode : (openPassive a).code ≠ .success := by
    intro hsuccess
    simp [open_, hsuccess] at hfailed
  simp only [open_, hcode, ne_eq, not_false_eq_true, if_true]
  constructor
  · intro h
    by_cases hneg : a.socket < 0
    · exact ⟨hneg, h.socket.symm⟩
    · have hnonneg := Int.not_lt.mp hneg
      have hfree : s.server.kernel.fdTable a.socket = none := by
        simpa [OpenAnswer.fits, hneg] using hfits
      have hopen := h.descriptors a.socket
      rw [Kernel.socket_of_nonneg hnonneg, hfree] at hopen
      simp at hopen
  · rintro ⟨hneg, hsocket⟩
    exact ⟨hsocket.symm, rfl, rfl, rfl, rfl, fun fd => by rw [Kernel.socket_of_neg hneg]⟩

def running : BroadcastServerImpl := (constructed.open_ (some 0) { socket := 3 }).1

/-- The process has no more descriptors, twice: the second attempt changes nothing more. -/
theorem noDescriptors_undisturbed :
    let failed := (running.open_ none { socket := -1, errno := .emfile }).1
    failed ≠ running ∧ Undisturbed failed (failed.open_ none { socket := -1, errno := .emfile }).1 := by
  intro failed
  refine ⟨fun h => ?_, (undisturbed_iff failed none { socket := -1, errno := .emfile }
    (by decide) (by decide)).mpr ⟨by decide, rfl⟩⟩
  have hsocket := congrArg (fun s => s.socket.socket) h
  revert hsocket
  decide

/-- The address is in use, by the server itself: the monitor goes on with a socket that does
    not listen, and the descriptor of the one that does is lost. -/
theorem addressInUse_disturbed :
    let failed := running.open_ none { socket := 5, bind := -1, errno := .eaddrinuse }
    running.server.isMonitoring = true ∧ failed.2.code = .socketConnectionAddressInUse ∧
      failed.1.socket.socket = 5 ∧ failed.1.server.kernel.fdTable 5 = some .listening ∧
      ¬ Undisturbed running failed.1 := by
  intro failed
  refine ⟨rfl, by decide, rfl, rfl, fun h => ?_⟩
  have hsocket := h.socket
  revert hsocket
  decide

/-! ### Closing and opening again -/

/-- The listener is empty, and after any `open` that succeeds `wait` polls the accept socket and
    clients accepted since, and has a context for every descriptor it polls. -/
structure Reopenable (s : BroadcastServerImpl) : Prop where
  contexts : s.server.listener.contexts = []
  handle : s.server.listener.handle = []
  asConstructed : ∀ handler a, a.fits s.server.kernel → (s.open_ handler a).2.code = .success →
    ∀ labels t, exec step (s.open_ handler a).1.server labels = some t →
      ∀ contexts handle, t.monitor = .polling contexts handle →
        (∀ p ∈ contexts, p = .server ∨ ∃ id, p = .peer id ∧ s.server.kernel.nextConnection ≤ id) ∧
        ∀ entry ∈ handle, ∃ p ∈ contexts, t.fdOf p = entry.fd

end BroadcastServerImpl

namespace BroadcastServer

open SocketMultiEventListener Transition

variable {s s' : BroadcastServer} {fd : Int}

/-- The accept context and its descriptor are registered, and no client has that descriptor. -/
structure Accepting (s : BroadcastServer) (fd : Int) : Prop where
  serverFd : s.serverContext.fd = fd
  clientFd : ∀ id, (s.clients id).context.fd ≠ fd
  context : .server ∈ s.listener.contexts
  polled : fd ∈ s.listener.fds

theorem Accepting.listener (h : Accepting s fd) (hserver : s'.serverContext.fd = fd)
    (hclient : ∀ id, (s'.clients id).context.fd ≠ fd)
    (hlistener : s'.listener = s.listener ∨
      (∃ id type, s'.listener = s.listener.addEvent (.peer id) (s.fdOf (.peer id)) type) ∨
      ∃ id, s'.listener = s.listener.removeEvent (.peer id) (s.fdOf (.peer id))) :
    Accepting s' fd := by
  refine ⟨hserver, hclient, ?_, ?_⟩
  · rcases hlistener with heq | ⟨id, type, heq⟩ | ⟨id, heq⟩
    · exact heq ▸ h.context
    · simp [heq, addEvent, h.context]
    · rw [heq]
      exact (List.mem_erase_of_ne (by simp)).mpr h.context
  · rcases hlistener with heq | ⟨id, type, heq⟩ | ⟨id, heq⟩
    · exact heq ▸ h.polled
    · rw [heq, fds_addEvent]
      exact List.mem_append_left _ h.polled
    · rw [heq, fds_removeEvent]
      exact (List.mem_erase_of_ne (Ne.symm (h.clientFd id))).mpr h.polled

theorem Accepting.step (h : Accepting s fd) (hlistening : s.closer ≠ .returned →
    s.kernel.fdTable s.serverContext.fd = some .listening) (hcontrol : Control s) {label : Label}
    (hstep : s.step label = some s') : Accepting s' fd := by
  have hlistener := (step_listener hstep).listener
  have hserver : s'.serverContext.fd = s.serverContext.fd :=
    (step_listener hstep).fdOf .server (by simp)
  refine h.listener (hserver.trans h.serverFd) ?_ ?_
  · intro id
    rcases step_cases hstep with ⟨a, _, hmove⟩ | ⟨call, _, hmove⟩ | ⟨_, hmove⟩
    · cases hmove with
      | reported hpc hret hcollect hretyped hstore => exact hretyped.fd id ▸ h.clientFd id
      | accepted hpc htype hfits hdescriptor =>
        by_cases hid : id = s.kernel.nextConnection
        · subst hid
          have hreturned : s.closer ≠ .returned := by
            rcases hcontrol.running (by simp [hpc]) with hidle | hjoining
            · simp [hidle]
            · simp [hjoining]
          have hopen := hlistening hreturned
          have hfree := Kernel.fdTable_of_fits hfits (Int.le_of_lt hdescriptor)
          simp only [Function.update_self, newClient]
          rintro rfl
          rw [h.serverFd, hfree] at hopen
          cases hopen
        · simpa [hid] using h.clientFd id
      | stored hpc => exact (congrFun (custody_closedClient s.clients _).2 id) ▸ h.clientFd id
      | _ => exact h.clientFd id
    · exact fun heq => h.clientFd id ((hmove.fdOf (.peer id)).symm.trans heq)
    · exact fun heq => h.clientFd id ((hmove.fdOf (.peer id)).symm.trans heq)
  · rcases hlistener with heq | ⟨id, _, heq⟩ | ⟨id, heq, _⟩
    · exact .inl heq
    · exact .inr (.inl ⟨id, _, heq⟩)
    · exact .inr (.inr ⟨id, heq⟩)

theorem reachable_accepting (hfd : 0 ≤ fd) (hreach : Reachable step (opened fd) s) :
    Accepting s fd := by
  refine (hreach.invariant (I := fun s => Reachable step (opened fd) s ∧ Accepting s fd)
    ⟨.refl _, rfl, fun id => ?_, by simp [opened, addEvent], by simp [opened, addEvent, fds]⟩ ?_).2
  · simp only [opened, ne_eq]
    omega
  · rintro s label s' ⟨hreach, hs⟩ hstep
    obtain ⟨place, hledger⟩ := reachable_ledger hreach
    refine ⟨hreach.tail hstep, hs.step (fun hreturned => ?_) (reachable_control hreach) hstep⟩
    exact hledger.referring.listening _ (if_neg hreturned)

theorem fdTable_of_returned (hfd : 0 ≤ fd) (hreach : Reachable step (opened fd) s)
    (hreturned : s.closer = .returned) : s.kernel.fdTable fd = none := by
  refine (hreach.invariant (I := fun s => Reachable step (opened fd) s ∧
    (s.closer = .returned → s.kernel.fdTable fd = none)) ⟨.refl _, nofun⟩ ?_).2 hreturned
  rintro s label s' ⟨hreach, hs⟩ hstep
  refine ⟨hreach.tail hstep, fun hreturned => ?_⟩
  have hexited : s.closer = .returned → s.monitor = .exited := fun h =>
    (reachable_control hreach).joined (by simp [h]) (by simp [h])
  have hclose : ∀ fd', s.kernel.fdTable fd = none → (s.kernel.close fd').fdTable fd = none := by
    intro fd' hnone
    by_cases heq : fd = fd'
    · rw [heq, Kernel.close_fdTable_self]
    · rw [Kernel.close_fdTable_ne heq, hnone]
  rcases step_cases hstep with ⟨a, _, hmove⟩ | ⟨call, _, hmove⟩ | ⟨_, hmove⟩
  · cases hmove <;> simp_all
  · cases hmove with
    | closed hpc => exact hclose _ (hs hreturned)
    | _ => exact hs hreturned
  · cases hmove with
    | finished hpc =>
      dsimp only
      rw [(reachable_accepting hfd hreach).serverFd, Kernel.close_fdTable_self]
    | _ => simp_all

end BroadcastServer

namespace BroadcastServerImpl

open BroadcastServer SocketMultiEventListener Transition

/-- **A first session.**  When `close` has returned after the first `open` of a server, and no `dropAll`
    is in progress, every client has left, once, and the descriptor it listened on is closed. -/
theorem vacated_of_first_open {handler : Option Nat} {a : OpenAnswer} (hsocket : 0 ≤ a.socket)
    (hsuccess : (openPassive a).code = .success) {s : BroadcastServer}
    (hreach : Reachable step (constructed.open_ handler a).1.server s)
    (hreturned : s.closer = .returned) (hdrops : NoDropAll s) :
    Vacated s ∧ s.kernel.fdTable a.socket = none := by
  rw [open_constructed handler a hsocket hsuccess] at hreach
  exact ⟨vacated_of_closed hreach hreturned hdrops.unclosed,
    fdTable_of_returned hsocket hreach hreturned⟩

/-- **Closing is not emptying.**  After `close`, in whatever state it found the session, the
    accept context and its descriptor are still registered with the listener, and that
    descriptor is not open any more. -/
theorem not_reopenable {s : BroadcastServerImpl} {fd : Int} (hfd : 0 ≤ fd)
    (hreach : Reachable step (opened fd) s.server) (hreturned : s.server.closer = .returned) :
    .server ∈ s.server.listener.contexts ∧ fd ∈ s.server.listener.fds ∧
      s.server.kernel.fdTable fd = none ∧ ¬ Reopenable s := by
  have haccepting := reachable_accepting hfd hreach
  refine ⟨haccepting.context, haccepting.polled, fdTable_of_returned hfd hreach hreturned,
    fun h => ?_⟩
  have hcontext := haccepting.context
  rw [h.contexts] at hcontext
  cases hcontext

def closedWithClient : List Label :=
  acceptRound 4 [] ++ [.close] ++ monitorRound 1 {} ++ List.replicate 7 .close

def closedServer : BroadcastServerImpl :=
  { running with
    server := (exec step (opened 3) closedWithClient).getD (opened 3) }

theorem closedServer_not_reopenable :
    closedServer.server.activeClients = [] ∧ .server ∈ closedServer.server.listener.contexts ∧
      3 ∈ closedServer.server.listener.fds ∧ closedServer.server.kernel.fdTable 3 = none ∧
      ¬ Reopenable closedServer :=
  ⟨rfl, not_reopenable (by decide) ⟨closedWithClient, rfl⟩ rfl⟩

/-- The server is opened again, on descriptor 5; the first `wait` polls the descriptors 3 and
    4 of the closed session and finds no context for 3. -/
theorem reopened_faults :
    ∃ reopened t, Reachable step (opened 3) closedServer.server ∧
      closedServer.server.closer = .returned ∧
      closedServer.open_ (some 0) { socket := 5 } = (reopened, {}) ∧
      exec step reopened.server (monitorRound 3 {}) = some t ∧
      t.monitor = .polling [.server, .peer 0, .server] [⟨3, { pollin := true }⟩,
        ⟨4, { pollin := true }⟩, ⟨5, { pollin := true }⟩] ∧
      exec step t (monitorRound 1 { poll := .ready [{ pollnval := true }, {}, {}] }) =
        some { t with monitor := .faulted } ∧
      ¬ Reopenable closedServer := by
  refine ⟨_, _, ⟨closedWithClient, rfl⟩, rfl, rfl, rfl, rfl, rfl, fun h => ?_⟩
  have hcontexts := h.contexts
  revert hcontexts
  decide

end BroadcastServerImpl

end SecuritySocket
