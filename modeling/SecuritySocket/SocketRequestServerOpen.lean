import SecuritySocket.PassiveSocket
import SecuritySocket.RequestServerAdmission

/-!
# Opening and closing the request server (`SocketRequestServerImpl::open`, `close`)

One caller opens and closes the server any number of times.  Every `open` that succeeds
starts a thread with a listener of its own, while the pool of connections stays the same for
all sessions.  `close` closes the accept socket; the descriptors of the connections are
closed, and their slots given back, by the DISCONNECTED case of the loop and nowhere else.
-/

namespace SecuritySocket

open Transition

/-- Where the caller of the server is: `joining` is `close` waiting for the thread. -/
inductive Caller where
  | idle
  | joining
deriving DecidableEq, Repr

/-- `SocketRequestServerImpl`: what `run` works on, the socket in `_container`, and the
    thread in `_routine` with the handler it was given. -/
structure RequestServerImpl where
  server : RequestServer
  socket : PassiveSocket
  routine : Option SocketRequestHandler
  caller : Caller

namespace RequestServer

/-- `run` up to its loop, on the socket `fd`: the listener and the context of the server are
    its local variables. -/
def start (s : RequestServer) (fd : Int) : RequestServer :=
  { s with
    isRunning := true
    loop := .running []
    serverContext := { fd := fd }
    listener := ({} : SocketMultiEventListener ContextPtr).addEvent .server fd .accept }

/-- The dispatch accepts the descriptor 0. -/
def acceptsZero (s : RequestServer) (a : Answer) : Bool :=
  match s.loop with
  | .running (p :: _) =>
    (s.context? p).any (fun context => context.type == .accept) && a.accept.descriptor == 0
  | .running [] | .exited | .faulted _ => false

def vacant (s : RequestServer) : Bool :=
  (List.range s.pool.size).all fun i => (s.pool.objects i).isNone

/-- The step loses no descriptor: the loop ends when no connection is left, and `accept`
    does not return the descriptor 0. -/
def keeps (s : RequestServer) : Label → Bool
  | .poll .error | .leave => s.vacant
  | .dispatch a => !s.acceptsZero a
  | .poll .timeout | .poll (.ready _) | .stop => true

end RequestServer

namespace RequestServerImpl

def constructed : RequestServerImpl where
  server :=
    { RequestServer.opened 0 with
      isRunning := false
      loop := .exited
      serverContext := {}
      listener := {}
      kernel := { fdTable := fun _ => none, nextConnection := 0 } }
  socket := {}
  routine := none
  caller := .idle

def open_ (s : RequestServerImpl) (handler : SocketRequestHandler) (a : OpenAnswer) :
    RequestServerImpl × SocketResult :=
  if s.server.isRunning then (s, { code := .socketServerAlreadyRunning })
  else
    let s := { s with
      socket := PassiveSocket.make a.socket a.errno
      server := { s.server with kernel := s.server.kernel.socket a.socket } }
    let result := openPassive a
    if result.code ≠ .success then (s, result)
    else ({ s with server := s.server.start s.socket.socket, routine := some handler }, result)

def close (s : RequestServerImpl) : RequestServerImpl :=
  if s.server.isRunning then
    { s with server := { s.server with isRunning := false }, caller := .joining }
  else s

def joined (s : RequestServerImpl) : RequestServerImpl :=
  { server := { s.server with kernel := s.server.kernel.close s.socket.socket }
    socket := { s.socket with socket := -1 }
    routine := none
    caller := .idle }

/-- What the caller does, and the steps of the thread. -/
inductive Label where
  | open_ (handler : SocketRequestHandler) (a : OpenAnswer)
  | close
  | joined
  | server (label : RequestServer.Label)

def step (configuration : SocketConfiguration) (s : RequestServerImpl) :
    Label → Option RequestServerImpl
  | .open_ handler a =>
    match s.caller with
    | .idle => if a.fits s.server.kernel then some (s.open_ handler a).1 else none
    | .joining => none
  | .close =>
    match s.caller with
    | .idle => some s.close
    | .joining => none
  | .joined =>
    match s.caller, s.server.loop with
    | .joining, .exited => some s.joined
    | .joining, .running _ | .joining, .faulted _ | .idle, _ => none
  | .server .stop => none
  | .server label =>
    s.routine.bind fun handler =>
      (s.server.step handler configuration label).map fun server => { s with server := server }

/-- The server is not running: the last `open` failed, or `close` has returned. -/
def Quiescent (s : RequestServerImpl) : Prop := s.server.isRunning = false ∧ s.caller = .idle

/-- Every descriptor of the server is closed, and every slot of the pool can be acquired. -/
structure Released (s : RequestServerImpl) : Prop where
  descriptors : ∀ fd, s.server.kernel.fdTable fd = none
  slots : s.server.pool.availables.Perm (List.range 32)

/-- The step loses no descriptor; an `open` does not when it succeeds, or has no socket. -/
def keeps (s : RequestServerImpl) : Label → Bool
  | .open_ _ a =>
    s.server.isRunning || decide (a.socket < 0) || (openPassive a).code == .success
  | .server label => s.server.keeps label
  | .close | .joined => true

end RequestServerImpl

/-! ### A session -/

namespace RequestServer

variable {handler : SocketRequestHandler} {configuration : SocketConfiguration}
  {s s' : RequestServer} {fd : Int}

theorem Dispatched.size {p : ContextPtr} {a : Answer}
    (h : Dispatched handler configuration s p a s') : s'.pool.size = s.pool.size := by
  cases h with
  | admitted hfits hpos hacquire =>
    obtain ⟨rest, _, rfl⟩ := ObjectPool.acquire_cases hacquire
    rfl
  | @disconnected i =>
    simp only [disconnect, ObjectPool.release]
    split <;> rfl
  | _ => rfl

theorem Dispatched.listening {p : ContextPtr} {a : Answer}
    (h : Dispatched handler configuration s p a s') {fd' : Int}
    (hopen : s'.kernel.fdTable fd' = some .listening) :
    s.kernel.fdTable fd' = some .listening := by
  have haccept : ∀ r : AcceptReturn, (s.kernel.accept r).fdTable fd' = some .listening →
      s.kernel.fdTable fd' = some .listening := by
    intro r hr
    unfold Kernel.accept at hr
    split at hr
    · by_cases hfd : fd' = r.descriptor
      · simp [hfd] at hr
      · simpa [hfd] using hr
    · exact hr
  cases h with
  | leaked => exact haccept _ hopen
  | admitted => exact haccept _ hopen
  | disconnected => exact (Kernel.fdTable_of_close hopen).2
  | _ => exact hopen

theorem isRunning_setType (s : RequestServer) (p : ContextPtr) (type : SocketEventType) :
    (s.setType p type).isRunning = s.isRunning := by
  unfold setType
  cases p with
  | server => rfl
  | peer i => dsimp only; split <;> rfl

theorem isRunning_storeTypes (s : RequestServer) (reported : List (Reported ContextPtr)) :
    (s.storeTypes reported).isRunning = s.isRunning := by
  induction reported generalizing s with
  | nil => rfl
  | cons e rest ih => exact (ih _).trans (isRunning_setType s e.context _)

theorem step_isRunning {label : Label} (hlabel : label ≠ .stop)
    (hstep : step handler configuration s label = some s') : s'.isRunning = s.isRunning := by
  rcases step_cases hstep with ⟨rfl, _⟩ | ⟨ret, rfl, _, _, rfl⟩ | ⟨rfl, rfl⟩ |
    ⟨a, p, rest, rfl, _, hdispatch⟩
  · exact absurd rfl hlabel
  · unfold poll
    cases ret with
    | timeout | error => rfl
    | ready revents =>
      dsimp only
      split
      · split
        · rfl
        · exact isRunning_storeTypes s _
      · rfl
  · rfl
  · cases dispatch_cases hdispatch <;> rfl

theorem acceptClient_of_full {r : AcceptReturn} (hpos : 0 < r.descriptor)
    (hfull : s.pool.availables = []) :
    (s.acceptClient handler configuration r).loop = .faulted .nullConnection := by
  have hsuccess := (ServerActiveSocket.ofAccept_result_code r).mpr hpos
  simp only [acceptClient, hsuccess, if_true, addConnection, ObjectPool.acquire, hfull]

/-- The server during a session on `fd`: its descriptors are `fd` and those of the
    connections in the pool. -/
structure Session (s : RequestServer) (fd : Int) : Prop where
  steady : Steady s
  size : s.pool.size = 32
  serverFd : s.serverContext.fd = fd
  listening : ∀ fd', s.kernel.fdTable fd' = some .listening → fd' = fd
  pooled : (∀ fault, s.loop ≠ .faulted fault) → Pooled s
  vacated : s.loop = .exited → ∀ i, s.pool.objects i = none

theorem Session.stopped (h : Session s fd) : Session { s with isRunning := false } fd :=
  ⟨h.steady.stopped, h.size, h.serverFd, h.listening, h.pooled, h.vacated⟩

/-- A step that loses no descriptor leaves every connection with an object, unless it is the
    last one of the process. -/
theorem pooled_of_keeps (h : Steady s) (hpooled : Pooled s) {label : Label}
    (hkeeps : s.keeps label = true) (hstep : step handler configuration s label = some s')
    (hloop : s'.loop ≠ .faulted .nullConnection) : Pooled s' := by
  refine (step_pooled h hstep).mpr ⟨hpooled, ?_⟩
  rcases step_cases hstep with ⟨rfl, rfl⟩ | ⟨ret, rfl, _, _, rfl⟩ | ⟨rfl, rfl⟩ |
    ⟨a, p, rest, rfl, hrunning, hdispatch⟩
  · rfl
  · rfl
  · rfl
  · rw [← Bool.not_eq_true, overruns_dispatch hrunning]
    rintro ⟨htype, hnonneg, hover⟩
    have hzero : a.accept.descriptor ≠ 0 := by
      simpa [keeps, acceptsZero, hrunning, htype] using hkeeps
    rcases dispatch_settled hdispatch with ⟨_, _, rfl⟩ | ⟨hnot, _⟩
    · exact hloop (acceptClient_of_full (by omega) (hover.resolve_left hzero))
    · exact absurd (htype.symm.trans hnot) (by simp)

theorem objects_of_vacant (h : Inv s) (hvacant : s.vacant = true) (i : Nat) :
    s.pool.objects i = none := by
  cases hobject : s.pool.objects i with
  | none => rfl
  | some c =>
    have hall : ∀ j < s.pool.size, s.pool.objects j = none := by simpa [vacant] using hvacant
    rw [hall i (h.pool.lt_size i c hobject)] at hobject
    cases hobject

theorem Session.step (h : Session s fd) {label : Label} (hkeeps : s.keeps label = true)
    (hstep : RequestServer.step handler configuration s label = some s') : Session s' fd := by
  have hsteady := h.steady.step hstep
  have hpooled : (∀ fault, s'.loop ≠ .faulted fault) → Pooled s' := by
    intro hloop
    refine pooled_of_keeps h.steady (h.pooled fun fault hfault => ?_) hkeeps hstep (hloop _)
    cases label with
    | stop =>
      cases hstep
      exact hloop fault hfault
    | _ => simp [RequestServer.step, hfault] at hstep
  rcases step_cases hstep with ⟨rfl, rfl⟩ | ⟨ret, rfl, hrunning, _, rfl⟩ | ⟨rfl, rfl⟩ |
    ⟨a, p, rest, rfl, hrunning, hdispatch⟩
  · exact h.stopped
  · have hsame := unchanged_poll s ret
    refine ⟨hsteady, hsame.size.trans h.size, hsame.serverFd.trans h.serverFd, ?_, hpooled, ?_⟩
    · rw [hsame.kernel]
      exact h.listening
    · intro hexited
      cases ret with
      | timeout =>
        rw [poll, hrunning] at hexited
        cases hexited
      | error =>
        have hvacant : ∀ i, s.pool.objects i = none := objects_of_vacant h.steady.inv hkeeps
        exact hvacant
      | ready revents =>
        obtain ⟨reported, _, hpoll⟩ := h.steady.inv.poll_ready revents
        rw [hpoll] at hexited
        cases hexited
  · have hvacant : ∀ i, s.pool.objects i = none := objects_of_vacant h.steady.inv hkeeps
    exact ⟨hsteady, h.size, h.serverFd, h.listening, hpooled, fun _ => hvacant⟩
  · have hcases := dispatch_cases hdispatch
    refine ⟨hsteady, hcases.size.trans h.size, ?_, ?_, hpooled, ?_⟩
    · rw [hcases.serverContext]
      exact h.serverFd
    · exact fun fd' hopen => h.listening fd' (hcases.listening hopen)
    · intro hexited
      rcases hcases.loop with hloop | ⟨fault, hloop⟩
      · rw [hexited] at hloop
        cases hloop
      · rw [hexited] at hloop
        cases hloop

structure Resting (s : RequestServer) : Prop where
  stopped : s.isRunning = false
  exited : s.loop = .exited
  descriptors : ∀ fd, s.kernel.fdTable fd = none
  objects : ∀ i, s.pool.objects i = none
  pool : s.pool.WellFormed
  size : s.pool.size = 32
  fresh : ∀ id, s.kernel.nextConnection ≤ id → s.logs id = {} ∧ s.disconnections id = 0

theorem Resting.slots (h : Resting s) : s.pool.availables.Perm (List.range 32) := by
  refine (List.perm_ext_iff_of_nodup h.pool.nodup List.nodup_range).mpr fun i => ?_
  rw [h.pool.mem_iff, List.mem_range, h.size]
  exact and_iff_left (h.objects i)

theorem Resting.session (h : Resting s) (hfd : 0 ≤ fd) :
    Session ({ s with kernel := s.kernel.socket fd }.start fd) fd := by
  have hkernel : s.kernel.socket fd =
      { s.kernel with fdTable := Function.update s.kernel.fdTable fd (some .listening) } :=
    Kernel.socket_of_nonneg hfd
  have hnone : ∀ fd' id, (s.kernel.socket fd).fdTable fd' ≠ some (.connection id) := by
    intro fd' id
    rw [hkernel]
    by_cases heq : fd' = fd <;> simp [heq, h.descriptors]
  have hconnection : ∀ fd' id, (s.kernel.socket fd).connectionAt fd' ≠ some id :=
    fun fd' id hid => hnone fd' id (Kernel.connectionAt_eq_some.mp hid)
  have hobject : ∀ i c, s.pool.objects i ≠ some c := fun i c hc => by simp [h.objects] at hc
  refine ⟨Inv.steady_of_top ?_ ?_, h.size, rfl, ?_, fun _ fd' id hid => ?_, nofun⟩
  · exact
      { listening := by simp [start, hkernel]
        serverSocket := by simp [start, SocketMultiEventListener.addEvent]
        kernel := ⟨fun fd' id hid => absurd hid (hnone fd' id),
          fun fd' _ id hid => absurd hid (hnone fd' id)⟩
        pool := h.pool
        contextFd := fun i c hc => absurd hc (hobject i c)
        connected := fun i c hc => absurd hc (hobject i c)
        distinct := fun i _ c _ hc => absurd hc (hobject i c)
        nodup := by simp [start, SocketMultiEventListener.addEvent]
        registered := by
          rintro (_ | i) <;>
            simp [start, SocketMultiEventListener.addEvent, context?, h.objects]
        paired := by
          simp [start, SocketMultiEventListener.addEvent, SocketMultiEventListener.fds,
            SocketMultiEventListener.contextFds, fdOf, context?]
        fresh := by
          rw [start, hkernel]
          exact h.fresh
        notYet := fun fd' id hid => absurd hid (hconnection fd' id) }
  · intro batch hbatch
    cases hbatch
    rfl
  · intro fd' hopen
    by_contra hne
    rw [start, hkernel] at hopen
    simp [hne, h.descriptors] at hopen
  · exact absurd hid (hconnection fd' id)

theorem Session.resting (h : Session s fd) (hexited : s.loop = .exited)
    (hstopped : s.isRunning = false) : Resting { s with kernel := s.kernel.close fd } where
  stopped := hstopped
  exited := hexited
  descriptors fd' := by
    cases hopen : (s.kernel.close fd).fdTable fd' with
    | none => rfl
    | some endpoint =>
      obtain ⟨hne, hopen⟩ := Kernel.fdTable_of_close hopen
      cases endpoint with
      | listening => exact absurd (h.listening fd' hopen) hne
      | connection id =>
        obtain ⟨i, c, hc, _⟩ :=
          h.pooled (by simp [hexited]) fd' id (Kernel.connectionAt_eq_some.mpr hopen)
        rw [h.vacated hexited i] at hc
        cases hc
  objects := h.vacated hexited
  pool := h.steady.inv.pool
  size := h.size
  fresh := h.steady.inv.fresh

end RequestServer

/-! ### Histories -/

namespace RequestServerImpl

open RequestServer (Session Resting)

variable {handler : SocketRequestHandler} {configuration : SocketConfiguration}
  {s s' : RequestServerImpl}

/-- Between two sessions nothing is in use, and within one what is in use belongs to it. -/
inductive Balanced (s : RequestServerImpl) : Prop where
  | resting (hroutine : s.routine = none) (hcaller : s.caller = .idle)
      (hserver : Resting s.server)
  | session (hroutine : s.routine.isSome) (hsession : Session s.server s.socket.socket)
      (hcaller : s.caller = .joining ↔ s.server.isRunning = false)

theorem balanced_constructed : Balanced constructed :=
  .resting rfl rfl
    { stopped := rfl
      exited := rfl
      descriptors := fun _ => rfl
      objects := fun _ => rfl
      pool := ObjectPool.wellFormed_make 32
      size := rfl
      fresh := fun _ _ => ⟨rfl, rfl⟩ }

theorem Balanced.open_ (h : Balanced s) (handler : SocketRequestHandler) (a : OpenAnswer)
    (hkeeps : s.keeps (.open_ handler a) = true) (hcaller : s.caller = .idle) :
    Balanced (s.open_ handler a).1 := by
  cases h with
  | session hroutine hsession hjoining =>
    have hrunning : s.server.isRunning = true := by
      rw [← Bool.not_eq_false, ← hjoining, hcaller]
      simp
    rw [RequestServerImpl.open_, if_pos hrunning]
    exact .session hroutine hsession hjoining
  | resting hroutine _ hserver =>
    have hstopped := hserver.stopped
    simp only [keeps, hstopped, Bool.false_or, Bool.or_eq_true, decide_eq_true_eq,
      beq_iff_eq] at hkeeps
    rw [RequestServerImpl.open_, if_neg (by simp [hstopped])]
    dsimp only
    split
    · rename_i hfailed
      have hnone := hkeeps.resolve_right hfailed
      refine .resting hroutine hcaller ?_
      dsimp only
      rw [Kernel.socket_of_neg hnone]
      exact hserver
    · rename_i hsuccess
      have hnonneg : 0 ≤ a.socket := by
        by_contra hneg
        exact hsuccess (openPassive_of_neg (Int.not_le.mp hneg))
      refine .session rfl ?_ ?_
      · rw [PassiveSocket.make_socket]
        exact hserver.session hnonneg
      · simp [RequestServer.start, hcaller]

theorem Balanced.close (h : Balanced s) (hcaller : s.caller = .idle) : Balanced s.close := by
  cases h with
  | resting hroutine _ hserver =>
    rw [RequestServerImpl.close, if_neg (by simp [hserver.stopped])]
    exact .resting hroutine hcaller hserver
  | session hroutine hsession hjoining =>
    have hrunning : s.server.isRunning = true := by
      rw [← Bool.not_eq_false, ← hjoining, hcaller]
      simp
    rw [RequestServerImpl.close, if_pos hrunning]
    exact .session hroutine hsession.stopped (by simp)

theorem Balanced.joined (h : Balanced s) (hcaller : s.caller = .joining)
    (hexited : s.server.loop = .exited) : Balanced s.joined := by
  cases h with
  | resting _ hidle => cases hcaller.symm.trans hidle
  | session hroutine hsession hjoining =>
    exact .resting rfl rfl (hsession.resting hexited (hjoining.mp hcaller))

theorem Balanced.server (h : Balanced s) {label : RequestServer.Label}
    (hlabel : label ≠ .stop) (hkeeps : s.server.keeps label = true) {server : RequestServer}
    (hstep : s.server.step handler configuration label = some server) :
    Balanced { s with server := server } := by
  cases h with
  | resting _ _ hserver =>
    cases label with
    | stop => exact absurd rfl hlabel
    | _ => simp [RequestServer.step, hserver.exited] at hstep
  | session hroutine hsession hjoining =>
    refine .session hroutine (hsession.step hkeeps hstep) ?_
    rw [RequestServer.step_isRunning hlabel hstep]
    exact hjoining

theorem step_cases {label : Label} (hstep : s.step configuration label = some s') :
    (∃ handler a, label = .open_ handler a ∧ s.caller = .idle ∧ s' = (s.open_ handler a).1) ∨
    (label = .close ∧ s.caller = .idle ∧ s' = s.close) ∨
    (label = .joined ∧ s.caller = .joining ∧ s.server.loop = .exited ∧ s' = s.joined) ∨
    (∃ label' handler server, label = .server label' ∧ label' ≠ .stop ∧
      s.routine = some handler ∧ s.server.step handler configuration label' = some server ∧
      s' = { s with server := server }) := by
  cases label with
  | open_ handler a =>
    cases hcaller : s.caller with
    | joining => simp [RequestServerImpl.step, hcaller] at hstep
    | idle =>
      simp only [RequestServerImpl.step, hcaller] at hstep
      split at hstep
      · exact .inl ⟨handler, a, rfl, rfl, (Option.some.inj hstep).symm⟩
      · cases hstep
  | close =>
    cases hcaller : s.caller with
    | joining => simp [RequestServerImpl.step, hcaller] at hstep
    | idle =>
      simp only [RequestServerImpl.step, hcaller, Option.some.injEq] at hstep
      exact .inr (.inl ⟨rfl, rfl, hstep.symm⟩)
  | joined =>
    simp only [RequestServerImpl.step] at hstep
    split at hstep
    · rename_i hcaller hexited
      exact .inr (.inr (.inl ⟨rfl, hcaller, hexited, (Option.some.inj hstep).symm⟩))
    all_goals cases hstep
  | server label =>
    have hlabel : label ≠ .stop := by
      rintro rfl
      cases hstep
    have hthread : (s.routine.bind fun handler =>
        (s.server.step handler configuration label).map fun server =>
          { s with server := server }) = some s' := by
      cases label with
      | stop => exact absurd rfl hlabel
      | _ => exact hstep
    obtain ⟨handler, hroutine, hthread⟩ := Option.bind_eq_some_iff.mp hthread
    obtain ⟨server, hserver, hs'⟩ := Option.map_eq_some_iff.mp hthread
    exact .inr (.inr (.inr ⟨label, handler, server, rfl, hlabel, hroutine, hserver, hs'.symm⟩))

theorem Balanced.step (h : Balanced s) {label : Label} (hkeeps : s.keeps label = true)
    (hstep : s.step configuration label = some s') : Balanced s' := by
  rcases step_cases hstep with ⟨handler, a, rfl, hcaller, rfl⟩ | ⟨rfl, hcaller, rfl⟩ |
    ⟨rfl, hcaller, hexited, rfl⟩ | ⟨label, handler, server, rfl, hlabel, _, hserver, rfl⟩
  · exact h.open_ handler a hkeeps hcaller
  · exact h.close hcaller
  · exact h.joined hcaller hexited
  · exact h.server hlabel hkeeps hserver

/-- **The ledger of the request server.**  In a run in which every `open` that fails has
    failed to create a socket, the loop ends only when no connection is left, and `accept`
    never returns the descriptor 0, nothing is in use whenever the server is not running. -/
theorem released_of_keeps {labels : List Label}
    (hexec : exec (step configuration) constructed labels = some s)
    (hmeets : Meets (step configuration) (fun s label => s.keeps label = true) constructed labels)
    (hquiescent : Quiescent s) : Released s := by
  have hbalanced : Balanced s :=
    exec_invariant_of_meets (fun _ _ _ h hkeeps hstep => h.step hkeeps hstep) hexec hmeets
      balanced_constructed
  cases hbalanced with
  | resting _ _ hserver => exact ⟨hserver.descriptors, hserver.slots⟩
  | session _ _ hjoining =>
    have hcaller := hjoining.mpr hquiescent.1
    rw [hquiescent.2] at hcaller
    cases hcaller

open SocketConnection (byteHandler)

open RequestServer (bytePdu)

def oneClient : List Label :=
  [.open_ byteHandler { socket := -1, errno := .emfile }, .open_ byteHandler { socket := 3 },
    .server (.poll (.ready [{ pollin := true }])),
    .server (.dispatch { accept := { descriptor := 4 } }),
    .server (.poll (.ready [{}, { pollhup := true }])), .server (.dispatch {}),
    .close, .server .leave, .joined]

theorem oneClient_released :
    ∃ s, exec (step bytePdu) constructed oneClient = some s ∧ Quiescent s ∧ Released s := by
  have hmeets : Meets (step bytePdu) (fun s label => s.keeps label = true) constructed oneClient := by
    decide
  exact ⟨_, rfl, ⟨rfl, rfl⟩, released_of_keeps rfl hmeets ⟨rfl, rfl⟩⟩

/-- A client is connected when the server is closed. -/
def closedEarly : List Label :=
  [.open_ byteHandler { socket := 3 }, .server (.poll (.ready [{ pollin := true }])),
    .server (.dispatch { accept := { descriptor := 4 } }), .close, .server .leave, .joined]

/-- Neither a client that is connected at `close` nor the socket of an `open` that fails to
    bind it is released. -/
theorem closedEarly_not_released :
    (∃ s, exec (step bytePdu) constructed closedEarly = some s ∧ Quiescent s ∧
      s.server.kernel.connectionAt 4 = some 0 ∧ s.server.pool.availables.length = 31 ∧
      ¬ Released s) ∧
    ∃ s, exec (step bytePdu) constructed
      [.open_ byteHandler { socket := 3, bind := -1, errno := .eaddrinuse }] = some s ∧
      Quiescent s ∧ s.server.kernel.fdTable 3 = some .listening ∧ ¬ Released s := by
  refine ⟨⟨_, rfl, ⟨rfl, rfl⟩, rfl, rfl, fun h => ?_⟩, ⟨_, rfl, ⟨rfl, rfl⟩, rfl, fun h => ?_⟩⟩
  · have hslots := h.slots.length_eq
    revert hslots
    decide
  · have hdescriptor := h.descriptors 3
    revert hdescriptor
    decide

end RequestServerImpl

end SecuritySocket
