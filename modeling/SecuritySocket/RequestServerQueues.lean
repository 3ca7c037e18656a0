import SecuritySocket.ReceiveQueue
import SecuritySocket.ConnectionFraming
import SecuritySocket.RequestServerAdmission
import SecuritySocket.RequestServerEndOfStream
import SecuritySocket.SocketClientRead

/-!
# What the request server makes of a close

The request server with the receive queue of every connection: bytes arrive, peers close,
and `poll` and `recv` answer by what has arrived.  A context whose poll reported a hangup is
dispatched as DISCONNECTED, whatever else was reported with it, so the requests that are
complete in its receive queue at that poll are lost.  When no poll reports a hangup for a
reading connection with such a request, none is: between the poll and the dispatch nothing
arrives on the connection and nothing is read from it.
-/

namespace SecuritySocket

open Transition SocketMultiEventListener Framing

def SocketConnection.reading (c : SocketConnection) : Bool :=
  c.state == .readingHeader || c.state == .readingPayload

def SocketConnection.asked (c : SocketConnection) : Nat :=
  match c.state with
  | .readingHeader => c.headerRegion.length
  | .readingPayload => c.payloadRegion.length
  | .writingResponse | .finishProcess => 0

/-- The connection a context belongs to, with its number. -/
def RequestServer.peer? (s : RequestServer) : ContextPtr → Option (SocketConnection × Nat)
  | .server => none
  | .peer i => (s.pool.objects i).bind fun c =>
      (s.kernel.connectionAt c.socket.socket).map fun id => (c, id)

structure RequestStreams where
  server : RequestServer
  queues : Nat → ReceiveQueue

namespace RequestStreams

def opened (fd : Int) : RequestStreams where
  server := .opened fd
  queues _ := {}

def unread (s : RequestStreams) (id : Nat) : List UInt8 :=
  (s.queues id).unread (s.server.logs id).consumed

/-- The complete requests among all that has arrived on a connection, less those that have been
    read to their end. -/
def unreadRequests (handler : SocketRequestHandler) (s : RequestStreams) (id : Nat) :
    List (Frame UInt8) :=
  (handler.format.frames (s.queues id).arrived).drop
    (handler.format.frames (s.server.logs id).consumed).length

/-- The connection of the context is not reading, or has no complete request unread. -/
def drained (handler : SocketRequestHandler) (s : RequestStreams) (p : ContextPtr) : Bool :=
  match s.server.peer? p with
  | none => true
  | some (c, id) => !c.reading || (s.unreadRequests handler id).isEmpty

/-- The receive queues can answer a step of the server like this. -/
def answers (s : RequestStreams) : RequestServer.Label → Bool
  | .poll (.ready revents) =>
    (s.server.listener.handle.zip revents).all fun e =>
      (s.server.kernel.connectionAt e.1.fd).all fun id => (s.queues id).polls e.2
  | .dispatch a =>
    match s.server.loop with
    | .running (p :: _) => (s.server.peer? p).all fun (c, id) =>
        c.context.type != .read ||
          (s.queues id).answers (s.server.logs id).consumed c.asked a.recv
    | .running [] | .exited | .faulted _ => true
  | .poll .timeout | .poll .error | .leave | .stop => true

inductive Label where
  | server (label : RequestServer.Label)
  | arrive (id : Nat) (bytes : List UInt8)
  | finish (id : Nat)

def step (handler : SocketRequestHandler) (configuration : SocketConfiguration)
    (s : RequestStreams) : Label → Option RequestStreams
  | .server label =>
    if s.answers label then
      (s.server.step handler configuration label).map fun server => { s with server := server }
    else none
  | .arrive id bytes => ((s.queues id).arrive bytes).map fun queue =>
      { s with queues := Function.update s.queues id queue }
  | .finish id =>
    some { s with queues := Function.update s.queues id (s.queues id).finish }

/-- A connection the server is about to disconnect has no complete request unread, if it is
    reading. -/
def KeepsRequests (handler : SocketRequestHandler) (s : RequestStreams) : Prop :=
  ∀ i rest, s.server.loop = .running (.peer i :: rest) →
    (s.server.context? (.peer i)).map (·.type) = some .disconnected →
      s.drained handler (.peer i) = true

/-- The poll reports a hangup for a reading connection that has a complete request unread. -/
def forsakes (handler : SocketRequestHandler) (s : RequestStreams) : Label → Bool
  | .server (.poll (.ready revents)) =>
    (s.server.listener.handle.zip revents).any fun e =>
      e.2.hangup && s.server.listener.contexts.any fun p =>
        s.server.fdOf p == e.1.fd && !s.drained handler p
  | .server _ | .arrive _ _ | .finish _ => false

/-! ### The invariant -/

/-- A connection marked as disconnected is waiting for its dispatch; nothing more arrives on it,
    and no complete request of it is unread if it is reading. -/
def Noticed (handler : SocketRequestHandler) (s : RequestStreams) : Prop :=
  ∀ i c id batch, s.server.loop = .running batch → s.server.pool.objects i = some c →
    c.context.type = .disconnected → s.server.kernel.connectionAt c.socket.socket = some id →
    .peer i ∈ batch ∧ (s.queues id).ended = true ∧
      (c.reading = true → s.unreadRequests handler id = [])

variable {handler : SocketRequestHandler} {configuration : SocketConfiguration}
  {s s' : RequestStreams}

theorem peer?_peer {server : RequestServer} {i id : Nat} {c : SocketConnection}
    (hc : server.pool.objects i = some c)
    (hid : server.kernel.connectionAt c.socket.socket = some id) :
    server.peer? (.peer i) = some (c, id) := by
  simp [RequestServer.peer?, hc, hid]

theorem Noticed.keepsRequests (h : Noticed handler s) : KeepsRequests handler s := by
  intro i rest hloop htype
  unfold drained
  split
  · rfl
  · rename_i c id hpeer
    simp only [RequestServer.peer?, Option.bind_eq_some_iff, Option.map_eq_some_iff] at hpeer
    obtain ⟨c', hc, id', hid, heq⟩ := hpeer
    cases heq
    simp only [RequestServer.context?, hc, Option.map_some, Option.some.injEq] at htype
    obtain ⟨-, -, hread⟩ := h i c id _ hloop hc htype hid
    cases hreading : c.reading with
    | true => simp [hread hreading]
    | false => rfl

/-! ### Dispatches -/

/-- Serving an event does not mark a connection as disconnected, and reads nothing on another. -/
theorem marked_served {server : RequestServer} {i j id id' : Nat} {c d : SocketConnection}
    {r : Served} (h : RequestServer.Inv server) (hd : server.pool.objects j = some d)
    (hid' : server.kernel.connectionAt d.socket.socket = some id')
    (hsame : SocketConnection.SameSocket d r.connection) (hmarked : d.context.type ≠ .disconnected)
    (hc : (server.served j d id' r).pool.objects i = some c)
    (htype : c.context.type = .disconnected)
    (hid : server.kernel.connectionAt c.socket.socket = some id) :
    server.pool.objects i = some c ∧ (server.served j d id' r).logs id = server.logs id := by
  rcases RequestServer.served_objects_eq_some.mp hc with ⟨rfl, rfl⟩ | ⟨hij, hold⟩
  · rw [hsame.1] at htype
    exact absurd htype hmarked
  · have hne : id ≠ id' := by
      rintro rfl
      exact hij (h.distinct i j c d hold hd (h.kernel.inj _ _ id (Kernel.connectionAt_eq_some.mp hid)
        (Kernel.connectionAt_eq_some.mp hid')))
    exact ⟨hold, Function.update_of_ne hne _ _⟩

/-- A connection that is marked as disconnected after the dispatch of another context was so
    before. -/
theorem Dispatched.marked {server server' : RequestServer} {p : ContextPtr}
    {a : Answer} {i id : Nat} {c : SocketConnection} (h : RequestServer.Inv server)
    (hs' : RequestServer.Dispatched handler configuration server p a server')
    (hc : server'.pool.objects i = some c) (htype : c.context.type = .disconnected)
    (hid : server'.kernel.connectionAt c.socket.socket = some id) :
    server.pool.objects i = some c ∧ server.kernel.connectionAt c.socket.socket = some id ∧
      server'.logs id = server.logs id := by
  -- what `accept` returns is not the descriptor of a connection
  have haccepted : ∀ {r : AcceptReturn}, r.fits server.kernel → server.pool.objects i = some c →
      (server.kernel.accept r).connectionAt c.socket.socket = some id →
      server.kernel.connectionAt c.socket.socket = some id := by
    intro r hfits hold hnew
    obtain ⟨id', hid', -⟩ := h.connection hold
    rw [Kernel.connectionAt_accept_of_some hfits hid'] at hnew
    rw [hid', hnew]
  cases hs' with
  | ignored => exact ⟨hc, hid, rfl⟩
  | faulted fault => exact ⟨hc, hid, rfl⟩
  | leaked hfits hloop => exact ⟨hc, haccepted hfits hc hid, rfl⟩
  | @admitted k pool hfits hpos hacquire =>
    rcases (ObjectPool.acquire_objects_eq_some hacquire).mp hc with ⟨rfl, rfl⟩ | ⟨_, hc'⟩
    · simp [SocketConnection.make] at htype
    · exact ⟨hc', haccepted hfits hc' hid, rfl⟩
  | @disconnected j d hp hd htype' =>
    obtain ⟨_, hc⟩ := (RequestServer.disconnect_objects_eq_some h hd).mp hc
    exact ⟨hc, (Kernel.connectionAt_close.mp hid).2, rfl⟩
  | read hp hd htype' hid' hr =>
    obtain ⟨hold, hlogs⟩ := marked_served h hd hid' (SocketConnection.sameSocket_serveRead hr)
      (by simp [htype']) hc htype hid
    exact ⟨hold, hid, hlogs⟩
  | write hp hd htype' hid' hr =>
    obtain ⟨hold, hlogs⟩ := marked_served h hd hid' (SocketConnection.sameSocket_serveWrite hr)
      (by simp [htype']) hc htype hid
    exact ⟨hold, hid, hlogs⟩

/-! ### Steps -/

/-- What keeps the descriptors, the connections' numbers, the logs and the queues keeps what is
    unread. -/
theorem unreadRequests_congr {id : Nat} (hlogs : s'.server.logs id = s.server.logs id)
    (harrived : (s'.queues id).arrived = (s.queues id).arrived) :
    s'.unreadRequests handler id = s.unreadRequests handler id := by
  simp only [unreadRequests, hlogs, harrived]

theorem Noticed.poll (h : Noticed handler s) (hsteady : RequestServer.Steady s.server)
    {ret : MultiPollReturn} (hloop : s.server.loop = .running [])
    (hanswers : s.answers (.poll ret) = true)
    (hkeeps : s.forsakes handler (.server (.poll ret)) = false) :
    Noticed handler { s with server := s.server.poll ret } := by
  intro i c' id batch hbatch hc' htype hid
  have hunchanged := RequestServer.unchanged_poll s.server ret
  obtain ⟨c, type, hc, rfl⟩ := hunchanged.object hc'
  have hid₀ : s.server.kernel.connectionAt c.socket.socket = some id := hunchanged.kernel ▸ hid
  have hserving : RequestServer.Serving s.server i id c.socket.socket c.context.type :=
    ⟨c, hc, rfl, rfl, hid₀⟩
  have hunmarked : c.context.type ≠ .disconnected := by
    intro hmarked
    have hin := (h i c id [] hloop hc hmarked hid₀).1
    cases hin
  have hhangup : RequestServer.HangupAt s.server ret c.socket.socket := by
    by_contra hquiet
    obtain ⟨type', htype', d, hd, -, hdtype, -⟩ :=
      hserving.poll_quiet hsteady.inv hunmarked hquiet
    rw [hc', Option.some.injEq] at hd
    subst hd
    exact htype' (hdtype ▸ htype)
  obtain ⟨-, hin⟩ := hserving.poll_hangup hsteady.inv hhangup
  obtain ⟨revents, rfl, entry, hentry, hfd, hflag⟩ := hhangup
  refine ⟨hin batch hbatch, ?_, fun hreading => ?_⟩
  · have hpolls := List.all_eq_true.mp hanswers entry hentry
    simpa [hfd, hid₀, ReceiveQueue.polls, hflag] using hpolls
  · have hentryKeeps := List.any_eq_false.mp hkeeps entry hentry
    simp only [hflag, Bool.true_and, Bool.not_eq_true] at hentryKeeps
    have hdrained := List.any_eq_false.mp hentryKeeps _ (hsteady.inv.mem_peer hc)
    have hsame : s.server.fdOf (.peer i) = entry.1.fd := by
      rw [RequestServer.fdOf_peer hc, hsteady.inv.contextFd i c hc, hfd]
    have hreading₀ : c.reading = true := hreading
    have hnone : s.unreadRequests handler id = [] := by
      simpa [hsame, drained, peer?_peer hc hid₀, hreading₀] using hdrained
    rw [← hnone]
    exact unreadRequests_congr (congrFun hunchanged.logs id) rfl

theorem Noticed.dispatch (h : Noticed handler s) (hsteady : RequestServer.Steady s.server)
    {p : ContextPtr} {rest : List ContextPtr} {a : Answer} {server : RequestServer}
    (hloop : s.server.loop = .running (p :: rest))
    (hdispatch : { s.server with loop := .running rest }.dispatch handler configuration p a =
      some server) : Noticed handler { s with server := server } := by
  intro i c id batch hbatch hc htype hid
  have hinv : RequestServer.Inv { s.server with loop := .running rest } :=
    hsteady.inv.unchanged (RequestServer.unchanged_loop s.server _)
  have hdispatched := RequestServer.dispatch_cases hdispatch
  obtain ⟨hc₀, hid₀, hlogs⟩ := Dispatched.marked hinv hdispatched hc htype hid
  obtain ⟨hin, hended, hunread⟩ := h i c id _ hloop hc₀ htype hid₀
  have hother : p ≠ .peer i := by
    rintro rfl
    rw [RequestServer.dispatch_disconnected hc₀ htype, Option.some.injEq] at hdispatch
    subst hdispatch
    exact ((RequestServer.disconnect_objects_eq_some hinv hc₀).mp hc).1 rfl
  refine ⟨?_, hended, fun hreading => ?_⟩
  · have hrest : .peer i ∈ rest := (List.mem_cons.mp hin).resolve_left hother.symm
    rcases hdispatched.loop with hsame | ⟨fault, hfault⟩
    · have hbatch' : LoopState.running rest = .running batch := hsame.symm.trans hbatch
      cases hbatch'
      exact hrest
    · have hbatch' : LoopState.faulted fault = .running batch := hfault.symm.trans hbatch
      cases hbatch'
  · rw [← hunread hreading]
    exact unreadRequests_congr hlogs rfl

theorem Noticed.queues (h : Noticed handler s) {queues : Nat → ReceiveQueue}
    (hended : ∀ id, (s.queues id).ended = true →
      (queues id).ended = true ∧ (queues id).arrived = (s.queues id).arrived) :
    Noticed handler { s with queues := queues } := by
  intro i c id batch hbatch hc htype hid
  obtain ⟨hin, hend, hunread⟩ := h i c id batch hbatch hc htype hid
  refine ⟨hin, (hended id hend).1, fun hreading => ?_⟩
  rw [← hunread hreading]
  exact unreadRequests_congr rfl (hended id hend).2

theorem Noticed.step (h : Noticed handler s) (hsteady : RequestServer.Steady s.server)
    {label : Label} (hkeeps : s.forsakes handler label = false)
    (hstep : step handler configuration s label = some s') :
    Noticed handler s' ∧ RequestServer.Steady s'.server := by
  cases label with
  | arrive id bytes =>
    obtain ⟨queue, hqueue, rfl⟩ := Option.map_eq_some_iff.mp hstep
    refine ⟨h.queues fun id' hended => ?_, hsteady⟩
    have hne : id' ≠ id := by
      rintro rfl
      simp [ReceiveQueue.arrive, hended] at hqueue
    rw [Function.update_of_ne hne]
    exact ⟨hended, rfl⟩
  | finish id =>
    cases hstep
    refine ⟨h.queues fun id' hended => ?_, hsteady⟩
    by_cases hsame : id' = id
    · subst hsame
      simp [ReceiveQueue.finish]
    · rw [Function.update_of_ne hsame]
      exact ⟨hended, rfl⟩
  | server label =>
    simp only [RequestStreams.step] at hstep
    split at hstep
    · rename_i hanswers
      obtain ⟨server, hserver, rfl⟩ := Option.map_eq_some_iff.mp hstep
      refine ⟨?_, hsteady.step hserver⟩
      rcases RequestServer.step_cases hserver with ⟨rfl, rfl⟩ | ⟨ret, rfl, hloop, -, rfl⟩ |
        ⟨rfl, rfl⟩ | ⟨a, p, rest, rfl, hloop, hdispatch⟩
      · exact h
      · exact h.poll hsteady hloop hanswers hkeeps
      · intro i c id batch hbatch
        cases hbatch
      · exact h.dispatch hsteady hloop hdispatch
    · cases hstep

theorem noticed_opened (fd : Int) : Noticed handler (opened fd) := by
  intro i c id batch _ hc
  simp [opened, RequestServer.opened, ObjectPool.make] at hc

/-- **Closing and serving.**  A run in which no poll reports a hangup for a reading connection
    that has a complete request unread never disconnects a reading connection over one. -/
theorem keepsRequests_of_unforsaken {fd : Int} {labels : List Label}
    (hexec : exec (step handler configuration) (opened fd) labels = some s)
    (hmeets : Meets (step handler configuration)
      (fun s label => s.forsakes handler label = false) (opened fd) labels) :
    KeepsRequests handler s := by
  refine (exec_invariant_of_meets
    (I := fun s => Noticed handler s ∧ RequestServer.Steady s.server) ?_ hexec hmeets
    ⟨noticed_opened fd, ?_⟩).1.keepsRequests
  · rintro s label s' ⟨h, hsteady⟩ hkeeps hstep
    exact h.step hsteady hkeeps hstep
  · have hreach : Reachable (RequestServer.step handler configuration) (.opened fd) (.opened fd) :=
      .refl _
    exact RequestServer.reachable_steady hreach

end RequestStreams

/-! ### Both ends -/

open SocketClient (ClientReads)
open SocketConnection (byteHandler)
open RequestServer (bytePdu)
open RequestStreams (KeepsRequests)

/-- **Data at a close.**  A client's reads report no closed socket over unread bytes exactly when
    no iteration overlooks them, and the server keeps the complete requests of the connections it
    is reading when no poll forsakes one. -/
theorem close_lossless {tls : Bool} {maxRetries : Nat} {reads : List ClientReads.Label}
    {client : ClientReads} (hclient : exec (ClientReads.step tls maxRetries) {} reads = some client)
    {handler : SocketRequestHandler} {configuration : SocketConfiguration} {fd : Int}
    {labels : List RequestStreams.Label} {server : RequestStreams}
    (hserver : exec (RequestStreams.step handler configuration) (.opened fd) labels =
      some server) :
    (client.Honest ↔ Meets (ClientReads.step tls maxRetries)
      (fun s label => s.overlooks label = false) {} reads) ∧
    (Meets (RequestStreams.step handler configuration)
      (fun s label => s.forsakes handler label = false) (.opened fd) labels →
        KeepsRequests handler server) :=
  ⟨ClientReads.honest_iff hclient, RequestStreams.keepsRequests_of_unforsaken hserver⟩

def readThenHungUp : List ClientReads.Label :=
  [.arrive [1, 7], .finish,
   .call 2, .round { poll := .ready { pollin := true } none, transport := .plain (.data [1, 7]) },
   .call 2, .round { poll := .ready { pollin := true, pollhup := true } none,
                     transport := .plain .closed }]

def servedThenHungUp : List RequestStreams.Label :=
  [.server (.poll (.ready [{ pollin := true }])),
   .server (.dispatch { accept := { descriptor := 4 } }),
   .arrive 0 [1, 7],
   .server (.poll (.ready [{}, { pollin := true }])),
   .server (.dispatch { recv := .data [1] }),
   .server (.poll (.ready [{}, { pollin := true }])),
   .server (.dispatch { recv := .data [7] }),
   .finish 0,
   .server (.poll (.ready [{}, { pollout := true }])),
   .server (.dispatch { send := .sent 0 }),
   .server (.poll (.ready [{}, { pollin := true, pollhup := true }]))]

set_option maxRecDepth 4000 in
theorem hungUpLate_lossless :
    ∃ client server,
      exec (ClientReads.step false 3) {} readThenHungUp = some client ∧
      exec (RequestStreams.step byteHandler bytePdu) (.opened 3) servedThenHungUp =
        some server ∧
      client.returns.map (·.result.code) = [.success, .socketClosed] ∧
      server.server.loop = .running [.peer 0] ∧
      client.Honest ∧ KeepsRequests byteHandler server := by
  have hreads : Meets (ClientReads.step false 3) (fun s label => s.overlooks label = false) {}
      readThenHungUp := by decide
  have hlabels : Meets (RequestStreams.step byteHandler bytePdu)
      (fun s label => s.forsakes byteHandler label = false) (.opened 3) servedThenHungUp := by
    decide
  have hclient : exec (ClientReads.step false 3) {} readThenHungUp =
      some ((exec (ClientReads.step false 3) {} readThenHungUp).getD {}) := rfl
  have hserver : exec (RequestStreams.step byteHandler bytePdu) (.opened 3) servedThenHungUp =
      some ((exec (RequestStreams.step byteHandler bytePdu) (.opened 3) servedThenHungUp).getD
        (.opened 3)) := rfl
  obtain ⟨hhonest, hkeeps⟩ := close_lossless hclient hserver
  exact ⟨_, _, hclient, hserver, rfl, rfl, hhonest.mpr hreads, hkeeps hlabels⟩

def hungUpOverData : List ClientReads.Label :=
  [.arrive [1, 7], .finish, .call 2,
   .round { poll := .ready { pollin := true, pollhup := true } none,
            transport := .plain (.data [1, 7]) }]

/-- A whole request arrives, and the peer closes at once. -/
def hungUpOverRequest : List RequestStreams.Label :=
  [.server (.poll (.ready [{ pollin := true }])),
   .server (.dispatch { accept := { descriptor := 4 } }),
   .arrive 0 [1, 7],
   .finish 0,
   .server (.poll (.ready [{}, { pollin := true, pollhup := true }]))]

/-- The client's read reports a closed socket and leaves both bytes, and the server is about to
    disconnect a connection that waits for a header with its request unread. -/
theorem hungUpEarly_not_lossless :
    (∃ client, exec (ClientReads.step false 3) {} hungUpOverData = some client ∧
      client.returns = [{ result := { code := .socketClosed }, unread := [1, 7] }] ∧
      ¬ client.Honest) ∧
    ∃ server,
      exec (RequestStreams.step byteHandler bytePdu) (.opened 3) hungUpOverRequest =
        some server ∧
      server.unreadRequests byteHandler 0 = [⟨[1], [7]⟩] ∧ ¬ KeepsRequests byteHandler server := by
  refine ⟨⟨_, rfl, rfl, fun h => ?_⟩, _, rfl, rfl, fun h => ?_⟩
  · have hnone := h _ (List.mem_singleton_self _) rfl
    cases hnone
  · have hdrained := h 0 [] rfl rfl
    revert hdrained
    decide

end SecuritySocket
