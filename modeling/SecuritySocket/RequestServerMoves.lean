import SecuritySocket.EventRegistry
import SecuritySocket.SocketRequestServer

/-!
# What one dispatch does to the request server

`Unchanged` relates two states that differ only in stored event types and in where the
loop is; most of what the loop does stays within it.  `Dispatched` lists everything the
dispatch of one context can do, and `dispatch_cases` shows the list complete.
-/

namespace SecuritySocket

/-! ### What an event leaves alone -/

namespace SocketConnection

/-- Neither the registration nor the socket of the connection changes in an event. -/
def SameSocket (c c' : SocketConnection) : Prop := c'.context = c.context ∧ c'.socket = c.socket

theorem SameSocket.refl (c : SocketConnection) : SameSocket c c := ⟨rfl, rfl⟩

theorem sameSocket_runTask (c : SocketConnection) (mode : SocketRequestMode) (payloadSize : Nat)
    (response : HandlerResponse) : SameSocket c (c.runTask mode payloadSize response).connection := by
  cases mode <;> exact ⟨rfl, rfl⟩

theorem sameSocket_readHeader (c : SocketConnection) (handler : SocketRequestHandler)
    (recv : RecvReturn) (response : HandlerResponse) :
    SameSocket c (c.readHeader handler recv response).connection := by
  unfold readHeader classifyHeader
  dsimp only
  split
  · exact .refl c
  · split
    · split
      · exact sameSocket_runTask _ _ _ _
      · exact ⟨rfl, rfl⟩
    · exact ⟨rfl, rfl⟩

theorem sameSocket_readPayload (c : SocketConnection) (recv : RecvReturn)
    (response : HandlerResponse) : SameSocket c (c.readPayload recv response).connection := by
  unfold readPayload
  dsimp only
  split
  · exact .refl c
  · split
    · exact sameSocket_runTask _ _ _ _
    · exact ⟨rfl, rfl⟩

theorem sameSocket_afterRead (outcome : Outcome) (log : ConnectionLog) :
    SameSocket outcome.connection (afterRead outcome log).connection := by
  unfold afterRead
  cases outcome.next <;> exact ⟨rfl, rfl⟩

theorem sameSocket_serveRead {handler : SocketRequestHandler} {recv : RecvReturn}
    {response : HandlerResponse} {c : SocketConnection} {log : ConnectionLog} {r : Served}
    (h : serveRead handler recv response c log = some r) : SameSocket c r.connection := by
  unfold serveRead at h
  split at h
  · split at h
    · cases h
      obtain ⟨hcontext, hsocket⟩ := sameSocket_readHeader c handler recv response
      obtain ⟨hcontext', hsocket'⟩ := sameSocket_afterRead (c.readHeader handler recv response)
        { log with consumed := log.consumed ++ recv.bytes }
      exact ⟨hcontext'.trans hcontext, hsocket'.trans hsocket⟩
    · cases h
  · split at h
    · cases h
      obtain ⟨hcontext, hsocket⟩ := sameSocket_readPayload c recv response
      obtain ⟨hcontext', hsocket'⟩ := sameSocket_afterRead (c.readPayload recv response)
        { log with consumed := log.consumed ++ recv.bytes }
      exact ⟨hcontext'.trans hcontext, hsocket'.trans hsocket⟩
    · cases h
  · cases h
    exact .refl c
  · cases h
    exact .refl c

theorem sameSocket_serveWrite {send : SendReturn} {c : SocketConnection} {log : ConnectionLog}
    {r : Served} (h : serveWrite send c log = some r) : SameSocket c r.connection := by
  have hwrite : SameSocket c (c.writeResponse send).connection := by
    unfold writeResponse
    dsimp only
    split
    · exact .refl c
    · split <;> exact ⟨rfl, rfl⟩
  unfold serveWrite at h
  split at h
  · split at h
    · dsimp only at h
      split at h <;> cases h <;> exact hwrite
    · cases h
  · cases h
    exact .refl c
  · cases h
    exact .refl c
  · cases h
    exact .refl c

theorem interest_afterRead (outcome : Outcome) (log : ConnectionLog) :
    (afterRead outcome log).interest ≠ some .accept := by
  unfold afterRead
  cases outcome.next <;> simp

theorem interest_serveRead {handler : SocketRequestHandler} {recv : RecvReturn}
    {response : HandlerResponse} {c : SocketConnection} {log : ConnectionLog} {r : Served}
    (h : serveRead handler recv response c log = some r) : r.interest ≠ some .accept := by
  unfold serveRead at h
  split at h
  · split at h <;> cases h
    exact interest_afterRead _ _
  · split at h <;> cases h
    exact interest_afterRead _ _
  · cases h; simp
  · cases h; simp

theorem interest_serveWrite {send : SendReturn} {c : SocketConnection} {log : ConnectionLog}
    {r : Served} (h : serveWrite send c log = some r) : r.interest ≠ some .accept := by
  unfold serveWrite at h
  split at h
  · split at h
    · dsimp only at h
      split at h <;> cases h <;> simp
    · cases h
  · cases h; simp
  · cases h; simp
  · cases h; simp

end SocketConnection

namespace RequestServer

/-! ### States that differ in event types only -/

/-- `c` with another event type stored in its context. -/
def retype (type : SocketEventType) (c : SocketConnection) : SocketConnection :=
  { c with context := { c.context with type := type } }

/-- The same server up to stored event types and the position of the loop. -/
structure Unchanged (s s' : RequestServer) : Prop where
  serverFd : s'.serverContext.fd = s.serverContext.fd
  size : s'.pool.size = s.pool.size
  availables : s'.pool.availables = s.pool.availables
  objects : ∀ i, ∃ type, s'.pool.objects i = (s.pool.objects i).map (retype type)
  listener : s'.listener = s.listener
  kernel : s'.kernel = s.kernel
  logs : s'.logs = s.logs
  notices : s'.notices = s.notices

theorem map_retype_self (object : Option SocketConnection) :
    ∃ type, object = object.map (retype type) := by
  cases object with
  | none => exact ⟨.undefined, rfl⟩
  | some c => exact ⟨c.context.type, rfl⟩

theorem Unchanged.refl (s : RequestServer) : Unchanged s s :=
  ⟨rfl, rfl, rfl, fun _ => map_retype_self _, rfl, rfl, rfl, rfl⟩

theorem Unchanged.trans {s s' s'' : RequestServer} (h : Unchanged s s') (h' : Unchanged s' s'') :
    Unchanged s s'' where
  serverFd := h'.serverFd.trans h.serverFd
  size := h'.size.trans h.size
  availables := h'.availables.trans h.availables
  objects i := by
    obtain ⟨type, htype⟩ := h.objects i
    obtain ⟨type', htype'⟩ := h'.objects i
    exact ⟨type', by rw [htype', htype, Option.map_map]; rfl⟩
  listener := h'.listener.trans h.listener
  kernel := h'.kernel.trans h.kernel
  logs := h'.logs.trans h.logs
  notices := h'.notices.trans h.notices

theorem unchanged_loop (s : RequestServer) (loop : LoopState) :
    Unchanged s { s with loop := loop } :=
  ⟨rfl, rfl, rfl, fun _ => map_retype_self _, rfl, rfl, rfl, rfl⟩

theorem Unchanged.object {s s' : RequestServer} (h : Unchanged s s') {i : Nat}
    {c' : SocketConnection} (hc' : s'.pool.objects i = some c') :
    ∃ c type, s.pool.objects i = some c ∧ c' = retype type c := by
  obtain ⟨type, htype⟩ := h.objects i
  rw [hc'] at htype
  obtain ⟨c, hc, rfl⟩ := Option.map_eq_some_iff.mp htype.symm
  exact ⟨c, type, hc, rfl⟩

theorem unchanged_setType (s : RequestServer) (p : ContextPtr) (type : SocketEventType) :
    Unchanged s (s.setType p type) := by
  cases p with
  | server => exact ⟨rfl, rfl, rfl, fun _ => map_retype_self _, rfl, rfl, rfl, rfl⟩
  | peer i =>
    cases hc : s.pool.objects i with
    | none =>
      simp only [setType, hc]
      exact .refl s
    | some c =>
      simp only [setType, hc]
      refine ⟨rfl, rfl, rfl, fun j => ?_, rfl, rfl, rfl, rfl⟩
      by_cases hji : j = i
      · subst hji
        exact ⟨type, by simp [ObjectPool.store, hc, retype]⟩
      · simpa [ObjectPool.store, hji] using map_retype_self (s.pool.objects j)

theorem unchanged_storeTypes (s : RequestServer) (reported : List (Reported ContextPtr)) :
    Unchanged s (s.storeTypes reported) := by
  induction reported generalizing s with
  | nil => exact .refl s
  | cons e rest ih => exact (unchanged_setType s e.context _).trans (ih _)

theorem unchanged_poll (s : RequestServer) (ret : MultiPollReturn) : Unchanged s (s.poll ret) := by
  cases ret with
  | timeout => exact .refl s
  | error => exact unchanged_loop s _
  | ready revents =>
    unfold poll
    dsimp only
    split
    · split
      · exact unchanged_loop s _
      · exact (unchanged_storeTypes s _).trans (unchanged_loop _ _)
    · exact unchanged_loop s _

/-! ### Dispatching one context -/

/-- A descriptor was accepted for which there is no connection: the process owns it, and
    nothing will close it. -/
def leak (s : RequestServer) (r : AcceptReturn) (loop : LoopState) : RequestServer :=
  { s with kernel := s.kernel.accept r, loop := loop }

/-- A new connection lives in slot `i`. -/
def admitted (s : RequestServer) (r : AcceptReturn) (i : Nat)
    (pool : ObjectPool SocketConnection) : RequestServer :=
  { s with
    kernel := s.kernel.accept r
    pool := pool
    notices := s.notices ++ [.connected s.kernel.nextConnection r.ip r.port]
    listener := s.listener.addEvent (.peer i) r.descriptor .read }

/-- Everything the dispatch of `p` can do. -/
inductive Dispatched (handler : SocketRequestHandler) (configuration : SocketConfiguration)
    (s : RequestServer) (p : ContextPtr) (a : Answer) : RequestServer → Prop where
  | ignored : Dispatched handler configuration s p a s
  | faulted (fault : Fault) :
      Dispatched handler configuration s p a { s with loop := .faulted fault }
  | leaked {loop : LoopState} (hfits : a.accept.fits s.kernel)
      (hloop : loop = s.loop ∨ ∃ fault, loop = .faulted fault) :
      Dispatched handler configuration s p a (s.leak a.accept loop)
  | admitted {i : Nat} {pool : ObjectPool SocketConnection} (hfits : a.accept.fits s.kernel)
      (hpos : 0 < a.accept.descriptor)
      (hacquire : s.pool.acquire (SocketConnection.make (.ofAccept a.accept) handler
        configuration.pduSize) = some (i, pool)) :
      Dispatched handler configuration s p a (s.admitted a.accept i pool)
  | disconnected {i : Nat} {c : SocketConnection} (hp : p = .peer i)
      (hc : s.pool.objects i = some c) (htype : c.context.type = .disconnected) :
      Dispatched handler configuration s p a (s.disconnect i c)
  | read {i id : Nat} {c : SocketConnection} {r : Served} (hp : p = .peer i)
      (hc : s.pool.objects i = some c) (htype : c.context.type = .read)
      (hid : s.kernel.connectionAt c.socket.socket = some id)
      (hr : SocketConnection.serveRead handler a.recv a.response c (s.logs id) = some r) :
      Dispatched handler configuration s p a (s.served i c id r)
  | write {i id : Nat} {c : SocketConnection} {r : Served} (hp : p = .peer i)
      (hc : s.pool.objects i = some c) (htype : c.context.type = .write)
      (hid : s.kernel.connectionAt c.socket.socket = some id)
      (hr : SocketConnection.serveWrite a.send c (s.logs id) = some r) :
      Dispatched handler configuration s p a (s.served i c id r)

variable {handler : SocketRequestHandler} {configuration : SocketConfiguration}
  {s s' : RequestServer} {p : ContextPtr} {a : Answer}

theorem acceptClient_cases (hfits : a.accept.fits s.kernel) :
    Dispatched handler configuration s p a (s.acceptClient handler configuration a.accept) := by
  unfold acceptClient
  dsimp only
  split
  · rename_i hsuccess
    have hpos := (ServerActiveSocket.ofAccept_result_code _).mp hsuccess
    cases hacquire : s.pool.acquire (SocketConnection.make (.ofAccept a.accept) handler
        configuration.pduSize) with
    | none =>
      simp only [addConnection, hacquire]
      exact .leaked hfits (.inr ⟨.nullConnection, rfl⟩)
    | some slot =>
      have hip : (ServerActiveSocket.ofAccept a.accept).clientIp = a.accept.ip ∧
          (ServerActiveSocket.ofAccept a.accept).clientPort = a.accept.port := by
        unfold ServerActiveSocket.ofAccept at hsuccess ⊢
        dsimp only at hsuccess ⊢
        split
        · exact ⟨rfl, rfl⟩
        · rename_i hcode
          rw [if_neg hcode] at hsuccess
          exact absurd hsuccess hcode
      simp only [addConnection, hacquire, ServerActiveSocket.ofAccept_socket, hip]
      exact .admitted hfits hpos hacquire
  · exact .leaked hfits (.inl rfl)

theorem serve_cases {i : Nat} {c : SocketConnection} {event : ConnectionLog → Option Served}
    (h : s.serve i c event = some s') :
    s' = s ∨ ∃ id r, s.kernel.connectionAt c.socket.socket = some id ∧
      event (s.logs id) = some r ∧ s' = s.served i c id r := by
  unfold serve at h
  split at h
  · cases h
    exact .inl rfl
  · rename_i id hid
    obtain ⟨r, hr, rfl⟩ := Option.map_eq_some_iff.mp h
    exact .inr ⟨id, r, hid, hr, rfl⟩

theorem dispatch_cases (h : s.dispatch handler configuration p a = some s') :
    Dispatched handler configuration s p a s' := by
  unfold dispatch at h
  cases hcontext : s.context? p with
  | none =>
    simp only [hcontext, Option.some.injEq] at h
    exact h ▸ .faulted _
  | some context =>
    simp only [hcontext] at h
    cases htype : context.type with
    | accept =>
      simp only [htype] at h
      split at h
      · rename_i hfits
        cases h
        exact acceptClient_cases hfits
      · cases h
    | disconnected =>
      simp only [htype] at h
      cases p with
      | server => cases h; exact .faulted _
      | peer i =>
        obtain ⟨c, hc, rfl⟩ := Option.map_eq_some_iff.mp h
        rw [context?, hc, Option.map_some, Option.some.injEq] at hcontext
        exact .disconnected rfl hc (hcontext ▸ htype)
    | read =>
      simp only [htype] at h
      cases p with
      | server => cases h; exact .faulted _
      | peer i =>
        obtain ⟨c, hc, hserve⟩ := Option.bind_eq_some_iff.mp h
        rw [context?, hc, Option.map_some, Option.some.injEq] at hcontext
        rcases serve_cases hserve with rfl | ⟨id, r, hid, hr, rfl⟩
        · exact .ignored
        · exact .read rfl hc (hcontext ▸ htype) hid hr
    | write =>
      simp only [htype] at h
      cases p with
      | server => cases h; exact .faulted _
      | peer i =>
        obtain ⟨c, hc, hserve⟩ := Option.bind_eq_some_iff.mp h
        rw [context?, hc, Option.map_some, Option.some.injEq] at hcontext
        rcases serve_cases hserve with rfl | ⟨id, r, hid, hr, rfl⟩
        · exact .ignored
        · exact .write rfl hc (hcontext ▸ htype) hid hr
    | undefined => simp only [htype] at h; cases h; exact .ignored
    | connect => simp only [htype] at h; cases h; exact .ignored
    | readWrite => simp only [htype] at h; cases h; exact .ignored

end RequestServer

end SecuritySocket
