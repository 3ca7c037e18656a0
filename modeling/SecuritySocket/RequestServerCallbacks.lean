import SecuritySocket.RequestServerInvariant
import SecuritySocket.RequestServerQueues

/-!
# The callbacks of a request handler

The calls of `onClientConnected`, of `onProcessed` and `onProcessedWithoutResponse`, and of
`onClientDisconnected`, in the one order in which the server makes them.  The calls about
different clients interleave as poll reports them, but those about one client are a conversation:
it begins when the client gets a connection, goes on with its requests, and ends at most once.
-/

namespace SecuritySocket

open Transition SocketConnection

/-- A call of the handler, and the connection it is about. -/
inductive Callback where
  | connected (id : Nat) (ip : String) (port : Nat)
  | processed (id : Nat) (call : HandlerCall)
  | disconnected (id : Nat) (ip : String) (port : Nat)
deriving DecidableEq, Repr

def Callback.id : Callback → Nat
  | .connected id _ _ | .processed id _ | .disconnected id _ _ => id

def Notice.callback : Notice → Callback
  | .connected id ip port => .connected id ip port
  | .disconnected id ip port => .disconnected id ip port

namespace RequestServer

/-- The connection that the next dispatch is about. -/
def subject (s : RequestServer) : Option Nat :=
  match s.loop with
  | .running (p :: _) => (s.peer? p).map (·.2)
  | .running [] | .exited | .faulted _ => none

def callbacksTo (s s' : RequestServer) : List Callback :=
  (s'.notices.drop s.notices.length).map Notice.callback ++
    s.subject.elim [] fun id =>
      ((s'.logs id).calls.drop (s.logs id).calls.length).map (.processed id)

/-- The connection with number `id` lives in a slot, with this address. -/
def Holds (s : RequestServer) (id : Nat) (ip : String) (port : Nat) : Prop :=
  ∃ i c, s.pool.objects i = some c ∧ s.kernel.connectionAt c.socket.socket = some id ∧
    c.socket.clientIp = ip ∧ c.socket.clientPort = port

end RequestServer

structure CallbackTrace where
  server : RequestServer
  callbacks : List Callback := []

namespace CallbackTrace

def step (handler : SocketRequestHandler) (configuration : SocketConfiguration)
    (t : CallbackTrace) (label : RequestServer.Label) : Option CallbackTrace :=
  (t.server.step handler configuration label).map fun server =>
    ⟨server, t.callbacks ++ t.server.callbacksTo server⟩

def about (t : CallbackTrace) (id : Nat) : List Callback := t.callbacks.filter (·.id == id)

end CallbackTrace

/-- The callbacks about the connection `id`, whose requests are `calls`, and which lives with the
    addresses that `holds` tells: none before it gets a slot; then `onClientConnected` and its
    requests; and when it has left, `onClientDisconnected` with the same address. -/
inductive Conversation (id : Nat) (calls : List HandlerCall) (holds : String → Nat → Prop) :
    List Callback → Prop where
  | absent (hcalls : calls = []) (hholds : ∀ ip port, ¬ holds ip port) :
      Conversation id calls holds []
  | ongoing {ip : String} {port : Nat} (hholds : holds ip port) :
      Conversation id calls holds (.connected id ip port :: calls.map (.processed id))
  | ended {ip : String} {port : Nat} (hholds : ∀ ip port, ¬ holds ip port) :
      Conversation id calls holds
        (.connected id ip port :: calls.map (.processed id) ++ [.disconnected id ip port])

theorem Conversation.kept {id : Nat} {calls : List HandlerCall} {holds holds' : String → Nat → Prop}
    {callbacks : List Callback} (h : Conversation id calls holds callbacks)
    (hholds : ∀ ip port, holds' ip port ↔ holds ip port) :
    Conversation id calls holds' callbacks := by
  have hsame : holds' = holds := by
    funext ip port
    exact propext (hholds ip port)
  rw [hsame]
  exact h

section Conversing

variable {id : Nat} {calls : List HandlerCall} {holds : String → Nat → Prop}
  {callbacks : List Callback}

theorem Conversation.begun (h : Conversation id calls holds []) {ip : String} {port : Nat}
    {holds' : String → Nat → Prop} (hholds : holds' ip port) :
    Conversation id calls holds' [.connected id ip port] := by
  cases h with
  | absent hcalls _ =>
    subst hcalls
    exact .ongoing hholds

theorem Conversation.more (h : Conversation id calls holds callbacks) {ip : String} {port : Nat}
    (hholds : holds ip port) (new : List HandlerCall) :
    Conversation id (calls ++ new) holds (callbacks ++ new.map (.processed id)) := by
  cases h with
  | absent hcalls hnot => exact absurd hholds (hnot ip port)
  | ongoing hlives =>
    rw [List.cons_append, ← List.map_append]
    exact .ongoing hlives
  | ended hnot => exact absurd hholds (hnot ip port)

theorem Conversation.left (h : Conversation id calls holds callbacks) {ip : String} {port : Nat}
    (hholds : ∀ ip' port', holds ip' port' ↔ ip = ip' ∧ port = port')
    {holds' : String → Nat → Prop} (hgone : ∀ ip port, ¬ holds' ip port) :
    Conversation id calls holds' (callbacks ++ [.disconnected id ip port]) := by
  have hthere : holds ip port := (hholds ip port).mpr ⟨rfl, rfl⟩
  cases h with
  | absent hcalls hnot => exact absurd hthere (hnot ip port)
  | ongoing hlives =>
    obtain ⟨rfl, rfl⟩ := (hholds _ _).mp hlives
    exact .ended hgone
  | ended hnot => exact absurd hthere (hnot ip port)

end Conversing

namespace RequestServer

variable {handler : SocketRequestHandler} {configuration : SocketConfiguration}
  {s s' : RequestServer}

/-! ### Who lives in a slot -/

theorem Inv.holds_iff (h : Inv s) {i id : Nat} {c : SocketConnection}
    (hc : s.pool.objects i = some c) (hid : s.kernel.connectionAt c.socket.socket = some id)
    (ip : String) (port : Nat) :
    s.Holds id ip port ↔ c.socket.clientIp = ip ∧ c.socket.clientPort = port := by
  constructor
  · rintro ⟨j, d, hd, hid', haddress⟩
    obtain ⟨id', hid'', -, honly⟩ := h.connection hc
    rw [hid, Option.some.injEq] at hid''
    subst hid''
    have hsocket := honly _ hid'
    obtain rfl := h.distinct j i d c hd hc hsocket
    rw [hc, Option.some.injEq] at hd
    subst hd
    exact haddress
  · exact fun haddress => ⟨i, c, hc, hid, haddress⟩

theorem holds_congr (hobjects : ∀ i, (s'.pool.objects i).map (·.socket) =
      (s.pool.objects i).map (·.socket))
    (hkernel : ∀ i c, s.pool.objects i = some c →
      s'.kernel.connectionAt c.socket.socket = s.kernel.connectionAt c.socket.socket)
    (id : Nat) (ip : String) (port : Nat) : s'.Holds id ip port ↔ s.Holds id ip port := by
  constructor
  · rintro ⟨i, c', hc', hid, haddress⟩
    have hmap := hobjects i
    rw [hc', Option.map_some] at hmap
    obtain ⟨c, hc, hsocket⟩ := Option.map_eq_some_iff.mp hmap.symm
    rw [← hsocket] at hid haddress
    exact ⟨i, c, hc, (hkernel i c hc).symm.trans hid, haddress⟩
  · rintro ⟨i, c, hc, hid, haddress⟩
    have hmap := hobjects i
    rw [hc, Option.map_some] at hmap
    obtain ⟨c', hc', hsocket⟩ := Option.map_eq_some_iff.mp hmap
    refine ⟨i, c', hc', ?_, ?_⟩
    · rw [hsocket]
      exact (hkernel i c hc).trans hid
    · rw [hsocket]
      exact haddress

theorem Unchanged.holds_iff (h : Unchanged s s') (id : Nat) (ip : String) (port : Nat) :
    s'.Holds id ip port ↔ s.Holds id ip port := by
  refine holds_congr (fun i => ?_) (fun _ _ _ => by rw [h.kernel]) id ip port
  obtain ⟨type, htype⟩ := h.objects i
  rw [htype, Option.map_map]
  rfl

theorem Inv.connectionAt_accept (h : Inv s) {r : AcceptReturn} (hfits : r.fits s.kernel) {i : Nat}
    {c : SocketConnection} (hc : s.pool.objects i = some c) :
    (s.kernel.accept r).connectionAt c.socket.socket = s.kernel.connectionAt c.socket.socket := by
  obtain ⟨id, hid⟩ := h.connected i c hc
  rw [hid]
  exact Kernel.connectionAt_accept_of_some hfits hid

theorem served_holds {i id : Nat} {c : SocketConnection} {r : Served}
    (hc : s.pool.objects i = some c) (hsame : SameSocket c r.connection) (id' : Nat) (ip : String)
    (port : Nat) : (s.served i c id r).Holds id' ip port ↔ s.Holds id' ip port := by
  refine @holds_congr s (s.served i c id r) (fun j => ?_) (fun _ _ _ => rfl) id' ip port
  rw [served_objects]
  by_cases hj : j = i
  · subst hj
    rw [Function.update_self, hc, Option.map_some, Option.map_some, hsame.2]
  · rw [Function.update_of_ne hj]

theorem admitted_holds (h : Inv s) {r : AcceptReturn} (hfits : r.fits s.kernel)
    (hpos : 0 < r.descriptor) {i : Nat} {pool : ObjectPool SocketConnection}
    (hacquire : s.pool.acquire (SocketConnection.make (.ofAccept r) handler
      configuration.pduSize) = some (i, pool)) (id : Nat) (ip : String) (port : Nat) :
    (s.admitted r i pool).Holds id ip port ↔
      s.Holds id ip port ∨ (id = s.kernel.nextConnection ∧ r.ip = ip ∧ r.port = port) := by
  have hself := s.kernel.connectionAt_accept_self (Int.le_of_lt hpos)
  have hsuccess := (ServerActiveSocket.ofAccept_result_code r).mpr hpos
  have haddress : (ServerActiveSocket.ofAccept r).clientIp = r.ip ∧
      (ServerActiveSocket.ofAccept r).clientPort = r.port := by
    unfold ServerActiveSocket.ofAccept at hsuccess ⊢
    dsimp only at hsuccess ⊢
    split
    · exact ⟨rfl, rfl⟩
    · rename_i hcode
      rw [if_neg hcode] at hsuccess
      exact absurd hsuccess hcode
  have hobjects : ∀ j d, pool.objects j = some d ↔
      (j = i ∧ d = SocketConnection.make (.ofAccept r) handler configuration.pduSize) ∨
        (j ≠ i ∧ s.pool.objects j = some d) :=
    fun _ _ => ObjectPool.acquire_objects_eq_some hacquire
  constructor
  · rintro ⟨j, d, hd, hid, hd'⟩
    rcases (hobjects j d).mp hd with ⟨rfl, rfl⟩ | ⟨hne, hd⟩
    · simp only [SocketConnection.make, ServerActiveSocket.ofAccept_socket, haddress] at hid hd'
      rw [RequestServer.admitted] at hid
      dsimp only at hid
      rw [hself, Option.some.injEq] at hid
      exact .inr ⟨hid.symm, hd'⟩
    · have hkept := h.connectionAt_accept hfits hd
      exact .inl ⟨j, d, hd, hkept.symm.trans hid, hd'⟩
  · rintro (⟨j, d, hd, hid, hd'⟩ | ⟨rfl, haddr⟩)
    · have hne : j ≠ i := by
        rintro rfl
        rw [h.pool.acquired_free hacquire] at hd
        cases hd
      have hkept := h.connectionAt_accept hfits hd
      exact ⟨j, d, (hobjects j d).mpr (.inr ⟨hne, hd⟩), hkept.trans hid, hd'⟩
    · refine ⟨i, _, (hobjects i _).mpr (.inl ⟨rfl, rfl⟩), ?_, ?_⟩
      · simp only [SocketConnection.make, ServerActiveSocket.ofAccept_socket]
        exact hself
      · simpa only [SocketConnection.make, haddress] using haddr

theorem disconnect_holds (h : Inv s) {i id : Nat} {c : SocketConnection}
    (hc : s.pool.objects i = some c) (hid : s.kernel.connectionAt c.socket.socket = some id)
    (id' : Nat) (ip : String) (port : Nat) :
    (s.disconnect i c).Holds id' ip port ↔ id' ≠ id ∧ s.Holds id' ip port := by
  constructor
  · rintro ⟨j, d, hd, hid', haddress⟩
    obtain ⟨hji, hd⟩ := (disconnect_objects_eq_some h hc).mp hd
    obtain ⟨hsocket, hid'⟩ := Kernel.connectionAt_close.mp hid'
    refine ⟨?_, j, d, hd, hid', haddress⟩
    rintro rfl
    have hwf := h.kernel.inj _ _ _ (Kernel.connectionAt_eq_some.mp hid')
      (Kernel.connectionAt_eq_some.mp hid)
    exact hsocket hwf
  · rintro ⟨hne, j, d, hd, hid', haddress⟩
    have hji : j ≠ i := by
      rintro rfl
      rw [hc, Option.some.injEq] at hd
      subst hd
      rw [hid, Option.some.injEq] at hid'
      exact hne hid'.symm
    have hsocket : d.socket.socket ≠ c.socket.socket := by
      intro heq
      exact hji (h.distinct j i d c hd hc heq)
    exact ⟨j, d, (disconnect_objects_eq_some h hc).mpr ⟨hji, hd⟩,
      Kernel.connectionAt_close.mpr ⟨hsocket, hid'⟩, haddress⟩

end RequestServer

namespace SocketConnection

theorem calls_serveRead {handler : SocketRequestHandler} {recv : RecvReturn}
    {response : HandlerResponse} {c : SocketConnection} {log : ConnectionLog} {r : Served}
    (h : serveRead handler recv response c log = some r) : log.calls <+: r.log.calls := by
  have hafter : ∀ (outcome : Outcome) (log : ConnectionLog),
      log.calls <+: (afterRead outcome log).log.calls := by
    intro outcome log
    unfold afterRead
    cases outcome.next <;> exact List.prefix_append _ _
  unfold serveRead at h
  split at h
  · split at h
    · cases h
      exact hafter _ { log with consumed := log.consumed ++ recv.bytes }
    · cases h
  · split at h
    · cases h
      exact hafter _ { log with consumed := log.consumed ++ recv.bytes }
    · cases h
  · cases h
    exact List.prefix_rfl
  · cases h
    exact List.prefix_rfl

theorem calls_serveWrite {send : SendReturn} {c : SocketConnection} {log : ConnectionLog}
    {r : Served} (h : serveWrite send c log = some r) : log.calls <+: r.log.calls := by
  unfold serveWrite at h
  split at h
  · split at h
    · dsimp only at h
      split at h <;> cases h <;> exact List.prefix_rfl
    · cases h
  · cases h
    exact List.prefix_rfl
  · cases h
    exact List.prefix_rfl
  · cases h
    exact List.prefix_rfl

end SocketConnection

namespace CallbackTrace

open RequestServer (Inv Steady)

variable {handler : SocketRequestHandler} {configuration : SocketConfiguration}
  {t t' : CallbackTrace}

structure Conversing (t : CallbackTrace) : Prop where
  steady : Steady t.server
  fresh : ∀ id, t.server.kernel.nextConnection ≤ id → t.about id = []
  each : ∀ id, Conversation id (t.server.logs id).calls (t.server.Holds id) (t.about id)

theorem Conversing.silent (h : t.Conversing) {server : RequestServer} (hsteady : Steady server)
    (hnotices : server.notices = t.server.notices) (hlogs : server.logs = t.server.logs)
    (hnext : t.server.kernel.nextConnection ≤ server.kernel.nextConnection)
    (hholds : ∀ id ip port, server.Holds id ip port ↔ t.server.Holds id ip port) :
    Conversing ⟨server, t.callbacks ++ t.server.callbacksTo server⟩ := by
  have hnone : t.server.callbacksTo server = [] := by
    rw [RequestServer.callbacksTo, hnotices, hlogs]
    cases t.server.subject <;> simp
  rw [hnone, List.append_nil]
  refine ⟨hsteady, fun id hid => h.fresh id (Nat.le_trans hnext hid), fun id => ?_⟩
  rw [hlogs]
  exact (h.each id).kept (hholds id)

theorem about_append (server : RequestServer) (new : List Callback) (id : Nat) :
    about ⟨server, t.callbacks ++ new⟩ id = t.about id ++ new.filter (·.id == id) :=
  List.filter_append _ _

theorem about_append_of_ne {id id' : Nat} (hne : id' ≠ id) (server : RequestServer)
    {new : List Callback} (hnew : ∀ callback ∈ new, callback.id = id) :
    about ⟨server, t.callbacks ++ new⟩ id' = t.about id' := by
  have hnone : new.filter (·.id == id') = [] := by
    refine List.filter_eq_nil_iff.mpr fun callback hmem => ?_
    simpa [hnew callback hmem] using Ne.symm hne
  rw [about_append, hnone, List.append_nil]

theorem about_append_self {id : Nat} (server : RequestServer) {new : List Callback}
    (hnew : ∀ callback ∈ new, callback.id = id) :
    about ⟨server, t.callbacks ++ new⟩ id = t.about id ++ new := by
  have hall : new.filter (·.id == id) = new := by
    refine List.filter_eq_self.mpr fun callback hmem => ?_
    simpa using hnew callback hmem
  rw [about_append, hall]

/-- A step that calls the handler about one connection: what is to be shown about that one, while the
    others go on as they were. -/
theorem Conversing.spoken (h : t.Conversing) {server : RequestServer} (hsteady : Steady server)
    (id : Nat) (new : List Callback) (hcallbacks : t.server.callbacksTo server = new)
    (hnew : ∀ callback ∈ new, callback.id = id)
    (hfresh : ∀ id', server.kernel.nextConnection ≤ id' →
      id' ≠ id ∧ t.server.kernel.nextConnection ≤ id')
    (hself : Conversation id (server.logs id).calls (server.Holds id) (t.about id ++ new))
    (hlogs : ∀ id', id' ≠ id → server.logs id' = t.server.logs id')
    (hholds : ∀ id' ip port, id' ≠ id → (server.Holds id' ip port ↔ t.server.Holds id' ip port)) :
    Conversing ⟨server, t.callbacks ++ t.server.callbacksTo server⟩ := by
  rw [hcallbacks]
  refine ⟨hsteady, fun id' hid' => ?_, fun id' => ?_⟩
  · obtain ⟨hne, hle⟩ := hfresh id' hid'
    rw [about_append_of_ne hne server hnew]
    exact h.fresh id' hle
  · by_cases hne : id' = id
    · subst hne
      rw [about_append_self server hnew]
      exact hself
    · rw [about_append_of_ne hne server hnew, hlogs id' hne]
      exact (h.each id').kept fun ip port => hholds id' ip port hne

theorem Conversing.admitted (h : t.Conversing) {popped : RequestServer} {loop : LoopState}
    (hpopped : popped = { t.server with loop := loop }) (hinv : Inv popped) {r : AcceptReturn}
    (hfits : r.fits popped.kernel) (hpos : 0 < r.descriptor) {i : Nat}
    {pool : ObjectPool SocketConnection}
    (hacquire : popped.pool.acquire (SocketConnection.make (.ofAccept r) handler
      configuration.pduSize) = some (i, pool)) (hsteady : Steady (popped.admitted r i pool)) :
    Conversing ⟨popped.admitted r i pool,
      t.callbacks ++ t.server.callbacksTo (popped.admitted r i pool)⟩ := by
  have hholds := RequestServer.admitted_holds hinv hfits hpos hacquire
  have hnext : (popped.admitted r i pool).kernel.nextConnection =
      popped.kernel.nextConnection + 1 := by
    rw [RequestServer.admitted]
    exact (Kernel.accept_nextConnection _ _).trans (if_pos (Int.le_of_lt hpos))
  subst hpopped
  have hfirst := h.fresh t.server.kernel.nextConnection (Nat.le_refl _)
  refine h.spoken hsteady t.server.kernel.nextConnection
    [.connected t.server.kernel.nextConnection r.ip r.port] ?_ ?_ ?_ ?_ ?_ ?_
  · simp only [RequestServer.callbacksTo, RequestServer.admitted, List.drop_left]
    cases t.server.subject <;> simp [Notice.callback]
  · simp [Callback.id]
  · intro id' hid'
    rw [hnext] at hid'
    dsimp only at hid'
    omega
  · have hbefore := h.each t.server.kernel.nextConnection
    rw [hfirst] at hbefore ⊢
    exact hbefore.begun ((hholds _ _ _).mpr (.inr ⟨rfl, rfl, rfl⟩))
  · exact fun _ _ => rfl
  · intro id' ip port hne
    rw [hholds]
    exact or_iff_left fun hsame => hne hsame.1

theorem Conversing.disconnect (h : t.Conversing) {popped : RequestServer} {loop : LoopState}
    (hpopped : popped = { t.server with loop := loop }) (hinv : Inv popped) {i : Nat}
    {c : SocketConnection} (hc : popped.pool.objects i = some c)
    (hsteady : Steady (popped.disconnect i c)) :
    Conversing ⟨popped.disconnect i c,
      t.callbacks ++ t.server.callbacksTo (popped.disconnect i c)⟩ := by
  obtain ⟨id, hid⟩ := hinv.connected i c hc
  have hholds := RequestServer.disconnect_holds hinv hc hid
  have haddress := hinv.holds_iff hc hid
  have hlt := hinv.lt_next hid
  subst hpopped
  refine h.spoken hsteady id [.disconnected id c.socket.clientIp c.socket.clientPort]
    ?_ ?_ ?_ ?_ ?_ ?_
  · simp only [RequestServer.callbacksTo, RequestServer.disconnect, List.drop_left, hid]
    cases t.server.subject <;> simp [Notice.callback]
  · simp [Callback.id]
  · intro id' hid'
    have hle : t.server.kernel.nextConnection ≤ id' := hid'
    dsimp only at hlt
    omega
  · exact (h.each id).left haddress fun ip port hstill => ((hholds id ip port).mp hstill).1 rfl
  · exact fun _ _ => rfl
  · intro id' ip port hne
    rw [hholds]
    exact and_iff_right hne

theorem Conversing.served (h : t.Conversing) {i id : Nat} {c : SocketConnection} {r : Served}
    {rest : List ContextPtr} (hloop : t.server.loop = .running (.peer i :: rest))
    {popped : RequestServer} (hpopped : popped = { t.server with loop := .running rest })
    (hinv : Inv popped) (hc : popped.pool.objects i = some c)
    (hid : popped.kernel.connectionAt c.socket.socket = some id)
    (hsame : SameSocket c r.connection) (hcalls : (popped.logs id).calls <+: r.log.calls)
    (hsteady : Steady (popped.served i c id r)) :
    Conversing ⟨popped.served i c id r,
      t.callbacks ++ t.server.callbacksTo (popped.served i c id r)⟩ := by
  have hholds := @RequestServer.served_holds popped i id c r hc hsame
  have hlt := hinv.lt_next hid
  obtain ⟨new, hnew⟩ := hcalls
  subst hpopped
  refine h.spoken hsteady id (new.map (.processed id)) ?_ ?_ ?_ ?_ ?_ ?_
  · have hpeer : t.server.peer? (.peer i) = some (c, id) := RequestStreams.peer?_peer hc hid
    simp only [RequestServer.callbacksTo, RequestServer.served, RequestServer.subject, hloop,
      hpeer, Option.map_some, Option.elim_some, Function.update_self, ← hnew, List.drop_left]
    simp
  · intro callback hmem
    obtain ⟨call, -, rfl⟩ := List.mem_map.mp hmem
    rfl
  · intro id' hid'
    have hle : t.server.kernel.nextConnection ≤ id' := hid'
    dsimp only at hlt
    omega
  · have hthere := (hinv.holds_iff hc hid c.socket.clientIp c.socket.clientPort).mpr ⟨rfl, rfl⟩
    have hmore := (h.each id).more hthere new
    simp only [RequestServer.served, Function.update_self, ← hnew]
    exact hmore.kept (hholds id)
  · intro id' hne
    simp only [RequestServer.served, Function.update_of_ne hne]
  · intro id' ip port hne
    exact hholds id' ip port

theorem Conversing.step (h : t.Conversing) {label : RequestServer.Label}
    (hstep : CallbackTrace.step handler configuration t label = some t') : t'.Conversing := by
  obtain ⟨server, hserver, rfl⟩ := Option.map_eq_some_iff.mp hstep
  have hsteady := h.steady.step hserver
  rcases RequestServer.step_cases hserver with ⟨-, rfl⟩ | ⟨ret, -, -, -, rfl⟩ | ⟨-, rfl⟩ |
    ⟨a, p, rest, -, hloop, hdispatch⟩
  · exact h.silent hsteady rfl rfl (Nat.le_refl _) fun _ _ _ => Iff.rfl
  · have hsame := RequestServer.unchanged_poll t.server ret
    have hnext := congrArg Kernel.nextConnection hsame.kernel
    exact h.silent hsteady hsame.notices hsame.logs (Nat.le_of_eq hnext.symm) hsame.holds_iff
  · exact h.silent hsteady rfl rfl (Nat.le_refl _) fun _ _ _ => Iff.rfl
  · have hinv : Inv { t.server with loop := .running rest } :=
      h.steady.inv.unchanged (RequestServer.unchanged_loop t.server _)
    cases RequestServer.dispatch_cases hdispatch with
    | ignored => exact h.silent hsteady rfl rfl (Nat.le_refl _) fun _ _ _ => Iff.rfl
    | faulted fault => exact h.silent hsteady rfl rfl (Nat.le_refl _) fun _ _ _ => Iff.rfl
    | leaked hfits hloop' =>
      refine h.silent hsteady rfl rfl (Kernel.nextConnection_le_accept _ _) ?_
      exact RequestServer.holds_congr (fun _ => rfl) fun i c hc => hinv.connectionAt_accept hfits hc
    | admitted hfits hpos hacquire => exact h.admitted rfl hinv hfits hpos hacquire hsteady
    | disconnected hp hc htype => exact h.disconnect rfl hinv hc hsteady
    | read hp hc htype hid hr =>
      subst hp
      exact h.served hloop rfl hinv hc hid (sameSocket_serveRead hr) (calls_serveRead hr) hsteady
    | write hp hc htype hid hr =>
      subst hp
      exact h.served hloop rfl hinv hc hid (sameSocket_serveWrite hr) (calls_serveWrite hr) hsteady

/-- **The callbacks of a handler.**  In every run of the server, the callbacks about each connection
    are a conversation: `onClientConnected`, then one call for each request it handles, in order, and
    at most one `onClientDisconnected`, with the same address and nothing after it; it has ended or
    not begun exactly when the connection lives in no slot. -/
theorem conversation {fd : Int} {labels : List RequestServer.Label}
    (hexec : exec (step handler configuration) ⟨.opened fd, []⟩ labels = some t) (id : Nat) :
    Conversation id (t.server.logs id).calls (t.server.Holds id) (t.about id) := by
  have hreach : Reachable (RequestServer.step handler configuration) (.opened fd) (.opened fd) :=
    .refl _
  have hopened : Conversing ⟨.opened fd, []⟩ := by
    refine ⟨RequestServer.reachable_steady hreach, fun _ _ => rfl, fun id => .absent rfl ?_⟩
    rintro ip port ⟨i, c, hc, -⟩
    cases hc
  exact (exec_invariant (fun _ _ _ h hstep => h.step hstep) hexec hopened).each id

open SocketConnection (byteHandler)
open RequestServer (bytePdu)

/-- Two clients connect, the second makes a request and then hangs up. -/
def twoClients : List RequestServer.Label :=
  let poll (revents : List Revents) : RequestServer.Label := .poll (.ready revents)
  let dispatch (a : Answer) : RequestServer.Label := .dispatch a
  [poll [{ pollin := true }],
   dispatch { accept := { descriptor := 4, ip := "10.0.0.1", port := 1000 } },
   poll [{ pollin := true }, {}],
   dispatch { accept := { descriptor := 5, ip := "10.0.0.2", port := 2000 } },
   poll [{}, {}, { pollin := true }], dispatch { recv := .data [0] },
   poll [{}, {}, { pollhup := true }], dispatch {}]

theorem conversation_twoClients :
    ∃ t, exec (step byteHandler bytePdu) ⟨.opened 3, []⟩ twoClients = some t ∧
      t.about 0 = [.connected 0 "10.0.0.1" 1000] ∧ (t.about 1).length = 3 ∧
      ∀ id, Conversation id (t.server.logs id).calls (t.server.Holds id) (t.about id) :=
  ⟨_, rfl, rfl, rfl, @conversation byteHandler bytePdu _ 3 twoClients rfl⟩

end CallbackTrace

end SecuritySocket
