import SecuritySocket.RequestServerMoves

/-!
# The invariant of the request server

In every state of a run the listener's two vectors hold the same descriptors in the same
order: the accept socket's and those of the connections in the pool, each once; and each
of these connections is open under its own descriptor.  So a batch holds registered
contexts only, each at most once, and stays so while its contexts are dispatched.
-/

namespace SecuritySocket

open Transition SocketMultiEventListener

def Notice.disconnects (id : Nat) : Notice → Bool
  | .disconnected id' _ _ => id' == id
  | .connected _ _ _ => false

namespace RequestServer

def disconnections (s : RequestServer) (id : Nat) : Nat := s.notices.countP (·.disconnects id)

/-- Slots, descriptors and registrations agree. -/
structure Inv (s : RequestServer) : Prop where
  listening : s.kernel.fdTable s.serverContext.fd = some .listening
  serverSocket : s.listener.serverSocket = s.serverContext.fd
  kernel : s.kernel.WellFormed
  pool : s.pool.WellFormed
  contextFd : ∀ i c, s.pool.objects i = some c → c.context.fd = c.socket.socket
  connected : ∀ i c, s.pool.objects i = some c → ∃ id, s.kernel.connectionAt c.socket.socket = some id
  distinct : ∀ i j c d, s.pool.objects i = some c → s.pool.objects j = some d →
    c.socket.socket = d.socket.socket → i = j
  nodup : s.listener.contexts.Nodup
  registered : ∀ p, p ∈ s.listener.contexts ↔ (s.context? p).isSome
  paired : s.listener.fds = s.listener.contextFds s.fdOf
  fresh : ∀ id, s.kernel.nextConnection ≤ id → s.logs id = {} ∧ s.disconnections id = 0
  notYet : ∀ fd id, s.kernel.connectionAt fd = some id → s.disconnections id = 0

structure Pending (s : RequestServer) (batch : List ContextPtr) : Prop where
  nodup : batch.Nodup
  registered : ∀ p ∈ batch, p ∈ s.listener.contexts

variable {handler : SocketRequestHandler} {configuration : SocketConfiguration}
  {s s' : RequestServer}

/-! ### Reading the invariant -/

theorem fdOf_peer {i : Nat} {c : SocketConnection} (hc : s.pool.objects i = some c) :
    s.fdOf (.peer i) = c.context.fd := by
  simp [fdOf, context?, hc]

theorem Inv.endpoint (h : Inv s) {p : ContextPtr} (hp : p ∈ s.listener.contexts) :
    (p = .server ∧ s.kernel.fdTable (s.fdOf p) = some .listening) ∨
      ∃ i c id, p = .peer i ∧ s.pool.objects i = some c ∧
        s.kernel.fdTable (s.fdOf p) = some (.connection id) := by
  cases p with
  | server => exact .inl ⟨rfl, h.listening⟩
  | peer i =>
    have hsome := (h.registered _).mp hp
    rw [context?, Option.isSome_map] at hsome
    obtain ⟨c, hc⟩ := Option.isSome_iff_exists.mp hsome
    obtain ⟨id, hid⟩ := h.connected i c hc
    refine .inr ⟨i, c, id, rfl, hc, ?_⟩
    rw [fdOf_peer hc, h.contextFd i c hc]
    exact Kernel.connectionAt_eq_some.mp hid

theorem Inv.unique (h : Inv s) {p q : ContextPtr} (hp : p ∈ s.listener.contexts)
    (hq : q ∈ s.listener.contexts) (hfd : s.fdOf p = s.fdOf q) : p = q := by
  rcases h.endpoint hp with ⟨rfl, hp⟩ | ⟨i, c, id, rfl, hc, hp⟩
  · rcases h.endpoint hq with ⟨rfl, _⟩ | ⟨j, d, id', rfl, _, hq⟩
    · rfl
    · rw [hfd, hq] at hp; cases hp
  · rcases h.endpoint hq with ⟨rfl, hq⟩ | ⟨j, d, id', rfl, hd, hq⟩
    · rw [hfd, hq] at hp; cases hp
    · rw [fdOf_peer hc, fdOf_peer hd, h.contextFd i c hc, h.contextFd j d hd] at hfd
      rw [h.distinct i j c d hc hd hfd]

theorem Inv.nodup_fds (h : Inv s) : s.listener.fds.Nodup := by
  rw [h.paired]
  exact List.Nodup.map_on (fun p hp q hq => h.unique hp hq) h.nodup

theorem Inv.mem_peer (h : Inv s) {i : Nat} {c : SocketConnection}
    (hc : s.pool.objects i = some c) : .peer i ∈ s.listener.contexts := by
  rw [h.registered, context?, hc]; rfl

theorem Inv.lt_next (h : Inv s) {fd : Int} {id : Nat} (hid : s.kernel.connectionAt fd = some id) :
    id < s.kernel.nextConnection :=
  h.kernel.lt_next fd id (Kernel.connectionAt_eq_some.mp hid)

/-! ### The invariant is kept -/

theorem inv_opened (fd : Int) : Inv (opened fd) := by
  constructor
  · simp [opened, Kernel.listening]
  · simp [opened, addEvent]
  · exact Kernel.wellFormed_listening fd
  · exact ObjectPool.wellFormed_make 32
  · simp [opened, ObjectPool.make]
  · simp [opened, ObjectPool.make]
  · simp [opened, ObjectPool.make]
  · simp [opened, addEvent]
  · rintro (_ | i) <;> simp [opened, addEvent, context?, ObjectPool.make]
  · simp [opened, addEvent, fds, contextFds, fdOf, context?]
  · simp [opened, disconnections]
  · simp [opened, disconnections]

theorem Unchanged.context?_isSome (h : Unchanged s s') (p : ContextPtr) :
    (s'.context? p).isSome = (s.context? p).isSome := by
  cases p with
  | server => rfl
  | peer i =>
    obtain ⟨type, htype⟩ := h.objects i
    simp [context?, htype]

theorem Unchanged.fdOf (h : Unchanged s s') : s'.fdOf = s.fdOf := by
  funext p
  cases p with
  | server => exact h.serverFd
  | peer i =>
    obtain ⟨type, htype⟩ := h.objects i
    simp only [RequestServer.fdOf, context?, htype]
    cases s.pool.objects i <;> rfl

theorem Inv.unchanged (h : Inv s) (hsame : Unchanged s s') : Inv s' where
  listening := by rw [hsame.kernel, hsame.serverFd]; exact h.listening
  serverSocket := by rw [hsame.listener, hsame.serverFd]; exact h.serverSocket
  kernel := hsame.kernel ▸ h.kernel
  pool := by
    refine ⟨hsame.availables ▸ h.pool.nodup, fun i => ?_, fun i c' hc' => ?_⟩
    · obtain ⟨type, htype⟩ := hsame.objects i
      rw [hsame.availables, hsame.size, htype, Option.map_eq_none_iff]
      exact h.pool.mem_iff i
    · obtain ⟨c, type, hc, -⟩ := hsame.object hc'
      exact hsame.size ▸ h.pool.lt_size i c hc
  contextFd i c' hc' := by
    obtain ⟨c, type, hc, rfl⟩ := hsame.object hc'
    exact h.contextFd i c hc
  connected i c' hc' := by
    obtain ⟨c, type, hc, rfl⟩ := hsame.object hc'
    rw [hsame.kernel]
    exact h.connected i c hc
  distinct i j c' d' hc' hd' hfd := by
    obtain ⟨c, type, hc, rfl⟩ := hsame.object hc'
    obtain ⟨d, type', hd, rfl⟩ := hsame.object hd'
    exact h.distinct i j c d hc hd hfd
  nodup := hsame.listener ▸ h.nodup
  registered p := by rw [hsame.listener, hsame.context?_isSome]; exact h.registered p
  paired := by rw [hsame.listener, hsame.fdOf]; exact h.paired
  fresh := by simpa only [hsame.kernel, hsame.logs, disconnections, hsame.notices] using h.fresh
  notYet := by simpa only [hsame.kernel, disconnections, hsame.notices] using h.notYet

/-- A newly accepted descriptor was not open, so it is no registered context's. -/
theorem Inv.fdOf_ne_accepted (h : Inv s) {r : AcceptReturn} (hfits : r.fits s.kernel)
    (hpos : 0 < r.descriptor) {p : ContextPtr} (hp : p ∈ s.listener.contexts) :
    s.fdOf p ≠ r.descriptor := by
  intro hfd
  have hfree := Kernel.fdTable_of_fits hfits (Int.le_of_lt hpos)
  rcases h.endpoint hp with ⟨_, hopen⟩ | ⟨i, c, id, _, _, hopen⟩
  · rw [hfd, hfree] at hopen; cases hopen
  · rw [hfd, hfree] at hopen; cases hopen

theorem Inv.leak (h : Inv s) {r : AcceptReturn} {loop : LoopState} (hfits : r.fits s.kernel) :
    Inv (s.leak r loop) where
  listening := Kernel.accept_fdTable_of_open hfits h.listening
  serverSocket := h.serverSocket
  kernel := h.kernel.accept
  pool := h.pool
  contextFd := h.contextFd
  connected i c hc := by
    obtain ⟨id, hid⟩ := h.connected i c hc
    exact ⟨id, Kernel.connectionAt_accept_of_some hfits hid⟩
  distinct := h.distinct
  nodup := h.nodup
  registered := h.registered
  paired := h.paired
  fresh id hid := h.fresh id (Nat.le_trans (Kernel.nextConnection_le_accept _ _) hid)
  notYet fd id hid := by
    rcases Kernel.connectionAt_accept hid with hold | ⟨_, _, rfl⟩
    · exact h.notYet fd id hold
    · exact (h.fresh _ (Nat.le_refl _)).2

theorem disconnections_append_connected (id id' : Nat) (ip : String) (port : Nat)
    (notices : List Notice) :
    (notices ++ [Notice.connected id' ip port]).countP (·.disconnects id) =
      notices.countP (·.disconnects id) := by
  simp [List.countP_append, Notice.disconnects]

theorem admitted_object (h : Inv s) {r : AcceptReturn} {i j : Nat} {object : SocketConnection}
    {pool : ObjectPool SocketConnection} (hacquire : s.pool.acquire object = some (i, pool))
    (hj : .peer j ∈ s.listener.contexts) :
    (s.admitted r i pool).pool.objects j = s.pool.objects j := by
  have hji : j ≠ i := by
    rintro rfl
    have hsome := (h.registered _).mp hj
    simp [context?, h.pool.acquired_free hacquire] at hsome
  simp [RequestServer.admitted, ObjectPool.acquire_objects hacquire, hji]

section Admitted

variable {r : AcceptReturn} {i : Nat} {pool : ObjectPool SocketConnection} (h : Inv s)
  (hfits : r.fits s.kernel) (hpos : 0 < r.descriptor)
  (hacquire : s.pool.acquire (SocketConnection.make (.ofAccept r) handler configuration.pduSize) =
    some (i, pool))

include h hfits hpos in
theorem Inv.socket_ne_accepted {j : Nat} {c : SocketConnection}
    (hc : s.pool.objects j = some c) : c.socket.socket ≠ r.descriptor := by
  intro hsocket
  refine h.fdOf_ne_accepted hfits hpos (h.mem_peer hc) ?_
  rw [fdOf_peer hc, h.contextFd j c hc, hsocket]

include h hfits hpos hacquire in
theorem Inv.connected_admitted {j : Nat} {c : SocketConnection} (hc : pool.objects j = some c) :
    ∃ id, (s.kernel.accept r).connectionAt c.socket.socket = some id := by
  rcases (ObjectPool.acquire_objects_eq_some hacquire).mp hc with ⟨rfl, rfl⟩ | ⟨_, hc⟩
  · rw [SocketConnection.make, ServerActiveSocket.ofAccept_socket]
    exact ⟨_, s.kernel.connectionAt_accept_self (Int.le_of_lt hpos)⟩
  · obtain ⟨id, hid⟩ := h.connected j c hc
    exact ⟨id, Kernel.connectionAt_accept_of_some hfits hid⟩

include h hfits hpos hacquire in
theorem Inv.distinct_admitted {j k : Nat} {c d : SocketConnection}
    (hc : pool.objects j = some c) (hd : pool.objects k = some d)
    (hsocket : c.socket.socket = d.socket.socket) : j = k := by
  have hmade : (SocketConnection.make (.ofAccept r) handler configuration.pduSize).socket.socket =
      r.descriptor := by simp [SocketConnection.make]
  rcases (ObjectPool.acquire_objects_eq_some hacquire).mp hc with ⟨rfl, rfl⟩ | ⟨_, hc⟩ <;>
    rcases (ObjectPool.acquire_objects_eq_some hacquire).mp hd with ⟨rfl, rfl⟩ | ⟨_, hd⟩
  · rfl
  · exact absurd (hsocket.symm.trans hmade) (h.socket_ne_accepted hfits hpos hd)
  · exact absurd (hsocket.trans hmade) (h.socket_ne_accepted hfits hpos hc)
  · exact h.distinct j k c d hc hd hsocket

include h hacquire in
theorem Inv.registered_admitted (p : ContextPtr) :
    p ∈ (s.admitted r i pool).listener.contexts ↔ ((s.admitted r i pool).context? p).isSome := by
  have hobjects := ObjectPool.acquire_objects hacquire
  have hp := h.registered p
  cases p with
  | server => simpa [RequestServer.admitted, addEvent, context?] using hp
  | peer j =>
    by_cases hji : j = i
    · subst hji
      simp [RequestServer.admitted, addEvent, context?, hobjects]
    · simpa [RequestServer.admitted, addEvent, context?, hobjects, hji] using hp

include h hacquire in
theorem Inv.paired_admitted : (s.admitted r i pool).listener.fds =
    (s.admitted r i pool).listener.contextFds (s.admitted r i pool).fdOf := by
  have hfd : (s.admitted r i pool).fdOf (.peer i) = r.descriptor := by
    simp [fdOf, context?, RequestServer.admitted, ObjectPool.acquire_objects hacquire,
      SocketConnection.make]
  have hcontexts : s.listener.contextFds (s.admitted r i pool).fdOf =
      s.listener.contextFds s.fdOf := by
    refine List.map_congr_left fun p hp => ?_
    cases p with
    | server => rfl
    | peer j => simp [fdOf, context?, admitted_object h hacquire hp]
  rw [RequestServer.admitted, fds_addEvent, contextFds_addEvent, h.paired, ← hcontexts, ← hfd]
  rfl

include h hfits hpos hacquire in
theorem Inv.admitted : Inv (s.admitted r i pool) := by
  have hnew : .peer i ∉ s.listener.contexts := by
    rw [h.registered, context?, h.pool.acquired_free hacquire]
    simp
  have hleak : Inv (s.leak r s.loop) := h.leak hfits
  exact
    { listening := hleak.listening
      serverSocket := h.serverSocket
      kernel := hleak.kernel
      pool := h.pool.acquire hacquire
      contextFd := by
        intro j c hc
        rcases (ObjectPool.acquire_objects_eq_some hacquire).mp hc with ⟨rfl, rfl⟩ | ⟨_, hc⟩
        · rfl
        · exact h.contextFd j c hc
      connected := fun _ _ hc => h.connected_admitted hfits hpos hacquire hc
      distinct := fun _ _ _ _ hc hd => h.distinct_admitted hfits hpos hacquire hc hd
      nodup := nodup_contexts_addEvent h.nodup hnew
      registered := h.registered_admitted hacquire
      paired := h.paired_admitted hacquire
      fresh := by
        intro id hid
        refine ⟨(hleak.fresh id hid).1, ?_⟩
        rw [disconnections, RequestServer.admitted, disconnections_append_connected]
        exact (hleak.fresh id hid).2
      notYet := by
        intro fd id hid
        rw [disconnections, RequestServer.admitted, disconnections_append_connected]
        exact hleak.notYet fd id hid }

end Admitted

theorem Inv.connection (h : Inv s) {i : Nat} {c : SocketConnection}
    (hc : s.pool.objects i = some c) :
    ∃ id, s.kernel.connectionAt c.socket.socket = some id ∧ id < s.kernel.nextConnection ∧
      ∀ fd, s.kernel.connectionAt fd = some id → fd = c.socket.socket := by
  obtain ⟨id, hid⟩ := h.connected i c hc
  refine ⟨id, hid, h.lt_next hid, fun fd hfd => ?_⟩
  exact h.kernel.inj fd c.socket.socket id (Kernel.connectionAt_eq_some.mp hfd)
    (Kernel.connectionAt_eq_some.mp hid)

theorem disconnect_objects (h : Inv s) {i : Nat} {c : SocketConnection}
    (hc : s.pool.objects i = some c) :
    (s.disconnect i c).pool.objects = Function.update s.pool.objects i none :=
  ObjectPool.release_objects (h.pool.lt_size i c hc)

theorem disconnect_objects_eq_some (h : Inv s) {i j : Nat} {c d : SocketConnection}
    (hc : s.pool.objects i = some c) :
    (s.disconnect i c).pool.objects j = some d ↔ j ≠ i ∧ s.pool.objects j = some d :=
  ObjectPool.release_objects_eq_some (h.pool.lt_size i c hc)

theorem disconnections_disconnect {i id : Nat} {c : SocketConnection}
    (hid : s.kernel.connectionAt c.socket.socket = some id) (id' : Nat) :
    (s.disconnect i c).disconnections id' = s.disconnections id' + if id = id' then 1 else 0 := by
  by_cases heq : id = id' <;>
    simp [disconnections, disconnect, hid, List.countP_append, Notice.disconnects, heq]

theorem Inv.registered_disconnect (h : Inv s) {i : Nat} {c : SocketConnection}
    (hc : s.pool.objects i = some c) (p : ContextPtr) :
    p ∈ (s.disconnect i c).listener.contexts ↔ ((s.disconnect i c).context? p).isSome := by
  have hobjects := disconnect_objects h hc
  have hp := h.registered p
  simp only [RequestServer.disconnect, removeEvent, h.nodup.mem_erase_iff, hp]
  cases p with
  | server => simp [context?]
  | peer j =>
    have hobject := congrFun hobjects j
    simp only [RequestServer.disconnect] at hobject
    by_cases hji : j = i
    · subst hji
      simp [context?, hobject]
    · simp [context?, hobject, hji]

theorem Inv.paired_disconnect (h : Inv s) {i : Nat} {c : SocketConnection}
    (hc : s.pool.objects i = some c) : (s.disconnect i c).listener.fds =
      (s.disconnect i c).listener.contextFds (s.disconnect i c).fdOf := by
  have hfd : ∀ p ∈ s.listener.contexts.erase (.peer i),
      (s.disconnect i c).fdOf p = s.fdOf p := by
    intro p hp
    have hne := (h.nodup.mem_erase_iff.mp hp).1
    cases p with
    | server => rfl
    | peer j =>
      have hji : j ≠ i := fun hji => hne (hji ▸ rfl)
      simp [fdOf, context?, disconnect_objects h hc, hji]
  have hcontexts : (s.disconnect i c).listener.contextFds (s.disconnect i c).fdOf =
      (s.listener.removeEvent (.peer i) c.context.fd).contextFds s.fdOf :=
    List.map_congr_left hfd
  rw [hcontexts, contextFds_removeEvent fun q hq hq' => h.unique hq (h.mem_peer hc) hq',
    fdOf_peer hc, ← h.paired, ← fds_removeEvent]
  rfl

theorem Inv.disconnect (h : Inv s) {i : Nat} {c : SocketConnection}
    (hc : s.pool.objects i = some c) : Inv (s.disconnect i c) := by
  obtain ⟨id, hid, hlt, honly⟩ := h.connection hc
  have hcases : ∀ j d, (s.disconnect i c).pool.objects j = some d →
      j ≠ i ∧ s.pool.objects j = some d :=
    fun _ _ => (disconnect_objects_eq_some h hc).mp
  have hsocket : ∀ j d, j ≠ i → s.pool.objects j = some d → d.socket.socket ≠ c.socket.socket :=
    fun j d hji hd hfd => hji (h.distinct j i d c hd hc hfd)
  exact
    { listening := by
        refine (Kernel.close_fdTable_ne ?_).trans h.listening
        intro hfd
        have hopen := Kernel.connectionAt_eq_some.mp hid
        rw [← hfd] at hopen
        exact absurd (h.listening.symm.trans hopen) (by simp)
      serverSocket := h.serverSocket
      kernel := h.kernel.close _
      pool := h.pool.release hc
      contextFd := fun j d hd => h.contextFd j d (hcases j d hd).2
      connected := by
        intro j d hd
        obtain ⟨hji, hd⟩ := hcases j d hd
        obtain ⟨id', hid'⟩ := h.connected j d hd
        exact ⟨id', Kernel.connectionAt_close.mpr ⟨hsocket j d hji hd, hid'⟩⟩
      distinct := fun j k d e hd he =>
        h.distinct j k d e (hcases j d hd).2 (hcases k e he).2
      nodup := h.nodup.erase _
      registered := h.registered_disconnect hc
      paired := h.paired_disconnect hc
      fresh := by
        intro id' hid'
        have hold := h.fresh id' hid'
        refine ⟨hold.1, ?_⟩
        have hne : id ≠ id' := Nat.ne_of_lt (Nat.lt_of_lt_of_le hlt hid')
        rw [disconnections_disconnect hid, hold.2, if_neg hne]
      notYet := by
        intro fd id' hid'
        obtain ⟨hfd, hid'⟩ := Kernel.connectionAt_close.mp hid'
        have hne : id ≠ id' := fun heq => hfd (honly fd (heq ▸ hid'))
        rw [disconnections_disconnect hid, h.notYet fd id' hid', if_neg hne] }

theorem served_objects (s : RequestServer) (i : Nat) (c : SocketConnection) (id : Nat)
    (r : Served) :
    (s.served i c id r).pool.objects = Function.update s.pool.objects i (some r.connection) := rfl

theorem served_objects_eq_some {i j id : Nat} {c d : SocketConnection} {r : Served} :
    (s.served i c id r).pool.objects j = some d ↔
      (j = i ∧ d = r.connection) ∨ (j ≠ i ∧ s.pool.objects j = some d) :=
  ObjectPool.store_objects_eq_some

theorem served_object (id : Nat) {i j : Nat} {c d : SocketConnection} {r : Served}
    (hc : s.pool.objects i = some c) (hd : s.pool.objects j = some d)
    (hsame : SocketConnection.SameSocket c r.connection) :
    ∃ d', (s.served i c id r).pool.objects j = some d' ∧ SocketConnection.SameSocket d d' := by
  by_cases hji : j = i
  · subst hji
    rw [hc, Option.some.injEq] at hd
    subst hd
    exact ⟨r.connection, served_objects_eq_some.mpr (.inl ⟨rfl, rfl⟩), hsame⟩
  · exact ⟨d, served_objects_eq_some.mpr (.inr ⟨hji, hd⟩), .refl d⟩

theorem served_fdOf {i id : Nat} {c : SocketConnection} {r : Served}
    (hc : s.pool.objects i = some c) (hsame : SocketConnection.SameSocket c r.connection) :
    (s.served i c id r).fdOf = s.fdOf := by
  funext p
  cases p with
  | server => rfl
  | peer j =>
    by_cases hji : j = i
    · subst hji; simp [fdOf, context?, served_objects, hc, hsame.1]
    · simp [fdOf, context?, served_objects, hji]

theorem mem_contexts_served (h : Inv s) {i id : Nat} {c : SocketConnection} {r : Served}
    (hc : s.pool.objects i = some c) (p : ContextPtr) :
    p ∈ (s.served i c id r).listener.contexts ↔ p ∈ s.listener.contexts := by
  unfold served
  cases r.interest with
  | none => rfl
  | some type => exact mem_contexts_modifyEvent (h.mem_peer hc)

theorem Inv.registered_served (h : Inv s) {i id : Nat} {c : SocketConnection} {r : Served}
    (hc : s.pool.objects i = some c) (p : ContextPtr) :
    p ∈ (s.served i c id r).listener.contexts ↔ ((s.served i c id r).context? p).isSome := by
  rw [mem_contexts_served h hc, h.registered p]
  cases p with
  | server => rfl
  | peer j =>
    by_cases hji : j = i
    · subst hji
      simp [context?, served_objects, hc]
    · simp [context?, served_objects, hji]

theorem Inv.paired_served (h : Inv s) {i id : Nat} {c : SocketConnection} {r : Served}
    (hc : s.pool.objects i = some c) (hsame : SocketConnection.SameSocket c r.connection) :
    (s.served i c id r).listener.fds =
      (s.served i c id r).listener.contextFds (s.served i c id r).fdOf := by
  rw [served_fdOf hc hsame]
  unfold RequestServer.served
  cases r.interest with
  | none => exact h.paired
  | some type =>
    dsimp only
    rw [fds_modifyEvent, contextFds_modifyEvent _ fun q hq hq' =>
      h.unique hq (h.mem_peer hc) hq', fdOf_peer hc, h.paired]

theorem Inv.served (h : Inv s) {i id : Nat} {c : SocketConnection} {r : Served}
    (hc : s.pool.objects i = some c) (hid : s.kernel.connectionAt c.socket.socket = some id)
    (hsame : SocketConnection.SameSocket c r.connection) (hinterest : r.interest ≠ some .accept) :
    Inv (s.served i c id r) := by
  have hcases : ∀ j d, (s.served i c id r).pool.objects j = some d →
      ∃ d', s.pool.objects j = some d' ∧ d.context = d'.context ∧ d.socket = d'.socket := by
    intro j d hd
    rcases served_objects_eq_some.mp hd with ⟨rfl, rfl⟩ | ⟨_, hd⟩
    · exact ⟨c, hc, hsame.1, hsame.2⟩
    · exact ⟨d, hd, rfl, rfl⟩
  exact
    { listening := h.listening
      serverSocket := by
        unfold RequestServer.served
        cases htype : r.interest with
        | none => exact h.serverSocket
        | some type =>
          have hne : type ≠ .accept := fun heq => hinterest (heq ▸ htype)
          simpa [modifyEvent, addEvent, removeEvent, hne] using h.serverSocket
      kernel := h.kernel
      pool := h.pool.store hc
      contextFd := by
        intro j d hd
        obtain ⟨d', hd', hcontext, hsocket⟩ := hcases j d hd
        rw [hcontext, hsocket]
        exact h.contextFd j d' hd'
      connected := by
        intro j d hd
        obtain ⟨d', hd', _, hsocket⟩ := hcases j d hd
        rw [hsocket]
        exact h.connected j d' hd'
      distinct := by
        intro j k d e hd he hfd
        obtain ⟨d', hd', _, hsocket⟩ := hcases j d hd
        obtain ⟨e', he', _, hsocket'⟩ := hcases k e he
        rw [hsocket, hsocket'] at hfd
        exact h.distinct j k d' e' hd' he' hfd
      nodup := by
        unfold RequestServer.served
        cases r.interest with
        | none => exact h.nodup
        | some type => exact nodup_contexts_modifyEvent h.nodup
      registered := h.registered_served hc
      paired := h.paired_served hc hsame
      fresh := by
        intro id' hid'
        have hne : id' ≠ id := (Nat.ne_of_lt (Nat.lt_of_lt_of_le (h.lt_next hid) hid')).symm
        simpa [RequestServer.served, hne, disconnections] using h.fresh id' hid'
      notYet := h.notYet }

theorem Dispatched.inv {p : ContextPtr} {a : Answer} (h : Inv s)
    (hs' : Dispatched handler configuration s p a s') : Inv s' := by
  cases hs' with
  | ignored => exact h
  | faulted fault => exact h.unchanged (unchanged_loop s _)
  | leaked hfits hloop => exact h.leak hfits
  | admitted hfits hpos hacquire => exact h.admitted hfits hpos hacquire
  | disconnected hp hc htype => exact h.disconnect hc
  | read hp hc htype hid hr =>
    exact h.served hc hid (SocketConnection.sameSocket_serveRead hr)
      (SocketConnection.interest_serveRead hr)
  | write hp hc htype hid hr =>
    exact h.served hc hid (SocketConnection.sameSocket_serveWrite hr)
      (SocketConnection.interest_serveWrite hr)

/-! ### Batches -/

theorem Dispatched.mem_contexts {p q : ContextPtr} {a : Answer} (h : Inv s) (hne : q ≠ p)
    (hs' : Dispatched handler configuration s p a s') (hq : q ∈ s.listener.contexts) :
    q ∈ s'.listener.contexts := by
  cases hs' with
  | ignored => exact hq
  | faulted fault => exact hq
  | leaked hfits hloop => exact hq
  | admitted hfits hpos hacquire => simp [RequestServer.admitted, addEvent, hq]
  | disconnected hp hc htype =>
    subst hp
    exact h.nodup.mem_erase_iff.mpr ⟨hne, hq⟩
  | read hp hc htype hid hr => exact (mem_contexts_served h hc q).mpr hq
  | write hp hc htype hid hr => exact (mem_contexts_served h hc q).mpr hq

theorem Dispatched.serverContext {p : ContextPtr} {a : Answer}
    (hs' : Dispatched handler configuration s p a s') : s'.serverContext = s.serverContext := by
  cases hs' <;> rfl

theorem Dispatched.object {p : ContextPtr} {a : Answer} (h : Inv s) {i : Nat} (hne : .peer i ≠ p)
    (hi : .peer i ∈ s.listener.contexts) (hs' : Dispatched handler configuration s p a s') :
    s'.pool.objects i = s.pool.objects i := by
  have hother : ∀ {j}, p = .peer j → i ≠ j := by
    rintro j rfl rfl
    exact hne rfl
  cases hs' with
  | ignored => rfl
  | faulted fault => rfl
  | leaked hfits hloop => rfl
  | admitted hfits hpos hacquire => exact admitted_object h hacquire hi
  | disconnected hp hc htype => simp [disconnect_objects h hc, hother hp]
  | read hp hc htype hid hr => simp [served_objects, hother hp]
  | write hp hc htype hid hr => simp [served_objects, hother hp]

theorem Dispatched.context? {p q : ContextPtr} {a : Answer} (h : Inv s) (hne : q ≠ p)
    (hq : q ∈ s.listener.contexts) (hs' : Dispatched handler configuration s p a s') :
    s'.context? q = s.context? q := by
  cases q with
  | server => simp only [RequestServer.context?, hs'.serverContext]
  | peer i => simp only [RequestServer.context?, hs'.object h hne hq]

theorem Dispatched.loop {p : ContextPtr} {a : Answer}
    (hs' : Dispatched handler configuration s p a s') :
    s'.loop = s.loop ∨ ∃ fault, s'.loop = .faulted fault := by
  cases hs' with
  | ignored => exact .inl rfl
  | faulted fault => exact .inr ⟨fault, rfl⟩
  | leaked hfits hloop => exact hloop
  | admitted hfits hpos hacquire => exact .inl rfl
  | disconnected hp hc htype => exact .inl rfl
  | read hp hc htype hid hr => exact .inl rfl
  | write hp hc htype hid hr => exact .inl rfl

theorem Inv.poll_ready (h : Inv s) (revents : List Revents) :
    ∃ reported, collect s.fdOf s.listener.contexts (s.listener.handle.zip revents) =
        some reported ∧
      s.poll (.ready revents) =
        { s.storeTypes reported with loop := .running (reported.map (·.context)) } := by
  obtain ⟨reported, hcollect⟩ : ∃ reported,
      collect s.fdOf s.listener.contexts (s.listener.handle.zip revents) = some reported := by
    refine exists_collect fun entry hentry => ?_
    have hmem : entry.1.fd ∈ s.listener.fds :=
      List.mem_map_of_mem (List.of_mem_zip hentry).1
    rw [h.paired] at hmem
    exact hmem
  refine ⟨reported, hcollect, ?_⟩
  have hlive : (s.listener.contexts.all fun p => (s.context? p).isSome) = true :=
    List.all_eq_true.mpr fun p hp => (h.registered p).mp hp
  simp [poll, hlive, hcollect]

theorem Inv.pending_poll (h : Inv s) {revents : List Revents}
    {reported : List (Reported ContextPtr)}
    (hcollect : collect s.fdOf s.listener.contexts (s.listener.handle.zip revents) =
      some reported) : Pending s (reported.map (·.context)) where
  nodup := nodup_collected h.nodup_fds hcollect
  registered p hp := by
    obtain ⟨e, he, rfl⟩ := List.mem_map.mp hp
    exact ((collect_reports hcollect).2 e he).1

structure Steady (s : RequestServer) : Prop where
  inv : Inv s
  pending : ∀ batch, s.loop = .running batch → Pending s batch

theorem Inv.steady_of_top (h : Inv s) (hloop : ∀ batch, s.loop = .running batch → batch = []) :
    Steady s := by
  refine ⟨h, fun batch hbatch => ?_⟩
  rw [hloop batch hbatch]
  exact ⟨List.nodup_nil, by simp⟩

/-- What a step does, by its label. -/
theorem step_cases {label : Label} (h : step handler configuration s label = some s') :
    (label = .stop ∧ s' = { s with isRunning := false }) ∨
    (∃ ret, label = .poll ret ∧ s.loop = .running [] ∧ ret.consistent s.listener.handle ∧
      s' = s.poll ret) ∨
    (label = .leave ∧ s' = { s with loop := .exited }) ∨
    (∃ a p rest, label = .dispatch a ∧ s.loop = .running (p :: rest) ∧
      { s with loop := .running rest }.dispatch handler configuration p a = some s') := by
  cases label with
  | stop => exact .inl ⟨rfl, (Option.some.inj h).symm⟩
  | poll ret =>
    simp only [step] at h
    split at h
    · rename_i hloop
      split at h
      · rename_i hguard
        simp only [Bool.and_eq_true] at hguard
        exact .inr (.inl ⟨ret, rfl, hloop, hguard.2, (Option.some.inj h).symm⟩)
      · cases h
    all_goals cases h
  | leave =>
    simp only [step] at h
    split at h
    · split at h
      · cases h
      · exact .inr (.inr (.inl ⟨rfl, (Option.some.inj h).symm⟩))
    all_goals cases h
  | dispatch a =>
    simp only [step] at h
    split at h
    · rename_i p rest hloop
      exact .inr (.inr (.inr ⟨a, p, rest, rfl, hloop, h⟩))
    all_goals cases h

theorem Steady.poll (h : Steady s) (ret : MultiPollReturn) : Steady (s.poll ret) := by
  cases ret with
  | timeout => exact h
  | error =>
    refine Inv.steady_of_top (h.inv.unchanged (unchanged_poll s .error)) fun batch hbatch => ?_
    simp [RequestServer.poll] at hbatch
  | ready revents =>
    obtain ⟨reported, hcollect, hpoll⟩ := h.inv.poll_ready revents
    refine ⟨h.inv.unchanged (unchanged_poll s _), fun batch hbatch => ?_⟩
    rw [hpoll] at hbatch ⊢
    cases hbatch
    have hpending := h.inv.pending_poll hcollect
    refine ⟨hpending.nodup, fun p hp => ?_⟩
    rw [(unchanged_storeTypes s reported).listener]
    exact hpending.registered p hp

theorem Steady.dispatch (h : Steady s) {p : ContextPtr} {rest : List ContextPtr} {a : Answer}
    (hloop : s.loop = .running (p :: rest))
    (hs' : { s with loop := .running rest }.dispatch handler configuration p a = some s') :
    Steady s' := by
  have hpopped : Inv { s with loop := .running rest } := h.inv.unchanged (unchanged_loop s _)
  have hdispatched := dispatch_cases hs'
  have hpending := h.pending _ hloop
  obtain ⟨hp, hrest⟩ := List.nodup_cons.mp hpending.nodup
  refine ⟨hdispatched.inv hpopped, fun batch hbatch => ?_⟩
  rcases hdispatched.loop with hsame | ⟨fault, hfault⟩
  · have hbatch' : rest = batch := by
      rw [hsame] at hbatch
      cases hbatch
      rfl
    subst hbatch'
    refine ⟨hrest, fun q hq => ?_⟩
    exact hdispatched.mem_contexts hpopped (by rintro rfl; exact hp hq)
      (hpending.registered q (List.mem_cons_of_mem _ hq))
  · rw [hfault] at hbatch
    cases hbatch

theorem Steady.stopped (h : Steady s) : Steady { s with isRunning := false } where
  inv := h.inv.unchanged ⟨rfl, rfl, rfl, fun _ => map_retype_self _, rfl, rfl, rfl, rfl⟩
  pending batch hbatch :=
    ⟨(h.pending batch hbatch).nodup, (h.pending batch hbatch).registered⟩

theorem Steady.step (h : Steady s) {label : Label}
    (hs' : step handler configuration s label = some s') : Steady s' := by
  rcases step_cases hs' with ⟨rfl, rfl⟩ | ⟨ret, rfl, hloop, _, rfl⟩ | ⟨rfl, rfl⟩ |
    ⟨a, p, rest, rfl, hloop, hdispatch⟩
  · exact h.stopped
  · exact h.poll ret
  · exact Inv.steady_of_top (h.inv.unchanged (unchanged_loop s _)) (by simp)
  · exact h.dispatch hloop hdispatch

/-- **The invariant of the request server**: it holds in every reachable state. -/
theorem reachable_steady {fd : Int} (h : Reachable (step handler configuration) (opened fd) s) :
    Steady s := by
  refine h.invariant ?_ fun s label s' hs hstep => hs.step hstep
  refine Inv.steady_of_top (inv_opened fd) fun batch hbatch => ?_
  cases hbatch
  rfl

end RequestServer

end SecuritySocket
