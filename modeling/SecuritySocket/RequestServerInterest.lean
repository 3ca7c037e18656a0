import SecuritySocket.HandlerView
import SecuritySocket.RequestServerDispatch

/-!
# States and poll interest of the request server

Whether a connection reads or writes is kept in its `state`, and which of the two the server
polls for in the `pollfd` of the listener; every transition has to change both.  In every
state of a run the `pollfd` vector can be computed from the contexts and the states of their
connections (`Wired`), so a READ event finds a connection that reads and a WRITE event one
that writes.
-/

namespace SecuritySocket

namespace SocketConnection

/-- What a connection in this state has to be polled for. -/
def wants (c : SocketConnection) : SocketEventType :=
  if c.state = .writingResponse then .write else .read

/-- The counters and the state agree. -/
structure Counted (handler : SocketRequestHandler) (c : SocketConnection) : Prop where
  header : c.totalInputHeaderReadSize = handler.getHeaderSize ↔ c.state ≠ .readingHeader
  payload : c.state = .readingPayload → c.totalInputPayloadReadSize < c.payloadSize

variable {handler : SocketRequestHandler} {pduSize : Nat}

theorem counted_make (hheader : 1 ≤ handler.getHeaderSize) (socket : ServerActiveSocket) :
    Counted handler (make socket handler pduSize) := by
  constructor
  · simp only [make, ne_eq, not_true_eq_false, iff_false]
    omega
  · simp [make]

theorem counted_flush (hheader : 1 ≤ handler.getHeaderSize) (c : SocketConnection) :
    Counted handler c.flush := by
  constructor
  · simp only [flush, ne_eq, not_true_eq_false, iff_false]
    omega
  · simp [flush]

theorem TaskServed.counted (hheader : 1 ≤ handler.getHeaderSize) {response : HandlerResponse}
    {c : SocketConnection} {log : ConnectionLog} {r : Served}
    (hfull : c.totalInputHeaderReadSize = handler.getHeaderSize)
    (h : TaskServed response c log r) : Counted handler r.connection := by
  cases h with
  | answered hmode => exact ⟨by simp [responding, hfull], by simp [responding]⟩
  | deferred hmode => exact ⟨by simp [hfull], by simp⟩
  | silent hmode => exact counted_flush hheader c

theorem ReadServed.counted (hheader : 1 ≤ handler.getHeaderSize) {response : HandlerResponse}
    {c : SocketConnection} {log : ConnectionLog} {recv : RecvReturn} {r : Served}
    (hsound : Sound handler pduSize c) (hc : Counted handler c)
    (h : ReadServed handler response c log recv r) : Counted handler r.connection := by
  cases h with
  | ignored hstate => exact hc
  | failed hstate hneg hnil => exact hc
  | headerPart hstate hnarrow hlt =>
    refine ⟨?_, by simp [headerGot, hstate]⟩
    simp only [headerGot, hstate, ne_eq, not_true_eq_false, iff_false]
    omega
  | headerFull hstate hnarrow hfull hne =>
    refine ⟨by simp [classified, headerGot, hfull], fun _ => ?_⟩
    simp only [classified, headerGot, hsound.payloadFresh hstate]
    exact Nat.pos_of_ne_zero hne
  | headerTask hstate hnarrow hfull hzero htask => exact htask.counted hheader hfull
  | payloadPart hstate hnarrow hlt =>
    exact ⟨hc.header, fun _ => hlt⟩
  | payloadTask hstate hnarrow hfull htask =>
    have hheader' : (c.payloadGot recv.bytes).totalInputHeaderReadSize = handler.getHeaderSize :=
      hc.header.mpr (by simp [hstate])
    exact htask.counted hheader hheader'

theorem WriteServed.counted (hheader : 1 ≤ handler.getHeaderSize) {c : SocketConnection}
    {log : ConnectionLog} {count : Nat} {r : Served} (hc : Counted handler c)
    (h : WriteServed c log count r) : Counted handler r.connection := by
  cases h with
  | ignored hstate => exact hc
  | failed hstate hzero => exact hc
  | part hstate hlt => exact ⟨hc.header, by simp [hstate]⟩
  | done hstate hfull => exact counted_flush hheader c

/-- The interest an event asks for is what the connection then wants; it asks for none when
    that has not changed. -/
def Follows (c : SocketConnection) (r : Served) : Prop :=
  match r.interest with
  | none => r.connection.wants = c.wants
  | some type => r.connection.wants = type

theorem TaskServed.follows {response : HandlerResponse} {c c₀ : SocketConnection}
    {log : ConnectionLog} {r : Served} (hc₀ : c₀.state ≠ .writingResponse)
    (h : TaskServed response c log r) : Follows c₀ r := by
  cases h with
  | answered hmode => simp [Follows, wants, responding]
  | deferred hmode => simp [Follows, wants]
  | silent hmode => simp [Follows, hc₀, wants, flush]

theorem ReadServed.follows {response : HandlerResponse} {c : SocketConnection}
    {log : ConnectionLog} {recv : RecvReturn} {r : Served}
    (h : ReadServed handler response c log recv r) : Follows c r := by
  cases h with
  | ignored hstate => rfl
  | failed hstate hneg hnil => rfl
  | headerPart hstate hnarrow hlt => rfl
  | headerFull hstate hnarrow hfull hne => simp [Follows, wants, hstate]
  | headerTask hstate hnarrow hfull hzero htask => exact htask.follows (by simp [hstate])
  | payloadPart hstate hnarrow hlt => rfl
  | payloadTask hstate hnarrow hfull htask => exact htask.follows (by simp [hstate])

theorem WriteServed.follows {c : SocketConnection} {log : ConnectionLog} {count : Nat} {r : Served}
    (h : WriteServed c log count r) : Follows c r := by
  cases h with
  | ignored hstate => rfl
  | failed hstate hzero => rfl
  | part hstate hlt => rfl
  | done hstate hfull => simp [Follows, wants, flush]

end SocketConnection

namespace RequestServer

open Transition SocketMultiEventListener SocketConnection

variable {handler : SocketRequestHandler} {configuration : SocketConfiguration}
  {s s' : RequestServer}

/-! ### The `pollfd` vector -/

/-- What a context has to be polled for. -/
def interestOf (s : RequestServer) : ContextPtr → SocketEventType
  | .server => .accept
  | .peer i => (s.pool.objects i).elim .read wants

/-- The entry a context should have. -/
def pollFd (s : RequestServer) (p : ContextPtr) : PollFd := ⟨s.fdOf p, (s.interestOf p).events⟩

/-- Each entry of the `pollfd` vector is the one its context should have. -/
def Wired (s : RequestServer) : Prop := s.listener.handle = s.listener.contexts.map s.pollFd

theorem wired_opened (fd : Int) : Wired (opened fd) := by
  simp [Wired, opened, addEvent, pollFd, interestOf, fdOf, context?]

theorem Unchanged.interestOf (h : Unchanged s s') : s'.interestOf = s.interestOf := by
  funext p
  cases p with
  | server => rfl
  | peer i =>
    obtain ⟨type, htype⟩ := h.objects i
    rw [RequestServer.interestOf, RequestServer.interestOf, htype]
    cases s.pool.objects i <;> rfl

theorem Wired.unchanged (h : Wired s) (hsame : Unchanged s s') : Wired s' := by
  have hpollFd : s'.pollFd = s.pollFd := by
    funext p
    simp only [pollFd, hsame.fdOf, hsame.interestOf]
  rw [Wired, hsame.listener, hpollFd]
  exact h

theorem Dispatched.interestOf {p q : ContextPtr} {a : Answer} (h : Inv s) (hne : q ≠ p)
    (hq : q ∈ s.listener.contexts) (hs' : Dispatched handler configuration s p a s') :
    s'.interestOf q = s.interestOf q := by
  cases q with
  | server => rfl
  | peer i => simp only [RequestServer.interestOf, hs'.object h hne hq]

theorem Dispatched.pollFd {p q : ContextPtr} {a : Answer} (h : Inv s) (hne : q ≠ p)
    (hq : q ∈ s.listener.contexts) (hs' : Dispatched handler configuration s p a s') :
    s'.pollFd q = s.pollFd q := by
  simp only [RequestServer.pollFd, hs'.fdOf h hne hq, hs'.interestOf h hne hq]

/-- Without the entries of `p`, the vectors of `s` fit any state that has kept the others. -/
theorem Wired.removed (hwired : Wired s) (h : Inv s) {p : ContextPtr} (hp : p ∈ s.listener.contexts)
    (hkept : ∀ q ∈ s.listener.contexts, q ≠ p → s'.pollFd q = s.pollFd q) :
    (s.listener.removeEvent p (s.fdOf p)).handle =
      (s.listener.removeEvent p (s.fdOf p)).contexts.map s'.pollFd := by
  have hremoved : (s.listener.removeEvent p (s.fdOf p)).handle =
      (s.listener.removeEvent p (s.fdOf p)).contexts.map s.pollFd :=
    handle_removeEvent (p := p) hwired fun q hq hfd => h.unique hq hp hfd
  rw [hremoved]
  apply List.map_congr_left
  intro q hq
  obtain ⟨hne, hq⟩ := h.nodup.mem_erase_iff.mp hq
  exact (hkept q hq hne).symm

theorem Wired.admitted (hwired : Wired s) (h : Inv s) {r : AcceptReturn} {i : Nat}
    {pool : ObjectPool SocketConnection}
    (hacquire : s.pool.acquire (SocketConnection.make (.ofAccept r) handler
      configuration.pduSize) = some (i, pool)) : Wired (s.admitted r i pool) := by
  have hkept : ∀ q ∈ s.listener.contexts, (s.admitted r i pool).pollFd q = s.pollFd q := by
    intro q hq
    cases q with
    | server => rfl
    | peer j => simp only [pollFd, fdOf, context?, interestOf, admitted_object h hacquire hq]
  have hnew : (s.admitted r i pool).pollFd (.peer i) = ⟨r.descriptor, SocketEventType.read.events⟩ := by
    simp [pollFd, fdOf, context?, interestOf, RequestServer.admitted,
      ObjectPool.acquire_objects hacquire, make, wants]
  have hold : s.listener.contexts.map (s.admitted r i pool).pollFd =
      s.listener.contexts.map s.pollFd := List.map_congr_left hkept
  show s.listener.handle ++ _ = (s.listener.contexts ++ [ContextPtr.peer i]).map _
  rw [List.map_append, hold, List.map_singleton, hnew, hwired]

theorem Wired.served (hwired : Wired s) (h : Inv s) {i id : Nat} {c : SocketConnection} {r : Served}
    (hc : s.pool.objects i = some c) (hsame : SameSocket c r.connection) (hfollows : Follows c r) :
    Wired (s.served i c id r) := by
  have hfd : (s.served i c id r).fdOf = s.fdOf := served_fdOf hc hsame
  have hother : ∀ q ∈ s.listener.contexts, q ≠ .peer i →
      (s.served i c id r).pollFd q = s.pollFd q := by
    intro q _ hne
    cases q with
    | server => rfl
    | peer j =>
      have hji : j ≠ i := by
        rintro rfl
        exact hne rfl
      simp [pollFd, hfd, interestOf, served_objects, hji]
  have hself : (s.served i c id r).interestOf (.peer i) = r.connection.wants := by
    simp [interestOf, served_objects]
  have hfdOf : s.fdOf (.peer i) = c.context.fd := fdOf_peer hc
  have hremoved := hwired.removed h (h.mem_peer hc) hother
  rw [hfdOf] at hremoved
  unfold Follows at hfollows
  cases hinterest : r.interest with
  | none =>
    have hlistener : (s.served i c id r).listener = s.listener := by
      simp only [RequestServer.served, hinterest]
    simp only [hinterest] at hfollows
    have hall : ∀ q ∈ s.listener.contexts, (s.served i c id r).pollFd q = s.pollFd q := by
      intro q hq
      by_cases hqi : q = .peer i
      · rw [hqi, pollFd, pollFd, hself, hfollows, hfd]
        simp [interestOf, hc]
      · exact hother q hq hqi
    rw [Wired, hlistener, List.map_congr_left hall]
    exact hwired
  | some type =>
    have hlistener : (s.served i c id r).listener =
        s.listener.modifyEvent (.peer i) c.context.fd type := by
      simp only [RequestServer.served, hinterest]
    simp only [hinterest] at hfollows
    have hnew : (s.served i c id r).pollFd (.peer i) = ⟨c.context.fd, type.events⟩ := by
      rw [pollFd, hself, hfollows, hfd, hfdOf]
    rw [Wired, hlistener]
    simp only [modifyEvent, addEvent, List.map_append, List.map_singleton, hremoved, hnew]

theorem Wired.dispatched (hwired : Wired s) (h : Inv s) {p : ContextPtr} {a : Answer}
    (hsound : ∀ i c, s.pool.objects i = some c →
      SocketConnection.Sound handler configuration.pduSize c)
    (hs' : Dispatched handler configuration s p a s') : Wired s' := by
  have hkept : ∀ q ∈ s.listener.contexts, q ≠ p → s'.pollFd q = s.pollFd q :=
    fun q hq hne => hs'.pollFd h hne hq
  cases hs' with
  | ignored => exact hwired
  | faulted fault => exact hwired
  | leaked hfits hloop => exact hwired
  | admitted hfits hpos hacquire => exact hwired.admitted h hacquire
  | @disconnected i c hp hc htype =>
    subst hp
    have hremoved := hwired.removed h (h.mem_peer hc) hkept
    rw [fdOf_peer hc] at hremoved
    exact hremoved
  | read hp hc htype hid hr =>
    have hfollows := (serveRead_cases (hsound _ _ hc) hr).follows
    exact hwired.served h hc (sameSocket_serveRead hr) hfollows
  | write hp hc htype hid hr =>
    have hfollows := (serveWrite_cases (hsound _ _ hc) hr).follows
    exact hwired.served h hc (sameSocket_serveWrite hr) hfollows

/-! ### The types a poll stores -/

theorem context?_setType_ne {p q : ContextPtr} (hne : p ≠ q) (type : SocketEventType) :
    (s.setType q type).context? p = s.context? p := by
  cases q with
  | server =>
    cases p with
    | server => exact absurd rfl hne
    | peer i => rfl
  | peer j =>
    cases hobject : s.pool.objects j with
    | none => simp [setType, hobject]
    | some c =>
      cases p with
      | server => simp [setType, hobject, context?]
      | peer i =>
        have hij : i ≠ j := by
          rintro rfl
          exact hne rfl
        simp [setType, hobject, context?, ObjectPool.store, hij]

theorem type_setType_self {p : ContextPtr} {type : SocketEventType} {context : SocketEventContext}
    (h : (s.setType p type).context? p = some context) : context.type = type := by
  cases p with
  | server =>
    cases h
    rfl
  | peer i =>
    cases hobject : s.pool.objects i with
    | none => simp [setType, hobject, context?] at h
    | some c =>
      simp only [setType, hobject, context?, ObjectPool.store, Function.update_self,
        Option.map_some, Option.some.injEq] at h
      rw [← h]

theorem context?_storeTypes_of_notMem {reported : List (Reported ContextPtr)} {p : ContextPtr}
    (hnot : p ∉ reported.map (·.context)) : (s.storeTypes reported).context? p = s.context? p := by
  induction reported generalizing s with
  | nil => rfl
  | cons e rest ih =>
    rw [List.map_cons, List.mem_cons, not_or] at hnot
    rw [storeTypes, ih hnot.2, context?_setType_ne hnot.1]

theorem exists_report {reported : List (Reported ContextPtr)} {p : ContextPtr}
    {context : SocketEventContext} (hmem : p ∈ reported.map (·.context))
    (h : (s.storeTypes reported).context? p = some context) :
    ∃ e ∈ reported, e.context = p ∧
      ∃ old, context.type = eventType s.listener.serverSocket e.fd e.revents old := by
  induction reported generalizing s with
  | nil => simp at hmem
  | cons e rest ih =>
    rw [storeTypes] at h
    by_cases hrest : p ∈ rest.map (·.context)
    · obtain ⟨e', he', hcontext, old, htype⟩ := ih hrest h
      rw [(unchanged_setType s _ _).listener] at htype
      exact ⟨e', List.mem_cons_of_mem _ he', hcontext, old, htype⟩
    · rw [context?_storeTypes_of_notMem hrest] at h
      have hp : p = e.context := by
        rw [List.map_cons, List.mem_cons] at hmem
        exact hmem.resolve_right hrest
      rw [hp] at h
      exact ⟨e, List.mem_cons_self, hp.symm, _, type_setType_self h⟩

/-- A context that reads or writes next belongs to a connection that wants to. -/
def Suited (s : RequestServer) (p : ContextPtr) : Prop :=
  ∀ context, s.context? p = some context →
    (context.type = .read → s.interestOf p = .read) ∧
    (context.type = .write → s.interestOf p = .write)

theorem interestOf_peer (s : RequestServer) (i : Nat) :
    s.interestOf (.peer i) = .read ∨ s.interestOf (.peer i) = .write := by
  simp only [interestOf]
  cases s.pool.objects i with
  | none => exact .inl rfl
  | some c =>
    simp only [Option.elim_some, wants]
    split
    · exact .inr rfl
    · exact .inl rfl

theorem Wired.allowed (hwired : Wired s) (h : Inv s) {revents : List Revents}
    (hconsistent : (MultiPollReturn.ready revents).consistent s.listener.handle = true)
    {reported : List (Reported ContextPtr)}
    (hcollect : collect s.fdOf s.listener.contexts (s.listener.handle.zip revents) = some reported)
    {e : Reported ContextPtr} (he : e ∈ reported) :
    e.revents.isZero = false ∧ s.fdOf e.context = e.fd ∧
      e.revents.allowedBy (s.interestOf e.context).events = true := by
  obtain ⟨hregistered, hfd⟩ := (collect_reports hcollect).2 e he
  obtain ⟨entry, hentry, hzero, hentryFd, hrevents⟩ := exists_reporting hcollect he
  have hallowed : ∀ entry ∈ s.listener.handle.zip revents, entry.2.allowedBy entry.1.events = true := by
    simp only [MultiPollReturn.consistent, Bool.and_eq_true, List.all_eq_true] at hconsistent
    exact hconsistent.2
  have hmem := (List.of_mem_zip hentry).1
  rw [hwired] at hmem
  obtain ⟨q, hq, hqentry⟩ := List.mem_map.mp hmem
  have hqe : q = e.context := by
    apply h.unique hq hregistered
    rw [hfd, ← hentryFd, ← hqentry]
    rfl
  refine ⟨hrevents ▸ hzero, hfd, ?_⟩
  have hflags := hallowed entry hentry
  rw [hrevents, ← hqentry, hqe] at hflags
  exact hflags

theorem Wired.suited_poll (hwired : Wired s) (h : Inv s) {revents : List Revents}
    (hconsistent : (MultiPollReturn.ready revents).consistent s.listener.handle = true)
    {batch : List ContextPtr} (hbatch : (s.poll (.ready revents)).loop = .running batch) :
    ∀ p ∈ batch, Suited (s.poll (.ready revents)) p := by
  obtain ⟨reported, hcollect, hpoll⟩ := h.poll_ready revents
  have hinterest : (s.poll (.ready revents)).interestOf = s.interestOf :=
    (unchanged_poll s _).interestOf
  intro p hp context hcontext
  rw [hinterest]
  rw [hpoll] at hbatch hcontext
  cases hbatch
  obtain ⟨e, he, rfl, old, htype⟩ := exists_report hp hcontext
  obtain ⟨hzero, hfd, hallowed⟩ := hwired.allowed h hconsistent hcollect he
  simp only [Revents.allowedBy, Bool.and_eq_true, Bool.or_eq_true, Bool.not_eq_true'] at hallowed
  refine ⟨fun hread => ?_, fun hwrite => ?_⟩
  · obtain ⟨hin, hserver⟩ := eventType_eq_read hzero (htype ▸ hread)
    cases hcase : e.context with
    | server =>
      rw [hcase] at hfd
      exact absurd (h.serverSocket.trans hfd) hserver
    | peer i =>
      rcases s.interestOf_peer i with hwants | hwants
      · exact hwants
      · rw [hcase, hwants] at hallowed
        simp [SocketEventType.events, hin] at hallowed
  · have hout := eventType_eq_write hzero (htype ▸ hwrite)
    cases hcase : e.context with
    | server =>
      rw [hcase] at hallowed
      simp [interestOf, SocketEventType.events, hout] at hallowed
    | peer i =>
      rcases s.interestOf_peer i with hwants | hwants
      · rw [hcase, hwants] at hallowed
        simp [SocketEventType.events, hout] at hallowed
      · exact hwants

/-! ### Runs -/

structure Attentive (s : RequestServer) : Prop where
  wired : Wired s
  suited : ∀ batch, s.loop = .running batch → ∀ p ∈ batch, Suited s p

theorem Suited.dispatched {p q : ContextPtr} {a : Answer} (hsuited : Suited s q) (h : Inv s)
    (hne : q ≠ p) (hq : q ∈ s.listener.contexts)
    (hs' : Dispatched handler configuration s p a s') : Suited s' q := by
  intro context hcontext
  rw [hs'.context? h hne hq] at hcontext
  rw [hs'.interestOf h hne hq]
  exact hsuited context hcontext

theorem Attentive.dispatch (h : Attentive s) (hsteady : Steady s)
    (hsound : ∀ i c, s.pool.objects i = some c →
      SocketConnection.Sound handler configuration.pduSize c)
    {p : ContextPtr} {rest : List ContextPtr} {a : Answer} (hloop : s.loop = .running (p :: rest))
    (hdispatch : { s with loop := .running rest }.dispatch handler configuration p a = some s') :
    Attentive s' := by
  have hpopped : Inv { s with loop := .running rest } := hsteady.inv.unchanged (unchanged_loop s _)
  have hwired : Wired { s with loop := .running rest } := h.wired
  have hdispatched := dispatch_cases hdispatch
  have hpending := hsteady.pending _ hloop
  refine ⟨hwired.dispatched hpopped hsound hdispatched, fun batch hbatch q hq => ?_⟩
  have hsame : batch = rest := by
    rcases hdispatched.loop with hloop' | ⟨fault, hfault⟩
    · rw [hbatch] at hloop'
      cases hloop'
      rfl
    · rw [hbatch] at hfault
      cases hfault
  rw [hsame] at hq
  have hsuited : Suited { s with loop := .running rest } q :=
    h.suited _ hloop q (List.mem_cons_of_mem _ hq)
  have hne : q ≠ p := by
    rintro rfl
    exact (List.nodup_cons.mp hpending.nodup).1 hq
  exact hsuited.dispatched hpopped hne (hpending.registered q (List.mem_cons_of_mem _ hq))
    hdispatched

theorem Attentive.step (h : Attentive s) (hsteady : Steady s)
    (hsound : ∀ i c, s.pool.objects i = some c →
      SocketConnection.Sound handler configuration.pduSize c) {label : Label}
    (hstep : RequestServer.step handler configuration s label = some s') : Attentive s' := by
  rcases step_cases hstep with ⟨rfl, rfl⟩ | ⟨ret, rfl, hloop, hconsistent, rfl⟩ | ⟨rfl, rfl⟩ |
    ⟨a, p, rest, rfl, hloop, hdispatch⟩
  · exact ⟨h.wired, h.suited⟩
  · refine ⟨h.wired.unchanged (unchanged_poll s ret), fun batch hbatch => ?_⟩
    cases ret with
    | timeout => exact h.suited batch hbatch
    | error => cases hbatch
    | ready revents => exact h.wired.suited_poll hsteady.inv hconsistent hbatch
  · exact ⟨h.wired, fun batch hbatch => by cases hbatch⟩
  · exact h.dispatch hsteady hsound hloop hdispatch

theorem counted_connectionInvariant (hheader : 1 ≤ handler.getHeaderSize) :
    ConnectionInvariant handler configuration fun c _ =>
      SocketConnection.Sound handler configuration.pduSize c ∧
        SocketConnection.Counted handler c where
  make socket := ⟨sound_make socket, counted_make hheader socket⟩
  retype := by
    rintro c log type ⟨hsound, hc⟩
    exact ⟨sound_retype hsound, hc.header, hc.payload⟩
  read := by
    rintro recv response c log r ⟨hsound, hc⟩ hr
    have hserved := serveRead_cases hsound hr
    exact ⟨hserved.sound hsound, hserved.counted hheader hsound hc⟩
  write := by
    rintro send c log r ⟨hsound, hc⟩ hr
    have hserved := serveWrite_cases hsound hr
    exact ⟨hserved.sound hsound, hserved.counted hheader hc⟩

/-- The connection in slot `i` is polled for exactly what it does next, and its counters fit
    its state. -/
structure InStep (handler : SocketRequestHandler) (s : RequestServer) (c : SocketConnection) :
    Prop where
  polled : ∃ entry ∈ s.listener.handle, entry.fd = c.context.fd
  reading : c.state = .readingHeader ∨ c.state = .readingPayload →
    ∀ entry ∈ s.listener.handle, entry.fd = c.context.fd → entry.events = { pollin := true }
  writing : c.state = .writingResponse →
    ∀ entry ∈ s.listener.handle, entry.fd = c.context.fd → entry.events = { pollout := true }
  notFinished : c.state ≠ .finishProcess
  header : c.totalInputHeaderReadSize = handler.getHeaderSize ↔ c.state ≠ .readingHeader
  payload : c.state = .readingPayload → c.totalInputPayloadReadSize < c.payloadSize
  response : c.totalOutputWriteSize ≤ c.responseSize

/-- The next dispatch does not fall into a branch that ignores it: a READ event is of a
    connection that reads, a WRITE event of one that writes. -/
def Heeded (s : RequestServer) : Prop :=
  ∀ p batch context, s.loop = .running (p :: batch) → s.context? p = some context →
    (context.type = .read → ∃ i c, p = .peer i ∧ s.pool.objects i = some c ∧
      (c.state = .readingHeader ∨ c.state = .readingPayload)) ∧
    (context.type = .write → ∃ i c, p = .peer i ∧ s.pool.objects i = some c ∧
      c.state = .writingResponse)

theorem Wired.inStep (hwired : Wired s) (h : Inv s) {i : Nat} {c : SocketConnection}
    (hc : s.pool.objects i = some c)
    (hsound : SocketConnection.Sound handler configuration.pduSize c) (hcounted : Counted handler c) :
    InStep handler s c := by
  have hentries : ∀ entry ∈ s.listener.handle, entry.fd = c.context.fd →
      entry.events = c.wants.events := by
    intro entry hentry hfd
    rw [hwired] at hentry
    obtain ⟨q, hq, rfl⟩ := List.mem_map.mp hentry
    have hqi : q = .peer i := h.unique hq (h.mem_peer hc) (hfd.trans (fdOf_peer hc).symm)
    rw [hqi, pollFd, interestOf, hc, Option.elim_some]
  refine ⟨?_, ?_, ?_, hsound.notFinished, hcounted.header, hcounted.payload, hsound.responseCount⟩
  · refine ⟨s.pollFd (.peer i), ?_, fdOf_peer hc⟩
    rw [hwired]
    exact List.mem_map_of_mem (h.mem_peer hc)
  · rintro (hstate | hstate) entry hentry hfd
    · rw [hentries entry hentry hfd]
      simp [wants, hstate, SocketEventType.events]
    · rw [hentries entry hentry hfd]
      simp [wants, hstate, SocketEventType.events]
  · intro hstate entry hentry hfd
    rw [hentries entry hentry hfd]
    simp [wants, hstate, SocketEventType.events]

theorem Attentive.heeded (h : Attentive s)
    (hsound : ∀ i c, s.pool.objects i = some c →
      SocketConnection.Sound handler configuration.pduSize c) : Heeded s := by
  intro p batch context hloop hcontext
  obtain ⟨hread, hwrite⟩ := h.suited _ hloop p List.mem_cons_self context hcontext
  cases p with
  | server => exact ⟨fun htype => absurd (hread htype) (by simp [interestOf]),
      fun htype => absurd (hwrite htype) (by simp [interestOf])⟩
  | peer i =>
    obtain ⟨c, hc, _⟩ := Option.map_eq_some_iff.mp hcontext
    have hnotFinished := (hsound i c hc).notFinished
    simp only [interestOf, hc, Option.elim_some, wants] at hread hwrite
    refine ⟨fun htype => ⟨i, c, rfl, hc, ?_⟩, fun htype => ⟨i, c, rfl, hc, ?_⟩⟩
    · have hwants := hread htype
      cases hstate : c.state with
      | readingHeader => exact .inl rfl
      | readingPayload => exact .inr rfl
      | writingResponse => simp [hstate] at hwants
      | finishProcess => exact absurd hstate hnotFinished
    · by_contra hstate
      simp [hstate] at hwrite
      exact hwrite htype

/-- **No connection is stuck.**  In every state of every run each connection is polled for
    exactly what its state asks for, its counters fit its state, and no event that is
    dispatched is ignored. -/
theorem reachable_inStep (hheader : 1 ≤ handler.getHeaderSize) {fd : Int}
    (h : Reachable (step handler configuration) (opened fd) s) :
    (∀ i c, s.pool.objects i = some c → InStep handler s c) ∧ Heeded s := by
  have hQ : ConnectionInvariant handler configuration fun c _ =>
      SocketConnection.Sound handler configuration.pduSize c ∧ Counted handler c :=
    counted_connectionInvariant hheader
  have heach : ∀ {s : RequestServer}, Reachable (step handler configuration) (opened fd) s →
      ∀ i c, s.pool.objects i = some c →
        SocketConnection.Sound handler configuration.pduSize c ∧ Counted handler c := by
    intro s h i c hc
    obtain ⟨id, hid⟩ := (reachable_steady h).inv.connected i c hc
    exact (reachable_eachConnection hQ h).live i c id hc hid
  have hattentive : Attentive s := by
    refine (h.invariant (I := fun s => Reachable (step handler configuration) (opened fd) s ∧
      Attentive s) ⟨.refl _, wired_opened fd, fun batch hbatch => ?_⟩ ?_).2
    · cases hbatch
      simp
    · rintro s label s' ⟨hreach, hs⟩ hstep
      have hsound := fun i c hc => (heach hreach i c hc).1
      exact ⟨hreach.tail hstep, hs.step (reachable_steady hreach) hsound hstep⟩
  refine ⟨fun i c hc => ?_, hattentive.heeded fun i c hc => (heach h i c hc).1⟩
  obtain ⟨hsound, hcounted⟩ := heach h i c hc
  exact hattentive.wired.inStep (reachable_steady h).inv hc hsound hcounted

theorem halfSent_inStep :
    ∃ s c, Reachable (step shortHandler shortPdu) (opened 3) s ∧
      s.pool.objects 0 = some c ∧ c.state = .writingResponse ∧
      s.listener.handle = [⟨3, { pollin := true }⟩, ⟨4, { pollout := true }⟩] ∧
      InStep shortHandler s c ∧ Heeded s := by
  have h : Reachable (step shortHandler shortPdu) (opened 3) _ :=
    ⟨reusedSlot.take 6 ++ [.poll (.ready [{}, { pollout := true }]), .dispatch { send := .sent 1 }],
      rfl⟩
  obtain ⟨hinStep, hheeded⟩ := reachable_inStep (by decide) h
  exact ⟨_, _, h, rfl, rfl, rfl, hinStep 0 _ rfl, hheeded⟩

end RequestServer

end SecuritySocket
