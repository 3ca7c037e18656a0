import SecuritySocket.ConnectionBuffers
import SecuritySocket.RequestServerInvariant

/-!
# End of stream on a request connection

`ServerActiveSocket::read` reports a `recv` of zero bytes as `SOCKET_CLOSED`, with a byte
count of zero.  `readHeader` and `readPayload` look at the byte count only, so the event
leaves the connection as it was, and it is for the listener to report a hangup.  The
theorem here says exactly that: after a READ event that met the end of its stream, the next
iteration disconnects the connection if and only if its poll reports POLLERR, POLLHUP or
POLLNVAL for the descriptor.
-/

namespace SecuritySocket.RequestServer

open Transition SocketMultiEventListener SocketConnection

/-- Connection `id` is gone: its handler was told once, its descriptor is closed, and
    neither the listener nor the pool holds anything of it. -/
structure Disconnected (s : RequestServer) (id : Nat) : Prop where
  told : s.disconnections id = 1
  closed : ∀ fd, s.kernel.connectionAt fd ≠ some id
  unregistered : ∀ fd ∈ s.listener.fds,
    ∃ endpoint, s.kernel.fdTable fd = some endpoint ∧ endpoint ≠ .connection id
  released : ∀ i c, s.pool.objects i = some c →
    ∃ id', s.kernel.connectionAt c.socket.socket = some id' ∧ id' ≠ id

/-- Polling in `s`, `ret` reports POLLERR, POLLHUP or POLLNVAL for `fd`. -/
def HangupAt (s : RequestServer) (ret : MultiPollReturn) (fd : Int) : Prop :=
  ∃ revents, ret = .ready revents ∧
    ∃ entry ∈ s.listener.handle.zip revents, entry.1.fd = fd ∧ entry.2.hangup

/-- The labels of the steps within one iteration of the loop. -/
def Label.Within : Label → Prop
  | .dispatch _ | .stop => True
  | .poll _ | .leave => False

/-- In the reachable state `start`, the READ event of a connection that is reading meets the
    end of its stream.  The rest of its batch is dispatched up to the loop top `top`; there
    poll returns `ret`, and its batch is dispatched up to the loop top `next`. -/
structure EndOfStream (handler : SocketRequestHandler) (configuration : SocketConfiguration)
    (fd : Int) where
  start : RequestServer
  slot : Nat
  connection : SocketConnection
  id : Nat
  rest : List ContextPtr
  answer : Answer
  before : List Label
  top : RequestServer
  ret : MultiPollReturn
  after : List Label
  next : RequestServer
  reachable : Reachable (step handler configuration) (opened fd) start
  dispatching : start.loop = .running (.peer slot :: rest)
  object : start.pool.objects slot = some connection
  type : connection.context.type = .read
  reading : connection.state = .readingHeader ∨ connection.state = .readingPayload
  peer : start.kernel.connectionAt connection.socket.socket = some id
  closed : answer.recv = .closed
  finish : exec (step handler configuration) start (.dispatch answer :: before) = some top
  beforeWithin : ∀ label ∈ before, label.Within
  atTop : top.loop = .running []
  iterate : exec (step handler configuration) top (.poll ret :: after) = some next
  afterWithin : ∀ label ∈ after, label.Within
  atNext : next.loop = .running []

variable {handler : SocketRequestHandler} {configuration : SocketConfiguration}
  {s s' : RequestServer} {i id : Nat} {fd : Int} {type : SocketEventType}

/-! ### A connection in its slot -/

def Serving (s : RequestServer) (i id : Nat) (fd : Int) (type : SocketEventType) : Prop :=
  ∃ c, s.pool.objects i = some c ∧ c.socket.socket = fd ∧ c.context.type = type ∧
    s.kernel.connectionAt fd = some id

structure Gone (s : RequestServer) (id : Nat) : Prop where
  told : s.disconnections id = 1
  closed : ∀ fd, s.kernel.connectionAt fd ≠ some id
  lt_next : id < s.kernel.nextConnection

theorem Dispatched.serving {p : ContextPtr} {a : Answer} (h : Inv s)
    (hs' : Dispatched handler configuration s p a s') (hserving : Serving s i id fd type)
    (hkeep : p ≠ .peer i ∨ type ≠ .disconnected) : Serving s' i id fd type := by
  obtain ⟨c, hc, rfl, htype, hid⟩ := hserving
  cases hs' with
  | ignored => exact ⟨c, hc, rfl, htype, hid⟩
  | faulted fault => exact ⟨c, hc, rfl, htype, hid⟩
  | leaked hfits hloop => exact ⟨c, hc, rfl, htype, Kernel.connectionAt_accept_of_some hfits hid⟩
  | admitted hfits hpos hacquire =>
    refine ⟨c, ?_, rfl, htype, Kernel.connectionAt_accept_of_some hfits hid⟩
    rw [admitted_object h hacquire (h.mem_peer hc)]
    exact hc
  | @disconnected j d hp hd htype' =>
    have hne : i ≠ j := by
      rintro rfl
      rw [hc, Option.some.injEq] at hd
      subst hd
      exact hkeep.elim (fun hne => hne hp) fun hne => hne (htype ▸ htype')
    refine ⟨c, ?_, rfl, htype, Kernel.connectionAt_close.mpr ⟨?_, hid⟩⟩
    · exact (disconnect_objects_eq_some h hd).mpr ⟨hne, hc⟩
    · exact fun hfd => hne (h.distinct i j c d hc hd hfd)
  | @read j id' d r hp hd htype' hid' hr =>
    obtain ⟨c', hc', hcontext, hsocket⟩ := served_object id' hd hc
      (SocketConnection.sameSocket_serveRead hr)
    exact ⟨c', hc', by rw [hsocket], by rw [hcontext, htype], hid⟩
  | @write j id' d r hp hd htype' hid' hr =>
    obtain ⟨c', hc', hcontext, hsocket⟩ := served_object id' hd hc
      (SocketConnection.sameSocket_serveWrite hr)
    exact ⟨c', hc', by rw [hsocket], by rw [hcontext, htype], hid⟩

theorem Dispatched.gone {p : ContextPtr} {a : Answer} (h : Inv s)
    (hs' : Dispatched handler configuration s p a s') (hgone : Gone s id) : Gone s' id := by
  have haccept : ∀ r fd, (s.kernel.accept r).connectionAt fd ≠ some id := by
    intro r fd hfd
    rcases Kernel.connectionAt_accept hfd with hold | ⟨_, _, hnext⟩
    · exact hgone.closed fd hold
    · exact absurd hgone.lt_next (by omega)
  cases hs' with
  | ignored => exact hgone
  | faulted fault => exact ⟨hgone.told, hgone.closed, hgone.lt_next⟩
  | leaked hfits hloop =>
    exact ⟨hgone.told, haccept _,
      Nat.lt_of_lt_of_le hgone.lt_next (Kernel.nextConnection_le_accept _ _)⟩
  | admitted hfits hpos hacquire =>
    refine ⟨?_, haccept _, Nat.lt_of_lt_of_le hgone.lt_next (Kernel.nextConnection_le_accept _ _)⟩
    rw [disconnections, RequestServer.admitted, disconnections_append_connected]
    exact hgone.told
  | @disconnected j d hp hd htype =>
    obtain ⟨id', hid', _⟩ := h.connection hd
    have hne : id' ≠ id := by
      rintro rfl
      exact hgone.closed _ hid'
    refine ⟨?_, fun fd hfd => hgone.closed fd (Kernel.connectionAt_close.mp hfd).2, hgone.lt_next⟩
    rw [disconnections_disconnect hid', hgone.told, if_neg hne]
  | read hp hd htype hid hr => exact ⟨hgone.told, hgone.closed, hgone.lt_next⟩
  | write hp hd htype hid hr => exact ⟨hgone.told, hgone.closed, hgone.lt_next⟩

theorem dispatch_disconnected {c : SocketConnection} (hc : s.pool.objects i = some c)
    (htype : c.context.type = .disconnected) (a : Answer) :
    s.dispatch handler configuration (.peer i) a = some (s.disconnect i c) := by
  simp [dispatch, context?, hc, htype]

theorem gone_disconnect (h : Inv s) {c : SocketConnection}
    (hid : s.kernel.connectionAt c.socket.socket = some id) : Gone (s.disconnect i c) id where
  told := by rw [disconnections_disconnect hid, h.notYet _ id hid, if_pos rfl]
  closed fd hfd := by
    obtain ⟨hne, hfd⟩ := Kernel.connectionAt_close.mp hfd
    exact hne (h.kernel.inj fd _ id (Kernel.connectionAt_eq_some.mp hfd)
      (Kernel.connectionAt_eq_some.mp hid))
  lt_next := h.lt_next hid

theorem Gone.disconnected (hgone : Gone s id) (h : Inv s) : Disconnected s id where
  told := hgone.told
  closed := hgone.closed
  unregistered fd hfd := by
    rw [h.paired] at hfd
    obtain ⟨p, hp, rfl⟩ := List.mem_map.mp hfd
    rcases h.endpoint hp with ⟨_, hopen⟩ | ⟨_, _, id', _, _, hopen⟩
    · exact ⟨_, hopen, by simp⟩
    · refine ⟨_, hopen, fun heq => ?_⟩
      cases heq
      exact hgone.closed _ (Kernel.connectionAt_eq_some.mpr hopen)
  released i c hc := by
    obtain ⟨id', hid', _⟩ := h.connection hc
    exact ⟨id', hid', by rintro rfl; exact hgone.closed _ hid'⟩

theorem Serving.not_disconnected (h : Serving s i id fd type) : ¬ Disconnected s id := by
  obtain ⟨c, _, _, _, hid⟩ := h
  exact fun hd => hd.closed fd hid

/-! ### What a poll stores -/

theorem Serving.setType_self (h : Serving s i id fd type) (type' : SocketEventType) :
    Serving (s.setType (.peer i) type') i id fd type' := by
  obtain ⟨c, hc, hfd, _, hid⟩ := h
  simp only [setType, hc]
  exact ⟨retype type' c, by simp [ObjectPool.store, retype], hfd, rfl, hid⟩

theorem Serving.setType_ne (h : Serving s i id fd type) {p : ContextPtr} (hne : p ≠ .peer i)
    (type' : SocketEventType) : Serving (s.setType p type') i id fd type := by
  obtain ⟨c, hc, hfd, htype, hid⟩ := h
  cases p with
  | server => exact ⟨c, hc, hfd, htype, hid⟩
  | peer j =>
    have hij : i ≠ j := by rintro rfl; exact hne rfl
    cases hd : s.pool.objects j with
    | none => simp only [setType, hd]; exact ⟨c, hc, hfd, htype, hid⟩
    | some d =>
      simp only [setType, hd]
      exact ⟨c, by simpa [ObjectPool.store, hij] using hc, hfd, htype, hid⟩

/-- Storing the types of a batch in which slot `i` only has entries with, or only entries
    without a hangup. -/
theorem Serving.storeTypes (hangup : Bool) {reported : List (Reported ContextPtr)}
    (hreports : ∀ e ∈ reported, e.revents.isZero = false)
    (hflags : ∀ e ∈ reported, e.context = .peer i → e.revents.hangup = hangup)
    (h : Serving s i id fd type) :
    ∃ type', Serving (s.storeTypes reported) i id fd type' ∧
      (.peer i ∈ reported.map (·.context) → (type' = .disconnected ↔ hangup = true)) ∧
      (.peer i ∉ reported.map (·.context) → type' = type) := by
  induction reported generalizing s type with
  | nil => exact ⟨type, h, by simp, by simp⟩
  | cons e rest ih =>
    have hrest := fun f hf => hreports f (List.mem_cons_of_mem _ hf)
    have hrest' := fun f hf => hflags f (List.mem_cons_of_mem _ hf)
    rw [RequestServer.storeTypes]
    by_cases he : e.context = .peer i
    · have hzero := hreports e (by simp)
      have hflag := hflags e (by simp) he
      obtain ⟨type', hserving, hmem, hnot⟩ := ih hrest hrest' (he ▸ h.setType_self _)
      refine ⟨type', hserving, fun _ => ?_, fun hnot' => absurd (by simp [he]) hnot'⟩
      by_cases hin : .peer i ∈ rest.map (·.context)
      · exact hmem hin
      · rw [hnot hin, eventType_eq_disconnected hzero, hflag]
    · obtain ⟨type', hserving, hmem, hnot⟩ := ih hrest hrest' (h.setType_ne he _)
      refine ⟨type', hserving, fun hin => hmem ?_, fun hnot' => hnot fun hin => hnot' ?_⟩
      · simpa [Ne.symm he] using hin
      · rw [List.map_cons]
        exact List.mem_cons_of_mem _ hin

theorem Serving.fdOf (h : Inv s) (hserving : Serving s i id fd type) : s.fdOf (.peer i) = fd := by
  obtain ⟨c, hc, rfl, _, _⟩ := hserving
  rw [fdOf_peer hc, h.contextFd i c hc]

theorem Serving.poll_hangup (h : Inv s) (hserving : Serving s i id fd type)
    {ret : MultiPollReturn} (hhangup : HangupAt s ret fd) :
    Serving (s.poll ret) i id fd .disconnected ∧
      ∀ batch, (s.poll ret).loop = .running batch → .peer i ∈ batch := by
  obtain ⟨revents, rfl, entry, hentry, hentryFd, hflag⟩ := hhangup
  obtain ⟨reported, hcollect, hpoll⟩ := h.poll_ready revents
  obtain ⟨-, hcontexts⟩ := collect_reports hcollect
  have hzero : entry.2.isZero = false := by simp [Revents.isZero, hflag]
  obtain ⟨e, he, hefd, -⟩ := exists_collected hcollect hentry hzero
  have hcontext : e.context = .peer i := by
    obtain ⟨c, hc, hsocket, htype, hid⟩ := hserving
    refine h.unique (hcontexts e he).1 (h.mem_peer hc) ?_
    rw [(hcontexts e he).2, hefd, hentryFd, fdOf_peer hc, h.contextFd i c hc, hsocket]
  obtain ⟨type', hserving', hiff, _⟩ := hserving.storeTypes true
    (fun e he => by
      obtain ⟨polled, _, hpolled, _, hrevents⟩ := exists_reporting hcollect he
      exact hrevents ▸ hpolled)
    (fun e he hpeer => by
      obtain ⟨polled, hpolled, _, hpolledFd, hrevents⟩ := exists_reporting hcollect he
      have hsame : polled = entry := by
        refine polled_unique h.nodup_fds hpolled hentry ?_
        rw [hpolledFd, ← (hcontexts e he).2, hpeer, hserving.fdOf h, hentryFd]
      rw [← hrevents, hsame, hflag])
  have hin : .peer i ∈ reported.map (·.context) := List.mem_map.mpr ⟨e, he, hcontext⟩
  rw [hpoll]
  refine ⟨(hiff hin).mpr rfl ▸ hserving', fun batch hbatch => ?_⟩
  cases hbatch
  exact hin

theorem Serving.poll_quiet (h : Inv s) (hserving : Serving s i id fd type)
    (htype : type ≠ .disconnected) {ret : MultiPollReturn} (hquiet : ¬ HangupAt s ret fd) :
    ∃ type', type' ≠ .disconnected ∧ Serving (s.poll ret) i id fd type' := by
  cases ret with
  | timeout => exact ⟨type, htype, hserving⟩
  | error => exact ⟨type, htype, hserving⟩
  | ready revents =>
    obtain ⟨reported, hcollect, hpoll⟩ := h.poll_ready revents
    obtain ⟨-, hcontexts⟩ := collect_reports hcollect
    obtain ⟨type', hserving', hiff, hnot⟩ := hserving.storeTypes false
      (fun e he => by
        obtain ⟨polled, _, hpolled, _, hrevents⟩ := exists_reporting hcollect he
        exact hrevents ▸ hpolled)
      (fun e he hpeer => by
        obtain ⟨polled, hpolled, _, hpolledFd, hrevents⟩ := exists_reporting hcollect he
        refine Bool.eq_false_iff.mpr fun hflag => hquiet ⟨revents, rfl, polled, hpolled, ?_, ?_⟩
        · rw [hpolledFd, ← (hcontexts e he).2, hpeer, hserving.fdOf h]
        · rw [hrevents, hflag])
    rw [hpoll]
    refine ⟨type', ?_, hserving'⟩
    by_cases hin : .peer i ∈ reported.map (·.context)
    · intro heq
      exact absurd ((hiff hin).mp heq) (by simp)
    · rw [hnot hin]
      exact htype

/-! ### Runs within an iteration -/

theorem Serving.exec_within {labels : List Label} (h : Steady s)
    (hserving : Serving s i id fd type) (htype : type ≠ .disconnected)
    (hexec : exec (step handler configuration) s labels = some s')
    (hwithin : ∀ label ∈ labels, label.Within) : Serving s' i id fd type := by
  refine (exec_invariant_of_meets (I := fun s => Steady s ∧ Serving s i id fd type) ?_ hexec
    (meets_of_forall_label hwithin) ⟨h, hserving⟩).2
  rintro s label s' ⟨hsteady, hserving⟩ hlabel hstep
  refine ⟨hsteady.step hstep, ?_⟩
  rcases step_cases hstep with ⟨rfl, rfl⟩ | ⟨ret, rfl, _⟩ | ⟨rfl, _⟩ |
    ⟨a, p, rest, rfl, _, hdispatch⟩
  · exact hserving
  · exact hlabel.elim
  · exact hlabel.elim
  · have hpopped : Serving { s with loop := .running rest } i id fd type := hserving
    exact (dispatch_cases hdispatch).serving (hsteady.inv.unchanged (unchanged_loop s _))
      hpopped (.inr htype)

theorem Serving.exec_gone {labels : List Label} (h : Steady s)
    (hserving : Serving s i id fd .disconnected)
    (hin : ∀ batch, s.loop = .running batch → .peer i ∈ batch)
    (hexec : exec (step handler configuration) s labels = some s')
    (hwithin : ∀ label ∈ labels, label.Within) (htop : s'.loop = .running []) : Gone s' id := by
  have hfinal := (exec_invariant_of_meets
    (I := fun s => Steady s ∧ ((Serving s i id fd .disconnected ∧
      ∀ batch, s.loop = .running batch → .peer i ∈ batch) ∨ Gone s id)) ?_ hexec
    (meets_of_forall_label hwithin) ⟨h, .inl ⟨hserving, hin⟩⟩).2
  · rcases hfinal with ⟨_, hin⟩ | hgone
    · simpa using hin [] htop
    · exact hgone
  rintro s label s' ⟨hsteady, hphase⟩ hlabel hstep
  refine ⟨hsteady.step hstep, ?_⟩
  rcases step_cases hstep with ⟨rfl, rfl⟩ | ⟨ret, rfl, _⟩ | ⟨rfl, _⟩ |
    ⟨a, p, rest, rfl, hloop, hdispatch⟩
  · exact hphase.imp (fun h => h) fun hgone => ⟨hgone.told, hgone.closed, hgone.lt_next⟩
  · exact hlabel.elim
  · exact hlabel.elim
  have hinv : Inv { s with loop := .running rest } := hsteady.inv.unchanged (unchanged_loop s _)
  have hdispatched := dispatch_cases hdispatch
  rcases hphase with ⟨hserving, hin⟩ | hgone
  · by_cases hp : p = .peer i
    · obtain ⟨c, hc, hsocket, htype, hid⟩ := hserving
      rw [hp, dispatch_disconnected (s := { s with loop := .running rest }) hc htype] at hdispatch
      cases hdispatch
      exact .inr (gone_disconnect hinv (hsocket ▸ hid))
    · refine .inl ⟨hdispatched.serving hinv hserving (.inl hp), fun batch hbatch => ?_⟩
      have hrest : .peer i ∈ rest :=
        (List.mem_cons.mp (hin _ hloop)).resolve_left fun heq => hp heq.symm
      rcases hdispatched.loop with hsame | ⟨fault, hfault⟩
      · rw [hsame] at hbatch
        cases hbatch
        exact hrest
      · rw [hfault] at hbatch
        cases hbatch
  · exact .inr (hdispatched.gone hinv ⟨hgone.told, hgone.closed, hgone.lt_next⟩)

/-- **End of stream.**  After a READ event met the end of its stream, the next iteration
    disconnects the connection if and only if its poll reports a hangup for it. -/
theorem disconnected_iff_hangup {listening : Int}
    (e : EndOfStream handler configuration listening) :
    Disconnected e.next e.id ↔ HangupAt e.top e.ret e.connection.socket.socket := by
  have hstart : Steady e.start := reachable_steady e.reachable
  have hserving : Serving e.start e.slot e.id e.connection.socket.socket .read :=
    ⟨e.connection, e.object, rfl, e.type, e.peer⟩
  have htop : Steady e.top := reachable_steady (e.reachable.exec e.finish)
  have hnext : Steady e.next :=
    reachable_steady ((e.reachable.exec e.finish).exec e.iterate)
  have hservingTop : Serving e.top e.slot e.id e.connection.socket.socket .read := by
    refine hserving.exec_within hstart (by simp) e.finish fun label hlabel => ?_
    rcases List.mem_cons.mp hlabel with rfl | hlabel
    · trivial
    · exact e.beforeWithin label hlabel
  obtain ⟨polled, hpolled, hrest⟩ := exec_cons_eq_some.mp e.iterate
  have hpolled' : polled = e.top.poll e.ret := by
    rcases step_cases hpolled with ⟨hlabel, _⟩ | ⟨ret, hlabel, _, _, heq⟩ | ⟨hlabel, _⟩ |
      ⟨_, _, _, hlabel, _⟩
    · cases hlabel
    · cases hlabel; exact heq
    · cases hlabel
    · cases hlabel
  subst hpolled'
  constructor
  · intro hdisconnected
    by_contra hquiet
    obtain ⟨type', htype', hserving'⟩ := hservingTop.poll_quiet htop.inv (by simp) hquiet
    exact (hserving'.exec_within (htop.poll _) htype' hrest e.afterWithin).not_disconnected
      hdisconnected
  · intro hhangup
    obtain ⟨hserving', hin⟩ := hservingTop.poll_hangup htop.inv hhangup
    exact (hserving'.exec_gone (htop.poll _) hin hrest e.afterWithin e.atNext).disconnected
      hnext.inv

def byteRun (labels : List Label) : RequestServer :=
  (exec (step byteHandler { pduSize := 255, pduSize_lt := by decide }) (opened 3) labels).getD
    (opened 3)

/-- A client has connected on descriptor 4 and closes without sending anything. -/
def finArrived : List Label :=
  [.poll (.ready [{ pollin := true }]),
   .dispatch { accept := { descriptor := 4 } },
   .poll (.ready [{}, { pollin := true }])]

def readZero : Label := .dispatch { recv := .closed }

def finThen (ret : MultiPollReturn) (after : List Label) (next : RequestServer)
    (iterate : exec (step byteHandler { pduSize := 255, pduSize_lt := by decide })
      (byteRun (finArrived ++ [readZero])) (.poll ret :: after) = some next)
    (afterWithin : ∀ label ∈ after, label.Within) (atNext : next.loop = .running []) :
    EndOfStream byteHandler { pduSize := 255, pduSize_lt := by decide } 3 where
  start := byteRun finArrived
  slot := 0
  connection :=
    { SocketConnection.make (.ofAccept { descriptor := 4 }) byteHandler 255 with
      context := { fd := 4, type := .read } }
  id := 0
  rest := []
  answer := { recv := .closed }
  before := []
  top := byteRun (finArrived ++ [readZero])
  ret := ret
  after := after
  next := next
  reachable := ⟨finArrived, rfl⟩
  dispatching := rfl
  object := rfl
  type := rfl
  reading := .inl rfl
  peer := rfl
  closed := rfl
  finish := rfl
  beforeWithin := by simp
  atTop := rfl
  iterate := iterate
  afterWithin := afterWithin
  atNext := atNext

theorem fin_then_hangup :
    ∃ e : EndOfStream byteHandler { pduSize := 255, pduSize_lt := by decide } 3,
      e.ret = .ready [{}, { pollin := true, pollhup := true }] ∧ Disconnected e.next e.id := by
  let hangup : Revents := { pollin := true, pollhup := true }
  let e := finThen (.ready [{}, hangup]) [.dispatch {}]
    (byteRun (finArrived ++ [readZero, .poll (.ready [{}, hangup]), .dispatch {}])) rfl
    (by simp [Label.Within]) rfl
  exact ⟨e, rfl, (disconnected_iff_hangup e).mpr
    ⟨_, rfl, (⟨4, { pollin := true }⟩, hangup), by decide, rfl, rfl⟩⟩

/-- The next poll reports the same POLLIN, and the connection stays. -/
theorem fin_keeps_connection :
    ∃ e : EndOfStream byteHandler { pduSize := 255, pduSize_lt := by decide } 3,
      e.ret = .ready [{}, { pollin := true }] ∧ ¬ Disconnected e.next e.id := by
  let pollAgain : Label := .poll (.ready [{}, { pollin := true }])
  have hserving : Serving (byteRun (finArrived ++ [readZero, pollAgain, readZero])) 0 0 4 .read :=
    ⟨_, rfl, rfl, rfl, rfl⟩
  exact ⟨finThen (.ready [{}, { pollin := true }]) [readZero] _ rfl
    (by simp [readZero, Label.Within]) rfl, rfl, hserving.not_disconnected⟩

end SecuritySocket.RequestServer
