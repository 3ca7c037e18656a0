import SecuritySocket.ConnectionBuffers
import SecuritySocket.ConnectionFraming
import SecuritySocket.RequestServerInvariant

/-!
# Every connection of the server is framed

A relation between a connection and its log that the events of one connection keep is
kept by the whole server: connections have their own slots, descriptors and logs, so a
dispatch for one of them moves no other.  Applied to `Assembling`, this carries the
framing of a single connection to every interleaving of all of them.
-/

namespace SecuritySocket.RequestServer

open Transition SocketConnection

/-- A relation between a connection and its log that a new connection has and that every
    event keeps.  It does not look at the stored event type. -/
structure ConnectionInvariant (handler : SocketRequestHandler)
    (configuration : SocketConfiguration) (Q : SocketConnection → ConnectionLog → Prop) :
    Prop where
  make : ∀ socket, Q (.make socket handler configuration.pduSize) {}
  retype : ∀ c log type, Q c log → Q (retype type c) log
  read : ∀ recv response c log r, Q c log →
    SocketConnection.serveRead handler recv response c log = some r → Q r.connection r.log
  write : ∀ send c log r, Q c log →
    SocketConnection.serveWrite send c log = some r → Q r.connection r.log

/-- Each live connection has the relation to its log, and each log had it to some
    connection. -/
structure EachConnection (Q : SocketConnection → ConnectionLog → Prop) (s : RequestServer) :
    Prop where
  live : ∀ i c id, s.pool.objects i = some c → s.kernel.connectionAt c.socket.socket = some id →
    Q c (s.logs id)
  logs : ∀ id, ∃ c, Q c (s.logs id)

variable {handler : SocketRequestHandler} {configuration : SocketConfiguration}
  {Q : SocketConnection → ConnectionLog → Prop} {s s' : RequestServer}

theorem eachConnection_opened (hQ : ConnectionInvariant handler configuration Q) (fd : Int) :
    EachConnection Q (opened fd) where
  live := by simp [opened, ObjectPool.make]
  logs _ := ⟨_, hQ.make {}⟩

theorem EachConnection.unchanged (hQ : ConnectionInvariant handler configuration Q)
    (h : EachConnection Q s) (hsame : Unchanged s s') : EachConnection Q s' where
  live i c' id hc' hid := by
    obtain ⟨c, type, hc, rfl⟩ := hsame.object hc'
    rw [hsame.kernel] at hid
    rw [hsame.logs]
    exact hQ.retype c _ type (h.live i c id hc hid)
  logs := hsame.logs ▸ h.logs

theorem EachConnection.leak (h : EachConnection Q s) (hs : Inv s) {r : AcceptReturn}
    (loop : LoopState) (hfits : r.fits s.kernel) : EachConnection Q (s.leak r loop) where
  live i c id hc hid := by
    obtain ⟨id', hid'⟩ := hs.connected i c hc
    have hsame : some id = some id' :=
      (show (s.kernel.accept r).connectionAt _ = _ from hid).symm.trans
        (Kernel.connectionAt_accept_of_some hfits hid')
    cases hsame
    exact h.live i c id hc hid'
  logs := h.logs

theorem EachConnection.admitted (hQ : ConnectionInvariant handler configuration Q)
    (h : EachConnection Q s) (hs : Inv s) {r : AcceptReturn} {i : Nat}
    {pool : ObjectPool SocketConnection} (hfits : r.fits s.kernel) (hpos : 0 < r.descriptor)
    (hacquire : s.pool.acquire (SocketConnection.make (.ofAccept r) handler
      configuration.pduSize) = some (i, pool)) :
    EachConnection Q (s.admitted r i pool) where
  live j c id hc hid := by
    rcases (ObjectPool.acquire_objects_eq_some hacquire).mp hc with ⟨rfl, rfl⟩ | ⟨_, hc'⟩
    · have hnext := s.kernel.connectionAt_accept_self (Int.le_of_lt hpos)
      have hlog : s.logs id = {} := by
        have hid' : (s.kernel.accept r).connectionAt r.descriptor = some id := by
          simpa [RequestServer.admitted, SocketConnection.make] using hid
        rw [hnext, Option.some.injEq] at hid'
        exact hid' ▸ (hs.fresh _ (Nat.le_refl _)).1
      show Q _ (s.logs id)
      rw [hlog]
      exact hQ.make _
    · exact (h.leak hs s.loop hfits).live j c id hc' hid
  logs := h.logs

theorem EachConnection.disconnect (h : EachConnection Q s) (hs : Inv s) {i : Nat}
    {c : SocketConnection} (hc : s.pool.objects i = some c) :
    EachConnection Q (s.disconnect i c) where
  live j d id hd hid := by
    obtain ⟨_, hd⟩ := (disconnect_objects_eq_some hs hc).mp hd
    exact h.live j d id hd (Kernel.connectionAt_close.mp hid).2
  logs := h.logs

theorem EachConnection.served (h : EachConnection Q s) (hs : Inv s) {i id : Nat}
    {c : SocketConnection} {r : Served} (hc : s.pool.objects i = some c)
    (hid : s.kernel.connectionAt c.socket.socket = some id)
    (hsame : SocketConnection.SameSocket c r.connection) (hr : Q r.connection r.log) :
    EachConnection Q (s.served i c id r) where
  live j d id' hd hid' := by
    replace hid' : s.kernel.connectionAt d.socket.socket = some id' := hid'
    rcases served_objects_eq_some.mp hd with ⟨rfl, rfl⟩ | ⟨hji, hold⟩
    · rw [hsame.2, hid, Option.some.injEq] at hid'
      subst hid'
      simpa [RequestServer.served] using hr
    · have hne : id' ≠ id := by
        rintro rfl
        exact hji (hs.distinct j i d c hold hc (hs.kernel.inj _ _ id'
          (Kernel.connectionAt_eq_some.mp hid') (Kernel.connectionAt_eq_some.mp hid)))
      simpa [RequestServer.served, hne] using h.live j d id' hold hid'
  logs id' := by
    by_cases hne : id' = id
    · subst hne; exact ⟨_, by simpa [RequestServer.served] using hr⟩
    · obtain ⟨d, hd⟩ := h.logs id'
      exact ⟨d, by simpa [RequestServer.served, hne] using hd⟩

theorem EachConnection.dispatched (hQ : ConnectionInvariant handler configuration Q)
    (h : EachConnection Q s) (hs : Inv s) {p : ContextPtr} {a : Answer}
    (hs' : Dispatched handler configuration s p a s') : EachConnection Q s' := by
  cases hs' with
  | ignored => exact h
  | faulted fault => exact ⟨h.live, h.logs⟩
  | leaked hfits hloop => exact h.leak hs _ hfits
  | admitted hfits hpos hacquire => exact h.admitted hQ hs hfits hpos hacquire
  | disconnected hp hc htype => exact h.disconnect hs hc
  | read hp hc htype hid hr =>
    exact h.served hs hc hid (SocketConnection.sameSocket_serveRead hr)
      (hQ.read _ _ _ _ _ (h.live _ _ _ hc hid) hr)
  | write hp hc htype hid hr =>
    exact h.served hs hc hid (SocketConnection.sameSocket_serveWrite hr)
      (hQ.write _ _ _ _ (h.live _ _ _ hc hid) hr)

theorem EachConnection.step (hQ : ConnectionInvariant handler configuration Q)
    (h : EachConnection Q s) (hs : Inv s) {label : Label}
    (hs' : step handler configuration s label = some s') : EachConnection Q s' := by
  rcases step_cases hs' with ⟨rfl, rfl⟩ | ⟨ret, rfl, hloop, _, rfl⟩ | ⟨rfl, rfl⟩ |
    ⟨a, p, rest, rfl, hloop, hdispatch⟩
  · exact ⟨h.live, h.logs⟩
  · exact h.unchanged hQ (unchanged_poll s ret)
  · exact ⟨h.live, h.logs⟩
  · have hpopped : EachConnection Q { s with loop := .running rest } := ⟨h.live, h.logs⟩
    exact hpopped.dispatched hQ (hs.unchanged (unchanged_loop s _)) (dispatch_cases hdispatch)

/-- **Lifting.**  What the events of a connection keep holds of every connection in every
    reachable state of the server. -/
theorem reachable_eachConnection (hQ : ConnectionInvariant handler configuration Q) {fd : Int}
    (h : Reachable (step handler configuration) (opened fd) s) : EachConnection Q s := by
  have hopened : Reachable (step handler configuration) (opened fd) (opened fd) := .refl _
  refine (h.invariant (I := fun s => Steady s ∧ EachConnection Q s)
    ⟨reachable_steady hopened, eachConnection_opened hQ fd⟩ ?_).2
  rintro s label s' ⟨hsteady, heach⟩ hstep
  exact ⟨hsteady.step hstep, heach.step hQ hsteady.inv hstep⟩

/-! ### Framing -/

theorem sound_retype {c : SocketConnection} {type : SocketEventType} {pduSize : Nat}
    (h : SocketConnection.Sound handler pduSize c) :
    SocketConnection.Sound handler pduSize (retype type c) :=
  ⟨h.headerLength, h.payloadLength, h.outputLength, h.headerCount, h.payloadCount, h.payloadSize_lt,
    h.payloadFresh, h.responseFresh, h.responseCount, h.responseSize_lt, h.notFinished⟩

theorem assembling_connectionInvariant (hservice : Serviceable handler configuration.pduSize) :
    ConnectionInvariant handler configuration fun c log =>
      SocketConnection.Sound handler configuration.pduSize c ∧
        SocketConnection.Assembling handler c log where
  make socket := ⟨SocketConnection.sound_make socket,
    SocketConnection.assembling_make hservice socket⟩
  retype := by
    rintro c log type ⟨hsound, hc⟩
    refine ⟨sound_retype hsound, hc.fits, ?_, ?_, ?_⟩
    · intro hstate
      obtain ⟨hincomplete, hconsumed, hsent⟩ := hc.header hstate
      exact ⟨hincomplete, hconsumed, hsent⟩
    · intro hstate
      obtain ⟨hsize, hmode, hincomplete, hconsumed, hsent⟩ := hc.payload hstate
      exact ⟨hsize, hmode, hincomplete, hconsumed, hsent⟩
    · intro hstate
      obtain ⟨hconsumed, hsent⟩ := hc.response hstate
      exact ⟨hconsumed, hsent⟩
  read := by
    rintro recv response c log r ⟨hsound, hc⟩ hr
    have hserved := SocketConnection.serveRead_cases hsound hr
    exact ⟨hserved.sound hsound, hserved.assembling hservice hsound hc⟩
  write := by
    rintro send c log r ⟨hsound, hc⟩ hr
    have hserved := SocketConnection.serveWrite_cases hsound hr
    exact ⟨hserved.sound hsound, hserved.assembling hservice hc⟩

/-- **Framing.**  In every state of every run, the requests handled on a connection are the
    complete frames of the bytes consumed on it, in order and each once, and what was sent
    on it is a prefix of their responses. -/
theorem reachable_framed (hservice : Serviceable handler configuration.pduSize) {fd : Int}
    (h : Reachable (step handler configuration) (opened fd) s) (id : Nat) :
    Framed handler (s.logs id) := by
  obtain ⟨c, hsound, hc⟩ :=
    (reachable_eachConnection (assembling_connectionInvariant hservice) h).logs id
  exact hc.framed hservice hsound

/-- One client connects, sends a two-byte request in two pieces, and gets one byte back. -/
def roundTrip : List Label :=
  [.poll (.ready [{ pollin := true }]),
   .dispatch { accept := { descriptor := 4 } },
   .poll (.ready [{}, { pollin := true }]),
   .dispatch { recv := .data [1] },
   .poll (.ready [{}, { pollin := true }]),
   .dispatch { recv := .data [7],
               response := { contents := fun _ => 9, size := 1, size_lt := by decide } },
   .poll (.ready [{}, { pollout := true }]),
   .dispatch { send := .sent 1 }]

set_option maxRecDepth 4000 in
theorem roundTrip_framed :
    ∃ s, Reachable (step byteHandler { pduSize := 255, pduSize_lt := by decide }) (opened 3) s ∧
      (s.logs 0).consumed = [1, 7] ∧ (s.logs 0).calls.length = 1 ∧ (s.logs 0).sent = [9] ∧
      Framed byteHandler (s.logs 0) := by
  have hsome : (exec (step byteHandler { pduSize := 255, pduSize_lt := by decide }) (opened 3)
    roundTrip).isSome := by decide
  refine ⟨Option.get _ hsome, ⟨roundTrip, (Option.some_get hsome).symm⟩, rfl, rfl, rfl,
    reachable_framed ⟨by decide, ?_, ?_⟩ ⟨roundTrip, (Option.some_get hsome).symm⟩ 0⟩
  · intro header _
    exact Nat.le_of_lt_succ (header.headD 0).toNat_lt
  · intro header _
    simp [byteHandler]

end SecuritySocket.RequestServer
