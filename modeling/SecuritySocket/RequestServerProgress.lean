import Mathlib.Algebra.Order.BigOperators.Group.Finset
import SecuritySocket.EventRegistrations
import SecuritySocket.RequestServerInterest
import SecuritySocket.RequestServerTraffic
import SecuritySocket.SocketRequestServerOpen

/-!
# The request server makes progress

From the top of its loop, with whatever has arrived and however far each connection has got,
the server answers everything: as long as `poll` reports some of the connections that have
something to do and each transfer moves at least one byte, whatever the pieces and the order,
it comes to a state in which every complete request has been handled and every response is sent
in full.

What is left to do is a number: the unread bytes count for more than any response can, and a
response for the bytes of it that are not sent yet.  Every dispatch makes it smaller, and a poll
finds work as long as there is some.
-/

namespace SecuritySocket

open FixedWidth Transition SocketMultiEventListener

namespace Revents

variable {r ready : Revents}

/-- Nothing is reported that is not ready. -/
def within (r ready : Revents) : Bool :=
  !r.hangup && (!r.pollin || ready.pollin) && (!r.pollout || ready.pollout)

theorem isZero_of_within (h : r.within ready = true) (hzero : ready.isZero = true) :
    r.isZero = true := by
  grind [within, isZero]

theorem eq_of_within_pollin {more : Bool} (h : r.within { pollin := more } = true)
    (hzero : r.isZero = false) : more = true ∧ r = { pollin := true } := by
  cases r
  simp_all [within, isZero, hangup]

theorem eq_of_within_pollout (h : r.within { pollout := true } = true)
    (hzero : r.isZero = false) : r = { pollout := true } := by
  cases r
  simp_all [within, isZero, hangup]

end Revents

namespace SocketConnection

variable {handler : SocketRequestHandler} {pduSize : Nat} {c : SocketConnection}
  {log : ConnectionLog}

/-- What is left of the current response; an empty one takes a step too. -/
def pending (c : SocketConnection) : Nat :=
  if c.state = .writingResponse then c.responseSize - c.totalOutputWriteSize + 1 else 0

def work (c : SocketConnection) (unread : Nat) : Nat := unread * (2 ^ 64 + 1) + c.pending

theorem Sound.pending_le (h : Sound handler pduSize c) : c.pending ≤ 2 ^ 64 := by
  have hlt := h.responseSize_lt
  unfold pending
  split <;> omega

theorem Sound.reading_or_writing (h : Sound handler pduSize c) :
    c.reading = true ∨ c.state = .writingResponse := by
  cases hstate : c.state with
  | readingHeader => exact .inl (by simp [reading, hstate])
  | readingPayload => exact .inl (by simp [reading, hstate])
  | writingResponse => exact .inr rfl
  | finishProcess => exact absurd hstate h.notFinished

theorem state_of_reading (h : c.reading = true) :
    c.state = .readingHeader ∨ c.state = .readingPayload := by
  simpa [reading] using h

theorem ReadServed.consumed {response : HandlerResponse} {recv : RecvReturn} {r : Served}
    (hreading : c.reading = true) (h : ReadServed handler response c log recv r) :
    r.log.consumed = log.consumed ++ recv.bytes := by
  cases h with
  | ignored hstate => simp [reading, hstate] at hreading
  | failed hstate hneg hnil => rw [hnil, List.append_nil]
  | headerPart hstate hnarrow hlt => rfl
  | headerFull hstate hnarrow hfull hne => rfl
  | headerTask hstate hnarrow hfull hzero htask => exact htask.logged.2
  | payloadPart hstate hnarrow hlt => rfl
  | payloadTask hstate hnarrow hfull htask => exact htask.logged.2

/-- A WRITE event that moves something, or finds nothing left to move, brings the response on. -/
theorem pending_serveWrite (hsound : Sound handler pduSize c) (hstate : c.state = .writingResponse)
    {count : Nat} (hmoves : 0 < count ∨ c.totalOutputWriteSize = c.responseSize) {r : Served}
    (h : serveWrite (.sent count) c log = some r) : r.connection.pending < c.pending := by
  have hcount := hsound.responseCount
  have hlt := hsound.responseSize_lt
  have hpending : c.pending = c.responseSize - c.totalOutputWriteSize + 1 := by
    simp [pending, hstate]
  cases serveWrite_cases hsound h with
  | ignored hreading => simp [hstate] at hreading
  | part hstate' hpart =>
    simp only [SendReturn.count] at hpart
    rw [hpending]
    simp only [pending, hstate, SendReturn.count, if_true]
    omega
  | done hstate' hfull =>
    rw [hpending]
    simp [pending, flush]
  | failed hstate' hzero =>
    -- nothing was moved, so nothing was left: the event finishes the response
    simp only [SendReturn.count] at hzero
    subst hzero
    have hempty : c.totalOutputWriteSize = c.responseSize := hmoves.resolve_left (by omega)
    simp only [serveWrite, hstate] at h
    split at h
    · have hnone : sizeAdd c.responseSize (toSize 0) = c.responseSize := by
        simp only [toSize, sizeAdd]
        omega
      simp [writeResponse, ServerActiveSocket.write, SendReturn.result, toInt32, hempty, hnone] at h
    · cases h

theorem exists_serveRead (hservice : Serviceable handler pduSize)
    (hheader : handler.getHeaderSize < 2 ^ 31) (hpdu : pduSize < 2 ^ 31)
    (hsound : Sound handler pduSize c) (hc : Assembling handler c log) (hreading : c.reading = true)
    (byte : UInt8) (response : HandlerResponse) :
    ∃ r, serveRead handler (.data [byte]) response c log = some r := by
  have hone : ∀ {n : Nat}, 0 < n → n < 2 ^ 31 → (RecvReturn.data [byte]).fits (narrow n) = true := by
    intro n hpos hlt
    simp only [RecvReturn.fits, narrow_of_lt hlt, transferMax, List.length_singleton,
      Bool.and_eq_true, decide_eq_true_eq]
    exact ⟨rfl, by omega⟩
  rcases state_of_reading hreading with hstate | hstate
  · have hincomplete := (hc.header hstate).incomplete
    have hrest : sizeSub c.inputHeaderBuffer.length c.totalInputHeaderReadSize =
        handler.getHeaderSize - c.totalInputHeaderReadSize := by
      rw [hsound.headerLength]
      exact sizeSub_eq (Nat.le_of_lt hincomplete) (by omega)
    have hfits : (RecvReturn.data [byte]).fits c.headerRegion.length = true := by
      simp only [headerRegion, ServerActiveSocket.recvLength, hrest]
      exact hone (by omega) (by omega)
    simp only [serveRead, hstate, hfits, if_true]
    exact ⟨_, rfl⟩
  · obtain ⟨hsize, -, hincomplete, -, -⟩ := hc.payload hstate
    have hpayload := hservice.payloadSize_le _ hsound.headerLength
    rw [← hsize] at hpayload
    have hrest : sizeSub c.payloadSize c.totalInputPayloadReadSize =
        c.payloadSize - c.totalInputPayloadReadSize :=
      sizeSub_eq (Nat.le_of_lt hincomplete) hsound.payloadSize_lt
    have hfits : (RecvReturn.data [byte]).fits c.payloadRegion.length = true := by
      simp only [payloadRegion, ServerActiveSocket.recvLength, hrest]
      exact hone (by omega) (by omega)
    simp only [serveRead, hstate, hfits, if_true]
    exact ⟨_, rfl⟩

theorem exists_serveWrite (hsound : Sound handler pduSize c) (hstate : c.state = .writingResponse)
    (log : ConnectionLog) : ∃ count r, (0 < count ∨ c.totalOutputWriteSize = c.responseSize) ∧
      serveWrite (.sent count) c log = some r := by
  have hcount := hsound.responseCount
  have hrest : sizeSub c.responseSize c.totalOutputWriteSize =
      c.responseSize - c.totalOutputWriteSize := sizeSub_eq hcount hsound.responseSize_lt
  have hserves : ∀ count, count ≤ min (c.responseSize - c.totalOutputWriteSize) transferMax →
      ∃ r, serveWrite (.sent count) c log = some r := by
    intro count hle
    have hfits : (SendReturn.sent count).fits c.responseRegion.length = true := by
      simpa only [responseRegion, ServerActiveSocket.sendLength, hrest, SendReturn.fits,
        decide_eq_true_eq] using hle
    simp only [serveWrite, hstate, hfits, if_true]
    split <;> exact ⟨_, rfl⟩
  by_cases hempty : c.totalOutputWriteSize = c.responseSize
  · obtain ⟨r, hr⟩ := hserves 0 (Nat.zero_le _)
    exact ⟨0, r, .inr hempty, hr⟩
  · obtain ⟨r, hr⟩ := hserves 1 (by simp only [transferMax]; omega)
    exact ⟨1, r, .inl Nat.one_pos, hr⟩

end SocketConnection

namespace RequestStreams

open SocketConnection

/-- What a poll says of an entry that reports exactly what is ready: input where bytes are unread,
    output wherever it is asked for. -/
def readiness (s : RequestStreams) (h : PollFd) : Revents where
  pollin := h.events.pollin &&
    (s.server.kernel.connectionAt h.fd).any fun id => !(s.unread id).isEmpty
  pollout := h.events.pollout

def ready (s : RequestStreams) : List Revents := s.server.listener.handle.map s.readiness

/-- The poll reports some of what is ready and nothing else, and a transfer moves at least one byte
    if it has any to move.  Nothing else happens: no arrival, no close, no new connection, no
    stop. -/
def prompt (s : RequestStreams) : Label → Bool
  | .server (.poll ret) =>
    match ret with
    | .ready revents =>
      (s.server.listener.handle.zip revents).all fun entry => entry.2.within (s.readiness entry.1)
    | .timeout | .error => false
  | .server (.dispatch a) =>
    match s.server.loop with
    | .running (p :: _) => (s.server.peer? p).all fun (c, _) =>
        (c.context.type != .read || !a.recv.bytes.isEmpty) &&
          (c.context.type != .write ||
            match a.send with
            | .sent count => 0 < count || c.totalOutputWriteSize == c.responseSize
            | .error _ => false)
    | .running [] | .exited | .faulted _ => true
  | .server .leave | .server .stop | .arrive _ _ | .finish _ => false

def promptStep (handler : SocketRequestHandler) (configuration : SocketConfiguration)
    (s : RequestStreams) (label : Label) : Option RequestStreams :=
  if s.prompt label then step handler configuration s label else none

/-- From `s₀` on all that had arrived is answered: each connection is there still, its handler was
    called with all of its complete requests, and their responses are sent in full. -/
structure Answered (handler : SocketRequestHandler) (s₀ s : RequestStreams) : Prop where
  top : s.server.loop = .running []
  live : ∀ i c₀, s₀.server.pool.objects i = some c₀ →
    ∃ c, s.server.pool.objects i = some c ∧ c.socket = c₀.socket
  requests : ∀ i c₀ id, s₀.server.pool.objects i = some c₀ →
    s₀.server.kernel.connectionAt c₀.socket.socket = some id →
      (s.server.logs id).calls.map HandlerCall.frame = handler.format.frames (s₀.queues id).arrived
  responses : ∀ i c₀ id, s₀.server.pool.objects i = some c₀ →
    s₀.server.kernel.connectionAt c₀.socket.socket = some id →
      (s.server.logs id).sent = SecuritySocket.responses (s.server.logs id).calls

def Rest (s : RequestStreams) : Prop :=
  ∀ i c id, s.server.pool.objects i = some c →
    s.server.kernel.connectionAt c.socket.socket = some id → c.reading = true ∧ s.unread id = []

/-- The context has something to do, and its type says what. -/
inductive Due (s : RequestStreams) : ContextPtr → Prop where
  | read {i id : Nat} {c : SocketConnection} (hc : s.server.pool.objects i = some c)
      (hid : s.server.kernel.connectionAt c.socket.socket = some id)
      (htype : c.context.type = .read) (hreading : c.reading = true)
      (hunread : s.unread id ≠ []) : Due s (.peer i)
  | write {i id : Nat} {c : SocketConnection} (hc : s.server.pool.objects i = some c)
      (hid : s.server.kernel.connectionAt c.socket.socket = some id)
      (htype : c.context.type = .write) (hwriting : c.state = .writingResponse) : Due s (.peer i)

def slotWork (s : RequestStreams) (i : Nat) : Nat :=
  match s.server.pool.objects i with
  | none => 0
  | some c => (s.server.kernel.connectionAt c.socket.socket).elim 0 fun id =>
      c.work (s.unread id).length

def work (s : RequestStreams) : Nat := ∑ i ∈ Finset.range s.server.pool.size, s.slotWork i

/-- Work, and the poll that finds some. -/
def progress (s : RequestStreams) : Nat :=
  2 * s.work + if s.server.loop = .running [] then 1 else 0

variable {handler : SocketRequestHandler} {configuration : SocketConfiguration}
  {s₀ s s' : RequestStreams}

/-- On the way from `s₀`: the connections and what has arrived on them are the same, and the batch
    holds only contexts that have something to do. -/
structure Working (handler : SocketRequestHandler) (configuration : SocketConfiguration)
    (s₀ s : RequestStreams) : Prop where
  fed : s.Fed handler configuration
  wired : RequestServer.Wired s.server
  running : s.server.isRunning = true
  queues : s.queues = s₀.queues
  kernel : s.server.kernel = s₀.server.kernel
  sockets : ∀ i, (s.server.pool.objects i).map (·.socket) =
    (s₀.server.pool.objects i).map (·.socket)
  due : ∃ batch, s.server.loop = .running batch ∧ ∀ p ∈ batch, s.Due p

/-! ### One dispatch -/

theorem slotWork_eq {i id : Nat} {c : SocketConnection} (hc : s.server.pool.objects i = some c)
    (hid : s.server.kernel.connectionAt c.socket.socket = some id) :
    s.slotWork i = c.work (s.unread id).length := by
  simp [slotWork, hc, hid]

def served (s : RequestStreams) (rest : List ContextPtr) (i : Nat) (c : SocketConnection)
    (id : Nat) (r : Served) : RequestStreams :=
  { s with server := { s.server with loop := .running rest }.served i c id r }

theorem length_unread_append {id : Nat} {bytes : List UInt8}
    (h : (s.server.logs id).consumed ++ bytes <+: (s.queues id).arrived) :
    ((s.queues id).unread ((s.server.logs id).consumed ++ bytes)).length + bytes.length =
      (s.unread id).length := by
  have hle := h.length_le
  rw [List.length_append] at hle
  simp only [unread, ReceiveQueue.unread, List.length_drop, List.length_append]
  omega

theorem Due.dispatch (hfed : s.Fed handler configuration) {p : ContextPtr}
    {rest : List ContextPtr} (hloop : s.server.loop = .running (p :: rest)) (hdue : s.Due p)
    {a : Answer} (hprompt : s.prompt (.server (.dispatch a)) = true)
    (hstep : step handler configuration s (.server (.dispatch a)) = some s') :
    ∃ i c id r, p = .peer i ∧ s.server.pool.objects i = some c ∧
      s.server.kernel.connectionAt c.socket.socket = some id ∧ s' = s.served rest i c id r ∧
        SameSocket c r.connection ∧
          r.connection.work ((s.queues id).unread r.log.consumed).length <
            c.work (s.unread id).length := by
  simp only [step] at hstep
  split at hstep
  · rename_i hanswers
    obtain ⟨server, hserver, rfl⟩ := Option.map_eq_some_iff.mp hstep
    simp only [RequestServer.step, hloop] at hserver
    cases hdue with
    | @read i id c hc hid htype hreading hunread =>
      have hpeer := peer?_peer hc hid
      simp only [prompt, hloop, hpeer, Option.all_some, htype, bne_self_eq_false, Bool.false_or,
        Bool.and_eq_true, Bool.not_eq_true', List.isEmpty_eq_false_iff] at hprompt
      simp only [RequestServer.dispatch, RequestServer.context?, hc, Option.map_some, htype,
        Option.bind_some, RequestServer.serve, hid] at hserver
      obtain ⟨r, hr, rfl⟩ := Option.map_eq_some_iff.mp hserver
      obtain ⟨hsound, -⟩ := hfed.each.live i c id hc hid
      have hserved := serveRead_cases hsound hr
      refine ⟨i, c, id, r, rfl, hc, hid, rfl, sameSocket_serveRead hr, ?_⟩
      have hqueue : (s.queues id).answers (s.server.logs id).consumed c.asked a.recv = true := by
        simpa [answers, hloop, hpeer, htype] using hanswers
      have hfront := ReceiveQueue.prefix_of_answers (hfed.consumed id) hqueue
      have hlength := length_unread_append hfront
      have hpos : 0 < a.recv.bytes.length := List.length_pos_of_ne_nil hprompt.1
      have hpending := (hserved.sound hsound).pending_le
      rw [hserved.consumed hreading]
      simp only [SocketConnection.work]
      omega
    | @write i id c hc hid htype hwriting =>
      have hpeer := peer?_peer hc hid
      simp only [prompt, hloop, hpeer, Option.all_some, htype, bne_self_eq_false, Bool.false_or,
        Bool.and_eq_true] at hprompt
      simp only [RequestServer.dispatch, RequestServer.context?, hc, Option.map_some, htype,
        Option.bind_some, RequestServer.serve, hid] at hserver
      obtain ⟨r, hr, rfl⟩ := Option.map_eq_some_iff.mp hserver
      obtain ⟨hsound, -⟩ := hfed.each.live i c id hc hid
      refine ⟨i, c, id, r, rfl, hc, hid, rfl, sameSocket_serveWrite hr, ?_⟩
      have hconsumed := (serveWrite_cases hsound hr).logged.2
      cases hsend : a.send with
      | error errno => simp [hsend] at hprompt
      | sent count =>
        rw [hsend] at hr
        have hmoves : 0 < count ∨ c.totalOutputWriteSize = c.responseSize := by
          simpa [hsend] using hprompt.2
        have hpending := pending_serveWrite hsound hwriting hmoves hr
        rw [hconsumed]
        simp only [SocketConnection.work, unread]
        omega
  · cases hstep

section Serving

variable {rest : List ContextPtr} {i id : Nat} {c : SocketConnection} {r : Served}

theorem served_self (hsame : SameSocket c r.connection)
    (hid : s.server.kernel.connectionAt c.socket.socket = some id) :
    (s.served rest i c id r).slotWork i =
      r.connection.work ((s.queues id).unread r.log.consumed).length := by
  have hobject : (s.served rest i c id r).server.pool.objects i = some r.connection := by
    simp [served, RequestServer.served_objects]
  have hid' : (s.served rest i c id r).server.kernel.connectionAt r.connection.socket.socket =
      some id := by
    rw [hsame.2]
    exact hid
  rw [slotWork_eq hobject hid']
  simp [served, unread, RequestServer.served]

theorem served_other (hinv : RequestServer.Inv s.server) (hc : s.server.pool.objects i = some c)
    (hid : s.server.kernel.connectionAt c.socket.socket = some id) {j id' : Nat}
    {d : SocketConnection} (hji : j ≠ i) (hd : s.server.pool.objects j = some d)
    (hid' : s.server.kernel.connectionAt d.socket.socket = some id') :
    (s.served rest i c id r).server.pool.objects j = some d ∧
      (s.served rest i c id r).unread id' = s.unread id' := by
  have hne : id' ≠ id := by
    rintro rfl
    exact hji (hinv.distinct j i d c hd hc (hinv.kernel.inj _ _ id'
      (Kernel.connectionAt_eq_some.mp hid') (Kernel.connectionAt_eq_some.mp hid)))
  constructor
  · simpa [served, RequestServer.served_objects, hji] using hd
  · simp [served, unread, RequestServer.served, hne]

theorem slotWork_served_other (hinv : RequestServer.Inv s.server)
    (hc : s.server.pool.objects i = some c)
    (hid : s.server.kernel.connectionAt c.socket.socket = some id) {j : Nat} (hji : j ≠ i) :
    (s.served rest i c id r).slotWork j = s.slotWork j := by
  cases hd : s.server.pool.objects j with
  | none =>
    have hnone : (s.served rest i c id r).server.pool.objects j = none := by
      simpa [served, RequestServer.served_objects, hji] using hd
    simp [slotWork, hd, hnone]
  | some d =>
    obtain ⟨id', hid'⟩ := hinv.connected j d hd
    obtain ⟨hd', hunread⟩ := @served_other s rest i id c r hinv hc hid j id' d hji hd hid'
    rw [slotWork_eq hd hid', slotWork_eq hd' hid', hunread]

theorem work_served (hinv : RequestServer.Inv s.server) (hc : s.server.pool.objects i = some c)
    (hid : s.server.kernel.connectionAt c.socket.socket = some id)
    (hsame : SameSocket c r.connection)
    (hlt : r.connection.work ((s.queues id).unread r.log.consumed).length <
      c.work (s.unread id).length) : (s.served rest i c id r).work < s.work := by
  have hself := @served_self s rest i id c r hsame hid
  have hsize : (s.served rest i c id r).server.pool.size = s.server.pool.size := rfl
  unfold work
  rw [hsize]
  refine Finset.sum_lt_sum (fun j _ => ?_) ⟨i, ?_, ?_⟩
  · by_cases hji : j = i
    · subst hji
      rw [hself, slotWork_eq hc hid]
      exact Nat.le_of_lt hlt
    · rw [slotWork_served_other hinv hc hid hji]
  · exact Finset.mem_range.mpr (hinv.pool.lt_size i c hc)
  · rw [hself, slotWork_eq hc hid]
    exact hlt

theorem Due.served (hinv : RequestServer.Inv s.server) (hc : s.server.pool.objects i = some c)
    (hid : s.server.kernel.connectionAt c.socket.socket = some id) {q : ContextPtr}
    (hne : q ≠ .peer i) (h : s.Due q) : (s.served rest i c id r).Due q := by
  cases h with
  | @read j id' d hd hid' htype hreading hunread =>
    have hji : j ≠ i := fun heq => hne (heq ▸ rfl)
    obtain ⟨hd', hsame⟩ := @served_other s rest i id c r hinv hc hid j id' d hji hd hid'
    exact .read hd' hid' htype hreading (hsame ▸ hunread)
  | @write j id' d hd hid' htype hwriting =>
    have hji : j ≠ i := fun heq => hne (heq ▸ rfl)
    obtain ⟨hd', -⟩ := @served_other s rest i id c r hinv hc hid j id' d hji hd hid'
    exact .write hd' hid' htype hwriting

end Serving

theorem wired_step (hfed : s.Fed handler configuration) (hwired : RequestServer.Wired s.server)
    {label : Label} (hstep : step handler configuration s label = some s') :
    RequestServer.Wired s'.server := by
  have hinv := hfed.steady.inv
  cases label with
  | arrive id bytes =>
    obtain ⟨queue, -, rfl⟩ := Option.map_eq_some_iff.mp hstep
    exact hwired
  | finish id =>
    cases hstep
    exact hwired
  | server label =>
    simp only [step] at hstep
    split at hstep
    · obtain ⟨server, hserver, rfl⟩ := Option.map_eq_some_iff.mp hstep
      rcases RequestServer.step_cases hserver with ⟨-, rfl⟩ | ⟨ret, -, -, -, rfl⟩ | ⟨-, rfl⟩ |
        ⟨a, p, rest, rfl, hloop, hdispatch⟩
      · exact hwired
      · exact hwired.unchanged (RequestServer.unchanged_poll s.server ret)
      · exact hwired
      · have hpopped : RequestServer.Inv { s.server with loop := .running rest } :=
          hinv.unchanged (RequestServer.unchanged_loop s.server _)
        have hkept : RequestServer.Wired { s.server with loop := .running rest } := hwired
        have hsound : ∀ i c, s.server.pool.objects i = some c →
            Sound handler configuration.pduSize c := by
          intro i c hc
          obtain ⟨id, hid⟩ := hinv.connected i c hc
          exact (hfed.each.live i c id hc hid).1
        exact hkept.dispatched hpopped hsound (RequestServer.dispatch_cases hdispatch)
    · cases hstep

theorem Working.dispatch (hservice : Serviceable handler configuration.pduSize)
    (h : Working handler configuration s₀ s) {a : Answer}
    (hprompt : s.prompt (.server (.dispatch a)) = true)
    (hstep : step handler configuration s (.server (.dispatch a)) = some s') :
    Working handler configuration s₀ s' ∧ s'.progress < s.progress := by
  have hinv := h.fed.steady.inv
  obtain ⟨batch, hloop, hdue⟩ := h.due
  obtain ⟨hfed', -⟩ := h.fed.step hservice hstep
  cases batch with
  | nil =>
    exfalso
    simp [step, RequestServer.step, hloop] at hstep
  | cons p rest =>
    obtain ⟨i, c, id, r, rfl, hc, hid, rfl, hsame, hlt⟩ :=
      (hdue p List.mem_cons_self).dispatch h.fed hloop hprompt hstep
    have hpending := h.fed.steady.pending _ hloop
    have hwork := @work_served s rest i id c r hinv hc hid hsame hlt
    refine ⟨⟨hfed', ?_, h.running, h.queues, h.kernel, ?_, rest, rfl, ?_⟩, ?_⟩
    · exact wired_step h.fed h.wired hstep
    · intro j
      rw [← h.sockets j]
      by_cases hji : j = i
      · subst hji
        simp [served, RequestServer.served_objects, hc, hsame.2]
      · simp [served, RequestServer.served_objects, hji]
    · intro q hq
      have hne : q ≠ .peer i := by
        rintro rfl
        exact (List.nodup_cons.mp hpending.nodup).1 hq
      exact (hdue q (List.mem_cons_of_mem _ hq)).served hinv hc hid hne
    · have hbusy : ¬ s.server.loop = .running [] := by simp [hloop]
      unfold progress
      rw [if_neg hbusy]
      split <;> omega

/-! ### One poll -/

theorem readiness_peer (hinv : RequestServer.Inv s.server) {i id : Nat} {c : SocketConnection}
    (hc : s.server.pool.objects i = some c)
    (hid : s.server.kernel.connectionAt c.socket.socket = some id) :
    s.readiness (s.server.pollFd (.peer i)) =
      if c.state = .writingResponse then { pollout := true }
      else { pollin := !(s.unread id).isEmpty } := by
  have hfd : s.server.fdOf (.peer i) = c.socket.socket :=
    (RequestServer.fdOf_peer hc).trans (hinv.contextFd i c hc)
  simp only [readiness, RequestServer.pollFd, RequestServer.interestOf, hc, Option.elim_some, wants,
    hfd, hid]
  split <;> simp [SocketEventType.events]

theorem readiness_server (hinv : RequestServer.Inv s.server) :
    (s.readiness (s.server.pollFd .server)).isZero = true := by
  have hnone : s.server.kernel.connectionAt (s.server.fdOf .server) = none := by
    have hlistening := hinv.listening
    cases hat : s.server.kernel.connectionAt (s.server.fdOf .server) with
    | none => rfl
    | some id =>
      have hopen := Kernel.connectionAt_eq_some.mp hat
      rw [RequestServer.fdOf, RequestServer.context?, hlistening] at hopen
      cases hopen
  simp [readiness, RequestServer.pollFd, RequestServer.interestOf, SocketEventType.events, hnone,
    Revents.isZero, Revents.hangup]

section Reports

variable {revents : List Revents} {reported : List (Reported ContextPtr)}

theorem reported_ne_nil
    (hconsistent : (MultiPollReturn.ready revents).consistent s.server.listener.handle = true)
    (hcollect : collect s.server.fdOf s.server.listener.contexts
      (s.server.listener.handle.zip revents) = some reported) : reported ≠ [] := by
  simp only [MultiPollReturn.consistent, Bool.and_eq_true, beq_iff_eq, List.any_eq_true] at hconsistent
  obtain ⟨⟨hlength, r, hr, hzero⟩, -⟩ := hconsistent
  rw [← List.map_snd_zip (Nat.le_of_eq hlength)] at hr
  obtain ⟨entry, hentry, rfl⟩ := List.mem_map.mp hr
  obtain ⟨e, he, -⟩ := exists_collected hcollect hentry (by simpa using hzero)
  exact List.ne_nil_of_mem he

theorem exists_stored (hserver : s'.server =
      { s.server.storeTypes reported with loop := .running (reported.map (·.context)) }) {i : Nat}
    {c : SocketConnection} (hc : s.server.pool.objects i = some c)
    (hp : .peer i ∈ reported.map (·.context)) :
    ∃ e ∈ reported, e.context = .peer i ∧ ∃ old, s'.server.pool.objects i = some
      (RequestServer.retype (eventType s.server.listener.serverSocket e.fd e.revents old) c) := by
  have hunchanged : RequestServer.Unchanged s.server s'.server := by
    rw [hserver]
    exact (RequestServer.unchanged_storeTypes _ _).trans (RequestServer.unchanged_loop _ _)
  obtain ⟨type, hobjects⟩ := hunchanged.objects i
  rw [hc, Option.map_some] at hobjects
  have hstored : (s.server.storeTypes reported).context? (.peer i) =
      some (RequestServer.retype type c).context := by
    have hcontext : s'.server.context? (.peer i) = some (RequestServer.retype type c).context := by
      simp [RequestServer.context?, hobjects]
    rwa [hserver] at hcontext
  obtain ⟨e, he, hcontext, old, htype⟩ := RequestServer.exists_report hp hstored
  exact ⟨e, he, hcontext, old, by rw [hobjects, ← htype]; rfl⟩

variable (hwired : RequestServer.Wired s.server)
  (hwithin : ∀ entry ∈ s.server.listener.handle.zip revents,
    entry.2.within (s.readiness entry.1) = true)
  (hcollect : collect s.server.fdOf s.server.listener.contexts
    (s.server.listener.handle.zip revents) = some reported)

include hwired hwithin hcollect

theorem readiness_of_collected (hinv : RequestServer.Inv s.server) {e : Reported ContextPtr}
    (he : e ∈ reported) :
    e.context ∈ s.server.listener.contexts ∧ s.server.fdOf e.context = e.fd ∧
      e.revents.within (s.readiness (s.server.pollFd e.context)) = true ∧
        e.revents.isZero = false := by
  -- the listener is the table of the registered contexts, of which `wait` reports some entries
  have htable := (hwired.represents hinv).collect revents
  cases Option.some.inj (hcollect.symm.trans htable)
  obtain ⟨⟨entry, r⟩, hin, rfl⟩ := List.mem_map.mp he
  obtain ⟨hin, hzero⟩ := List.mem_filter.mp hin
  have hentry := (List.of_mem_zip hin).1
  obtain ⟨q, hq, rfl⟩ := List.mem_map.mp hentry
  have hpolled : (s.server.pollFd q, r) ∈ s.server.listener.handle.zip revents := by
    rw [(hwired.represents hinv).handle, List.zip_map_left]
    exact List.mem_map_of_mem hin
  exact ⟨hq, rfl, hwithin _ hpolled, by simpa using hzero⟩

variable (hserver : s'.server =
  { s.server.storeTypes reported with loop := .running (reported.map (·.context)) })

include hserver

theorem due_of_peer (hfed : s.Fed handler configuration) (hqueues : s'.queues = s.queues)
    {i id : Nat} {c : SocketConnection} (hc : s.server.pool.objects i = some c)
    (hid : s.server.kernel.connectionAt c.socket.socket = some id)
    (hp : .peer i ∈ reported.map (·.context)) : s'.Due (.peer i) := by
  have hinv := hfed.steady.inv
  have hunchanged : RequestServer.Unchanged s.server s'.server := by
    rw [hserver]
    exact (RequestServer.unchanged_storeTypes _ _).trans (RequestServer.unchanged_loop _ _)
  obtain ⟨e, he, hcontext, old, hobjects⟩ := exists_stored hserver hc hp
  obtain ⟨-, hfd, hready, hzero⟩ := readiness_of_collected hwired hwithin hcollect hinv he
  rw [hcontext] at hfd hready
  rw [readiness_peer hinv hc hid] at hready
  have hid' : s'.server.kernel.connectionAt c.socket.socket = some id := by
    rw [hunchanged.kernel]
    exact hid
  obtain ⟨hsound, -⟩ := hfed.each.live i c id hc hid
  rcases hsound.reading_or_writing with hreading | hwriting
  · have hnot : ¬ c.state = .writingResponse := by
      intro hstate
      simp [reading, hstate] at hreading
    rw [if_neg hnot] at hready
    obtain ⟨hmore, hrevents⟩ := Revents.eq_of_within_pollin hready hzero
    have hsome : s'.unread id ≠ [] := by
      simpa only [unread, hqueues, hunchanged.logs, Bool.not_eq_true', List.isEmpty_eq_false_iff]
        using hmore
    have hother : ¬ s.server.listener.serverSocket = e.fd := by
      rw [← hfd, RequestServer.fdOf_peer hc, hinv.contextFd i c hc, hinv.serverSocket]
      intro heq
      have hlistening := hinv.listening
      rw [heq, Kernel.connectionAt_eq_some.mp hid] at hlistening
      cases hlistening
    refine .read hobjects hid' ?_ hreading hsome
    simp [RequestServer.retype, hrevents, eventType, hother]
  · rw [if_pos hwriting] at hready
    have hrevents := Revents.eq_of_within_pollout hready hzero
    refine .write hobjects hid' ?_ hwriting
    simp [RequestServer.retype, hrevents, eventType]

theorem due_of_reported (hfed : s.Fed handler configuration) (hqueues : s'.queues = s.queues)
    {p : ContextPtr} (hp : p ∈ reported.map (·.context)) : s'.Due p := by
  have hinv := hfed.steady.inv
  obtain ⟨e, he, rfl⟩ := List.mem_map.mp hp
  obtain ⟨hregistered, -, hready, hzero⟩ := readiness_of_collected hwired hwithin hcollect hinv he
  rcases hinv.endpoint hregistered with ⟨hcontext, -⟩ | ⟨i, c, id, hcontext, hc, hid⟩
  · rw [hcontext] at hready
    rw [Revents.isZero_of_within hready (readiness_server hinv)] at hzero
    cases hzero
  · rw [hcontext] at hp hid ⊢
    rw [RequestServer.fdOf_peer hc, hinv.contextFd i c hc] at hid
    exact due_of_peer hwired hwithin hcollect hserver hfed hqueues hc
      (Kernel.connectionAt_eq_some.mpr hid) hp

end Reports

theorem work_unchanged (hunchanged : RequestServer.Unchanged s.server s'.server)
    (hqueues : s'.queues = s.queues) : s'.work = s.work := by
  have hslot : ∀ i, s'.slotWork i = s.slotWork i := by
    intro i
    obtain ⟨type, htype⟩ := hunchanged.objects i
    simp only [slotWork, htype, hunchanged.kernel, unread, hqueues, hunchanged.logs]
    cases s.server.pool.objects i <;> rfl
  simp only [work, hunchanged.size, hslot]

theorem Working.poll (hservice : Serviceable handler configuration.pduSize)
    (h : Working handler configuration s₀ s) {ret : MultiPollReturn}
    (hprompt : s.prompt (.server (.poll ret)) = true)
    (hstep : step handler configuration s (.server (.poll ret)) = some s') :
    Working handler configuration s₀ s' ∧ s'.progress < s.progress := by
  have hinv := h.fed.steady.inv
  obtain ⟨hfed', -⟩ := h.fed.step hservice hstep
  simp only [step] at hstep
  split at hstep
  · obtain ⟨server, hserver, rfl⟩ := Option.map_eq_some_iff.mp hstep
    have hrunning := RequestServer.step_isRunning (by simp) hserver
    rcases RequestServer.step_cases hserver with ⟨hlabel, -⟩ | ⟨ret, hlabel, hloop, hconsistent,
      rfl⟩ | ⟨hlabel, -⟩ | ⟨a, p, rest, hlabel, -⟩
    · cases hlabel
    · cases hlabel
      obtain ⟨revents, rfl, hwithin⟩ : ∃ revents, ret = .ready revents ∧
          ∀ entry ∈ s.server.listener.handle.zip revents,
            entry.2.within (s.readiness entry.1) = true := by
        cases ret with
        | ready revents => exact ⟨revents, rfl, List.all_eq_true.mp hprompt⟩
        | timeout => cases hprompt
        | error => cases hprompt
      have hunchanged := RequestServer.unchanged_poll s.server (.ready revents)
      obtain ⟨reported, hcollect, hpoll⟩ := hinv.poll_ready revents
      have hsome := reported_ne_nil hconsistent hcollect
      have hloop' : (s.server.poll (.ready revents)).loop =
          .running (reported.map (·.context)) := by rw [hpoll]
      refine ⟨⟨hfed', h.wired.unchanged hunchanged, hrunning.trans h.running, h.queues,
        hunchanged.kernel.trans h.kernel, fun i => ?_, _, hloop', fun p hp => ?_⟩, ?_⟩
      · obtain ⟨type, htype⟩ := hunchanged.objects i
        rw [← h.sockets i, htype, Option.map_map]
        rfl
      · exact @due_of_reported handler configuration s
          { s with server := s.server.poll (.ready revents) } revents reported h.wired hwithin
          hcollect hpoll h.fed rfl p hp
      · have hbusy : ¬ (s.server.poll (.ready revents)).loop = .running [] := by
          rw [hloop']
          simpa using hsome
        have hwork := @work_unchanged s { s with server := s.server.poll (.ready revents) }
          hunchanged rfl
        unfold progress
        rw [hwork, if_pos hloop, if_neg hbusy]
        omega
    · cases hlabel
    · cases hlabel
  · cases hstep

theorem Working.step (hservice : Serviceable handler configuration.pduSize)
    (h : Working handler configuration s₀ s) {label : Label}
    (hstep : promptStep handler configuration s label = some s') :
    Working handler configuration s₀ s' ∧ s'.progress < s.progress := by
  unfold promptStep at hstep
  split at hstep
  · rename_i hprompt
    cases label with
    | arrive id bytes => cases hprompt
    | finish id => cases hprompt
    | server label =>
      cases label with
      | poll ret => exact h.poll hservice hprompt hstep
      | dispatch a => exact h.dispatch hservice hprompt hstep
      | leave => cases hprompt
      | stop => cases hprompt
  · cases hstep

/-! ### Something can always be done -/

theorem Working.exists_poll (h : Working handler configuration s₀ s)
    (hloop : s.server.loop = .running []) (hbusy : ¬ s.Rest) :
    ∃ label s', promptStep handler configuration s label = some s' := by
  have hinv := h.fed.steady.inv
  simp only [Rest] at hbusy
  push Not at hbusy
  obtain ⟨i, c, id, hc, hid, hwork⟩ := hbusy
  obtain ⟨hsound, -⟩ := h.fed.each.live i c id hc hid
  have hready := readiness_peer hinv hc hid
  have hzero : (s.readiness (s.server.pollFd (.peer i))).isZero = false := by
    rcases hsound.reading_or_writing with hreading | hwriting
    · have hnot : ¬ c.state = .writingResponse := by
        intro hstate
        simp [reading, hstate] at hreading
      rw [hready, if_neg hnot]
      simp [Revents.isZero, hwork hreading]
    · rw [hready, if_pos hwriting]
      rfl
  have hmem : s.server.pollFd (.peer i) ∈ s.server.listener.handle := by
    rw [h.wired]
    exact List.mem_map_of_mem (hinv.mem_peer hc)
  have hhangup : ∀ handle, (s.readiness handle).hangup = false := fun _ => rfl
  have hconsistent : (MultiPollReturn.ready s.ready).consistent s.server.listener.handle = true := by
    simp only [MultiPollReturn.consistent, ready, Bool.and_eq_true, List.length_map,
      beq_self_eq_true, true_and, ← List.map_prod_left_eq_zip, List.any_map, List.all_map,
      List.all_eq_true]
    refine ⟨List.any_eq_true.mpr ⟨_, hmem, by simpa using hzero⟩, fun handle _ => ?_⟩
    simp only [Function.comp_apply, Revents.allowedBy, readiness]
    cases handle.events.pollin <;> cases handle.events.pollout <;> simp
  have hanswers : s.answers (.poll (.ready s.ready)) = true := by
    simp only [answers, ready, ← List.map_prod_left_eq_zip, List.all_map, List.all_eq_true]
    intro handle _
    simp [ReceiveQueue.polls, hhangup]
  refine ⟨.server (.poll (.ready s.ready)), { s with server := s.server.poll (.ready s.ready) }, ?_⟩
  have hprompt : s.prompt (.server (.poll (.ready s.ready))) = true := by
    simp only [prompt, ready, ← List.map_prod_left_eq_zip, List.all_map, List.all_eq_true]
    intro handle _
    simp [Revents.within, hhangup]
  rw [promptStep, if_pos hprompt, RequestStreams.step, if_pos hanswers, RequestServer.step, hloop]
  simp only [h.running, hconsistent, Bool.and_self, if_true, Option.map_some]

theorem Working.exists_dispatch (hservice : Serviceable handler configuration.pduSize)
    (hheader : handler.getHeaderSize < 2 ^ 31) (hpdu : configuration.pduSize < 2 ^ 31)
    (h : Working handler configuration s₀ s) {p : ContextPtr} {rest : List ContextPtr}
    (hloop : s.server.loop = .running (p :: rest)) (hdue : s.Due p) :
    ∃ label s', promptStep handler configuration s label = some s' := by
  -- what the branch of the context serves is what the step does
  have hstep : ∀ a server, s.prompt (.server (.dispatch a)) = true →
      s.answers (.dispatch a) = true →
      { s.server with loop := .running rest }.dispatch handler configuration p a = some server →
        ∃ label s', promptStep handler configuration s label = some s' := by
    intro a server hprompt hanswers hdispatch
    refine ⟨.server (.dispatch a), { s with server := server }, ?_⟩
    rw [promptStep, if_pos hprompt, RequestStreams.step, if_pos hanswers, RequestServer.step, hloop]
    simp only [hdispatch, Option.map_some]
  cases hdue with
  | @read i id c hc hid htype hreading hunread =>
    obtain ⟨hsound, hassembling⟩ := h.fed.each.live i c id hc hid
    obtain ⟨byte, more, hbytes⟩ := List.exists_cons_of_ne_nil hunread
    obtain ⟨r, hr⟩ := exists_serveRead hservice hheader hpdu hsound hassembling hreading byte .empty
    refine hstep { recv := .data [byte] } ({ s.server with loop := .running rest }.served i c id r)
      ?_ ?_ ?_
    · simp [prompt, hloop, peer?_peer hc hid, htype, RecvReturn.bytes]
    · have hfront : (s.queues id).unread (s.server.logs id).consumed = byte :: more := hbytes
      simp [answers, hloop, peer?_peer hc hid, ReceiveQueue.answers, hfront]
    · simp [RequestServer.dispatch, RequestServer.context?, hc, htype, RequestServer.serve, hid, hr]
  | @write i id c hc hid htype hwriting =>
    obtain ⟨hsound, -⟩ := h.fed.each.live i c id hc hid
    obtain ⟨count, r, hmoves, hr⟩ := exists_serveWrite hsound hwriting (s.server.logs id)
    refine hstep { send := .sent count } ({ s.server with loop := .running rest }.served i c id r)
      ?_ ?_ ?_
    · simpa [prompt, hloop, peer?_peer hc hid, htype] using hmoves
    · simp [answers, hloop, peer?_peer hc hid, htype]
    · simp [RequestServer.dispatch, RequestServer.context?, hc, htype, RequestServer.serve, hid, hr]

/-! ### Runs -/

theorem Working.answered (hservice : Serviceable handler configuration.pduSize)
    (h : Working handler configuration s₀ s) (hloop : s.server.loop = .running [])
    (hrest : s.Rest) : Answered handler s₀ s := by
  have hlive : ∀ i c₀, s₀.server.pool.objects i = some c₀ →
      ∃ c, s.server.pool.objects i = some c ∧ c.socket = c₀.socket := by
    intro i c₀ hc₀
    have hsocket := h.sockets i
    rw [hc₀, Option.map_some] at hsocket
    obtain ⟨c, hc, hsame⟩ := Option.map_eq_some_iff.mp hsocket
    exact ⟨c, hc, hsame⟩
  have hconnection : ∀ i c₀ id, s₀.server.pool.objects i = some c₀ →
      s₀.server.kernel.connectionAt c₀.socket.socket = some id →
        ∃ c, Assembling handler c (s.server.logs id) ∧ c.reading = true ∧ s.unread id = [] := by
    intro i c₀ id hc₀ hid₀
    obtain ⟨c, hc, hsame⟩ := hlive i c₀ hc₀
    have hid : s.server.kernel.connectionAt c.socket.socket = some id := by
      rw [h.kernel, hsame]
      exact hid₀
    exact ⟨c, (h.fed.each.live i c id hc hid).2, hrest i c id hc hid⟩
  refine ⟨hloop, hlive, fun i c₀ id hc₀ hid₀ => ?_, fun i c₀ id hc₀ hid₀ => ?_⟩
  · obtain ⟨c, -, -, hunread⟩ := hconnection i c₀ id hc₀ hid₀
    have hall : (s.server.logs id).consumed = (s₀.queues id).arrived := by
      rw [← h.queues]
      have hle : (s.queues id).arrived.length ≤ (s.server.logs id).consumed.length :=
        List.drop_eq_nil_iff.mp hunread
      exact (h.fed.consumed id).eq_of_length_le hle
    rw [(h.fed.framed hservice id).calls, hall]
  · obtain ⟨c, hassembling, hreading, -⟩ := hconnection i c₀ id hc₀ hid₀
    exact hassembling.sent_eq hreading

/-- **Progress.**  From the top of the loop of any run, when poll reports some of what is ready and
    each transfer moves at least one byte, the server comes to a state in which every complete
    request that had arrived is handled and every response sent in full, whatever the handler
    answers, whichever connections are reported first and however the bytes are cut. -/
theorem inevitably_answered (hservice : Serviceable handler configuration.pduSize)
    (hheader : handler.getHeaderSize < 2 ^ 31) (hpdu : configuration.pduSize < 2 ^ 31) {fd : Int}
    {labels : List Label} (hexec : exec (step handler configuration) (opened fd) labels = some s₀)
    (hloop : s₀.server.loop = .running []) (hrunning : s₀.server.isRunning = true) :
    Inevitable (promptStep handler configuration) (Answered handler s₀) s₀ := by
  obtain ⟨hfed, hwired⟩ : s₀.Fed handler configuration ∧ RequestServer.Wired s₀.server := by
    refine exec_invariant
      (I := fun s => s.Fed handler configuration ∧ RequestServer.Wired s.server) ?_ hexec
      ⟨fed_opened hservice fd, RequestServer.wired_opened fd⟩
    rintro s label s' ⟨hfed, hwired⟩ hstep
    exact ⟨(hfed.step hservice hstep).1, wired_step hfed hwired hstep⟩
  have hstart : Working handler configuration s₀ s₀ :=
    ⟨hfed, hwired, hrunning, rfl, rfl, fun _ => rfl, [], hloop, by simp⟩
  refine @inevitable_of_measure _ _ _ (Working handler configuration s₀) (Answered handler s₀)
    progress ?_ ?_ s₀ hstart
  · intro s h
    obtain ⟨batch, hbatch, hdue⟩ := h.due
    cases batch with
    | nil =>
      by_cases hrest : s.Rest
      · exact .inl (h.answered hservice hbatch hrest)
      · exact .inr (h.exists_poll hbatch hrest)
    | cons p rest =>
      exact .inr (h.exists_dispatch hservice hheader hpdu hbatch (hdue p List.mem_cons_self))
  · intro s label s' h hstep
    exact .inr (h.step hservice hstep)

open RequestServer (bytePdu)

/-- Two requests and the beginning of a third arrive at once. -/
def pipelined : List Label :=
  [.server (.poll (.ready [{ pollin := true }])),
   .server (.dispatch { accept := { descriptor := 4 } }),
   .arrive 0 [1, 7, 0, 2, 8]]

theorem pipelined_inevitably_answered :
    ∃ s, exec (step byteHandler bytePdu) (opened 3) pipelined = some s ∧
      byteHandler.format.frames (s.queues 0).arrived = [⟨[1], [7]⟩, ⟨[0], []⟩] ∧
      Inevitable (promptStep byteHandler bytePdu) (Answered byteHandler s) s := by
  refine ⟨_, rfl, rfl, ?_⟩
  exact @inevitably_answered byteHandler bytePdu _ serviceable_byteHandler (by decide) (by decide) 3 pipelined rfl
    rfl rfl

end RequestStreams

end SecuritySocket
