import SecuritySocket.ReadChannels
import SecuritySocket.RequestServerTraffic
import SecuritySocket.SocketClientOutput

/-!
# The request server and its clients

The server and the client of every connection, over a network that carries the bytes of each
direction in order: what arrives at one end is the front of what the other end's transport has
taken.  A client calls `read` and `write` as it likes, and its iterations, the steps of the server,
arrivals and closes interleave freely.

The parts are proved on their own: a server that frames its streams, reads that lose nothing and
writes that are contiguous.  `Linked` puts them together along the two channels of a connection,
so that the handler is called with the requests the client wrote, and the client reads what the
handler answered to them.
-/

namespace SecuritySocket

open Transition SocketClient

/-- The server with its receive queues, and for each connection the reads and the writes of its
    client. -/
structure RequestSystem where
  streams : RequestStreams
  reads : Nat → ClientStream
  writes : Nat → ClientWrites

namespace RequestSystem

/-- A server that enters its loop listening on `fd`, before anything is written. -/
def opened (fd : Int) : RequestSystem where
  streams := .opened fd
  reads _ := {}
  writes _ := {}

inductive Label where
  | server (label : RequestStreams.Label)
  | reads (id : Nat) (label : ClientStream.Label)
  | writes (id : Nat) (label : ClientWrites.Label)

/-- The network carries what was sent, in order. -/
def carries (s : RequestSystem) : Label → Bool
  | .server (.arrive id bytes) =>
    ((s.streams.queues id).arrived ++ bytes).isPrefixOf (s.writes id).sent
  | .reads id label => (s.reads id).carries (s.streams.server.logs id).sent label
  | .server (.server _) | .server (.finish _) | .writes _ _ => true

def step (handler : SocketRequestHandler) (configuration : SocketConfiguration)
    (s : RequestSystem) (label : Label) : Option RequestSystem :=
  if s.carries label then
    match label with
    | .server label =>
      (s.streams.step handler configuration label).map fun streams => { s with streams := streams }
    | .reads id label =>
      ((s.reads id).step false configuration.maxRetries label).map fun reader =>
        { s with reads := Function.update s.reads id reader }
    | .writes id label =>
      ((s.writes id).step false configuration.maxRetries label).map fun writer =>
        { s with writes := Function.update s.writes id writer }
  else none

/-- The step is a transport call of a client's `write` that would block with a negative return. -/
def Label.wouldBlock : Label → Bool
  | .server _ => false
  | .reads _ _ => false
  | .writes _ label => label.wouldBlock

/-- Connection `id` is at rest: its client is not writing, what the client has sent is consumed, the
    server waits for the next request, and the client has read all that was answered. -/
structure Settled (s : RequestSystem) (id : Nat) : Prop where
  written : (s.writes id).call = none
  consumed : (s.streams.server.logs id).consumed = (s.writes id).sent
  answered : ∃ i c, s.streams.server.pool.objects i = some c ∧
    s.streams.server.kernel.connectionAt c.socket.socket = some id ∧ c.reading = true
  read : (s.reads id).consumed = (s.streams.server.logs id).sent

/-- The requests handled on a connection are the first of those its client wrote, in order and each
    once, and the bytes its client has read are the first of their responses.  At rest neither
    side misses anything. -/
structure Exchanged (handler : SocketRequestHandler) (s : RequestSystem) (id : Nat) : Prop where
  requests : (s.streams.server.logs id).calls.map HandlerCall.frame <+:
    handler.format.frames (s.writes id).offered
  responses : (s.reads id).received <+: responses (s.streams.server.logs id).calls
  answers : ∀ answer : Framing.Frame UInt8 → List UInt8,
    (∀ call ∈ (s.streams.server.logs id).calls, call.response = answer call.frame) →
      (s.reads id).received <+:
        (handler.format.frames (s.writes id).offered).flatMap answer
  settled : s.Settled id →
    (s.streams.server.logs id).calls.map HandlerCall.frame =
        handler.format.frames (s.writes id).written ∧
      (s.reads id).received = SecuritySocket.responses (s.streams.server.logs id).calls

end RequestSystem

/-! ### The channels -/

theorem RequestStreams.arrived_step {handler : SocketRequestHandler}
    {configuration : SocketConfiguration} {s s' : RequestStreams} {label : RequestStreams.Label}
    (hother : ∀ id bytes, label ≠ .arrive id bytes)
    (hstep : RequestStreams.step handler configuration s label = some s') (id : Nat) :
    (s'.queues id).arrived = (s.queues id).arrived := by
  cases label with
  | arrive id' bytes => exact absurd rfl (hother id' bytes)
  | finish id' =>
    cases hstep
    by_cases hsame : id = id'
    · subst hsame
      simp [ReceiveQueue.finish]
    · simp [hsame]
  | server label =>
    simp only [RequestStreams.step] at hstep
    split at hstep
    · obtain ⟨server, -, rfl⟩ := Option.map_eq_some_iff.mp hstep
      rfl
    · cases hstep

namespace RequestSystem

variable {handler : SocketRequestHandler} {configuration : SocketConfiguration}
  {s s' : RequestSystem}

structure Linked (handler : SocketRequestHandler) (configuration : SocketConfiguration)
    (s : RequestSystem) : Prop where
  fed : s.streams.Fed handler configuration
  reading : Reading s.reads fun id => (s.streams.server.logs id).sent
  writing : ∀ id, (s.writes id).Flowing configuration.maxRetries
  requests : ∀ id, (s.streams.queues id).arrived <+: (s.writes id).sent

theorem linked_opened (hservice : Serviceable handler configuration.pduSize) (fd : Int) :
    Linked handler configuration (opened fd) where
  fed := RequestStreams.fed_opened hservice fd
  reading := reading_start
  writing _ := ClientWrites.flowing_start
  requests _ := List.nil_prefix

theorem Linked.server (hservice : Serviceable handler configuration.pduSize)
    (h : Linked handler configuration s) {label : RequestStreams.Label}
    (hcarries : s.carries (.server label) = true) {streams : RequestStreams}
    (hstep : s.streams.step handler configuration label = some streams) :
    Linked handler configuration { s with streams := streams } := by
  obtain ⟨hfed, hextends⟩ := h.fed.step hservice hstep
  refine ⟨hfed, h.reading.grown fun id => (hextends id).sent, h.writing, fun id => ?_⟩
  by_cases harrival : ∃ id' bytes, label = .arrive id' bytes
  · obtain ⟨id', bytes, rfl⟩ := harrival
    obtain ⟨queue, hqueue, rfl⟩ := Option.map_eq_some_iff.mp hstep
    refine (Function.forall_update_iff s.streams.queues
      fun id q => q.arrived <+: (s.writes id).sent).mpr ⟨?_, fun id _ => h.requests id⟩ id
    rw [ReceiveQueue.arrived_arrive hqueue]
    exact List.isPrefixOf_iff_prefix.mp hcarries
  · have hother : ∀ id' bytes, label ≠ .arrive id' bytes :=
      fun id' bytes heq => harrival ⟨id', bytes, heq⟩
    simp only [RequestStreams.arrived_step hother hstep id]
    exact h.requests id

theorem Linked.write (hretries : 1 ≤ configuration.maxRetries)
    (h : Linked handler configuration s) {id : Nat} {label : ClientWrites.Label}
    (hfree : label.wouldBlock = false) {writer : ClientWrites}
    (hstep : (s.writes id).step false configuration.maxRetries label = some writer) :
    Linked handler configuration { s with writes := Function.update s.writes id writer } := by
  refine ⟨h.fed, h.reading, ?_, ?_⟩
  · refine (Function.forall_update_iff s.writes
      fun _ w => w.Flowing configuration.maxRetries).mpr ⟨?_, fun id _ => h.writing id⟩
    exact (h.writing id).step hretries hfree hstep
  · refine (Function.forall_update_iff s.writes
      fun id w => (s.streams.queues id).arrived <+: w.sent).mpr ⟨?_, fun id _ => h.requests id⟩
    exact (h.requests id).trans (ClientWrites.sent_step hstep)

theorem Linked.step (hservice : Serviceable handler configuration.pduSize)
    (hretries : 1 ≤ configuration.maxRetries) (h : Linked handler configuration s) {label : Label}
    (hfree : label.wouldBlock = false) (hstep : step handler configuration s label = some s') :
    Linked handler configuration s' := by
  unfold RequestSystem.step at hstep
  split at hstep
  · rename_i hcarries
    cases label with
    | server label =>
      obtain ⟨streams, hstreams, rfl⟩ := Option.map_eq_some_iff.mp hstep
      exact h.server hservice hcarries hstreams
    | reads id label =>
      obtain ⟨reader, hreader, rfl⟩ := Option.map_eq_some_iff.mp hstep
      exact ⟨h.fed, h.reading.step hcarries hreader, h.writing, h.requests⟩
    | writes id label =>
      obtain ⟨writer, hwriter, rfl⟩ := Option.map_eq_some_iff.mp hstep
      exact h.write hretries hfree hwriter
  · cases hstep

theorem Linked.consumed (h : Linked handler configuration s) (id : Nat) :
    (s.streams.server.logs id).consumed <+: (s.writes id).sent :=
  (h.fed.consumed id).trans (h.requests id)

theorem Linked.exchanged (hservice : Serviceable handler configuration.pduSize)
    (h : Linked handler configuration s) (id : Nat) : Exchanged handler s id := by
  have hcontiguous := (h.writing id).contiguous
  have hframed := h.fed.framed hservice id
  have hrequests : (s.streams.server.logs id).calls.map HandlerCall.frame <+:
      handler.format.frames (s.writes id).offered := by
    rw [hframed.calls]
    exact handler.format.frames_prefix hservice.headerSize_pos
      ((h.consumed id).trans hcontiguous.sent_offered)
  have hresponses : (s.reads id).received <+:
      SecuritySocket.responses (s.streams.server.logs id).calls :=
    (h.reading.received id).trans hframed.sent
  refine ⟨hrequests, hresponses, fun answer hanswer => ?_, fun hsettled => ⟨?_, ?_⟩⟩
  · obtain ⟨later, hlater⟩ := hrequests
    have hsame : SecuritySocket.responses (s.streams.server.logs id).calls =
        ((s.streams.server.logs id).calls.map HandlerCall.frame).flatMap answer := by
      rw [SecuritySocket.responses, List.flatMap_map, List.map_congr_left hanswer, List.flatMap_def]
    rw [← hlater, List.flatMap_append, ← hsame]
    exact hresponses.trans (List.prefix_append _ _)
  · rw [hframed.calls, hsettled.consumed, hcontiguous.sent_eq hsettled.written]
  · obtain ⟨i, c, hc, hid, hreading⟩ := hsettled.answered
    obtain ⟨-, hassembling⟩ := h.fed.each.live i c id hc hid
    rw [(h.reading.ordered id).received, hsettled.read, hassembling.sent_eq hreading]

/-- **Requests and responses, end to end.**  In every state of a run in which no transport call of a
    client's `write` would block with a negative return, on every connection the handler has been
    called with the first of the requests its client wrote, and the client has read the first of
    the responses; a connection at rest has exchanged them all. -/
theorem exchanged_of_unblocked (hservice : Serviceable handler configuration.pduSize)
    (hretries : 1 ≤ configuration.maxRetries) {fd : Int} {labels : List Label}
    (hexec : exec (step handler configuration) (opened fd) labels = some s)
    (hfree : ∀ label ∈ labels, label.wouldBlock = false) (id : Nat) : Exchanged handler s id := by
  have hlinked : Linked handler configuration s :=
    exec_invariant_of_meets
      (fun s label s' h (hfree : label.wouldBlock = false) hstep =>
        Linked.step hservice hretries h hfree hstep)
      hexec (meets_of_forall_label hfree) (linked_opened hservice fd)
  exact hlinked.exchanged hservice id

open SocketConnection (byteHandler)
open RequestServer (bytePdu)

/-- A client writes a request of two bytes, the server answers with one, and the client reads it. -/
def exchange : List Label :=
  let poll (revents : List Revents) : Label := .server (.server (.poll (.ready revents)))
  let dispatch (a : Answer) : Label := .server (.server (.dispatch a))
  [poll [{ pollin := true }], dispatch { accept := { descriptor := 4 } },
   .writes 0 (.call (.short 1 fun i => if i = 0 then 1 else 7)),
   .writes 0 (.round ⟨.ready { pollout := true } none, .plain (.sent 2)⟩),
   .server (.arrive 0 [1, 7]),
   poll [{}, { pollin := true }], dispatch { recv := .data [1] },
   poll [{}, { pollin := true }],
   dispatch { recv := .data [7],
              response := .short 0 fun i => UInt8.ofNat (9 + i) },
   poll [{}, { pollout := true }], dispatch { send := .sent 1 },
   .reads 0 (.arrive [9]),
   .reads 0 (.call (.short 3)),
   .reads 0 (.round ⟨.ready { pollin := true } none, .plain (.data [9])⟩)]

set_option maxRecDepth 4000 in
theorem exchange_exchanged : ∃ s, exec (step byteHandler bytePdu) (opened 3) exchange = some s ∧
    s.Settled 0 ∧ (s.writes 0).written = [1, 7] ∧ (s.reads 0).received = [9] ∧
      Exchanged byteHandler s 0 := by
  refine ⟨_, rfl, ⟨rfl, rfl, ⟨0, _, rfl, rfl, rfl⟩, rfl⟩, rfl, rfl, ?_⟩
  exact @exchanged_of_unblocked byteHandler bytePdu _ serviceable_byteHandler (by decide) 3 exchange rfl
    (by decide) 0

end RequestSystem

end SecuritySocket
