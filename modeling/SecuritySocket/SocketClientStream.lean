import SecuritySocket.SocketClientRead
import SecuritySocket.SocketConnection

/-!
# What `SocketClient::read` delivers

A connection of a client with the buffers its reads were given, one call after the other.
A call that returns success has placed the next bytes of the stream at the start of its
buffer and counts them in its result; a call that returns anything else has taken nothing.
So the calls that succeeded, put together, are the front of what the peer has sent.

The loop of `read` is over as soon as the transport has delivered something, and until
then nothing has been taken: this is what carries the proof.
-/

namespace SecuritySocket.SocketClient

open FixedWidth Transition

/-- The arguments of a call of `read`: a size an `int32_t` can hold, and a buffer with room for
    it. -/
structure ReadRequest where
  size : Nat
  buffer : List UInt8
  size_pos : 1 ≤ size
  size_lt : size < 2 ^ 31
  size_le : size ≤ buffer.length
deriving DecidableEq, Repr

/-- A call of `read` under way: what its buffer holds by now, and what had been taken from the
    stream when it was called. -/
structure ReadCall where
  request : ReadRequest
  buffer : List UInt8
  before : List UInt8
  loop : ReadLoop := {}
deriving DecidableEq, Repr

structure ReadDelivery where
  request : ReadRequest
  result : SocketResult
  buffer : List UInt8
  before : List UInt8
  after : List UInt8
deriving DecidableEq, Repr

/-- What the caller finds: after a success, `bytes()` bytes from the start of its buffer. -/
def ReadDelivery.received (d : ReadDelivery) : List UInt8 :=
  if d.result.code = .success then d.buffer.take d.result.bytes.toNat else []

/-- A connection, what has been taken from its stream, the call under way, and those that have
    returned. -/
structure ClientStream where
  queue : ReceiveQueue := {}
  consumed : List UInt8 := []
  call : Option ReadCall := none
  returns : List ReadDelivery := []
deriving DecidableEq, Repr

namespace ClientStream

def received (s : ClientStream) : List UInt8 := s.returns.flatMap ReadDelivery.received

def atTest (s : ClientStream) (maxRetries : Nat) (c : ReadCall) : ClientStream :=
  if c.loop.running maxRetries then { s with call := some c }
  else
    { s with
      call := none
      returns := s.returns ++ [⟨c.request, c.loop.result, c.buffer, c.before, s.consumed⟩] }

def deliver (s : ClientStream) (bytes : List UInt8) : ClientStream :=
  { s with consumed := s.consumed ++ bytes }

/-- The receive queue can answer the transport call of an iteration, if it comes to one. -/
def answers (s : ClientStream) (size : Nat) (round : ReadRound) : Bool :=
  !round.reads || s.queue.answersClient s.consumed size round.transport

inductive Label where
  | arrive (bytes : List UInt8)
  | finish
  | call (request : ReadRequest)
  | round (round : ReadRound)
deriving DecidableEq, Repr

end ClientStream

def ReadRound.delivered (round : ReadRound) : List UInt8 :=
  if round.reads then round.transport.bytes else []

namespace ClientStream

def step (tls : Bool) (maxRetries : Nat) (s : ClientStream) : Label → Option ClientStream
  | .arrive bytes => (s.queue.arrive bytes).map fun queue => { s with queue := queue }
  | .finish => some { s with queue := s.queue.finish }
  | .call request =>
    match s.call with
    | none => some (s.atTest maxRetries ⟨request, request.buffer, s.consumed, {}⟩)
    | some _ => none
  | .round round =>
    match s.call with
    | none => none
    | some c =>
      if s.answers c.request.size round then
        (readStep tls maxRetries c.request.size c.loop round).map fun loop =>
          (s.deliver round.delivered).atTest maxRetries
            { c with buffer := place c.buffer 0 round.delivered, loop := loop }
      else none

end ClientStream

/-- A call did what it says: a success placed the next bytes of the stream at the start of the
    buffer, left the rest of the buffer alone and took these bytes from the stream; anything else
    took nothing. -/
structure ReadDelivery.Faithful (d : ReadDelivery) (arrived : List UInt8) : Prop where
  success : d.result.code = .success → ∃ bytes : List UInt8,
    d.result.bytes = bytes.length ∧ 1 ≤ bytes.length ∧ bytes.length ≤ d.request.size ∧
      d.buffer = bytes ++ d.request.buffer.drop bytes.length ∧ d.after = d.before ++ bytes
  failure : d.result.code ≠ .success → d.after = d.before
  inOrder : d.after <+: arrived

/-- Nothing lost and nothing invented: each call is faithful and begins in the stream where the
    calls before it ended, and all they delivered is the front of what has arrived. -/
structure ClientStream.Lossless (s : ClientStream) : Prop where
  each : ∀ earlier d, earlier ++ [d] <+: s.returns →
    d.before = earlier.flatMap ReadDelivery.received ∧ d.Faithful s.queue.arrived
  received : s.received = s.consumed
  inOrder : s.received <+: s.queue.arrived

variable {tls : Bool} {maxRetries size : Nat}

/-! ### One iteration -/

/-- **One iteration.**  Either it delivers: then the call is over, and its result counts what was
    delivered.  Or it delivers nothing, and the result is no success. -/
theorem readStep_delivered {l l' : ReadLoop} {round : ReadRound} (hsize : size < 2 ^ 31)
    (h : readStep tls maxRetries size l round = some l') :
    (l'.running maxRetries = false ∧ l'.result.code = .success ∧
        l'.result.bytes = round.delivered.length ∧ 1 ≤ round.delivered.length ∧
          round.delivered.length ≤ size) ∨
      (l'.result.code ≠ .success ∧ round.delivered = []) := by
  cases readStep_cases h with
  | timeout hrunning hcode =>
    exact .inr ⟨by simp [hcode], by simp [ReadRound.delivered, ReadRound.reads, hcode]⟩
  | transport hreads hfits =>
    rw [ReadRound.delivered, if_pos hreads]
    have hzero := ClientActiveSocket.read_bytes_eq_zero hfits
    unfold ReadLoop.transport
    dsimp only
    rcases ClientActiveSocket.read_cases hsize hfits with
      ⟨hsuccess, hbytes, hpos, hle⟩ | ⟨hfailure, hnone⟩
    · rw [if_neg (by omega)]
      simp [ReadLoop.running, hsuccess, hbytes, hle]
      omega
    · refine .inr ⟨?_, hnone⟩
      split
      · simp
      · split <;> simpa using hfailure
  | failed htimeout hreads =>
    have hsuccess : (SocketEventListener.wait round.poll).code ≠ .success := by
      simpa [ReadRound.reads] using hreads
    exact .inr ⟨hsuccess, by simp [ReadRound.delivered, hreads]⟩

/-! ### Placing and taking -/

/-- Bytes that fit are at the start of the buffer, and what lay behind them is still there. -/
theorem place_start {buffer bytes : List UInt8} (h : bytes.length ≤ buffer.length) :
    place buffer 0 bytes = bytes ++ buffer.drop bytes.length := by
  simp only [place, List.take_zero, List.nil_append, Nat.zero_add]
  apply List.take_of_length_le
  rw [List.length_append, List.length_drop]
  omega

theorem place_nil (buffer : List UInt8) : place buffer 0 [] = buffer := by
  simpa using @place_start buffer [] (Nat.zero_le _)

theorem ReceiveQueue.append_of_answersClient {q : ReceiveQueue} {consumed : List UInt8}
    {r : ClientReadReturn} (hconsumed : consumed <+: q.arrived)
    (h : q.answersClient consumed size r = true) : consumed ++ r.bytes <+: q.arrived := by
  obtain ⟨rest, hrest⟩ := hconsumed
  have hunread : q.unread consumed = rest := by rw [ReceiveQueue.unread, ← hrest, List.drop_left]
  have hfront : r.bytes <+: rest := by
    rw [← hunread]
    cases r with
    | plain r =>
      cases r with
      | data bytes => exact List.isPrefixOf_iff_prefix.mp h
      | closed => exact List.nil_prefix
      | error errno => exact List.nil_prefix
    | tls bytes ret failure =>
      simp only [ReceiveQueue.answersClient, Bool.and_eq_true] at h
      exact List.isPrefixOf_iff_prefix.mp h.1
  rw [← hrest]
  exact (List.prefix_append_right_inj consumed).mpr hfront

namespace ReadDelivery

variable {arrived : List UInt8}

theorem Faithful.after_eq {d : ReadDelivery} (h : d.Faithful arrived) :
    d.after = d.before ++ d.received := by
  unfold received
  split
  · rename_i hsuccess
    obtain ⟨bytes, hbytes, -, -, hbuffer, hafter⟩ := h.success hsuccess
    rw [hafter, hbuffer, hbytes, Int.toNat_natCast, List.take_left]
  · rename_i hfailure
    rw [h.failure hfailure, List.append_nil]

theorem Faithful.mono {d : ReadDelivery} (h : d.Faithful arrived) (bytes : List UInt8) :
    d.Faithful (arrived ++ bytes) :=
  { h with inOrder := h.inOrder.trans (List.prefix_append _ _) }

end ReadDelivery

/-! ### Runs -/

namespace ClientStream

variable {s s' : ClientStream}

/-- Everything a step can do: an iteration delivers and ends its call, or delivers nothing. -/
inductive Move (maxRetries : Nat) (s : ClientStream) : Label → ClientStream → Prop where
  | arrived {bytes : List UInt8} {queue : ReceiveQueue}
      (harrived : queue.arrived = s.queue.arrived ++ bytes) :
      Move maxRetries s (.arrive bytes) { s with queue := queue }
  | finished : Move maxRetries s .finish { s with queue := s.queue.finish }
  | called {request : ReadRequest} (hcall : s.call = none) :
      Move maxRetries s (.call request)
        (s.atTest maxRetries ⟨request, request.buffer, s.consumed, {}⟩)
  | delivered {c : ReadCall} {round : ReadRound} {l : ReadLoop} (hcall : s.call = some c)
      (hanswers : s.answers c.request.size round = true) (hover : l.running maxRetries = false)
      (hsuccess : l.result.code = .success) (hbytes : l.result.bytes = round.delivered.length)
      (hpos : 1 ≤ round.delivered.length) (hle : round.delivered.length ≤ c.request.size) :
      Move maxRetries s (.round round) ((s.deliver round.delivered).atTest maxRetries
        { c with buffer := place c.buffer 0 round.delivered, loop := l })
  | idled {c : ReadCall} {round : ReadRound} {l : ReadLoop} (hcall : s.call = some c)
      (hfailure : l.result.code ≠ .success) :
      Move maxRetries s (.round round) (s.atTest maxRetries { c with loop := l })

theorem step_cases {label : Label} (hstep : step tls maxRetries s label = some s') :
    Move maxRetries s label s' := by
  cases label with
  | arrive bytes =>
    obtain ⟨queue, hqueue, rfl⟩ := Option.map_eq_some_iff.mp hstep
    refine .arrived ?_
    unfold ReceiveQueue.arrive at hqueue
    split at hqueue
    · cases hqueue
    · cases hqueue
      rfl
  | finish =>
    cases hstep
    exact .finished
  | call request =>
    simp only [ClientStream.step] at hstep
    split at hstep
    · rename_i hcall
      cases hstep
      exact .called hcall
    · cases hstep
  | round round =>
    simp only [ClientStream.step] at hstep
    split at hstep
    · cases hstep
    · rename_i c hcall
      split at hstep
      · rename_i hanswers
        obtain ⟨l, hl, rfl⟩ := Option.map_eq_some_iff.mp hstep
        rcases readStep_delivered c.request.size_lt hl with
          ⟨hover, hsuccess, hbytes, hpos, hle⟩ | ⟨hfailure, hnone⟩
        · exact .delivered hcall hanswers hover hsuccess hbytes hpos hle
        · rw [deliver, hnone, List.append_nil, place_nil]
          exact .idled hcall hfailure
      · cases hstep

theorem prefix_of_answers (hconsumed : s.consumed <+: s.queue.arrived) {round : ReadRound}
    (hanswers : s.answers size round = true) : s.consumed ++ round.delivered <+: s.queue.arrived := by
  unfold ReadRound.delivered
  split
  · rename_i hreads
    simp only [answers, hreads, Bool.not_true, Bool.false_or] at hanswers
    exact ReceiveQueue.append_of_answersClient hconsumed hanswers
  · rwa [List.append_nil]

/-- A lossless connection; the call under way has not taken anything yet. -/
structure Flowing (s : ClientStream) : Prop extends s.Lossless where
  call : ∀ c, s.call = some c → c.before = s.consumed ∧ c.buffer = c.request.buffer

theorem Lossless.arrive (h : s.Lossless) {bytes : List UInt8} {queue : ReceiveQueue}
    (hqueue : queue.arrived = s.queue.arrived ++ bytes) :
    Lossless { s with queue := queue } := by
  refine ⟨fun earlier d hd => ?_, h.received, ?_⟩
  · obtain ⟨hbefore, hfaithful⟩ := h.each earlier d hd
    exact ⟨hbefore, by rw [hqueue]; exact hfaithful.mono bytes⟩
  · simp only [hqueue]
    exact h.inOrder.trans (List.prefix_append _ _)

theorem Lossless.return (h : s.Lossless) {d : ReadDelivery} (hbefore : d.before = s.consumed)
    (hfaithful : d.Faithful s.queue.arrived) :
    Lossless { s with consumed := d.after, call := none, returns := s.returns ++ [d] } := by
  have hreceived : (s.returns ++ [d]).flatMap ReadDelivery.received = d.after := by
    rw [List.flatMap_append, hfaithful.after_eq, hbefore, ← h.received]
    simp [ClientStream.received]
  refine ⟨fun earlier d' hd' => ?_, hreceived, ?_⟩
  · rcases List.prefix_concat_iff.mp hd' with hlast | hearlier
    · obtain ⟨rfl, hsame⟩ := List.append_inj' hlast rfl
      cases List.singleton_inj.mp hsame
      exact ⟨hbefore.trans h.received.symm, hfaithful⟩
    · exact h.each earlier d' hearlier
  · simp only [ClientStream.received, hreceived]
    exact hfaithful.inOrder

theorem Flowing.goesOn (h : s.Lossless) {c : ReadCall} (hbefore : c.before = s.consumed)
    (hbuffer : c.buffer = c.request.buffer) (hrunning : c.loop.running maxRetries = true) :
    (s.atTest maxRetries c).Flowing := by
  rw [atTest, if_pos hrunning]
  refine ⟨⟨h.each, h.received, h.inOrder⟩, fun c' hc' => ?_⟩
  cases Option.some.inj hc'
  exact ⟨hbefore, hbuffer⟩

theorem Flowing.delivers (h : s.Flowing) {c : ReadCall} (hcall : s.call = some c)
    {round : ReadRound} (hanswers : s.answers c.request.size round = true) {l : ReadLoop}
    (hover : l.running maxRetries = false) (hsuccess : l.result.code = .success)
    (hbytes : l.result.bytes = round.delivered.length) (hpos : 1 ≤ round.delivered.length)
    (hle : round.delivered.length ≤ c.request.size) :
    ((s.deliver round.delivered).atTest maxRetries
      { c with buffer := place c.buffer 0 round.delivered, loop := l }).Flowing := by
  obtain ⟨hbefore, hbuffer⟩ := h.call c hcall
  have hfront := prefix_of_answers (h.received ▸ h.inOrder) hanswers
  have hfits : round.delivered.length ≤ c.buffer.length := by
    rw [hbuffer]
    exact Nat.le_trans hle c.request.size_le
  have hfaithful : ReadDelivery.Faithful ⟨c.request, l.result, place c.buffer 0 round.delivered,
      c.before, s.consumed ++ round.delivered⟩ s.queue.arrived := by
    refine ⟨fun _ => ⟨round.delivered, hbytes, hpos, hle, ?_, ?_⟩, fun hnot => ?_, hfront⟩
    · rw [place_start hfits, hbuffer]
    · rw [hbefore]
    · exact absurd hsuccess hnot
  rw [atTest, if_neg (by simp [hover])]
  refine ⟨h.toLossless.return hbefore hfaithful, fun c' hc' => ?_⟩
  cases hc'

/-- An iteration that delivers nothing leaves the stream alone, whether its call goes on or
    not. -/
theorem Flowing.idles (h : s.Flowing) {c : ReadCall} (hcall : s.call = some c) {l : ReadLoop}
    (hfailure : l.result.code ≠ .success) :
    (s.atTest maxRetries { c with loop := l }).Flowing := by
  obtain ⟨hbefore, hbuffer⟩ := h.call c hcall
  by_cases hrunning : l.running maxRetries = true
  · exact Flowing.goesOn h.toLossless hbefore hbuffer hrunning
  · have hconsumed : s.consumed <+: s.queue.arrived := h.received ▸ h.inOrder
    have hfaithful : ReadDelivery.Faithful ⟨c.request, l.result, c.buffer, c.before, s.consumed⟩
        s.queue.arrived :=
      ⟨fun hsuccess => absurd hsuccess hfailure, fun _ => hbefore.symm, hconsumed⟩
    rw [atTest, if_neg hrunning]
    refine ⟨h.toLossless.return hbefore hfaithful, fun c' hc' => ?_⟩
    cases hc'

theorem Flowing.step (hretries : 1 ≤ maxRetries) (h : s.Flowing) {label : Label}
    (hstep : step tls maxRetries s label = some s') : s'.Flowing := by
  cases step_cases hstep with
  | arrived harrived => exact ⟨h.toLossless.arrive harrived, h.call⟩
  | finished => exact ⟨⟨h.each, h.received, h.inOrder⟩, h.call⟩
  | called hcall => exact Flowing.goesOn h.toLossless rfl rfl (ReadLoop.running_start hretries)
  | delivered hcall hanswers hover hsuccess hbytes hpos hle =>
    exact h.delivers hcall hanswers hover hsuccess hbytes hpos hle
  | idled hcall hfailure => exact h.idles hcall hfailure

/-- **Reading a stream.**  In every state a run of calls of `read` reaches, each call has returned
    a success with at least one and at most `size` bytes, which are the next of the stream at
    the start of its buffer, or has taken nothing; all that was delivered is the front of what
    has arrived. -/
theorem read_lossless (tls : Bool) (hretries : 1 ≤ maxRetries) {labels : List Label}
    (hexec : exec (step tls maxRetries) {} labels = some s) : s.Lossless := by
  have hstart : Flowing {} := by
    refine ⟨⟨fun earlier d hd => ?_, rfl, List.nil_prefix⟩, fun c hc => ?_⟩
    · simp at hd
    · cases hc
  exact (exec_invariant (fun _ _ _ h hstep => Flowing.step hretries h hstep) hexec
    hstart).toLossless

def retriedReads : List Label :=
  let wakeup : PollReturn := .ready { pollin := true } none
  [.arrive [1, 2], .call ⟨2, [0, 0, 0], by decide, by decide, by decide⟩,
   .round ⟨.timeout, .plain .closed⟩, .round ⟨wakeup, .plain (.error .ewouldblock)⟩,
   .arrive [3], .round ⟨wakeup, .plain (.data [1, 2])⟩,
   .call ⟨3, [0, 0, 0], by decide, by decide, by decide⟩, .round ⟨wakeup, .plain (.data [3])⟩,
   .finish, .call ⟨3, [7, 7, 7], by decide, by decide, by decide⟩,
   .round ⟨wakeup, .plain .closed⟩]

theorem read_lossless_retried : ∃ s, exec (step false 3) {} retriedReads = some s ∧
    s.received = [1, 2, 3] ∧ s.Lossless := by
  have hruns : (exec (step false 3) {} retriedReads).map received = some [1, 2, 3] := by decide
  obtain ⟨s, hs, hreceived⟩ := Option.map_eq_some_iff.mp hruns
  exact ⟨s, hs, hreceived, read_lossless false (by decide) hs⟩

end ClientStream

end SecuritySocket.SocketClient
