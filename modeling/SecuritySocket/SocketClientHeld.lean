import SecuritySocket.ReceiveQueue
import SecuritySocket.SocketClientConnect
import SecuritySocket.SocketClientRead

/-!
# Bytes held back from poll (`SocketClientImpl::read`)

A `read` polls the descriptor before it asks the transport.  Of a TLS client's bytes the
descriptor knows only those that the `SSL` has not pulled yet: the rest of a record that was
read in part is held inside the `SSL`, where no poll sees it.  A transport is what `read` asks
for bytes, with what poll sees of it and what it holds back; that of a plain client holds back
nothing.
-/

namespace SecuritySocket

open FixedWidth Transition

def ClientReadReturn.unfailing : ClientReadReturn → Bool
  | .plain (.error _) => false
  | .plain _ | .tls _ _ _ => true

namespace SocketClient

variable {σ ε : Type}

/-- Where the bytes of a connection come from: what happens to it, whether poll reports it
    readable, what it holds back from poll, all it has received and not delivered, and the state
    after a call for some size, `none` if the call cannot return that. -/
structure Transport (σ ε : Type) where
  event : σ → ε → Option σ
  readable : σ → Bool
  held : σ → List UInt8
  received : σ → List UInt8
  answer : σ → Nat → ClientReadReturn → Option σ

/-- A size that a call can be asked for: it is positive when it has become an `int32_t`. -/
def usable (size : Nat) : Bool := 0 < toInt32 size

/-- What the reads rely upon. -/
structure Transport.Lawful (T : Transport σ ε) : Prop where
  held_event {s s' : σ} {e : ε} (h : T.event s e = some s') : T.held s' = T.held s
  held_answer {s s' : σ} {size : Nat} {r : ClientReadReturn} (h : T.answer s size r = some s')
    (hnone : r.bytes = []) : T.held s' = T.held s
  received_answer {s s' : σ} {size : Nat} {r : ClientReadReturn}
    (h : T.answer s size r = some s') : T.received s = r.bytes ++ T.received s'
  received_unreadable {s : σ} (h : T.readable s = false) : T.received s = T.held s
  received_nil {s s' : σ} {size : Nat} {r : ClientReadReturn} (h : T.answer s size r = some s')
    (hsize : usable size = true) (hr : r.unfailing = true) (hnone : r.bytes = []) :
    T.received s' = []

/-! ### The two transports -/

/-- What happens on a connection: something arrives, or the peer closes. -/
inductive StreamEvent (α : Type) where
  | arrive (a : α)
  | finish
deriving DecidableEq, Repr

structure PlainStream where
  queue : ReceiveQueue := {}
  consumed : List UInt8 := []
deriving DecidableEq, Repr

/-- Some bytes of a record, or those that complete it, with the application data of the record; a
    session ticket has none. -/
inductive Segment where
  | part
  | last (data : List UInt8)
deriving DecidableEq, Repr

def Segment.data : Segment → List UInt8
  | .part => []
  | .last data => data

/-- What a TLS client has received: the segments still in the kernel, and the rest of the record
    that the `SSL` has decrypted. -/
structure TlsStream where
  unpulled : List Segment := []
  pending : List UInt8 := []
  ended : Bool := false
deriving DecidableEq, Repr

/-- The next record that has data, and the segments behind it. -/
def nextRecord : List Segment → List UInt8 × List Segment
  | [] => ([], [])
  | .part :: unpulled => nextRecord unpulled
  | .last [] :: unpulled => nextRecord unpulled
  | .last (b :: data) :: unpulled => (b :: data, unpulled)

namespace TlsStream

def current (s : TlsStream) : List UInt8 × List Segment :=
  if s.pending = [] then nextRecord s.unpulled else (s.pending, s.unpulled)

/-- `SSL_read`: the front of the record, of which it keeps the rest.  Without one it asks to wait,
    and on a connection that was closed it may return anything. -/
def sslRead (s : TlsStream) (size : Nat) : ClientReadReturn → Option TlsStream
  | .plain _ => none
  | .tls bytes ret failure =>
    if usable size then
      if bytes = s.current.1.take (toInt32 size).toNat ∧
          (s.current.1 = [] → s.ended = true ∨ ret < 0 ∧ failure.error = .wantRead) then
        some { s with unpulled := s.current.2, pending := s.current.1.drop (toInt32 size).toNat }
      else none
    else if bytes = [] then some s
    else none

end TlsStream

def plainTransport : Transport PlainStream (StreamEvent (List UInt8)) where
  event s
    | .arrive bytes => (s.queue.arrive bytes).map fun queue => { s with queue := queue }
    | .finish => some { s with queue := s.queue.finish }
  readable s := !(s.queue.unread s.consumed).isEmpty || s.queue.ended
  held _ := []
  received s := s.queue.unread s.consumed
  answer s size
    | .plain r =>
      if r.fits (narrow size) ∧ s.queue.answers s.consumed (narrow size) r then
        some { s with consumed := s.consumed ++ r.bytes }
      else none
    | .tls _ _ _ => none

def tlsTransport : Transport TlsStream (StreamEvent Segment) where
  event s
    | .arrive segment =>
      if s.ended then none else some { s with unpulled := s.unpulled ++ [segment] }
    | .finish => some { s with ended := true }
  readable s := !s.unpulled.isEmpty || s.ended
  held s := s.pending
  received s := s.pending ++ s.unpulled.flatMap Segment.data
  answer := TlsStream.sslRead

theorem narrow_ne_zero {size : Nat} (h : usable size = true) : narrow size ≠ 0 := by
  unfold usable at h
  have hpos := of_decide_eq_true h
  unfold toInt32 at hpos
  split at hpos
  · rename_i hsmall
    rw [narrow_of_small hsmall]
    omega
  · omega

theorem nextRecord_spec (unpulled : List Segment) :
    unpulled.flatMap Segment.data =
        (nextRecord unpulled).1 ++ (nextRecord unpulled).2.flatMap Segment.data ∧
      ((nextRecord unpulled).1 = [] → (nextRecord unpulled).2 = []) := by
  induction unpulled with
  | nil => exact ⟨rfl, fun _ => rfl⟩
  | cons segment unpulled ih =>
    cases segment with
    | part => exact ih
    | last data =>
      cases data with
      | nil => exact ih
      | cons b data => exact ⟨rfl, fun h => by cases h⟩

theorem plainTransport_answer {s s' : PlainStream} {size : Nat} {r : ClientReadReturn}
    (h : plainTransport.answer s size r = some s') :
    ∃ recv, r = .plain recv ∧ recv.fits (narrow size) = true ∧
      s.queue.answers s.consumed (narrow size) recv = true ∧
      s' = { s with consumed := s.consumed ++ recv.bytes } := by
  cases r with
  | tls bytes ret failure => cases h
  | plain recv =>
    simp only [plainTransport] at h
    split at h
    · rename_i hboth
      cases h
      exact ⟨recv, rfl, hboth.1, hboth.2, rfl⟩
    · cases h

theorem plainTransport_lawful : plainTransport.Lawful where
  held_event _ := rfl
  held_answer _ _ := rfl
  received_answer := by
    intro s s' size r h
    obtain ⟨recv, rfl, -, hanswers, rfl⟩ := plainTransport_answer h
    have hfront : recv.bytes <+: s.queue.unread s.consumed := by
      cases recv with
      | data bytes => exact List.isPrefixOf_iff_prefix.mp hanswers
      | closed | error => exact List.nil_prefix
    obtain ⟨rest, hrest⟩ := hfront
    have hafter : s.queue.unread (s.consumed ++ recv.bytes) = rest := by
      rw [ReceiveQueue.unread, List.length_append, ← List.drop_drop]
      show (s.queue.unread s.consumed).drop recv.bytes.length = rest
      rw [← hrest, List.drop_left]
    show s.queue.unread s.consumed = recv.bytes ++ s.queue.unread (s.consumed ++ recv.bytes)
    rw [hafter, hrest]
  received_unreadable := by
    intro s h
    simp only [plainTransport, Bool.or_eq_false_iff, Bool.not_eq_false', List.isEmpty_iff] at h
    exact h.1
  received_nil := by
    intro s s' size r h hsize hr hnone
    obtain ⟨recv, rfl, hfits, hanswers, rfl⟩ := plainTransport_answer h
    cases recv with
    | data bytes =>
      simp only [ClientReadReturn.bytes, RecvReturn.bytes] at hnone
      simp [RecvReturn.fits, hnone] at hfits
    | error errno => cases hr
    | closed =>
      simp only [ReceiveQueue.answers, Bool.or_eq_true, beq_iff_eq, narrow_ne_zero hsize,
        false_or, ReceiveQueue.atEnd, Bool.and_eq_true, List.isEmpty_iff] at hanswers
      show s.queue.unread (s.consumed ++ []) = []
      rw [List.append_nil]
      exact hanswers.2

/-- What an `SSL_read` that is answered comes to. -/
inductive SslRead (s : TlsStream) (size : Nat) : List UInt8 → TlsStream → Prop where
  | read {record : List UInt8} {unpulled : List Segment} (hsize : usable size = true)
      (hcurrent : s.current = (record, unpulled)) :
      SslRead s size (record.take (toInt32 size).toNat)
        { s with unpulled := unpulled, pending := record.drop (toInt32 size).toNat }
  | refused (hsize : usable size = false) : SslRead s size [] s

theorem sslRead_cases {s s' : TlsStream} {size : Nat} {r : ClientReadReturn}
    (h : s.sslRead size r = some s') : SslRead s size r.bytes s' := by
  cases r with
  | plain recv => cases h
  | tls bytes ret failure =>
    simp only [TlsStream.sslRead] at h
    split at h
    · rename_i hsize
      split at h
      · rename_i hanswers
        cases h
        rw [ClientReadReturn.bytes, hanswers.1]
        exact .read hsize rfl
      · cases h
    · rename_i hsize
      split at h
      · rename_i hnone
        cases h
        rw [ClientReadReturn.bytes, hnone]
        exact .refused (Bool.eq_false_iff.mpr hsize)
      · cases h

/-- The record in hand is all there is before the segments, and there is one unless everything
    was pulled. -/
theorem current_spec {s : TlsStream} {record : List UInt8} {unpulled : List Segment}
    (h : s.current = (record, unpulled)) :
    s.pending ++ s.unpulled.flatMap Segment.data = record ++ unpulled.flatMap Segment.data ∧
      (record = [] → s.pending = [] ∧ unpulled = []) := by
  unfold TlsStream.current at h
  split at h
  · rename_i hpending
    obtain ⟨hdata, hall⟩ := nextRecord_spec s.unpulled
    rw [h] at hdata hall
    rw [hpending]
    exact ⟨hdata, fun hrecord => ⟨rfl, hall hrecord⟩⟩
  · rename_i hpending
    cases h
    exact ⟨rfl, fun hrecord => absurd hrecord hpending⟩

theorem record_eq_nil {record : List UInt8} {size : Nat} (hsize : usable size = true)
    (hnone : record.take (toInt32 size).toNat = []) : record = [] := by
  have hpos := of_decide_eq_true hsize
  rcases List.take_eq_nil_iff.mp hnone with hzero | hrecord
  · omega
  · exact hrecord

theorem SslRead.received {s s' : TlsStream} {size : Nat} {bytes : List UInt8}
    (h : SslRead s size bytes s') :
    s.pending ++ s.unpulled.flatMap Segment.data =
      bytes ++ (s'.pending ++ s'.unpulled.flatMap Segment.data) := by
  cases h with
  | read hsize hcurrent =>
    rw [(current_spec hcurrent).1, ← List.append_assoc, List.take_append_drop]
  | refused hsize => rfl

/-- An `SSL_read` that hands out nothing changes nothing of what is held back, and finds nothing at
    all if its size is usable. -/
theorem SslRead.of_nil {s s' : TlsStream} {size : Nat} (h : SslRead s size [] s') :
    s'.pending = s.pending ∧
      (usable size = true → s'.pending ++ s'.unpulled.flatMap Segment.data = []) := by
  generalize hbytes : ([] : List UInt8) = bytes at h
  cases h with
  | read hsize hcurrent =>
    have hrecord := record_eq_nil hsize hbytes.symm
    obtain ⟨hpending, hunpulled⟩ := (current_spec hcurrent).2 hrecord
    simp [hpending, hunpulled, hrecord]
  | refused hunusable =>
    refine ⟨rfl, fun hsize => ?_⟩
    rw [hsize] at hunusable
    cases hunusable

theorem tlsTransport_lawful : tlsTransport.Lawful where
  held_event := by
    intro s s' e h
    cases e with
    | arrive segment =>
      simp only [tlsTransport] at h
      split at h
      · cases h
      · cases h
        rfl
    | finish =>
      cases h
      rfl
  held_answer := by
    intro s s' size r h hnone
    have hread := sslRead_cases h
    rw [hnone] at hread
    exact hread.of_nil.1
  received_answer := by
    intro s s' size r h
    exact (sslRead_cases h).received
  received_unreadable := by
    intro s h
    simp only [tlsTransport, Bool.or_eq_false_iff, Bool.not_eq_false', List.isEmpty_iff] at h
    simp [tlsTransport, h.1]
  received_nil := by
    intro s s' size r h hsize _ hnone
    have hread := sslRead_cases h
    rw [hnone] at hread
    exact hread.of_nil.2 hsize

/-- A `read` that has returned: its size, its result, and what was held back by then. -/
structure HeldReturn where
  size : Nat
  result : SocketResult
  held : List UInt8
deriving DecidableEq, Repr

structure HeldReads (σ : Type) where
  source : σ
  delivered : List UInt8 := []
  call : Option (Nat × ReadLoop) := none
  returns : List HeldReturn := []
deriving DecidableEq, Repr

namespace HeldReads

inductive Label (ε : Type) where
  | event (e : ε)
  | call (size : Nat)
  | round (round : ReadRound)
deriving DecidableEq, Repr

variable (T : Transport σ ε) (tls : Bool) (maxRetries : Nat)

/-- POLLIN is reported if and only if there is something to read. -/
def pollAnswers (s : HeldReads σ) (ret : PollReturn) : Bool :=
  ret.fits .read &&
    match ret with
    | .timeout => !T.readable s.source
    | .error => true
    | .ready revents _ => revents.pollin == T.readable s.source

def atTest (s : HeldReads σ) (size : Nat) (l : ReadLoop) : HeldReads σ :=
  if l.running maxRetries then { s with call := some (size, l) }
  else { s with call := none, returns := s.returns ++ [⟨size, l.result, T.held s.source⟩] }

def consume (s : HeldReads σ) (size : Nat) (round : ReadRound) : Option (HeldReads σ) :=
  if round.reads then
    (T.answer s.source size round.transport).map fun source =>
      { s with source := source, delivered := s.delivered ++ round.transport.bytes }
  else some s

def step (s : HeldReads σ) : Label ε → Option (HeldReads σ)
  | .event e => (T.event s.source e).map fun source => { s with source := source }
  | .call size =>
    match s.call with
    | none => some (s.atTest T maxRetries size {})
    | some _ => none
  | .round round =>
    match s.call with
    | none => none
    | some (size, l) =>
      if s.pollAnswers T round.poll then
        (s.consume T size round).bind fun s' =>
          (readStep tls maxRetries size l round).map (s'.atTest T maxRetries size)
      else none

/-- No `read` has reported a timeout or a closed socket over bytes held back. -/
def Undisturbed (s : HeldReads σ) : Prop :=
  ∀ r ∈ s.returns, r.result.code = .socketTimeout ∨ r.result.code = .socketClosed → r.held = []

/-- The last poll of a call times out over bytes held back. -/
def stalls (s : HeldReads σ) : Label ε → Bool
  | .round round =>
    match s.call with
    | none => false
    | some (_, l) =>
      !(T.held s.source).isEmpty && round.poll == .timeout && maxRetries ≤ l.i + 1
  | .event _ | .call _ => false

/-- Over bytes held back, a poll reports POLLHUP and not POLLERR, or the transport returns zero. -/
def closesOver (s : HeldReads σ) : Label ε → Bool
  | .round round => !(T.held s.source).isEmpty && round.closes
  | .event _ | .call _ => false

end HeldReads

variable {T : Transport σ ε} {tls : Bool} {maxRetries size : Nat}

/-! ### One iteration -/

/-- An iteration leaves a timeout as the result exactly if its poll has timed out, and that is one
    more retry. -/
theorem readStep_timeout {l l' : ReadLoop} {round : ReadRound}
    (h : readStep tls maxRetries size l round = some l') :
    (l'.result.code = .socketTimeout ↔ round.poll = .timeout) ∧
      (round.poll = .timeout → (l'.running maxRetries = false ↔ maxRetries ≤ l.i + 1)) := by
  have htimeout := @SocketEventListener.wait_code_eq_timeout round.poll
  cases readStep_cases h with
  | timeout hrunning hcode =>
    simp only [ReadLoop.running, Bool.and_eq_true, Bool.not_eq_true'] at hrunning
    refine ⟨htimeout, fun _ => ?_⟩
    simp [ReadLoop.running, hrunning.1]
  | transport hreads hfits =>
    have hpoll : round.poll ≠ .timeout := by
      intro heq
      simp [ReadRound.reads, htimeout.mpr heq] at hreads
    refine ⟨?_, fun heq => absurd heq hpoll⟩
    simp only [hpoll, iff_false]
    have hread := ClientActiveSocket.read_code_ne_timeout round.transport
    unfold ReadLoop.transport
    dsimp only
    split
    · simp
    · split <;> exact hread
  | failed hcode hreads => exact ⟨htimeout, fun heq => absurd (htimeout.mpr heq) hcode⟩

namespace HeldReads

variable {s s' : HeldReads σ}

theorem consume_cases {round : ReadRound} (h : s.consume T size round = some s') :
    s'.returns = s.returns ∧ s'.call = s.call ∧
      ((round.reads = false ∧ s' = s) ∨
        round.reads = true ∧ T.answer s.source size round.transport = some s'.source ∧
          s'.delivered = s.delivered ++ round.transport.bytes) := by
  unfold consume at h
  split at h
  · rename_i hreads
    obtain ⟨source, hsource, rfl⟩ := Option.map_eq_some_iff.mp h
    exact ⟨rfl, rfl, .inr ⟨hreads, hsource, rfl⟩⟩
  · rename_i hreads
    cases h
    exact ⟨rfl, rfl, .inl ⟨Bool.eq_false_iff.mpr hreads, rfl⟩⟩

/-- Everything a step can do. -/
inductive Move (T : Transport σ ε) (tls : Bool) (maxRetries : Nat) (s : HeldReads σ) :
    Label ε → HeldReads σ → Prop where
  | event {e : ε} {source : σ} (hevent : T.event s.source e = some source) :
      Move T tls maxRetries s (.event e) { s with source := source }
  | call (size : Nat) (hcall : s.call = none) :
      Move T tls maxRetries s (.call size) (s.atTest T maxRetries size {})
  | round {size : Nat} {l l' : ReadLoop} {round : ReadRound} {m : HeldReads σ}
      (hcall : s.call = some (size, l)) (hpoll : s.pollAnswers T round.poll = true)
      (hconsume : s.consume T size round = some m)
      (hread : readStep tls maxRetries size l round = some l') :
      Move T tls maxRetries s (.round round) (m.atTest T maxRetries size l')

theorem step_cases {label : Label ε} (h : step T tls maxRetries s label = some s') :
    Move T tls maxRetries s label s' := by
  cases label with
  | event e =>
    obtain ⟨source, hsource, rfl⟩ := Option.map_eq_some_iff.mp h
    exact .event hsource
  | call size =>
    simp only [step] at h
    split at h
    · cases h
      exact .call size ‹_›
    · cases h
  | round round =>
    simp only [step] at h
    split at h
    · cases h
    · rename_i size l hcall
      split at h
      · rename_i hpoll
        obtain ⟨m, hm, hmap⟩ := Option.bind_eq_some_iff.mp h
        obtain ⟨l', hl', rfl⟩ := Option.map_eq_some_iff.mp hmap
        exact .round hcall hpoll hm hl'
      · cases h

/-! ### What is reported over bytes held back -/

theorem undisturbed_atTest (l : ReadLoop) : (s.atTest T maxRetries size l).Undisturbed ↔
    s.Undisturbed ∧ (l.running maxRetries = false →
      l.result.code = .socketTimeout ∨ l.result.code = .socketClosed → T.held s.source = []) := by
  unfold atTest
  split
  · rename_i hrunning
    simp [Undisturbed, hrunning]
  · rename_i hover
    simp only [Undisturbed, List.forall_mem_append, List.forall_mem_singleton]
    simp [hover]

theorem held_consume (hT : T.Lawful) {m : HeldReads σ} {l l' : ReadLoop} {round : ReadRound}
    (hread : readStep tls maxRetries size l round = some l')
    (hconsume : s.consume T size round = some m)
    (hround : round.poll = .timeout ∨ round.closes = true) : T.held m.source = T.held s.source := by
  obtain ⟨-, -, ⟨-, rfl⟩ | ⟨hreads, hanswer, -⟩⟩ := consume_cases hconsume
  · rfl
  · refine hT.held_answer hanswer ?_
    rcases hround with htimeout | hcloses
    · simp [ReadRound.reads, htimeout, SocketEventListener.wait] at hreads
    · have hhang : round.poll.hangsUp = false := by
        rw [Bool.eq_false_iff, ne_eq, ← SocketEventListener.wait_code_eq_closed]
        simp only [ReadRound.reads, beq_iff_eq] at hreads
        simp [hreads]
      simp only [ReadRound.closes, hhang, hreads, Bool.false_or, Bool.true_and] at hcloses
      exact ClientReadReturn.bytes_eq_nil (fits_of_readStep hread hreads) hcloses

theorem closes_of_timeout {round : ReadRound} (h : round.poll = .timeout) : round.closes = false := by
  simp [ReadRound.closes, ReadRound.reads, h, PollReturn.hangsUp, SocketEventListener.wait]

/-- **Step lemma.**  The reads stay undisturbed exactly when the step neither stalls nor closes over
    bytes held back. -/
theorem undisturbed_step (hT : T.Lawful) {label : Label ε}
    (hstep : step T tls maxRetries s label = some s') :
    s'.Undisturbed ↔
      s.Undisturbed ∧ s.stalls T maxRetries label = false ∧ s.closesOver T label = false := by
  cases step_cases hstep with
  | event hevent => simp [Undisturbed, stalls, closesOver]
  | call size hcall =>
    rw [undisturbed_atTest]
    simp [stalls, closesOver]
  | @round size l l' round m hcall hpoll hconsume hread =>
    obtain ⟨hclosed, hover⟩ := readStep_closed hread
    obtain ⟨htimeout, hlast⟩ := readStep_timeout hread
    have hsame : m.Undisturbed ↔ s.Undisturbed := by
      rw [Undisturbed, Undisturbed, (consume_cases hconsume).1]
    rw [undisturbed_atTest, hsame, htimeout, hclosed]
    refine and_congr_right fun _ => ?_
    by_cases hpoll : round.poll = .timeout
    · have hheld := held_consume hT hread hconsume (.inl hpoll)
      simp only [stalls, closesOver, hcall, hpoll, closes_of_timeout hpoll, hlast hpoll, hheld]
      by_cases hlate : maxRetries ≤ l.i + 1 <;> cases T.held s.source <;> simp [hlate]
    · by_cases hcloses : round.closes = true
      · have hheld := held_consume hT hread hconsume (.inr hcloses)
        simp [stalls, closesOver, hcall, hpoll, hcloses, hover hcloses, hheld]
      · simp [stalls, closesOver, hcall, hpoll, hcloses]

/-- **Runs.**  No `read` reports a timeout or a closed socket over bytes held back, exactly if no
    step stalls and none closes over such bytes. -/
theorem undisturbed_iff_meets (hT : T.Lawful) {labels : List (Label ε)} {source : σ}
    (hexec : exec (step T tls maxRetries) ⟨source, [], none, []⟩ labels = some s) :
    s.Undisturbed ↔ Meets (step T tls maxRetries) (fun s label =>
      s.stalls T maxRetries label = false ∧ s.closesOver T label = false)
      ⟨source, [], none, []⟩ labels := by
  refine (exec_iff_meets (I := fun _ => True) (P := Undisturbed) (fun _ _ _ _ _ => trivial)
    (fun _ _ _ _ hstep => undisturbed_step hT hstep) hexec trivial).trans ?_
  simp [Undisturbed]

/-! ### A stream that has arrived -/

/-- Nothing more happens on the connection, and neither poll nor `recv` fails. -/
def calm : Label ε → Bool
  | .event _ => false
  | .call _ => true
  | .round round =>
    round.transport.unfailing &&
      match round.poll with
      | .timeout => true
      | .error => false
      | .ready revents _ => !revents.hangup

def usableReturns (s : HeldReads σ) : Nat := s.returns.countP fun r => usable r.size

@[simp] theorem atTest_source (l : ReadLoop) :
    (s.atTest T maxRetries size l).source = s.source := by
  unfold atTest
  split <;> rfl

@[simp] theorem atTest_delivered (l : ReadLoop) :
    (s.atTest T maxRetries size l).delivered = s.delivered := by
  unfold atTest
  split <;> rfl

theorem delivered_step (hT : T.Lawful) {label : Label ε} (hcalm : calm label = true)
    (hmove : Move T tls maxRetries s label s') :
    s'.delivered ++ T.received s'.source = s.delivered ++ T.received s.source := by
  cases hmove with
  | event hevent => cases hcalm
  | call size hcall => rw [atTest_source, atTest_delivered]
  | round hcall hpoll hconsume hread =>
    rw [atTest_source, atTest_delivered]
    obtain ⟨-, -, ⟨-, rfl⟩ | ⟨hreads, hanswer, hdelivered⟩⟩ := consume_cases hconsume
    · rfl
    · rw [hdelivered, hT.received_answer hanswer, List.append_assoc]

theorem pollAnswers_calm {round : ReadRound} (hcalm : calm (.round round : Label ε) = true)
    (hpoll : s.pollAnswers T round.poll = true) :
    round.reads = true ∧ T.readable s.source = true ∨
      round.reads = false ∧ round.poll = .timeout ∧ T.readable s.source = false := by
  obtain ⟨poll, transport⟩ := round
  cases poll with
  | timeout =>
    right
    simpa [pollAnswers, PollReturn.fits, ReadRound.reads, SocketEventListener.wait] using hpoll
  | error => simp [calm] at hcalm
  | ready revents soError =>
    left
    simp only [calm, Revents.hangup, Bool.and_eq_true, Bool.not_eq_true', Bool.or_eq_false_iff]
      at hcalm
    simp only [pollAnswers, PollReturn.fits, Revents.isZero, Revents.hangup, Revents.allowedBy,
      SocketEventType.events, Bool.and_eq_true, beq_iff_eq] at hpoll
    obtain ⟨⟨hsome, hallowed⟩, hpollin⟩ := hpoll
    have hin : revents.pollin = true := by
      cases hin : revents.pollin with
      | true => rfl
      | false => simp_all
    rw [← hpollin, hin]
    simp [ReadRound.reads, SocketEventListener.wait, hcalm]

/-- Everything is delivered, or each usable read that returned delivered something. -/
def Keeping (T : Transport σ ε) (s : HeldReads σ) : Prop :=
  T.received s.source = [] ∨ s.usableReturns ≤ s.delivered.length

theorem usableReturns_atTest (l : ReadLoop) : (s.atTest T maxRetries size l).usableReturns =
    s.usableReturns + if l.running maxRetries = false ∧ usable size = true then 1 else 0 := by
  unfold atTest
  split
  · rename_i hrunning
    simp [usableReturns, hrunning]
  · rename_i hover
    simp [usableReturns, List.countP_append, List.countP_cons, hover]

/-- A call of the transport delivers something, or nothing is left. -/
theorem Keeping.answered (hT : T.Lawful) {size : Nat} {r : ClientReadReturn} {source : σ}
    {delivered : List UInt8} (h : s.Keeping T) (hanswer : T.answer s.source size r = some source)
    (hunfailing : r.unfailing = true) (hdelivered : delivered = s.delivered ++ r.bytes) :
    T.received source = [] ∨
      s.usableReturns + (if usable size = true then 1 else 0) ≤ delivered.length := by
  have hreceived := hT.received_answer hanswer
  rcases h with hnothing | hcount
  · left
    rw [hnothing] at hreceived
    exact (List.append_eq_nil_iff.mp hreceived.symm).2
  · rw [hdelivered, List.length_append]
    split
    · rename_i hsize
      by_cases hnone : r.bytes = []
      · exact .inl (hT.received_nil hanswer hsize hunfailing hnone)
      · right
        have hpos := List.length_pos_iff.mpr hnone
        omega
    · right
      omega

theorem Keeping.step (hT : T.Lawful) (hmax : 0 < maxRetries) {label : Label ε} (h : s.Keeping T)
    (hcalm : calm label = true) (hstall : s.stalls T maxRetries label = false)
    (hmove : Move T tls maxRetries s label s') : s'.Keeping T := by
  cases hmove with
  | event hevent => cases hcalm
  | call size hcall =>
    have hrunning := ReadLoop.running_start hmax
    rw [Keeping, usableReturns_atTest, atTest_source, atTest_delivered,
      if_neg (by simp [hrunning]), Nat.add_zero]
    exact h
  | @round size l l' round m hcall hpoll hconsume hread =>
    obtain ⟨hreturns, -, hconsumed⟩ := consume_cases hconsume
    have hsame : m.usableReturns = s.usableReturns := by rw [usableReturns, hreturns, usableReturns]
    rw [Keeping, usableReturns_atTest, atTest_source, atTest_delivered, hsame]
    rcases hconsumed with ⟨hreads, rfl⟩ | ⟨hreads, hanswer, hdelivered⟩
    · rcases h with hnothing | hcount
      · exact .inl hnothing
      · split
        · -- the wait was the last one: only a timeout without bytes held back does not stall
          rename_i hreturned
          left
          rcases pollAnswers_calm hcalm hpoll with ⟨hreads', -⟩ | ⟨-, htimeout, hunreadable⟩
          · rw [hreads] at hreads'
            cases hreads'
          · have hlate := ((readStep_timeout hread).2 htimeout).mp hreturned.1
            rw [hT.received_unreadable hunreadable]
            simpa [stalls, hcall, htimeout, hlate] using hstall
        · exact .inr hcount
    · have hunfailing : round.transport.unfailing = true := by
        simp only [calm, Bool.and_eq_true] at hcalm
        exact hcalm.1
      rcases h.answered hT hanswer hunfailing hdelivered with hnothing | hcount
      · exact .inl hnothing
      · right
        refine Nat.le_trans (Nat.add_le_add_left ?_ _) hcount
        split <;> split <;> simp_all

/-- Bytes are held back, and poll finds nothing. -/
def Stuck (T : Transport σ ε) (s : HeldReads σ) : Prop :=
  T.readable s.source = false ∧ T.held s.source ≠ []

theorem Stuck.step {label : Label ε} (h : s.Stuck T) (hcalm : calm label = true)
    (hmove : Move T tls maxRetries s label s') : s'.Stuck T := by
  cases hmove with
  | event hevent => cases hcalm
  | call size hcall => rwa [Stuck, atTest_source]
  | @round size l l' round m hcall hpoll hconsume hread =>
    obtain ⟨-, -, ⟨-, rfl⟩ | ⟨hreads, -, -⟩⟩ := consume_cases hconsume
    · rwa [Stuck, atTest_source]
    · rcases pollAnswers_calm hcalm hpoll with ⟨-, hreadable⟩ | ⟨hreads', -, -⟩
      · rw [h.1] at hreadable
        cases hreadable
      · rw [hreads] at hreads'
        cases hreads'

theorem stuck_of_stalls {label : Label ε} (hcalm : calm label = true)
    (hstall : s.stalls T maxRetries label = true) (hmove : Move T tls maxRetries s label s') :
    s.Stuck T := by
  cases hmove with
  | event hevent => cases hstall
  | call size hcall => cases hstall
  | @round size l l' round m hcall hpoll hconsume hread =>
    simp only [stalls, hcall, Bool.and_eq_true, Bool.not_eq_true', List.isEmpty_eq_false_iff,
      beq_iff_eq] at hstall
    obtain ⟨⟨hheld, htimeout⟩, -⟩ := hstall
    rcases pollAnswers_calm hcalm hpoll with ⟨hreads, -⟩ | ⟨-, -, hunreadable⟩
    · simp [ReadRound.reads, htimeout, SocketEventListener.wait] at hreads
    · exact ⟨hunreadable, hheld⟩

theorem meets_of_received (hT : T.Lawful) {labels : List (Label ε)}
    (hcalm : ∀ label ∈ labels, calm label = true)
    (hexec : exec (step T tls maxRetries) s labels = some s') (hall : T.received s'.source = []) :
    Meets (step T tls maxRetries) (fun s label => s.stalls T maxRetries label = false) s labels := by
  induction labels generalizing s with
  | nil => trivial
  | cons label labels ih =>
    obtain ⟨m, hm, hrest⟩ := exec_cons_eq_some.mp hexec
    rw [List.forall_mem_cons] at hcalm
    refine ⟨?_, fun m' hm' => ?_⟩
    · by_contra hstall
      have hstuck := stuck_of_stalls hcalm.1 (Bool.not_eq_false _ ▸ hstall) (step_cases hm)
      have hend : s'.Stuck T := exec_invariant_of_meets
        (fun _ _ _ h hcalm' hstep => h.step hcalm' (step_cases hstep)) hrest
        (meets_of_forall_label hcalm.2) (hstuck.step hcalm.1 (step_cases hm))
      rw [hT.received_unreadable hend.1] at hall
      exact hend.2 hall
    · rw [hm] at hm'
      cases hm'
      exact ih hcalm.2 hrest

/-- **A stream that has arrived.**  Once as many usable reads have returned as there are bytes, all
    of them are delivered exactly if no step has stalled. -/
theorem delivered_iff (hT : T.Lawful) (hmax : 0 < maxRetries) {labels : List (Label ε)} {source : σ}
    (hcalm : ∀ label ∈ labels, calm label = true)
    (hexec : exec (step T tls maxRetries) ⟨source, [], none, []⟩ labels = some s)
    (henough : (T.received source).length ≤ s.usableReturns) :
    s.delivered = T.received source ↔ Meets (step T tls maxRetries)
      (fun s label => s.stalls T maxRetries label = false) ⟨source, [], none, []⟩ labels := by
  have hsplit : s.delivered ++ T.received s.source = T.received source :=
    exec_invariant_of_meets (I := fun s => s.delivered ++ T.received s.source = T.received source)
      (fun _ _ _ h hcalm' hstep => (delivered_step hT hcalm' (step_cases hstep)).trans h) hexec
      (meets_of_forall_label hcalm) rfl
  have hall : s.delivered = T.received source ↔ T.received s.source = [] := by
    rw [← hsplit]
    simp
  rw [hall]
  constructor
  · exact meets_of_received hT hcalm hexec
  · intro hmeets
    have hkeeping : s.Keeping T := exec_invariant_of_meets
      (fun _ _ _ h hguard hstep => h.step hT hmax hguard.1 hguard.2 (step_cases hstep)) hexec
      ((meets_of_forall_label hcalm).and hmeets) (.inr (by simp [usableReturns]))
    rcases hkeeping with hnothing | hcount
    · exact hnothing
    · have hlength := congrArg List.length hsplit
      rw [List.length_append] at hlength
      exact List.eq_nil_of_length_eq_zero (by omega)

theorem noRetries_step (h : s.call = none ∧ s.delivered = []) {label : Label ε}
    (hmove : Move T tls 0 s label s') : s'.call = none ∧ s'.delivered = [] := by
  cases hmove with
  | event hevent => exact h
  | call size hcall => exact ⟨rfl, h.2⟩
  | round hcall hpoll hconsume hread =>
    rw [h.1] at hcall
    cases hcall

theorem noRetries {labels : List (Label ε)} {source : σ}
    (hexec : exec (step T tls 0) ⟨source, [], none, []⟩ labels = some s) :
    s.delivered = [] ∧ Meets (step T tls 0) (fun s label => s.stalls T 0 label = false)
      ⟨source, [], none, []⟩ labels := by
  have hstep : ∀ (s : HeldReads σ) (label : Label ε) s', s.call = none ∧ s.delivered = [] →
      step T tls 0 s label = some s' → s'.call = none ∧ s'.delivered = [] :=
    fun _ _ _ h hs => noRetries_step h (step_cases hs)
  refine ⟨(exec_invariant hstep hexec ⟨rfl, rfl⟩).2, meets_of_invariant hstep ?_ ⟨rfl, rfl⟩⟩
  intro s label h
  cases label with
  | event e => rfl
  | call size => rfl
  | round round => simp [stalls, h.1]

end HeldReads

open HeldReads

/-- **Reading over TLS.**  No `read` of a TLS client reports a timeout or a closed socket over bytes
    that the `SSL` holds, exactly if no call's last poll times out over such bytes and no poll or
    transport call closes over them.  And of the same stream, fully arrived, it delivers what a
    plain client delivers, once each has made as many usable reads as there are bytes, exactly
    if no call's last poll times out over bytes that the `SSL` holds. -/
theorem tlsReads_iff (maxRetries : Nat) :
    (∀ labels t, exec (step tlsTransport true maxRetries) ⟨{}, [], none, []⟩ labels = some t →
      (t.Undisturbed ↔ Meets (step tlsTransport true maxRetries) (fun s label =>
        s.stalls tlsTransport maxRetries label = false ∧ s.closesOver tlsTransport label = false)
        ⟨{}, [], none, []⟩ labels)) ∧
    ∀ stream queue, tlsTransport.received stream = plainTransport.received queue →
      ∀ tlsLabels plainLabels, (∀ label ∈ tlsLabels, calm label = true) →
        (∀ label ∈ plainLabels, calm label = true) →
      ∀ t p, exec (step tlsTransport true maxRetries) ⟨stream, [], none, []⟩ tlsLabels = some t →
        exec (step plainTransport false maxRetries) ⟨queue, [], none, []⟩ plainLabels = some p →
        (tlsTransport.received stream).length ≤ t.usableReturns →
        (plainTransport.received queue).length ≤ p.usableReturns →
        (t.delivered = p.delivered ↔ Meets (step tlsTransport true maxRetries)
          (fun s label => s.stalls tlsTransport maxRetries label = false)
          ⟨stream, [], none, []⟩ tlsLabels) := by
  refine ⟨fun labels t hexec => undisturbed_iff_meets tlsTransport_lawful hexec, ?_⟩
  intro stream queue hsame tlsLabels plainLabels htcalm hpcalm t p htexec hpexec htenough hpenough
  rcases Nat.eq_zero_or_pos maxRetries with rfl | hmax
  · obtain ⟨ht, hmeets⟩ := noRetries htexec
    rw [ht, (noRetries hpexec).1]
    exact iff_of_true rfl hmeets
  · -- a plain client holds nothing back
    have hplain : p.delivered = plainTransport.received queue := by
      rw [delivered_iff plainTransport_lawful hmax hpcalm hpexec hpenough]
      refine meets_of_invariant (I := fun _ => True) (fun _ _ _ _ _ => trivial) ?_ trivial
      intro s label _
      cases label with
      | event e => rfl
      | call size => rfl
      | round round => cases hcall : s.call <;> simp [stalls, hcall, plainTransport]
    rw [hplain, ← hsame]
    exact delivered_iff tlsTransport_lawful hmax htcalm htexec htenough

def tlsCall (size : Nat) (bytes : List UInt8) : List (Label (StreamEvent Segment)) :=
  [.call size, .round ⟨.ready { pollin := true } none, .tls bytes bytes.length wantsRead⟩]

def plainCall (size : Nat) (bytes : List UInt8) : List (Label (StreamEvent (List UInt8))) :=
  [.call size, .round ⟨.ready { pollin := true } none, .plain (.data bytes)⟩]

def lateCall (size : Nat) : List (Label ε) := [.call size, .round ⟨.timeout, .plain .closed⟩]

def twoByteRecord : TlsStream := { unpulled := [.last [1, 2]] }

def twoBytes : PlainStream := { queue := { arrived := [1, 2] } }

def bothDelivered (source : σ) : HeldReads σ where
  source := source
  delivered := [1, 2]
  returns := [⟨2, { bytes := 2 }, []⟩, ⟨1, { code := .socketTimeout }, []⟩]

/-- The first read is long enough for the record. -/
theorem wholeRecord_undisturbed :
    exec (step tlsTransport true 1) ⟨{}, [], none, []⟩
        (.event (.arrive (.last [1, 2])) :: tlsCall 2 [1, 2] ++ lateCall 1) =
      some (bothDelivered {}) ∧
    exec (step tlsTransport true 1) ⟨twoByteRecord, [], none, []⟩
        (tlsCall 2 [1, 2] ++ lateCall 1) = some (bothDelivered {}) ∧
    exec (step plainTransport false 1) ⟨twoBytes, [], none, []⟩
        (plainCall 2 [1, 2] ++ lateCall 1) =
      some (bothDelivered { twoBytes with consumed := [1, 2] }) ∧
    (bothDelivered ({} : TlsStream)).Undisturbed ∧
    (bothDelivered ({} : TlsStream)).delivered =
      (bothDelivered { twoBytes with consumed := [1, 2] }).delivered := by
  obtain ⟨hruns, hstreams⟩ := tlsReads_iff 1
  have harriving : exec (step tlsTransport true 1) ⟨{}, [], none, []⟩
      (.event (.arrive (.last [1, 2])) :: tlsCall 2 [1, 2] ++ lateCall 1) =
    some (bothDelivered {}) := rfl
  have harrived : exec (step tlsTransport true 1) ⟨twoByteRecord, [], none, []⟩
      (tlsCall 2 [1, 2] ++ lateCall 1) = some (bothDelivered {}) := rfl
  have hplain : exec (step plainTransport false 1) ⟨twoBytes, [], none, []⟩
      (plainCall 2 [1, 2] ++ lateCall 1) =
    some (bothDelivered { twoBytes with consumed := [1, 2] }) := rfl
  refine ⟨harriving, harrived, hplain, (hruns _ _ harriving).mpr (by decide), ?_⟩
  exact (hstreams twoByteRecord twoBytes rfl _ _ (by decide) (by decide) _ _ harrived hplain
    (by decide) (by decide)).mpr (by decide)

/-- The first read leaves a byte of the record, and no poll sees it. -/
theorem splitRecord_disturbed :
    ∃ t p,
      exec (step tlsTransport true 1) ⟨twoByteRecord, [], none, []⟩
        (tlsCall 1 [1] ++ lateCall 1) = some t ∧
      exec (step plainTransport false 1) ⟨twoBytes, [], none, []⟩
        (plainCall 1 [1] ++ plainCall 1 [2]) = some p ∧
      ¬ t.Undisturbed ∧ t.delivered = [1] ∧ p.delivered = [1, 2] := by
  refine ⟨_, _, rfl, rfl, ?_, rfl, rfl⟩
  intro h
  cases h ⟨1, { code := .socketTimeout }, [2]⟩ (by decide) (.inl rfl)

end SocketClient

end SecuritySocket
