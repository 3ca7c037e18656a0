import SecuritySocket.SocketClientStream

/-!
# Reading over channels

Clients that read from connections whose other ends put bytes on them.  A channel carries what
was put on it in order: what has arrived at a client is the front of its source, which only grows.
What the calls of `read` have delivered then is the front of the source too, for each client and
whatever the others do.
-/

namespace SecuritySocket.SocketClient

/-- A request for one byte and some more, into a buffer of that size. -/
def ReadRequest.short (more : UInt8) : ReadRequest where
  size := more.toNat + 1
  buffer := List.replicate (more.toNat + 1) 0
  size_pos := FixedWidth.one_le_byte_succ more
  size_lt := FixedWidth.byte_succ_lt more
  size_le := Nat.le_of_eq List.length_replicate.symm

namespace ClientStream

/-- The channel from `source` carries what was put on it, in order. -/
def carries (s : ClientStream) (source : List UInt8) : Label → Bool
  | .arrive bytes => (s.queue.arrived ++ bytes).isPrefixOf source
  | .finish | .call _ | .round _ => true

end ClientStream

namespace ClientStream

variable {tls : Bool} {maxRetries : Nat} {s s' : ClientStream} {label : Label}

/-- What the calls have delivered is what they took, in order, however many retries they have. -/
structure Ordered (s : ClientStream) : Prop where
  received : s.received = s.consumed
  inOrder : s.received <+: s.queue.arrived
  buffer : ∀ c, s.call = some c → c.buffer = c.request.buffer

theorem Ordered.atTest (h : s.Ordered) {c : ReadCall} (hbuffer : c.buffer = c.request.buffer)
    (hnothing : c.loop.result.code = .success → c.loop.result.bytes.toNat = 0) :
    (s.atTest maxRetries c).Ordered := by
  unfold ClientStream.atTest
  split
  · refine ⟨h.received, h.inOrder, fun c' hc' => ?_⟩
    cases Option.some.inj hc'
    exact hbuffer
  · have hreceived : ReadDelivery.received ⟨c.request, c.loop.result, c.buffer, c.before,
        s.consumed⟩ = [] := by
      unfold ReadDelivery.received
      split
      · rename_i hsuccess
        simp [hnothing hsuccess]
      · rfl
    refine ⟨?_, ?_, fun c' hc' => by cases hc'⟩
    · simpa [ClientStream.received, hreceived] using h.received
    · simpa [ClientStream.received, hreceived] using h.inOrder

theorem Ordered.delivered (h : s.Ordered) {c : ReadCall} {round : ReadRound} {l : ReadLoop}
    (hcall : s.call = some c) (hanswers : s.answers c.request.size round = true)
    (hover : l.running maxRetries = false) (hsuccess : l.result.code = .success)
    (hbytes : l.result.bytes = round.delivered.length)
    (hle : round.delivered.length ≤ c.request.size) :
    ((s.deliver round.delivered).atTest maxRetries
      { c with buffer := place c.buffer 0 round.delivered, loop := l }).Ordered := by
  have hfront := prefix_of_answers (h.received ▸ h.inOrder) hanswers
  have hfits : round.delivered.length ≤ c.buffer.length := by
    rw [h.buffer c hcall]
    exact Nat.le_trans hle c.request.size_le
  have hreceived : ReadDelivery.received ⟨c.request, l.result, place c.buffer 0 round.delivered,
      c.before, s.consumed ++ round.delivered⟩ = round.delivered := by
    simp [ReadDelivery.received, hsuccess, hbytes, place_start hfits]
  have hall : s.returns.flatMap ReadDelivery.received = s.consumed := h.received
  rw [ClientStream.atTest, if_neg (by simp [hover])]
  refine ⟨?_, ?_, fun c' hc' => by cases hc'⟩
  · simp [ClientStream.received, deliver, hreceived, hall]
  · simpa [ClientStream.received, deliver, hreceived, hall] using hfront

theorem Ordered.step (h : s.Ordered) (hstep : step tls maxRetries s label = some s') :
    s'.Ordered := by
  cases step_cases hstep with
  | arrived harrived =>
    refine ⟨h.received, ?_, h.buffer⟩
    rw [harrived]
    exact h.inOrder.trans (List.prefix_append _ _)
  | finished => exact ⟨h.received, h.inOrder, h.buffer⟩
  | called hcall => exact h.atTest rfl fun _ => rfl
  | delivered hcall hanswers hover hsuccess hbytes hpos hle =>
    exact h.delivered hcall hanswers hover hsuccess hbytes hle
  | @idled c round l hcall hfailure =>
    exact h.atTest (h.buffer c hcall) fun hsuccess => absurd hsuccess hfailure

theorem atTest_queue (s : ClientStream) (c : ReadCall) :
    (s.atTest maxRetries c).queue = s.queue := by
  unfold atTest
  split <;> rfl

theorem carried_step {source : List UInt8} (hcarried : s.queue.arrived <+: source)
    (hcarries : s.carries source label = true) (hstep : step tls maxRetries s label = some s') :
    s'.queue.arrived <+: source := by
  cases step_cases hstep with
  | arrived harrived =>
    rw [harrived]
    exact List.isPrefixOf_iff_prefix.mp hcarries
  | finished => exact hcarried
  | called | idled => rwa [atTest_queue]
  | delivered => rwa [atTest_queue, deliver]

end ClientStream

/-- Each client's reads are in order, and its channel has carried the front of its source. -/
structure Reading (readers : Nat → ClientStream) (sources : Nat → List UInt8) : Prop where
  ordered : ∀ id, (readers id).Ordered
  carried : ∀ id, (readers id).queue.arrived <+: sources id

variable {tls : Bool} {maxRetries : Nat} {readers : Nat → ClientStream}
  {sources sources' : Nat → List UInt8}

theorem reading_start : Reading (fun _ => {}) sources where
  ordered _ := ⟨rfl, List.nil_prefix, fun c hc => by cases hc⟩
  carried _ := List.nil_prefix

theorem Reading.grown (h : Reading readers sources) (hgrown : ∀ id, sources id <+: sources' id) :
    Reading readers sources' :=
  ⟨h.ordered, fun id => (h.carried id).trans (hgrown id)⟩

theorem Reading.step (h : Reading readers sources) {id : Nat} {label : ClientStream.Label}
    (hcarries : (readers id).carries (sources id) label = true) {reader : ClientStream}
    (hstep : (readers id).step tls maxRetries label = some reader) :
    Reading (Function.update readers id reader) sources := by
  constructor
  · refine (Function.forall_update_iff readers fun _ r => r.Ordered).mpr ⟨?_, ?_⟩
    · exact (h.ordered id).step hstep
    · intro id' _
      exact h.ordered id'
  · refine (Function.forall_update_iff readers fun id' r => r.queue.arrived <+: sources id').mpr
      ⟨?_, ?_⟩
    · exact ClientStream.carried_step (h.carried id) hcarries hstep
    · intro id' _
      exact h.carried id'

theorem Reading.received (h : Reading readers sources) (id : Nat) :
    (readers id).received <+: sources id :=
  (h.ordered id).inOrder.trans (h.carried id)

end SecuritySocket.SocketClient
