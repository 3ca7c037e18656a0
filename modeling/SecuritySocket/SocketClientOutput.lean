import SecuritySocket.SocketClientWrite

/-!
# What the calls of `SocketClient::write` put on a connection

The calls of `write` made on one connection, one after the other, with the bytes the transport
took.  The transport is given an address and a length, so what it takes is read from the memory
around the caller's buffer; `ClientWrites` keeps these bytes in the order they were taken.  As
long as no transport call would block with a negative return they are, call after call, the first
bytes of the buffer, as many as the call then returns.
-/

namespace SecuritySocket.SocketClient

open FixedWidth Transition

/-- The arguments of a call of `write`: a size an `int32_t` can hold, and the memory from the
    address of the buffer on. -/
structure WriteRequest where
  size : Nat
  memory : Nat → UInt8
  size_pos : 1 ≤ size
  size_lt : size < 2 ^ 31

def WriteRequest.buffer (r : WriteRequest) : List UInt8 := (List.range r.size).map r.memory

def WriteRequest.short (more : UInt8) (memory : Nat → UInt8) : WriteRequest where
  size := more.toNat + 1
  memory := memory
  size_pos := FixedWidth.one_le_byte_succ more
  size_lt := FixedWidth.byte_succ_lt more

structure WriteCall where
  request : WriteRequest
  loop : WriteLoop := {}

structure WriteDelivery where
  request : WriteRequest
  result : SocketResult

/-- What the caller may take to be written: `bytes()` bytes from the start of its buffer. -/
def WriteDelivery.written (d : WriteDelivery) : List UInt8 :=
  d.request.buffer.take d.result.bytes.toNat

/-- What the transport has taken on a connection, the call under way, and those that have
    returned. -/
structure ClientWrites where
  sent : List UInt8 := []
  call : Option WriteCall := none
  returns : List WriteDelivery := []

namespace ClientWrites

def written (s : ClientWrites) : List UInt8 := s.returns.flatMap WriteDelivery.written

def offered (s : ClientWrites) : List UInt8 :=
  s.written ++ s.call.elim [] fun c => c.request.buffer

def atTest (s : ClientWrites) (maxRetries : Nat) (c : WriteCall) : ClientWrites :=
  if c.loop.running maxRetries then { s with call := some c }
  else { s with call := none, returns := s.returns ++ [⟨c.request, c.loop.returned⟩] }

def take (s : ClientWrites) (request : WriteRequest) (positions : List Nat) : ClientWrites :=
  { s with sent := s.sent ++ positions.map request.memory }

inductive Label where
  | call (request : WriteRequest)
  | round (round : WriteRound)

def step (tls : Bool) (maxRetries : Nat) (s : ClientWrites) : Label → Option ClientWrites
  | .call request =>
    match s.call with
    | none => some (s.atTest maxRetries { request := request })
    | some _ => none
  | .round round =>
    match s.call with
    | none => none
    | some c =>
      (writeStep tls maxRetries c.request.size c.loop round).map fun loop =>
        (s.take c.request (loop.handed.drop c.loop.handed.length)).atTest maxRetries
          { c with loop := loop }

/-- The step is an iteration whose transport call would block with a negative return. -/
def Label.wouldBlock : Label → Bool
  | .call _ => false
  | .round r => r.wouldBlock

end ClientWrites

/-- A call did what it says: it reports between none and all of its bytes, and a success exactly
    when it reports all of them. -/
structure WriteDelivery.Honest (d : WriteDelivery) : Prop where
  bytes : ∃ count : Nat, d.result.bytes = count ∧ count ≤ d.request.size
  success : d.result.code = .success ↔ d.result.bytes = d.request.size

/-- The transport has taken what the calls report, one call after the other, and then the beginning
    of the buffer of the call under way. -/
structure ClientWrites.Contiguous (s : ClientWrites) : Prop where
  each : ∀ d ∈ s.returns, d.Honest
  sent : ∃ part, s.sent = s.written ++ part ∧
    part <+: s.call.elim [] fun c => c.request.buffer

variable {tls : Bool} {maxRetries : Nat}

@[simp] theorem WriteRequest.length_buffer (r : WriteRequest) : r.buffer.length = r.size := by
  simp [buffer]

theorem WriteRequest.take_buffer (r : WriteRequest) {count : Nat} (h : count ≤ r.size) :
    r.buffer.take count = (List.range count).map r.memory := by
  rw [buffer, ← List.map_take, List.take_range, Nat.min_eq_left h]

namespace ClientWrites

variable {s s' : ClientWrites}

structure Flowing (maxRetries : Nat) (s : ClientWrites) : Prop where
  each : ∀ d ∈ s.returns, d.Honest
  idle : s.call = none → s.sent = s.written
  busy : ∀ c, s.call = some c → WriteInv maxRetries c.request.size c.loop ∧
    s.sent = s.written ++ c.request.buffer.take c.loop.writtenSize

theorem flowing_start : Flowing maxRetries {} where
  each := by simp
  idle _ := rfl
  busy := by simp

theorem Flowing.contiguous (h : s.Flowing maxRetries) : s.Contiguous where
  each := h.each
  sent := by
    cases hcall : s.call with
    | none =>
      refine ⟨[], ?_, List.prefix_rfl⟩
      rw [List.append_nil]
      exact h.idle hcall
    | some c => exact ⟨_, (h.busy c hcall).2, List.take_prefix _ _⟩

theorem Contiguous.sent_offered (h : s.Contiguous) : s.sent <+: s.offered := by
  obtain ⟨part, hsent, hpart⟩ := h.sent
  rw [hsent, offered]
  exact (List.prefix_append_right_inj _).mpr hpart

theorem Contiguous.sent_eq (h : s.Contiguous) (hcall : s.call = none) : s.sent = s.written := by
  obtain ⟨part, hsent, hpart⟩ := h.sent
  rw [hcall] at hpart
  rw [hsent, List.prefix_nil.mp hpart, List.append_nil]

/-- A call that keeps its contract comes to the test: it goes on, or returns what it has written. -/
theorem Flowing.atTest (heach : ∀ d ∈ s.returns, d.Honest) {c : WriteCall}
    (hinv : WriteInv maxRetries c.request.size c.loop)
    (hsent : s.sent = s.written ++ c.request.buffer.take c.loop.writtenSize) :
    (s.atTest maxRetries c).Flowing maxRetries := by
  unfold ClientWrites.atTest
  split
  · refine ⟨heach, ?_, ?_⟩
    · intro hnone
      cases hnone
    · intro c' hc'
      cases Option.some.inj hc'
      exact ⟨hinv, hsent⟩
  · rename_i hover
    have hnarrow : toInt32 c.loop.writtenSize = c.loop.writtenSize :=
      toInt32_of_lt (Nat.lt_of_le_of_lt hinv.bounded c.request.size_lt)
    have hbytes : c.loop.returned.bytes = c.loop.writtenSize := by
      rw [WriteLoop.returned, hnarrow]
    have hhonest : WriteDelivery.Honest ⟨c.request, c.loop.returned⟩ := by
      refine ⟨⟨c.loop.writtenSize, hbytes, hinv.bounded⟩, ?_⟩
      have hcode := hinv.code (by simpa using hover)
      rw [hbytes]
      exact hcode.trans Int.ofNat_inj.symm
    refine ⟨?_, fun _ => ?_, ?_⟩
    · intro d hd
      rcases List.mem_append.mp hd with hearlier | hlast
      · exact heach d hearlier
      · rw [List.mem_singleton.mp hlast]
        exact hhonest
    · show s.sent = (s.returns ++ [_]).flatMap WriteDelivery.written
      rw [List.flatMap_append, hsent, written]
      simp [WriteDelivery.written, hbytes]
    · intro c' hc'
      cases hc'

theorem sent_take {request : WriteRequest} {before after : Nat} (hle : before ≤ after)
    (hsize : after ≤ request.size) :
    request.buffer.take before ++ ((List.range after).drop before).map request.memory =
      request.buffer.take after := by
  rw [request.take_buffer (Nat.le_trans hle hsize), request.take_buffer hsize, ← List.map_append]
  have hfront : List.range before = (List.range after).take before := by
    rw [List.take_range, Nat.min_eq_left hle]
  rw [hfront, List.take_append_drop]

theorem Flowing.step (hretries : 1 ≤ maxRetries) (h : s.Flowing maxRetries) {label : Label}
    (hfree : label.wouldBlock = false) (hstep : step tls maxRetries s label = some s') :
    s'.Flowing maxRetries := by
  cases label with
  | call request =>
    simp only [ClientWrites.step] at hstep
    split at hstep
    · rename_i hcall
      cases hstep
      refine Flowing.atTest h.each (writeInv_init hretries request.size_pos) ?_
      simpa using h.idle hcall
    · cases hstep
  | round round =>
    simp only [ClientWrites.step] at hstep
    split at hstep
    · cases hstep
    · rename_i c hcall
      obtain ⟨loop, hloop, rfl⟩ := Option.map_eq_some_iff.mp hstep
      obtain ⟨hinv, hsent⟩ := h.busy c hcall
      obtain ⟨hinv', hle⟩ := writeStep_inv c.request.size_lt hinv hfree hloop
      have hsent' : (s.take c.request (loop.handed.drop c.loop.handed.length)).sent =
          s.written ++ c.request.buffer.take loop.writtenSize := by
        simp only [take, hinv.handed, hinv'.handed, List.length_range, hsent, List.append_assoc]
        rw [sent_take hle hinv'.bounded]
      exact @Flowing.atTest maxRetries (s.take c.request _) h.each { c with loop := loop } hinv' hsent'

theorem sent_step {label : Label} (hstep : step tls maxRetries s label = some s') :
    s.sent <+: s'.sent := by
  have htest : ∀ (s : ClientWrites) c, (s.atTest maxRetries c).sent = s.sent := by
    intro s c
    unfold atTest
    split <;> rfl
  cases label with
  | call request =>
    simp only [step] at hstep
    split at hstep
    · cases hstep
      exact (htest _ _).symm ▸ List.prefix_rfl
    · cases hstep
  | round round =>
    simp only [step] at hstep
    split at hstep
    · cases hstep
    · obtain ⟨loop, -, rfl⟩ := Option.map_eq_some_iff.mp hstep
      rw [htest]
      exact List.prefix_append _ _

/-- **Writing a stream.**  In every state of a run of calls of `write` in which no transport call would
    block with a negative return, the bytes the transport has taken are those the calls report,
    in order, and the beginning of the buffer of the call under way; a call reports a success
    exactly when it reports its whole buffer. -/
theorem write_contiguous (tls : Bool) (hretries : 1 ≤ maxRetries) {labels : List Label}
    (hexec : exec (step tls maxRetries) {} labels = some s)
    (hfree : ∀ label ∈ labels, label.wouldBlock = false) : s.Contiguous := by
  have hstep : ∀ s label s', Flowing maxRetries s → label.wouldBlock = false →
      step tls maxRetries s label = some s' → Flowing maxRetries s' :=
    fun s label s' h hfree hstep => h.step hretries hfree hstep
  exact (exec_invariant_of_meets hstep hexec (meets_of_forall_label hfree)
    flowing_start).contiguous

def partialWrites : List Label :=
  let writable : PollReturn := .ready { pollout := true } none
  let request : WriteRequest := .short 2 fun i => UInt8.ofNat (i + 1)
  let second : WriteRequest := .short 1 fun i => UInt8.ofNat (i + 7)
  [.call request, .round ⟨writable, .plain (.sent 2)⟩, .round ⟨.timeout, .plain (.sent 0)⟩,
   .round ⟨writable, .plain (.sent 1)⟩, .call second, .round ⟨writable, .plain (.sent 1)⟩,
   .round ⟨writable, .plain (.error (.other 104))⟩]

theorem write_contiguous_partial : ∃ s, exec (step false 3) {} partialWrites = some s ∧
    s.sent = [1, 2, 3, 7] ∧ s.Contiguous := by
  have hruns : (exec (step false 3) {} partialWrites).map (·.sent) = some [1, 2, 3, 7] := by decide
  obtain ⟨s, hs, hsent⟩ := Option.map_eq_some_iff.mp hruns
  exact ⟨s, hs, hsent, write_contiguous false (by decide) hs (by decide)⟩

end ClientWrites

end SecuritySocket.SocketClient
