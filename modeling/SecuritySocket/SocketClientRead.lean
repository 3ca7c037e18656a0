import SecuritySocket.ReceiveQueue
import SecuritySocket.SocketClient

/-!
# What `SocketClient::read` makes of a close

A connection of a client with the reads made on it, one after the other: bytes arrive, the
peer closes, a `read` is called with some size and runs its iterations.  Every return is
recorded with what was left in the receive queue at that moment.

A hangup that the poll reports beside readable data is reported as a closed socket before
the data is looked at, and a `recv` that was asked for nothing is taken for the end of the
stream.  These two are all that can go wrong.
-/

namespace SecuritySocket.SocketClient

open FixedWidth Transition

structure ReadReturn where
  result : SocketResult
  unread : List UInt8
deriving DecidableEq, Repr

/-- A connection, the call of `read` under way with its size, and those that have returned. -/
structure ClientReads where
  queue : ReceiveQueue := {}
  consumed : List UInt8 := []
  call : Option (Nat × ReadLoop) := none
  returns : List ReadReturn := []
deriving DecidableEq, Repr

namespace ClientReads

def unread (s : ClientReads) : List UInt8 := s.queue.unread s.consumed

def atTest (s : ClientReads) (maxRetries size : Nat) (l : ReadLoop) : ClientReads :=
  if l.running maxRetries then { s with call := some (size, l) }
  else { s with call := none, returns := s.returns ++ [⟨l.result, s.unread⟩] }

def consume (s : ClientReads) (round : ReadRound) : ClientReads :=
  if round.reads then { s with consumed := s.consumed ++ round.transport.bytes } else s

def answers (s : ClientReads) (size : Nat) (round : ReadRound) : Bool :=
  !round.reads || s.queue.answersClient s.consumed size round.transport

inductive Label where
  | arrive (bytes : List UInt8)
  | finish
  | call (size : Nat)
  | round (round : ReadRound)
deriving DecidableEq, Repr

def step (tls : Bool) (maxRetries : Nat) (s : ClientReads) : Label → Option ClientReads
  | .arrive bytes => (s.queue.arrive bytes).map fun queue => { s with queue := queue }
  | .finish => some { s with queue := s.queue.finish }
  | .call size =>
    match s.call with
    | none => some (s.atTest maxRetries size {})
    | some _ => none
  | .round round =>
    match s.call with
    | none => none
    | some (size, l) =>
      if s.answers size round then
        (readStep tls maxRetries size l round).map ((s.consume round).atTest maxRetries size)
      else none

/-- No `read` has reported a closed socket over unread bytes. -/
def Honest (s : ClientReads) : Prop :=
  ∀ r ∈ s.returns, r.result.code = .socketClosed → r.unread = []

/-- The iteration finds bytes unread and reports a closed socket: the poll reports POLLHUP and not
    POLLERR, or the transport is asked for zero bytes and returns zero. -/
def overlooks (s : ClientReads) : Label → Bool
  | .round round =>
    match s.call with
    | none => false
    | some (size, _) =>
      !s.unread.isEmpty &&
        (round.poll.hangsUp || (round.reads && narrow size == 0 && round.transport.isZero))
  | .arrive _ | .finish | .call _ => false

end ClientReads

variable {tls : Bool} {maxRetries size : Nat}

/-! ### One iteration -/

def ReadRound.closes (round : ReadRound) : Bool :=
  round.poll.hangsUp || (round.reads && round.transport.isZero)

theorem transport_code_eq_closed {r : ClientReadReturn} (l : ReadLoop) (h : r.fits tls size) :
    ((l.transport r).result.code = .socketClosed ↔ r.isZero = true) ∧
      (r.isZero = true → (l.transport r).broken = true) := by
  have hbytes := ClientActiveSocket.read_bytes_eq_zero h
  unfold ReadLoop.transport
  dsimp only
  split
  · rename_i hzero
    simp [hbytes.mp hzero]
  · rename_i hzero
    have hcode := ClientActiveSocket.read_code_ne_closed hzero
    have hnot : r.isZero = false := Bool.eq_false_iff.mpr fun h => hzero (hbytes.mpr h)
    split <;> simp [hcode, hnot]

/-- What an iteration can come to: its poll times out, or succeeds and leads to the transport call, or
    fails. -/
inductive ReadCase (tls : Bool) (maxRetries size : Nat) (l : ReadLoop) (round : ReadRound) :
    ReadLoop → Prop where
  | timeout (hrunning : l.running maxRetries = true)
      (hcode : (SocketEventListener.wait round.poll).code = .socketTimeout) :
      ReadCase tls maxRetries size l round
        { l with result := SocketEventListener.wait round.poll, i := l.i + 1 }
  | transport (hreads : round.reads = true) (hfits : round.transport.fits tls size = true) :
      ReadCase tls maxRetries size l round (l.transport round.transport)
  | failed (htimeout : (SocketEventListener.wait round.poll).code ≠ .socketTimeout)
      (hreads : round.reads = false) :
      ReadCase tls maxRetries size l round
        { l with result := SocketEventListener.wait round.poll, broken := true }

theorem readStep_cases {l l' : ReadLoop} {round : ReadRound}
    (h : readStep tls maxRetries size l round = some l') :
    ReadCase tls maxRetries size l round l' := by
  unfold readStep at h
  split at h
  · cases h
  · rename_i hrunning
    dsimp only at h
    split at h
    · rename_i hcode
      cases h
      exact .timeout (by simpa using hrunning) hcode
    · rename_i hcode
      split at h
      · rename_i hfits
        cases h
        exact .transport (by simp [ReadRound.reads, hcode]) hfits
      · cases h
    · rename_i htimeout hsuccess
      cases h
      exact .failed htimeout (by simpa [ReadRound.reads] using hsuccess)

theorem ReadRound.not_hangsUp {round : ReadRound} (h : round.reads = true) :
    round.poll.hangsUp = false := by
  rw [Bool.eq_false_iff, ne_eq, ← SocketEventListener.wait_code_eq_closed]
  simp only [ReadRound.reads, beq_iff_eq] at h
  simp [h]

/-- **One iteration.**  It leaves a closed socket as the result exactly when it meets a close, and
    then the loop is over. -/
theorem readStep_closed {l l' : ReadLoop} {round : ReadRound}
    (h : readStep tls maxRetries size l round = some l') :
    (l'.result.code = .socketClosed ↔ round.closes = true) ∧
      (round.closes = true → l'.running maxRetries = false) := by
  have hclosed : (SocketEventListener.wait round.poll).code = .socketClosed ↔
      round.poll.hangsUp = true := SocketEventListener.wait_code_eq_closed
  cases readStep_cases h with
  | timeout hrunning hcode =>
    have hhang : round.poll.hangsUp = false := by simpa [hcode] using hclosed
    simp [hcode, ReadRound.closes, ReadRound.reads, hhang]
  | transport hreads hfits =>
    obtain ⟨hiff, hbroken⟩ := transport_code_eq_closed l hfits
    have hsame : round.closes = round.transport.isZero := by
      simp [ReadRound.closes, hreads, ReadRound.not_hangsUp hreads]
    rw [hsame]
    exact ⟨hiff, fun hzero => by simp [ReadLoop.running, hbroken hzero]⟩
  | failed htimeout hreads =>
    have hsame : round.closes = round.poll.hangsUp := by simp [ReadRound.closes, hreads]
    rw [hsame]
    exact ⟨hclosed, fun _ => rfl⟩

theorem ReadLoop.running_start (hretries : 0 < maxRetries) :
    ({} : ReadLoop).running maxRetries = true := by
  simp [ReadLoop.running, hretries]

theorem readStep_isSome {l : ReadLoop} {round : ReadRound}
    (hrunning : l.running maxRetries = true)
    (hfits : round.reads = true → round.transport.fits tls size = true) :
    ∃ l', readStep tls maxRetries size l round = some l' := by
  unfold readStep
  rw [if_neg (by simp [hrunning])]
  dsimp only
  split
  · exact ⟨_, rfl⟩
  · rename_i hcode
    rw [if_pos (hfits (by simp [ReadRound.reads, hcode]))]
    exact ⟨_, rfl⟩
  · exact ⟨_, rfl⟩

theorem fits_of_readStep {l l' : ReadLoop} {round : ReadRound}
    (h : readStep tls maxRetries size l round = some l') (hreads : round.reads = true) :
    round.transport.fits tls size = true := by
  cases readStep_cases h with
  | timeout hrunning hcode =>
    simp only [ReadRound.reads, hcode] at hreads
    cases hreads
  | transport hreads' hfits => exact hfits
  | failed htimeout hnot =>
    rw [hnot] at hreads
    cases hreads

/-! ### Runs -/

namespace ClientReads

variable {s s' : ClientReads}

theorem unread_consume {round : ReadRound} {l l' : ReadLoop}
    (h : readStep tls maxRetries size l round = some l') (hcloses : round.closes = true) :
    (s.consume round).unread = s.unread := by
  unfold consume
  split
  · rename_i hreads
    simp only [ReadRound.closes, ReadRound.not_hangsUp hreads, hreads, Bool.false_or, Bool.true_and] at hcloses
    rw [ClientReadReturn.bytes_eq_nil (fits_of_readStep h hreads) hcloses, List.append_nil]
  · rfl

theorem overlooks_eq_false {round : ReadRound} {l : ReadLoop} (hcall : s.call = some (size, l))
    (hanswers : s.answers size round = true) (hcloses : round.closes = true) :
    s.overlooks (.round round) = false ↔ s.unread = [] := by
  simp only [overlooks, hcall]
  cases hhang : round.poll.hangsUp with
  | true => simp
  | false =>
    simp only [ReadRound.closes, hhang, Bool.false_or, Bool.and_eq_true] at hcloses
    obtain ⟨hreads, hzero⟩ := hcloses
    by_cases hsize : narrow size = 0
    · simp [hreads, hzero, hsize]
    · have hnone : s.unread = [] := by
        simp only [answers, hreads, Bool.not_true, Bool.false_or] at hanswers
        exact ReceiveQueue.unread_eq_nil_of_isZero hanswers hzero hsize
      simp [hnone]

theorem honest_atTest (l : ReadLoop) : (s.atTest maxRetries size l).Honest ↔
    s.Honest ∧ (l.running maxRetries = false → l.result.code = .socketClosed → s.unread = []) := by
  unfold atTest
  split
  · rename_i hrunning
    simp [Honest, hrunning]
  · rename_i hover
    simp [Honest, hover, or_imp, forall_and]

/-- **Step lemma.**  The reads stay honest exactly when the step overlooks nothing. -/
theorem honest_step {label : Label} (hstep : step tls maxRetries s label = some s') :
    s'.Honest ↔ s.Honest ∧ s.overlooks label = false := by
  cases label with
  | arrive bytes =>
    obtain ⟨queue, -, rfl⟩ := Option.map_eq_some_iff.mp hstep
    simp [Honest, overlooks]
  | finish =>
    cases hstep
    simp [Honest, overlooks]
  | call size =>
    simp only [step] at hstep
    split at hstep
    · cases hstep
      rw [honest_atTest]
      simp [overlooks]
    · cases hstep
  | round round =>
    simp only [step] at hstep
    split at hstep
    · cases hstep
    · rename_i size l hcall
      split at hstep
      · rename_i hanswers
        obtain ⟨l', hl', rfl⟩ := Option.map_eq_some_iff.mp hstep
        obtain ⟨hiff, hover⟩ := readStep_closed hl'
        have hsame : (s.consume round).Honest ↔ s.Honest := by
          unfold consume
          split <;> rfl
        rw [honest_atTest, hsame]
        refine and_congr_right fun _ => ?_
        by_cases hcloses : round.closes = true
        · rw [overlooks_eq_false hcall hanswers hcloses, unread_consume hl' hcloses]
          simp [hover hcloses, hiff.mpr hcloses]
        · have hquiet : s.overlooks (.round round) = false := by
            simp only [ReadRound.closes, Bool.or_eq_true, Bool.and_eq_true, not_or] at hcloses
            simp only [overlooks, hcall]
            grind
          simp [hiff, hcloses, hquiet]
      · cases hstep

/-- **Closing and reading.**  In a run no `read` reports a closed socket while bytes are unread
    exactly when no iteration overlooks them. -/
theorem honest_iff {labels : List Label} (hexec : exec (step tls maxRetries) {} labels = some s) :
    s.Honest ↔ Meets (step tls maxRetries) (fun s label => s.overlooks label = false) {} labels := by
  refine (exec_iff_meets (I := fun _ => True) (P := Honest) (fun _ _ _ _ _ => trivial)
    (fun _ _ _ _ hstep => honest_step hstep) hexec trivial).trans ?_
  simp [Honest]

end ClientReads

end SecuritySocket.SocketClient
