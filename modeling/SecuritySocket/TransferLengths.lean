import SecuritySocket.SocketClientRead
import SecuritySocket.SocketClientWrite

/-!
# Lengths through `int32_t`

A `size_t` size reaches `recv` through an `int32_t` and a `size_t` again, `SSL_read` and
`SSL_write` as an `int`, and `send`, on Linux, as it is.  The count `write` returns goes through
`int32_t` once more.  On a connection that the peer keeps open, where nothing else ends a
transfer, this is what sizes come to.
-/

namespace SecuritySocket.SocketClient

open FixedWidth Transition

/-- The calls that are given a size: the read of a request's payload, and `read` and `write` of a
    client. -/
inductive Transfer where
  | payloadRead
  | clientRead (tls : Bool) (maxRetries : Nat)
  | clientWrite (tls : Bool) (maxRetries : Nat)
deriving DecidableEq, Repr

/-- The length that `recv` or `SSL_read` is given. -/
def readLength (tls : Bool) (size : Nat) : Int := if tls then toInt32 size else narrow size

/-- The length that `send` or `SSL_write` is given. -/
def writeLength (tls : Bool) (size : Nat) : Int := if tls then toInt32 size else size

def Between (length : Int) (size : Nat) : Prop := 1 ≤ length ∧ length ≤ size

def WriteRound.writes (round : WriteRound) : Bool :=
  (SocketEventListener.wait round.poll).code == .success

def WriteRound.isZero (round : WriteRound) : Bool :=
  match round.transport with
  | .plain r => r == .sent 0
  | .tls ret _ => ret == 0

/-- The peer keeps the connection open: poll reports no hangup, and a transport call that is asked
    for something does not return zero. -/
def ReadRound.keptOpen (tls : Bool) (size : Nat) (round : ReadRound) : Bool :=
  !round.poll.hangsUp && (!round.transport.isZero || readLength tls size == 0)

def WriteRound.keptOpen (tls : Bool) (size : Nat) (s : WriteLoop) (round : WriteRound) : Bool :=
  !round.poll.hangsUp && (!round.isZero || writeLength tls (s.remaining size) == 0)

/-- Whatever the polls and transport calls of a connection that is kept open answer: each transport
    call is given a length between 1 and the size, the call does not return that the socket is
    closed, and a `write` returns the number of bytes it handed to the transport.  `blocks` tells
    whether the transport of a `write` may answer that it would block. -/
def Survives (blocks : Bool) (size : Nat) : Transfer → Prop
  | .payloadRead => ∀ r : RecvReturn, r.fits (ServerActiveSocket.recvLength size) = true →
    (r = .closed → ServerActiveSocket.recvLength size = 0) →
      Between (ServerActiveSocket.recvLength size) size ∧
        (ServerActiveSocket.read r).code ≠ .socketClosed
  | .clientRead tls maxRetries => ∀ rounds l,
    (∀ round ∈ rounds, round.keptOpen tls size = true) →
      exec (readStep tls maxRetries size) {} rounds = some l →
        (∀ round ∈ rounds, round.reads = true → Between (readLength tls size) size) ∧
          (l.running maxRetries = false → l.result.code ≠ .socketClosed)
  | .clientWrite tls maxRetries => ∀ rounds s,
    (blocks = false → ∀ round ∈ rounds, round.wouldBlock = false) →
      Meets (writeStep tls maxRetries size) (fun s round => round.keptOpen tls size s = true) {}
        rounds →
        exec (writeStep tls maxRetries size) {} rounds = some s →
          Meets (writeStep tls maxRetries size) (fun s round =>
              s.running maxRetries = true → round.writes = true →
                Between (writeLength tls (s.remaining size)) size) {} rounds ∧
            (s.running maxRetries = false → s.returned.code ≠ .socketClosed ∧
              s.returned.bytes = s.handed.length)

/-- The size survives: for a read its low half is a positive `int32_t`, or `recv` is given it
    unchanged; for a `write` it is itself one, and the transport does not block. -/
def InRange (blocks : Bool) (size : Nat) : Transfer → Prop
  | .payloadRead => LowHalf size ∨ 2 ^ 64 - 2 ^ 31 ≤ size
  | .clientRead false maxRetries => maxRetries = 0 ∨ LowHalf size ∨ 2 ^ 64 - 2 ^ 31 ≤ size
  | .clientRead true maxRetries => maxRetries = 0 ∨ LowHalf size
  | .clientWrite _ maxRetries => maxRetries = 0 ∨ size < 2 ^ 31 ∧ blocks = false

variable {tls blocks : Bool} {maxRetries size : Nat}

/-! ### Reading -/

theorem recvLength_between (hsize : size < 2 ^ 64) :
    Between (ServerActiveSocket.recvLength size) size ↔ LowHalf size ∨ 2 ^ 64 - 2 ^ 31 ≤ size := by
  rw [← narrow_between_iff hsize, Between, ServerActiveSocket.recvLength]
  omega

theorem readLength_between (hsize : size < 2 ^ 64) :
    Between (readLength tls size) size ↔
      LowHalf size ∨ tls = false ∧ 2 ^ 64 - 2 ^ 31 ≤ size := by
  cases tls with
  | false =>
    have hrecv : Between (readLength false size) size ↔ _ := recvLength_between hsize
    rw [hrecv]
    simp
  | true =>
    rw [Between, readLength, if_pos rfl, toInt32_between_iff]
    simp

theorem survives_payloadRead (hsize : size < 2 ^ 64) :
    Survives blocks size .payloadRead ↔ InRange blocks size .payloadRead := by
  rw [InRange, ← recvLength_between hsize]
  constructor
  · intro h
    exact (h (.error .eintr) rfl (by simp)).1
  · intro hbetween r hfits hopen
    refine ⟨hbetween, ?_⟩
    cases r with
    | data bytes => exact createResult_code_ne_closed _ _
    | closed =>
      rw [Between, hopen rfl] at hbetween
      omega
    | error errno => exact createResult_code_ne_closed _ _

theorem inRange_clientRead (hsize : size < 2 ^ 64) :
    InRange blocks size (.clientRead tls maxRetries) ↔
      maxRetries = 0 ∨ Between (readLength tls size) size := by
  rw [readLength_between hsize]
  cases tls <;> simp [InRange]

/-- What is left to read after an OpenSSL call that failed. -/
def sslFailed : SslFailure where
  error := .ssl
  verifyPeer := true
  verifyResult := .ok
  reason := .other
  currentCipher := true
  errno := .other 0

def interruptedRead (tls : Bool) : ReadRound where
  poll := .ready { pollin := true } none
  transport := if tls then .tls [] (-1) sslFailed else .plain (.error .eintr)

theorem survives_clientRead (hsize : size < 2 ^ 64) :
    Survives blocks size (.clientRead tls maxRetries) ↔
      InRange blocks size (.clientRead tls maxRetries) := by
  rw [inRange_clientRead hsize]
  constructor
  · intro h
    by_cases hretries : maxRetries = 0
    · exact .inl hretries
    · have hrunning := ReadLoop.running_start (Nat.pos_of_ne_zero hretries)
      have hfits : (interruptedRead tls).transport.fits tls size = true := by
        cases tls <;> simp [interruptedRead, ClientReadReturn.fits, RecvReturn.fits]
      obtain ⟨l, hl⟩ := readStep_isSome hrunning fun _ => hfits
      have hopen : ∀ round ∈ [interruptedRead tls], round.keptOpen tls size = true := by
        intro round hround
        rw [List.mem_singleton.mp hround]
        cases tls <;>
          simp [interruptedRead, ReadRound.keptOpen, ClientReadReturn.isZero, PollReturn.hangsUp]
      have hsurvives := h [interruptedRead tls] l hopen (exec_cons_eq_some.mpr ⟨l, hl, rfl⟩)
      exact .inr (hsurvives.1 _ (List.mem_singleton_self _) rfl)
  · rintro (rfl | hbetween) rounds l hopen hexec
    · have hstuck : ∀ round, readStep tls 0 size {} round = none := fun round => rfl
      obtain ⟨rfl, rfl⟩ := exec_of_stuck hstuck hexec
      exact ⟨by simp, by simp⟩
    · refine ⟨fun _ _ _ => hbetween, fun _ => ?_⟩
      refine exec_invariant_of_meets (I := fun l : ReadLoop => l.result.code ≠ .socketClosed) ?_
        hexec (meets_of_forall_label hopen) (by simp)
      intro l round l' _ hround hstep
      simp only [ReadRound.keptOpen, Bool.and_eq_true, Bool.not_eq_true', Bool.or_eq_true,
        beq_iff_eq] at hround
      have hnonzero : round.transport.isZero = false := by
        rcases hround.2 with hnonzero | hzero
        · exact hnonzero
        · rw [Between, hzero] at hbetween
          omega
      rw [ne_eq, (readStep_closed hstep).1, ReadRound.closes, hround.1, hnonzero]
      simp

/-! ### Writing -/

theorem WriteLoop.running_of {s : WriteLoop} (hbroken : s.broken = false) (hi : s.i < maxRetries) :
    s.running maxRetries = true := by
  simp [WriteLoop.running, hbroken, hi]

def WriteLoop.taken (size : Nat) (s : WriteLoop) (round : WriteRound) : WriteLoop :=
  { s with
    writtenSize := s.writtenSize + round.transport.count
    result := ClientActiveSocket.write round.transport
    broken := s.writtenSize + round.transport.count == size
    handed := s.handed ++ List.range' s.writtenSize round.transport.count }

@[simp] theorem WriteLoop.taken_writtenSize (s : WriteLoop) (round : WriteRound) :
    (s.taken size round).writtenSize = s.writtenSize + round.transport.count := rfl

@[simp] theorem WriteLoop.taken_broken (s : WriteLoop) (round : WriteRound) :
    (s.taken size round).broken = (s.writtenSize + round.transport.count == size) := rfl

@[simp] theorem WriteLoop.taken_i (s : WriteLoop) (round : WriteRound) :
    (s.taken size round).i = s.i := rfl

@[simp] theorem WriteLoop.length_handed_taken (s : WriteLoop) (round : WriteRound) :
    (s.taken size round).handed.length = s.handed.length + round.transport.count := by
  simp [WriteLoop.taken]

theorem writeStep_transport {s : WriteLoop} {round : WriteRound}
    (hrunning : s.running maxRetries = true) (hwrites : round.writes = true)
    (hfits : round.transport.fits tls (s.remaining size) = true) :
    writeStep tls maxRetries size s round =
      some ({ s with result := SocketEventListener.wait round.poll }.transport size
        round.transport) := by
  have hpoll : (SocketEventListener.wait round.poll).code = .success := by
    simpa [WriteRound.writes] using hwrites
  simp only [writeStep, hrunning, Bool.not_true, Bool.false_eq_true, if_false, hpoll, hfits, if_true]

theorem writeStep_taken {s : WriteLoop} {round : WriteRound}
    (hrunning : s.running maxRetries = true) (hwrites : round.writes = true)
    (hfits : round.transport.fits tls (s.remaining size) = true)
    (hcount : 0 < round.transport.count)
    (hsum : s.writtenSize + round.transport.count < 2 ^ 64) :
    writeStep tls maxRetries size s round = some (s.taken size round) ∧
      round.wouldBlock = false := by
  have hsuccess := (ClientActiveSocket.write_code_eq_success hfits).mpr hcount
  have hbytes : (ClientActiveSocket.write round.transport).bytes = round.transport.count := by
    rcases ClientActiveSocket.write_bytes hfits with ⟨-, hzero⟩ | hbytes
    · omega
    · exact hbytes
  have hwritten : sizeAdd s.writtenSize (toSize (ClientActiveSocket.write round.transport).bytes) =
      s.writtenSize + round.transport.count := by
    rw [hbytes, toSize_natCast (by omega), sizeAdd_eq hsum]
  refine ⟨?_, by simp [WriteRound.wouldBlock, hsuccess]⟩
  rw [writeStep_transport hrunning hwrites hfits]
  simp only [WriteLoop.transport, hsuccess, WriteLoop.accumulate, hwritten, WriteLoop.taken]

theorem writeStep_isSome {s : WriteLoop} {round : WriteRound}
    (hrunning : s.running maxRetries = true)
    (hfits : round.transport.fits tls (s.remaining size) = true) :
    ∃ s', writeStep tls maxRetries size s round = some s' := by
  unfold writeStep
  rw [if_neg (by simp [hrunning])]
  dsimp only
  split
  · exact ⟨_, rfl⟩
  · rw [if_pos hfits]
    exact ⟨_, rfl⟩
  · exact ⟨_, rfl⟩

/-- An iteration without a hangup, and with a return other than zero, keeps open in any state. -/
theorem meets_keptOpen {rounds : List WriteRound}
    (h : ∀ round ∈ rounds, (!round.poll.hangsUp && !round.isZero) = true) {s : WriteLoop} :
    Meets (writeStep tls maxRetries size) (fun s round => round.keptOpen tls size s = true) s
      rounds := by
  refine Meets.imp_of_invariant (I := fun _ => True) (fun _ _ _ _ _ _ => trivial) ?_
    (meets_of_forall_label h) trivial
  intro s round _ hround
  simp only [Bool.and_eq_true, Bool.not_eq_true'] at hround
  simp [WriteRound.keptOpen, hround]

def takenRound (tls : Bool) (count : Nat) : WriteRound where
  poll := .ready { pollout := true } none
  transport := if tls then .tls count sslFailed else .plain (.sent count)

@[simp] theorem count_takenRound (tls : Bool) (count : Nat) :
    (takenRound tls count).transport.count = count := by
  cases tls <;> simp [takenRound, ClientWriteReturn.count, SendReturn.count]

def failedRound (tls : Bool) : WriteRound where
  poll := .ready { pollout := true } none
  transport := if tls then .tls (-1) sslFailed else .plain (.error .eintr)

def blockedRound (tls : Bool) : WriteRound where
  poll := .ready { pollout := true } none
  transport := if tls then .tls (-1) { sslFailed with error := .wantWrite }
    else .plain (.error .ewouldblock)

def unpolledRound : WriteRound where
  poll := .error
  transport := .plain (.error .eintr)

theorem running_start (hretries : maxRetries ≠ 0) : ({} : WriteLoop).running maxRetries = true :=
  WriteLoop.running_of rfl (Nat.pos_of_ne_zero hretries)

theorem remaining_start (hsize : size < 2 ^ 64) : ({} : WriteLoop).remaining size = size :=
  sizeSub_eq (Nat.zero_le _) hsize

/-- A call that has taken 2^31 bytes returns a negative count. -/
theorem returned_bytes_ne {s : WriteLoop} (hwritten : s.writtenSize = 2 ^ 31)
    (hhanded : s.handed.length = 2 ^ 31) : s.returned.bytes ≠ s.handed.length := by
  have hnegative : toInt32 (2 ^ 31) = -2 ^ 31 := by decide
  rw [WriteLoop.returned, hwritten, hhanded, hnegative]
  simp only
  omega

theorem writeStep_sent {s : WriteLoop} {count : Nat} (hrunning : s.running maxRetries = true)
    (hsize : size < 2 ^ 64) (hpos : 0 < count) (hmax : count ≤ transferMax)
    (hleft : s.writtenSize + count ≤ size) :
    writeStep false maxRetries size s (takenRound false count) =
        some (s.taken size (takenRound false count)) ∧
      (takenRound false count).wouldBlock = false := by
  have hremaining : s.remaining size = size - s.writtenSize := sizeSub_eq (by omega) hsize
  refine writeStep_taken hrunning rfl ?_ ?_ ?_
  · rw [hremaining]
    simp only [takenRound, Bool.false_eq_true, if_false, ClientWriteReturn.fits, SendReturn.fits,
      Bool.not_false, Bool.true_and, decide_eq_true_eq]
    omega
  · rw [count_takenRound]
    exact hpos
  · rw [count_takenRound]
    omega

def twoSends : List WriteRound := [takenRound false transferMax, takenRound false 4096]

theorem exec_twoSends (hsize : size < 2 ^ 64) (hlarge : 2 ^ 31 ≤ size) (hretries : maxRetries ≠ 0) :
    ∃ s, exec (writeStep false maxRetries size) {} twoSends = some s ∧
      (∀ round ∈ twoSends, round.wouldBlock = false) ∧ s.writtenSize = 2 ^ 31 ∧
        s.handed.length = 2 ^ 31 ∧ s.running maxRetries = decide (size ≠ 2 ^ 31) := by
  have hmax : transferMax = 2 ^ 31 - 4096 := rfl
  obtain ⟨s₁, hs₁⟩ : ∃ s, s = ({} : WriteLoop).taken size (takenRound false transferMax) :=
    ⟨_, rfl⟩
  have hwritten₁ : s₁.writtenSize = transferMax := by simp [hs₁]
  have hhanded₁ : s₁.handed.length = transferMax := by simp [hs₁]
  have hrunning₁ : s₁.running maxRetries = true := by
    refine WriteLoop.running_of ?_ (by simpa [hs₁] using Nat.pos_of_ne_zero hretries)
    simp only [hs₁, WriteLoop.taken_broken, count_takenRound, beq_eq_false_iff_ne]
    omega
  have hfirst : writeStep false maxRetries size {} (takenRound false transferMax) = some s₁ ∧
      (takenRound false transferMax).wouldBlock = false := by
    rw [hs₁]
    exact writeStep_sent (running_start hretries) hsize (by omega) (Nat.le_refl _)
      (by simp only; omega)
  obtain ⟨s₂, hs₂⟩ : ∃ s, s = s₁.taken size (takenRound false 4096) := ⟨_, rfl⟩
  have hsecond : writeStep false maxRetries size s₁ (takenRound false 4096) = some s₂ ∧
      (takenRound false 4096).wouldBlock = false := by
    rw [hs₂]
    exact writeStep_sent hrunning₁ hsize (by omega) (by omega) (by omega)
  refine ⟨s₂, exec_cons_eq_some.mpr ⟨s₁, hfirst.1, exec_cons_eq_some.mpr ⟨s₂, hsecond.1, rfl⟩⟩,
    ?_, ?_, ?_, ?_⟩
  · simp [twoSends, hfirst.2, hsecond.2]
  · rw [hs₂, WriteLoop.taken_writtenSize, count_takenRound]
    omega
  · rw [hs₂, WriteLoop.length_handed_taken, count_takenRound]
    omega
  · have hi : s₂.i < maxRetries := by simpa [hs₂, hs₁] using Nat.pos_of_ne_zero hretries
    have hbroken : s₂.broken = (2 ^ 31 == size) := by
      rw [hs₂, WriteLoop.taken_broken, count_takenRound, hwritten₁, hmax]
      rfl
    rw [WriteLoop.running, hbroken, Bool.eq_iff_iff]
    simp only [Bool.and_eq_true, Bool.not_eq_true', beq_eq_false_iff_ne, decide_eq_true_eq, hi,
      and_true]
    exact ne_comm

/-- **Over-long plain writes.**  Once 2^31 bytes are taken the count that is returned is negative,
    whether the call is over with them or ends when a poll fails. -/
theorem not_survives_plainWrite (hsize : size < 2 ^ 64) (hlarge : 2 ^ 31 ≤ size)
    (hretries : maxRetries ≠ 0) : ¬ Survives blocks size (.clientWrite false maxRetries) := by
  intro h
  obtain ⟨s, hexec, hfree, hwritten, hhanded, hrunning⟩ := exec_twoSends hsize hlarge hretries
  by_cases hexact : size = 2 ^ 31
  · have hover : s.running maxRetries = false := by simp [hrunning, hexact]
    have hends := h twoSends s (fun _ => hfree) (meets_keptOpen ?_) hexec
    · exact returned_bytes_ne hwritten hhanded (hends.2 hover).2
    · simp [twoSends, takenRound, PollReturn.hangsUp, WriteRound.isZero, transferMax]
  · let s' : WriteLoop := { s with result := { code := .socketEventError }, broken := true }
    have hstep : writeStep false maxRetries size s unpolledRound = some s' := by
      have hgoes : s.running maxRetries = true := hrunning.trans (decide_eq_true hexact)
      simp [writeStep, hgoes, unpolledRound, SocketEventListener.wait, s']
    have hexec' : exec (writeStep false maxRetries size) {} (twoSends ++ [unpolledRound]) = some s' :=
      exec_append_eq_some.mpr ⟨s, hexec, exec_cons_eq_some.mpr ⟨s', hstep, rfl⟩⟩
    have hfree' : ∀ round ∈ twoSends ++ [unpolledRound], round.wouldBlock = false := by
      intro round hround
      rcases List.mem_append.mp hround with hsend | hlast
      · exact hfree round hsend
      · rw [List.mem_singleton.mp hlast]
        rfl
    have hends := h _ s' (fun _ => hfree') (meets_keptOpen ?_) hexec'
    · exact returned_bytes_ne (s := s') hwritten hhanded (hends.2 rfl).2
    · simp [twoSends, takenRound, unpolledRound, PollReturn.hangsUp, WriteRound.isZero, transferMax]

theorem fits_failedRound (s : WriteLoop) :
    (failedRound tls).transport.fits tls (s.remaining size) = true := by
  cases tls <;> simp [failedRound, ClientWriteReturn.fits, SendReturn.fits]

theorem exec_takenHalf {count : Nat} (hsize : size < 2 ^ 64) (hlarge : 2 ^ 31 ≤ size)
    (hcount : count = size % 2 ^ 32) (hpos : 1 ≤ count) (hlt : count < 2 ^ 31)
    (hretries : maxRetries ≠ 0) :
    ∃ s, writeStep true maxRetries size {} (takenRound true count) = some s ∧
      (takenRound true count).wouldBlock = false ∧ s.writtenSize = count ∧
        s.running maxRetries = true := by
  have hlength : toInt32 size = count := by rw [toInt32, ← hcount, if_pos hlt]
  have hfits : (takenRound true count).transport.fits true (({} : WriteLoop).remaining size) =
      true := by
    simp only [remaining_start hsize, takenRound, if_true, ClientWriteReturn.fits, hlength,
      Bool.true_and, Bool.and_eq_true, Bool.or_eq_true, decide_eq_true_eq]
    omega
  have hstep := writeStep_taken (running_start hretries) rfl hfits (by rw [count_takenRound]; exact hpos)
    (by rw [count_takenRound]; simp only; omega)
  refine ⟨_, hstep.1, hstep.2, by simp, ?_⟩
  refine WriteLoop.running_of ?_ (Nat.pos_of_ne_zero hretries)
  simp only [WriteLoop.taken_broken, count_takenRound, beq_eq_false_iff_ne]
  omega

/-- **Over-long TLS writes.**  The first `SSL_write` is given something else than part of the size,
    or, once it has taken what it was given, the second is given nothing. -/
theorem not_survives_tlsWrite (hsize : size < 2 ^ 64) (hlarge : 2 ^ 31 ≤ size)
    (hretries : maxRetries ≠ 0) : ¬ Survives blocks size (.clientWrite true maxRetries) := by
  intro h
  have hfree : (failedRound true).wouldBlock = false := by decide
  by_cases hhalf : LowHalf size
  · obtain ⟨count, hcount⟩ : ∃ count, count = size % 2 ^ 32 := ⟨_, rfl⟩
    rw [LowHalf, ← hcount] at hhalf
    obtain ⟨s, hfirst, hfree₁, hwritten, hrunning⟩ :=
      exec_takenHalf hsize hlarge hcount hhalf.1 hhalf.2 hretries
    obtain ⟨s', hsecond⟩ := writeStep_isSome hrunning (fits_failedRound s)
    have hends := h [takenRound true count, failedRound true] s' (fun _ => by simp [hfree₁, hfree])
      (meets_keptOpen ?_)
      (exec_cons_eq_some.mpr ⟨s, hfirst, exec_cons_eq_some.mpr ⟨s', hsecond, rfl⟩⟩)
    · have hnothing : toInt32 (s.remaining size) = 0 := by
        rw [WriteLoop.remaining, hwritten, sizeSub_eq (by omega) hsize, toInt32]
        split <;> omega
      have hbetween := (hends.1.2 s hfirst).1 hrunning rfl
      rw [Between, writeLength, if_pos rfl, hnothing] at hbetween
      omega
    · have hne : count ≠ 0 := by omega
      simp [takenRound, failedRound, PollReturn.hangsUp, WriteRound.isZero, hne]
  · obtain ⟨s, hstep⟩ := writeStep_isSome (running_start hretries) (@fits_failedRound true size {})
    have hends := h [failedRound true] s (fun _ => by simp [hfree]) (meets_keptOpen ?_)
      (exec_cons_eq_some.mpr ⟨s, hstep, rfl⟩)
    · have hbetween := hends.1.1 (running_start hretries) rfl
      rw [remaining_start hsize, Between, writeLength, if_pos rfl, toInt32_between_iff] at hbetween
      exact hhalf hbetween
    · simp [failedRound, PollReturn.hangsUp, WriteRound.isZero]

/-- The loop after a first transport call that would block: `written_size` is -1. -/
def blockedLoop (tls : Bool) : WriteLoop where
  writtenSize := 2 ^ 64 - 1
  result := ClientActiveSocket.write (blockedRound tls).transport

theorem writeStep_blocked (hsmall : size < 2 ^ 31) (hretries : maxRetries ≠ 0) :
    writeStep tls maxRetries size {} (blockedRound tls) = some (blockedLoop tls) := by
  have hrunning := running_start hretries
  have hfits : (blockedRound tls).transport.fits tls (({} : WriteLoop).remaining size) = true := by
    cases tls <;> simp [blockedRound, ClientWriteReturn.fits, SendReturn.fits]
  have hwrites : (blockedRound tls).writes = true := rfl
  have hcode : (ClientActiveSocket.write (blockedRound tls).transport).code =
      .socketConnectionNeedToBeBlocked := by cases tls <;> rfl
  have hcount : (blockedRound tls).transport.count = 0 := by cases tls <;> rfl
  have hwritten : sizeAdd 0 (toSize (ClientActiveSocket.write (blockedRound tls).transport).bytes) =
      2 ^ 64 - 1 := by cases tls <;> decide
  have hbroken : (2 ^ 64 - 1 == size) = false := by
    rw [beq_eq_false_iff_ne]
    omega
  rw [writeStep_transport hrunning hwrites hfits]
  simp only [WriteLoop.transport, hcode, WriteLoop.accumulate, hwritten, hbroken, hcount,
    List.range'_zero, List.append_nil, blockedLoop]

/-- **Blocked writes.**  After a first transport call that would block, the second is given one
    byte more than the size. -/
theorem not_survives_blockedWrite (hpos : 1 ≤ size) (hsmall : size < 2 ^ 31)
    (hretries : maxRetries ≠ 0) : ¬ Survives true size (.clientWrite tls maxRetries) := by
  intro h
  have hrunning : (blockedLoop tls).running maxRetries = true :=
    WriteLoop.running_of rfl (Nat.pos_of_ne_zero hretries)
  have hfirst : writeStep tls maxRetries size {} (blockedRound tls) = some (blockedLoop tls) :=
    writeStep_blocked hsmall hretries
  obtain ⟨s, hsecond⟩ := writeStep_isSome hrunning (fits_failedRound (blockedLoop tls))
  have hexec : exec (writeStep tls maxRetries size) {} [blockedRound tls, failedRound tls] = some s :=
    exec_cons_eq_some.mpr ⟨_, hfirst, exec_cons_eq_some.mpr ⟨s, hsecond, rfl⟩⟩
  have hends := h _ s (by simp) (meets_keptOpen ?_) hexec
  · have hremaining : (blockedLoop tls).remaining size = size + 1 := by
      simp only [WriteLoop.remaining, blockedLoop, sizeSub]
      omega
    have hbetween := (hends.1.2 _ hfirst).1 hrunning (by cases tls <;> rfl)
    rw [hremaining, Between, writeLength] at hbetween
    cases tls with
    | false =>
      simp only [Bool.false_eq_true, if_false] at hbetween
      omega
    | true =>
      simp only [if_true, toInt32] at hbetween
      split at hbetween <;> omega
  · cases tls <;>
      simp [blockedRound, failedRound, PollReturn.hangsUp, WriteRound.isZero]

theorem write_code_closed {round : WriteRound} {n : Nat} (hfits : round.transport.fits tls n = true)
    (hzero : round.isZero = false) :
    (ClientActiveSocket.write round.transport).code ≠ .socketClosed := by
  unfold WriteRound.isZero at hzero
  cases htransport : round.transport with
  | tls ret failure => exact createTLSResult_code_ne_closed ret failure
  | plain r =>
    rw [htransport] at hfits hzero
    simp only [ClientWriteReturn.fits, Bool.and_eq_true] at hfits
    cases r with
    | error errno => exact createResult_code_ne_closed _ _
    | sent count =>
      have hle := SendReturn.count_le_of_fits hfits.2
      have hcount : count ≠ 0 := by simpa using hzero
      have hlt : count < 2 ^ 31 := by
        simp only [SendReturn.count, transferMax] at hle
        omega
      rw [ClientActiveSocket.write, SendReturn.result, toInt32_of_lt hlt, if_neg (by omega)]
      exact createResult_code_ne_closed _ _

/-- What holds of a `write` under a size an `int32_t` can hold, on a connection that is kept open and
    does not block. -/
structure WriteOpen (maxRetries size : Nat) (s : WriteLoop) : Prop
    extends WriteInv maxRetries size s where
  notClosed : s.result.code ≠ .socketClosed

theorem WriteOpen.between (hsmall : size < 2 ^ 31) {s : WriteLoop} (h : WriteOpen maxRetries size s)
    (hrunning : s.running maxRetries = true) :
    Between (writeLength tls (s.remaining size)) size := by
  have hlt := h.incomplete hrunning
  have hremaining : s.remaining size = size - s.writtenSize := sizeSub_eq h.bounded (by omega)
  rw [hremaining, Between, writeLength, toInt32_of_lt (by omega)]
  split <;> omega

theorem WriteOpen.step (hsmall : size < 2 ^ 31) {s s' : WriteLoop} {round : WriteRound}
    (h : WriteOpen maxRetries size s) (hfree : round.wouldBlock = false)
    (hopen : round.keptOpen tls size s = true)
    (hstep : writeStep tls maxRetries size s round = some s') : WriteOpen maxRetries size s' := by
  refine ⟨(writeStep_inv hsmall h.toWriteInv hfree hstep).1, ?_⟩
  simp only [WriteRound.keptOpen, Bool.and_eq_true, Bool.not_eq_true', Bool.or_eq_true,
    beq_iff_eq] at hopen
  obtain ⟨hrunning, hcases⟩ := writeStep_cases hstep
  have hbetween : Between (writeLength tls (s.remaining size)) size := h.between hsmall hrunning
  have hnonzero : round.isZero = false := by
    rcases hopen.2 with hnonzero | hzero
    · exact hnonzero
    · rw [Between, hzero] at hbetween
      omega
  have hpoll : (SocketEventListener.wait round.poll).code ≠ .socketClosed := by
    rw [ne_eq, SocketEventListener.wait_code_eq_closed, hopen.1]
    simp
  rcases hcases with ⟨-, rfl⟩ | ⟨-, -, rfl⟩ | ⟨-, hfits, rfl⟩
  · exact hpoll
  · exact hpoll
  · have hcode := write_code_closed hfits hnonzero
    rcases transport_cases size { s with result := SocketEventListener.wait round.poll }
      round.transport with ⟨-, heq⟩ | ⟨-, -, heq⟩
    · rw [heq]
      exact hcode
    · rw [heq]
      exact hcode

theorem survives_clientWrite_of_small (hpos : 1 ≤ size) (hsmall : size < 2 ^ 31)
    (hretries : maxRetries ≠ 0) : Survives false size (.clientWrite tls maxRetries) := by
  intro rounds s hfree hopen hexec
  have hstart : WriteOpen maxRetries size {} :=
    ⟨writeInv_init (Nat.pos_of_ne_zero hretries) hpos, by simp⟩
  have hstep : ∀ s round s', WriteOpen maxRetries size s →
      round.wouldBlock = false ∧ round.keptOpen tls size s = true →
        writeStep tls maxRetries size s round = some s' → WriteOpen maxRetries size s' :=
    fun s round s' h hguard hstep => h.step hsmall hguard.1 hguard.2 hstep
  have hmeets := (meets_of_forall_label (hfree rfl)).and hopen
  have hend := exec_invariant_of_meets hstep hexec hmeets hstart
  refine ⟨hmeets.imp_of_invariant hstep ?_ hstart, fun hover => ⟨hend.notClosed, ?_⟩⟩
  · intro s round h _ hrunning _
    exact h.between hsmall hrunning
  · exact (hend.toWriteInv.delivers hsmall).bytes hover

theorem survives_clientWrite (hpos : 1 ≤ size) (hsize : size < 2 ^ 64) :
    Survives blocks size (.clientWrite tls maxRetries) ↔
      InRange blocks size (.clientWrite tls maxRetries) := by
  rw [InRange]
  by_cases hretries : maxRetries = 0
  · subst hretries
    have hstuck : ∀ round, writeStep tls 0 size {} round = none := fun round => rfl
    refine iff_of_true ?_ (.inl rfl)
    intro rounds s _ _ hexec
    obtain ⟨rfl, rfl⟩ := exec_of_stuck hstuck hexec
    exact ⟨trivial, fun _ => ⟨by simp [WriteLoop.returned], rfl⟩⟩
  · rw [or_iff_right hretries]
    by_cases hsmall : size < 2 ^ 31
    · cases blocks with
      | false => exact iff_of_true (survives_clientWrite_of_small hpos hsmall hretries) ⟨hsmall, rfl⟩
      | true =>
        refine iff_of_false (not_survives_blockedWrite hpos hsmall hretries) ?_
        simp
    · refine iff_of_false ?_ fun h => hsmall h.1
      cases tls with
      | false => exact not_survives_plainWrite hsize (Nat.le_of_not_lt hsmall) hretries
      | true => exact not_survives_tlsWrite hsize (Nat.le_of_not_lt hsmall) hretries

/-- **Lengths.**  Of every 64-bit size from 1 on: on a connection that is kept open a transfer passes
    lengths between 1 and the size, never returns that the socket is closed, and counts what it
    handed over, exactly when the size is in the range of the transfer. -/
theorem survives_iff (blocks : Bool) (hpos : 1 ≤ size) (hsize : size < 2 ^ 64)
    (transfer : Transfer) : Survives blocks size transfer ↔ InRange blocks size transfer := by
  cases transfer with
  | payloadRead => exact survives_payloadRead hsize
  | clientRead tls maxRetries => exact survives_clientRead hsize
  | clientWrite tls maxRetries => exact survives_clientWrite hpos hsize

theorem survives_iff_overLimit : Survives false (2 ^ 32 + 5) (.clientRead true 3) ↔
    InRange false (2 ^ 32 + 5) (.clientRead true 3) :=
  survives_iff false (by decide) (by decide) (.clientRead true 3)

/-- A read of 2^32 bytes asks for none and reports a close; one of 2^31 asks for more than there is;
    a `write` of 2^31 bytes returns a negative count; and one of two bytes, after a transport call
    that would block, hands over three. -/
theorem overLong_breaks :
    ¬ Survives false (2 ^ 32) (.clientRead false 3) ∧ ¬ Survives false (2 ^ 31) .payloadRead ∧
      ¬ Survives false (2 ^ 31) (.clientWrite false 3) ∧ ¬ Survives true 2 (.clientWrite false 3) ∧
        (exec (readStep false 3 (2 ^ 32)) {} [⟨.ready { pollin := true } none, .plain .closed⟩]).map
          (fun l => l.result.code) = some .socketClosed := by
  refine ⟨?_, ?_, ?_, ?_, by decide⟩
  · rw [survives_clientRead (by decide)]
    simp [InRange, LowHalf]
  · rw [survives_payloadRead (by decide)]
    simp [InRange, LowHalf]
  · exact not_survives_plainWrite (by decide) (by decide) (by decide)
  · exact not_survives_blockedWrite (by decide) (by decide) (by decide)

end SecuritySocket.SocketClient
