import SecuritySocket.Progress
import SecuritySocket.SocketClientConnect
import SecuritySocket.SocketClientRead
import SecuritySocket.SocketClientWrite

/-!
# When the calls of a client return

The loops of `SocketClient::read`, `write` and `connect` under whatever the calls of the system
answer for ever.  A `read` spends a retry on every iteration that does not end it.  A `write`
spends none on a transport call that would block, so that it returns exactly if it does not meet
such calls for ever; each of them may take bytes back, also below the start of the buffer, where
the length of the next call is the size and what was taken back beyond it.  `connect` spends none
when a wait for the handshake or for a late rejection is woken.
-/

namespace SecuritySocket.SocketClient

open FixedWidth Transition

variable {tls : Bool} {maxRetries size : Nat}

/-! ### Connecting -/

/-- What a call of `connect` meets, whichever it is. -/
structure ConnectAnswer (tls : Bool) where
  connect : ConnectReturn
  poll : SocketEventType → PollReturn
  handshake : HandshakeReturn
  probe : ProbeReturn
  poll_fits : ∀ type, (poll type).fits type = true
  handshake_fits : handshake.fits tls = true
  probe_fits : probe.fits tls = true

def ConnectAnswer.call (a : ConnectAnswer tls) : ConnectPc → ConnectCall
  | .connecting _ | .returned _ => .connect a.connect
  | .connectWait _ | .handshakeWait _ => .poll (a.poll .connect)
  | .handshaking _ => .handshake a.handshake
  | .probing => .probe a.probe
  | .probeWait => .poll (a.poll .read)

def ConnectPc.running : ConnectPc → Bool
  | .returned _ => false
  | .connecting _ | .connectWait _ | .handshaking _ | .handshakeWait _ | .probing | .probeWait => true

/-- A wait for the handshake or for a late rejection is told that the socket is ready. -/
def ConnectAnswer.wakes (pc : ConnectPc) (a : ConnectAnswer tls) : Bool :=
  match pc with
  | .handshakeWait _ => (SocketEventListener.wait (a.poll .connect)).code == .success
  | .probeWait => (SocketEventListener.wait (a.poll .read)).code == .success
  | .connecting _ | .connectWait _ | .handshaking _ | .probing | .returned _ => false

section

variable (tls) (maxRetries)

def answeredConnect (pc : ConnectPc) (a : ConnectAnswer tls) : Option ConnectPc :=
  connectStep tls maxRetries pc (a.call pc)

/-- The call of `connect` that meets these answers returns. -/
def ConnectReturns (answers : Nat → ConnectAnswer tls) : Prop :=
  Finishes (answeredConnect tls maxRetries) ConnectPc.running (connectStart maxRetries) answers

/-- Its waits for the handshake or for a late rejection are woken again and again. -/
def WokenForever (answers : Nat → ConnectAnswer tls) : Prop :=
  DisturbedForever (answeredConnect tls maxRetries) ConnectPc.running ConnectAnswer.wakes
    (connectStart maxRetries) answers

def ConnectPc.Within : ConnectPc → Prop
  | .connecting i | .connectWait i | .handshaking i | .handshakeWait i => i < maxRetries
  | .probing | .probeWait => 0 < maxRetries
  | .returned _ => True

/-- The steps that are left when no wait is woken: those of the loop, and of the ones after it. -/
def ConnectPc.left : ConnectPc → Nat
  | .connecting i => 2 * (maxRetries - i) + (2 * maxRetries + 4)
  | .connectWait i => 2 * (maxRetries - i) + (2 * maxRetries + 3)
  | .handshaking i => 2 * (maxRetries - i) + 3
  | .handshakeWait i => 2 * (maxRetries - i) + 2
  | .probing => 2
  | .probeWait => 1
  | .returned _ => 0

end

/-- The loops are inside their bounds, and fewer than `n` steps are left. -/
def ConnectPc.Under (maxRetries n : Nat) (pc : ConnectPc) : Prop :=
  pc.Within maxRetries ∧ pc.left maxRetries < n

theorem under_returned {n : Nat} (hn : 0 < n) (result : SocketResult) :
    (ConnectPc.returned result).Under maxRetries n := ⟨trivial, hn⟩

theorem under_toProbe {n : Nat} (hn : 2 < n) (result : SocketResult) :
    (toProbe maxRetries result).Under maxRetries n := by
  unfold toProbe
  split
  · exact ⟨‹_›, hn⟩
  · exact under_returned (by omega) result

theorem under_toHandshake {i n : Nat} (hn : 2 * (maxRetries - i) + 3 < n) (result : SocketResult) :
    (toHandshake maxRetries i result).Under maxRetries n := by
  unfold toHandshake
  split
  · exact ⟨‹_›, hn⟩
  · split
    · exact under_returned (by omega) result
    · exact under_toProbe (by omega) result

theorem under_toConnect {i n : Nat} (hn : 2 * (maxRetries - i) + (2 * maxRetries + 4) < n)
    (result : SocketResult) : (toConnect maxRetries i result).Under maxRetries n := by
  unfold toConnect
  split
  · exact ⟨‹_›, hn⟩
  · split
    · exact under_returned (by omega) result
    · exact under_toHandshake (by omega) result

theorem CallMove.under {result : SocketResult} {succeeded failed : SocketResult → ConnectPc}
    {pends pc : ConnectPc} {n : Nat} (h : CallMove result succeeded pends failed pc)
    (hsucceeded : ∀ result, (succeeded result).Under maxRetries n) (hpends : pends.Under maxRetries n)
    (hfailed : ∀ result, (failed result).Under maxRetries n) : pc.Under maxRetries n := by
  cases h with
  | succeeded => exact hsucceeded _
  | pends => exact hpends
  | failed => exact hfailed _

theorem WaitMove.under {type : SocketEventType} {ret : PollReturn}
    {timedOut ready : SocketResult → ConnectPc} {pc : ConnectPc} {n : Nat} (hn : 0 < n)
    (h : WaitMove type ret timedOut ready pc)
    (htimedOut : ∀ result, (timedOut result).Under maxRetries n)
    (hready : (SocketEventListener.wait ret).code = .success →
      ∀ result, (ready result).Under maxRetries n) : pc.Under maxRetries n := by
  cases h with
  | timedOut => exact htimedOut _
  | failed => exact under_returned hn _
  | ready _ hsuccess => exact hready hsuccess _

/-- **One call.**  It is one of those that are left, unless it is a wait that is woken. -/
theorem answeredConnect_under {pc pc' : ConnectPc} {a : ConnectAnswer tls} {n : Nat}
    (hwithin : pc.Within maxRetries) (hn : pc.left maxRetries ≤ n)
    (hwoken : a.wakes pc = true → 2 * maxRetries + 4 ≤ n)
    (hstep : answeredConnect tls maxRetries pc a = some pc') : pc'.Under maxRetries n := by
  have hmove := connectStep_cases hstep
  generalize hcall : a.call pc = call at hmove
  cases hmove with
  | @connect i r _ hmove =>
    have hlt : i < maxRetries := hwithin
    simp only [ConnectPc.left] at hn
    refine hmove.under (under_toHandshake (by omega)) ⟨hlt, ?_⟩ (under_toConnect (by omega))
    simp only [ConnectPc.left]
    omega
  | @connectWait i ret _ hmove =>
    have hlt : i < maxRetries := hwithin
    simp only [ConnectPc.left] at hn
    exact hmove.under (by omega) (under_toConnect (by omega)) fun _ => under_toHandshake (by omega)
  | @handshake i r _ _ hmove =>
    have hlt : i < maxRetries := hwithin
    simp only [ConnectPc.left] at hn
    refine hmove.under (under_toProbe (by omega)) ⟨hlt, ?_⟩ (under_returned (by omega))
    simp only [ConnectPc.left]
    omega
  | @handshakeWait i ret _ hmove =>
    have hlt : i < maxRetries := hwithin
    simp only [ConnectPc.left] at hn
    refine hmove.under (by omega) (under_toHandshake (by omega)) fun hsuccess => ?_
    cases hcall
    have hlong := hwoken (by simp [ConnectAnswer.wakes, hsuccess])
    exact under_toHandshake (by omega)
  | @probe r _ _ hmove =>
    simp only [ConnectPc.left] at hn
    exact hmove.under (under_returned (by omega)) ⟨hwithin, hn⟩ (under_returned (by omega))
  | @probeWait ret _ hmove =>
    simp only [ConnectPc.left] at hn
    refine hmove.under hn (fun _ => under_returned hn {}) fun hsuccess => ?_
    cases hcall
    have hlong := hwoken (by simp [ConnectAnswer.wakes, hsuccess])
    exact under_toProbe (by omega)

theorem answeredConnect_isSome {pc : ConnectPc} (hrunning : pc.running = true)
    (a : ConnectAnswer tls) : ∃ pc', answeredConnect tls maxRetries pc a = some pc' := by
  have hwait : ∀ type timedOut ready, ∃ pc', afterWait type (a.poll type) timedOut ready = some pc' := by
    intro type timedOut ready
    unfold afterWait
    dsimp only
    rw [if_pos (a.poll_fits type)]
    split
    · exact ⟨_, rfl⟩
    · split
      · exact ⟨_, rfl⟩
      · exact ⟨_, rfl⟩
  unfold answeredConnect
  cases pc with
  | connecting i => exact ⟨_, rfl⟩
  | connectWait i => exact hwait _ _ _
  | handshaking i => exact ⟨_, if_pos a.handshake_fits⟩
  | handshakeWait i => exact hwait _ _ _
  | probing => exact ⟨_, if_pos a.probe_fits⟩
  | probeWait => exact hwait .read (fun _ => .returned {}) _
  | returned result => cases hrunning

/-- **When `connect` returns.**  A call returns, whatever its calls of the system answer, if and only if its
    waits for the handshake and for a late rejection are not woken for ever. -/
theorem connect_returns_iff (tls : Bool) (maxRetries : Nat) (answers : Nat → ConnectAnswer tls) :
    ConnectReturns tls maxRetries answers ↔ ¬ WokenForever tls maxRetries answers := by
  apply finishes_iff (ConnectPc.left maxRetries)
  · intro pc a hended
    cases pc with
    | returned result => rfl
    | connecting | connectWait | handshaking | handshakeWait | probing | probeWait => cases hended
  · intro pc a hwithin hrunning
    obtain ⟨pc', hpc'⟩ := @answeredConnect_isSome tls maxRetries pc hrunning a
    exact ⟨pc', hpc', (answeredConnect_under hwithin (Nat.le_add_right _ (2 * maxRetries + 4))
      (fun _ => Nat.le_add_left _ _) hpc').1⟩
  · intro pc a pc' hwithin _ hquiet hstep _
    have hnever : a.wakes pc = true → 2 * maxRetries + 4 ≤ pc.left maxRetries := by simp [hquiet]
    exact (answeredConnect_under hwithin (Nat.le_refl _) hnever hstep).2
  · exact (under_toConnect (Nat.lt_succ_self _) {}).1

/-! ### Reading -/

structure ReadAnswer (tls : Bool) (size : Nat) where
  round : ReadRound
  fits : round.transport.fits tls size = true

theorem readStep_spends {l l' : ReadLoop} {round : ReadRound}
    (h : readStep tls maxRetries size l round = some l') :
    l'.i = l.i + 1 ∨ l'.running maxRetries = false := by
  cases readStep_cases h with
  | timeout => exact .inl rfl
  | transport =>
    unfold ReadLoop.transport
    dsimp only
    split
    · exact .inr rfl
    · split
      · exact .inl rfl
      · exact .inl rfl
      · exact .inr rfl
  | failed => exact .inr rfl

/-- A call of `read` returns after at most `max_retries` iterations, whatever it meets. -/
theorem read_returns (answers : Nat → ReadAnswer tls size) :
    ∃ n l, exec (fun l (a : ReadAnswer tls size) => readStep tls maxRetries size l a.round) {}
        (firstLabels answers n) = some l ∧
      l.running maxRetries = false ∧ n ≤ maxRetries := by
  obtain ⟨n, l, hexec, ⟨-, hn⟩, hended⟩ := @exists_stop _ _
    (fun l (a : ReadAnswer tls size) => readStep tls maxRetries size l a.round) answers
    (·.running maxRetries)
    (fun n l => (l.running maxRetries = true → l.i = n) ∧ n ≤ maxRetries) maxRetries
    (by
      rintro n l ⟨hspent, -⟩ hrunning
      obtain ⟨l', hl'⟩ := readStep_isSome hrunning fun _ => (answers n).fits
      have hlt : l.i < maxRetries := by
        simp only [ReadLoop.running, Bool.and_eq_true, decide_eq_true_eq] at hrunning
        exact hrunning.2
      have hi := hspent hrunning
      refine ⟨l', hl', fun hrunning' => ?_, by omega⟩
      rcases readStep_spends hl' with hnext | hended
      · omega
      · rw [hrunning'] at hended
        cases hended)
    (by
      rintro n l ⟨hspent, -⟩ hrunning
      have hi := hspent hrunning
      simp only [ReadLoop.running, Bool.and_eq_true, decide_eq_true_eq] at hrunning
      omega)
    {} ⟨fun _ => rfl, Nat.zero_le _⟩
  exact ⟨n, l, hexec, hended, hn⟩

/-! ### Writing -/

/-- What an iteration of `write` meets: the poll, and a transport call of whatever length it is asked
    for. -/
structure WriteAnswer (tls : Bool) where
  poll : PollReturn
  transport : Nat → ClientWriteReturn
  transport_fits : ∀ length, (transport length).fits tls length = true

def WriteAnswer.round (size : Nat) (s : WriteLoop) (a : WriteAnswer tls) : WriteRound where
  poll := a.poll
  transport := a.transport (s.remaining size)

/-- The iteration comes to a transport call that would block. -/
def WriteRound.blocks (round : WriteRound) : Bool :=
  (SocketEventListener.wait round.poll).code == .success &&
    (ClientActiveSocket.write round.transport).code == .socketConnectionNeedToBeBlocked

section

variable (tls) (maxRetries size)

def answeredStep (s : WriteLoop) (a : WriteAnswer tls) : Option WriteLoop :=
  writeStep tls maxRetries size s (a.round size s)

/-- The call of `write` that meets these answers returns. -/
def WriteReturns (answers : Nat → WriteAnswer tls) : Prop :=
  Finishes (answeredStep tls maxRetries size) (·.running maxRetries) {} answers

/-- It meets transport calls that would block again and again. -/
def BlocksForever (answers : Nat → WriteAnswer tls) : Prop :=
  DisturbedForever (answeredStep tls maxRetries size) (·.running maxRetries)
    (fun s a => (a.round size s).blocks) {} answers

end

theorem toInt32_le (n : Nat) : toInt32 n ≤ n := by
  unfold toInt32
  split <;> omega

theorem count_le_of_fits {length : Nat} {r : ClientWriteReturn} (h : r.fits tls length = true) :
    r.count ≤ length := by
  cases r with
  | plain r =>
    simp only [ClientWriteReturn.fits, Bool.and_eq_true] at h
    exact Nat.le_trans (SendReturn.count_le_of_fits h.2) (Nat.min_le_left _ _)
  | tls ret failure =>
    have hle := toInt32_le length
    simp only [ClientWriteReturn.fits, Bool.and_eq_true, Bool.or_eq_true, decide_eq_true_eq] at h
    simp only [ClientWriteReturn.count]
    omega

/-- What was taken is taken off the length of the next call, wherever in the buffer or below it the
    loop is. -/
theorem remaining_accumulate {s : WriteLoop} {count : Nat}
    (hwritten : s.writtenSize < 2 ^ 64) (hcount : count ≤ s.remaining size)
    (hbytes : s.result.bytes = count) :
    (s.accumulate size).remaining size = s.remaining size - count := by
  have hlt : s.remaining size < 2 ^ 64 := Nat.mod_lt _ (by decide)
  simp only [WriteLoop.remaining, WriteLoop.accumulate, hbytes, sizeSub] at hcount hlt ⊢
  rw [toSize_natCast (by omega)]
  unfold sizeAdd
  omega

/-- The bytes to be sent and the retries to be spent. -/
def WriteLoop.left (maxRetries size : Nat) (s : WriteLoop) : Nat :=
  s.remaining size + (maxRetries - s.i)

theorem writtenSize_transport (hwritten : s.writtenSize < 2 ^ 64) (r : ClientWriteReturn) :
    (WriteLoop.transport size s r).writtenSize < 2 ^ 64 := by
  rcases transport_cases size s r with ⟨-, heq⟩ | ⟨-, -, heq⟩
  · rw [heq]
    exact Nat.mod_lt _ (by decide)
  · rw [heq]
    exact hwritten

theorem answeredStep_of_ended (tls : Bool) (maxRetries size : Nat) (s : WriteLoop)
    (a : WriteAnswer tls) (hended : s.running maxRetries = false) :
    answeredStep tls maxRetries size s a = none := by
  simp [answeredStep, writeStep, hended]

theorem answeredStep_isSome {s : WriteLoop} (hwritten : s.writtenSize < 2 ^ 64)
    (hrunning : s.running maxRetries = true) (a : WriteAnswer tls) :
    ∃ s', answeredStep tls maxRetries size s a = some s' ∧ s'.writtenSize < 2 ^ 64 := by
  have hfits : (a.round size s).transport.fits tls (s.remaining size) = true :=
    a.transport_fits (s.remaining size)
  unfold answeredStep writeStep
  rw [if_neg (by simp [hrunning])]
  dsimp only
  split
  · exact ⟨_, rfl, hwritten⟩
  · rw [if_pos hfits]
    exact ⟨_, rfl, writtenSize_transport hwritten _⟩
  · exact ⟨_, rfl, hwritten⟩

/-- **One iteration.**  One that neither ends the loop nor would block spends a retry or gets bytes
    accepted. -/
theorem answeredStep_left {s s' : WriteLoop} {a : WriteAnswer tls}
    (hwritten : s.writtenSize < 2 ^ 64) (hfree : (a.round size s).blocks = false)
    (hstep : answeredStep tls maxRetries size s a = some s')
    (hrunning : s'.running maxRetries = true) :
    s'.left maxRetries size < s.left maxRetries size := by
  obtain ⟨hbefore, hcases⟩ := writeStep_cases hstep
  simp only [WriteLoop.running, Bool.and_eq_true, Bool.not_eq_true', decide_eq_true_eq] at hbefore
  rcases hcases with ⟨-, rfl⟩ | ⟨-, -, rfl⟩ | ⟨hpoll, hfits, rfl⟩
  · simp only [WriteLoop.left, WriteLoop.remaining]
    omega
  · simp [WriteLoop.running] at hrunning
  · let polled := { s with result := SocketEventListener.wait (a.round size s).poll }
    rcases transport_cases size polled (a.round size s).transport with ⟨hcode, heq⟩ | ⟨-, -, heq⟩
    · have hsuccess : (ClientActiveSocket.write (a.round size s).transport).code = .success := by
        refine hcode.resolve_right fun hblocked => ?_
        simp [WriteRound.blocks, hpoll, hblocked] at hfree
      have hpos := (ClientActiveSocket.write_code_eq_success hfits).mp hsuccess
      have hcount := count_le_of_fits hfits
      have hbytes : (ClientActiveSocket.write (a.round size s).transport).bytes =
          (a.round size s).transport.count := by
        rcases ClientActiveSocket.write_bytes hfits with ⟨-, hzero⟩ | hbytes
        · omega
        · exact hbytes
      let taken := { polled with
        result := ClientActiveSocket.write (a.round size s).transport
        handed := polled.handed ++ List.range' polled.writtenSize (a.round size s).transport.count }
      have hless : (taken.accumulate size).remaining size =
          s.remaining size - (a.round size s).transport.count :=
        @remaining_accumulate size taken _ hwritten hcount hbytes
      rw [heq]
      show (taken.accumulate size).remaining size + (maxRetries - s.i) <
        s.remaining size + (maxRetries - s.i)
      omega
    · rw [heq] at hrunning
      simp [WriteLoop.running] at hrunning

/-- **When `write` returns.**  A call returns, whatever its size and its answers are, if and only if it
    does not meet transport calls that would block for ever. -/
theorem write_returns_iff (tls : Bool) (maxRetries size : Nat)
    (answers : Nat → WriteAnswer tls) :
    WriteReturns tls maxRetries size answers ↔ ¬ BlocksForever tls maxRetries size answers := by
  apply finishes_iff (WriteLoop.left maxRetries size)
  · exact answeredStep_of_ended tls maxRetries size
  · intro s a hwritten hrunning
    exact answeredStep_isSome hwritten hrunning a
  · intro s a s' hwritten _ hfree hstep hrunning
    exact answeredStep_left hwritten hfree hstep hrunning
  · decide

/-! ### A peer that halts -/

/-- A transport that would block at every second call, and takes one byte at the others. -/
def haltingPeer (n : Nat) : WriteAnswer false where
  poll := .ready { pollout := true } none
  transport length := .plain (if length = 0 ∨ n % 2 = 0 then .error .ewouldblock else .sent 1)
  transport_fits length := by
    split
    · rfl
    · rename_i hne
      simp only [not_or] at hne
      simp only [ClientWriteReturn.fits, SendReturn.fits, transferMax]
      simp
      omega

theorem answeredStep_writable {s : WriteLoop} {a : WriteAnswer tls}
    (hrunning : s.running maxRetries = true)
    (hpoll : SocketEventListener.wait a.poll = { code := .success }) :
    answeredStep tls maxRetries size s a = some (WriteLoop.transport size
      { s with result := { code := .success } } (a.transport (s.remaining size))) := by
  have hfits := a.transport_fits (s.remaining size)
  unfold answeredStep writeStep
  rw [if_neg (by simp [hrunning])]
  simp only [WriteAnswer.round, hpoll, hfits, if_true]

theorem halting_pair {s : WriteLoop} (hpos : 1 ≤ size) (hsize : size < 2 ^ 63)
    (hstart : s.writtenSize = 0) (hrunning : s.running maxRetries = true) (n : Nat) :
    ∃ s', exec (answeredStep false maxRetries size) s [haltingPeer (2 * n), haltingPeer (2 * n + 1)] =
      some s' ∧ s'.writtenSize = 0 ∧ s'.running maxRetries = true := by
  obtain ⟨hopen, hretries⟩ : s.broken = false ∧ s.i < maxRetries := by
    simpa [WriteLoop.running] using hrunning
  let blocked : SocketResult := { code := .socketConnectionNeedToBeBlocked, bytes := -1 }
  let halted : WriteLoop :=
    { s with writtenSize := 2 ^ 64 - 1, result := blocked, broken := false }
  have hfirst : answeredStep false maxRetries size s (haltingPeer (2 * n)) = some halted := by
    have hblocks : (haltingPeer (2 * n)).transport (s.remaining size) =
        .plain (.error .ewouldblock) := by simp [haltingPeer]
    have hback : sizeAdd 0 (toSize (-1)) = 2 ^ 64 - 1 := rfl
    rw [answeredStep_writable hrunning rfl, hblocks]
    show some (WriteLoop.accumulate size { s with result := blocked, handed := s.handed ++ [] }) = _
    simp only [WriteLoop.accumulate, hstart, List.append_nil, blocked, hback, halted,
      Option.some.injEq, WriteLoop.mk.injEq, true_and, and_true, beq_eq_false_iff_ne]
    omega
  have hhalted : halted.running maxRetries = true := by
    simpa [WriteLoop.running, halted] using hretries
  have hnext : halted.remaining size = size + 1 := by
    simp only [WriteLoop.remaining, sizeSub, halted]
    omega
  have hsends : (haltingPeer (2 * n + 1)).transport (halted.remaining size) = .plain (.sent 1) := by
    simp [haltingPeer, hnext]
  let sent : WriteLoop := { halted with
    result := { code := .success, bytes := 1 }
    handed := halted.handed ++ [2 ^ 64 - 1] }
  have hzero : sizeAdd (2 ^ 64 - 1) (toSize 1) = 0 := rfl
  refine ⟨sent.accumulate size, ?_, hzero, ?_⟩
  · refine exec_cons_eq_some.mpr ⟨halted, hfirst, exec_cons_eq_some.mpr ⟨_, ?_, rfl⟩⟩
    rw [answeredStep_writable hhalted rfl, hsends]
    rfl
  · simp only [WriteLoop.running, WriteLoop.accumulate, sent, halted, hzero]
    simp
    omega

/-- A call of `write` to that peer never returns. -/
theorem halting_never_returns (hretries : 1 ≤ maxRetries) (hpos : 1 ≤ size) (hsize : size < 2 ^ 63) :
    ¬ WriteReturns false maxRetries size haltingPeer := by
  have hround : ∀ n, ∃ s, exec (answeredStep false maxRetries size) {}
      (firstLabels haltingPeer (2 * n)) = some s ∧ s.writtenSize = 0 ∧
        s.running maxRetries = true := by
    intro n
    induction n with
    | zero => exact ⟨{}, rfl, rfl, decide_eq_true hretries⟩
    | succ n ih =>
      obtain ⟨s, hs, hstart, hrunning⟩ := ih
      obtain ⟨s', hs', hstart', hrunning'⟩ := halting_pair hpos hsize hstart hrunning n
      refine ⟨s', ?_, hstart', hrunning'⟩
      rw [Nat.mul_succ, firstLabels_add, exec_append_eq_some]
      exact ⟨s, hs, hs'⟩
  rintro ⟨n, s, hs, hended⟩
  obtain ⟨s', hs', -, hrunning⟩ := hround n
  have hlater := not_running_later (answeredStep_of_ended false maxRetries size)
    (Nat.le_mul_of_pos_left n (by decide)) hs hended hs'
  rw [hrunning] at hlater
  cases hlater

end SecuritySocket.SocketClient
