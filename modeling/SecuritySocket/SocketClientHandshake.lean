import Mathlib.Data.Nat.Find
import SecuritySocket.SocketClientConnect

/-!
# The handshake loop (`SocketClientImpl::connect`, phase 1)

The loop waits for the handshake with the listener it opened for `CONNECT`, so for POLLIN or
POLLOUT, and counts a retry only when that wait times out.  The socket is connected by then
and nothing is left to send, so poll reports it writable each time and the counter never
moves: only the peer, or a failing poll, ends the loop.  A peer is the sequence of the rounds
it makes of the loop.
-/

namespace SecuritySocket

def HandshakeReturn.asksToRead : HandshakeReturn → Bool
  | .plain | .setFdFailed => false
  | .tls ret failure => ret ≤ 0 && failure.error == .wantRead

def HandshakeReturn.isCall : HandshakeReturn → Bool
  | .plain | .setFdFailed => false
  | .tls _ _ => true

/-- What poll may report of a socket with room in its send buffer. -/
def PollReturn.writable : PollReturn → Bool
  | .timeout => false
  | .error => true
  | .ready revents _ => revents.pollout

namespace SocketClient

open Transition

/-- What had come in from the peer by the time `SSL_connect` returned. -/
inductive Arrival where
  | nothing
  | data
  | closed
deriving DecidableEq, Repr

/-- One round of the loop: what `reconnect(false)` comes to, what it found from the peer, and
    what poll reports should the loop wait. -/
structure HandshakeRound where
  handshake : HandshakeReturn
  arrival : Arrival
  poll : PollReturn
  handshake_fits : handshake.fits true = true
  poll_fits : poll.fits .connect = true
  /-- The socket is established and its send buffer empty. -/
  writable : poll.writable = true
  /-- With a receive timeout `SSL_connect` returns although nothing arrived. -/
  silent : arrival = .nothing → handshake.isCall = true → handshake.asksToRead = true
  unread : handshake.isCall = false → arrival ≠ .data

namespace HandshakeRound

def progresses (round : HandshakeRound) : Bool := round.arrival == .data

/-- `SSL_connect` was called, and there was no data for it. -/
def idle (round : HandshakeRound) : Bool := round.handshake.isCall && !round.progresses

/-- The handshake succeeds or fails for good, or poll fails or reports the peer gone. -/
def ends (round : HandshakeRound) : Bool :=
  !pending (ClientActiveSocket.reconnect round.handshake) ||
    (SocketEventListener.wait round.poll).code != .success

end HandshakeRound

def ConnectPc.inHandshake : ConnectPc → Bool
  | .handshaking _ | .handshakeWait _ => true
  | .connecting _ | .connectWait _ | .probing | .probeWait | .returned _ => false

variable (maxRetries : Nat)

/-- One round of the loop: the call, and the wait if there is one. -/
def handshakeRound (pc : ConnectPc) (round : HandshakeRound) : Option ConnectPc :=
  (connectStep true maxRetries pc (.handshake round.handshake)).bind fun
    | .handshakeWait i => connectStep true maxRetries (.handshakeWait i) (.poll round.poll)
    | pc' => some pc'

def firstRounds (peer : Nat → HandshakeRound) (n : Nat) : List HandshakeRound :=
  (List.range n).map peer

/-- From whatever result the connect phase left, the loop comes to an end, with no more calls
    of `SSL_connect` than the retries and the times that the data of the peer made progress. -/
def Bounded (peer : Nat → HandshakeRound) : Prop :=
  ∀ result, ∃ n pc,
    exec (handshakeRound maxRetries) (toHandshake maxRetries 0 result) (firstRounds peer n) =
      some pc ∧ pc.inHandshake = false ∧
    (firstRounds peer n).countP (fun round => round.handshake.isCall) ≤
      maxRetries + (firstRounds peer n).countP HandshakeRound.progresses

variable {maxRetries}

/-! ### What a round does -/

/-- The counter stays where it is: the wait never times out. -/
theorem handshakeRound_continues {i : Nat} (hi : i < maxRetries) {round : HandshakeRound}
    (hround : round.ends = false) :
    handshakeRound maxRetries (.handshaking i) round = some (.handshaking i) := by
  simp only [HandshakeRound.ends, Bool.or_eq_false_iff, Bool.not_eq_false', bne_eq_false_iff_eq]
    at hround
  obtain ⟨hpending, hready⟩ := hround
  have hfailed : (ClientActiveSocket.reconnect round.handshake).code ≠ .success := by
    intro hsuccess
    simp [pending, hsuccess] at hpending
  have hcall : connectStep true maxRetries (.handshaking i) (.handshake round.handshake) =
      some (.handshakeWait i) := by
    simp only [connectStep, round.handshake_fits, if_true, afterCall, if_neg hfailed, hpending]
  have hwait : connectStep true maxRetries (.handshakeWait i) (.poll round.poll) =
      some (.handshaking i) := by
    simp only [connectStep, afterWait, round.poll_fits, if_true, hready, reduceCtorEq, if_false,
      ne_eq, not_true_eq_false, toHandshake_of_lt hi]
  simp only [handshakeRound, hcall, Option.bind_some, hwait]

theorem toProbe_inHandshake (maxRetries : Nat) (result : SocketResult) :
    (toProbe maxRetries result).inHandshake = false := by
  unfold toProbe
  split <;> rfl

theorem wait_code_ne_timeout {ret : PollReturn} (h : ret.writable = true) :
    (SocketEventListener.wait ret).code ≠ .socketTimeout := by
  intro htimeout
  rw [SocketEventListener.wait_code_eq_timeout] at htimeout
  subst htimeout
  cases h

theorem handshakeRound_ends (maxRetries i : Nat) {round : HandshakeRound} (hround : round.ends = true) :
    ∃ pc, handshakeRound maxRetries (.handshaking i) round = some pc ∧
      pc.inHandshake = false := by
  obtain ⟨pc, hcall, hmove⟩ : ∃ pc,
      connectStep true maxRetries (.handshaking i) (.handshake round.handshake) = some pc ∧
        CallMove (ClientActiveSocket.reconnect round.handshake) (toProbe maxRetries)
          (.handshakeWait i) .returned pc := by
    refine ⟨_, ?_, afterCall_cases _ _ _ _⟩
    simp only [connectStep, round.handshake_fits, if_true]
  simp only [handshakeRound, hcall, Option.bind_some]
  cases hmove with
  | succeeded hsuccess =>
    have hleft := toProbe_inHandshake maxRetries (ClientActiveSocket.reconnect round.handshake)
    split
    · rename_i hwait
      rw [hwait] at hleft
      cases hleft
    · exact ⟨_, rfl, hleft⟩
  | pends hfailed hpending =>
    simp only [HandshakeRound.ends, hpending, Bool.not_true, Bool.false_or, bne_iff_ne] at hround
    have htimeout := wait_code_ne_timeout round.writable
    refine ⟨.returned (SocketEventListener.wait round.poll), ?_, rfl⟩
    simp only [connectStep, afterWait, round.poll_fits, if_true, if_neg htimeout, ne_eq, hround,
      not_false_eq_true]
  | failed hfailed hpending => exact ⟨_, rfl, rfl⟩

/-! ### What a sequence of rounds does -/

theorem firstRounds_succ (peer : Nat → HandshakeRound) (n : Nat) :
    firstRounds peer (n + 1) = firstRounds peer n ++ [peer n] := by
  simp [firstRounds, List.range_succ]

theorem exec_firstRounds (hmax : 1 ≤ maxRetries) {peer : Nat → HandshakeRound} {n : Nat}
    (hrounds : ∀ k < n, (peer k).ends = false) :
    exec (handshakeRound maxRetries) (.handshaking 0) (firstRounds peer n) =
      some (.handshaking 0) := by
  induction n with
  | zero => rfl
  | succ n ih =>
    rw [firstRounds_succ, exec_append_eq_some]
    refine ⟨.handshaking 0, ih fun k hk => hrounds k (by omega), ?_⟩
    rw [exec_cons_eq_some]
    exact ⟨.handshaking 0, handshakeRound_continues hmax (hrounds n (by omega)), rfl⟩

theorem countP_calls (rounds : List HandshakeRound) :
    rounds.countP (fun round => round.handshake.isCall) =
      rounds.countP HandshakeRound.idle + rounds.countP HandshakeRound.progresses := by
  induction rounds with
  | nil => rfl
  | cons round rounds ih =>
    have hround : (if round.handshake.isCall = true then 1 else 0) =
        (if round.idle = true then 1 else 0) + (if round.progresses = true then 1 else 0) := by
      cases hcall : round.handshake.isCall with
      | true => cases hdata : round.progresses <;> simp [HandshakeRound.idle, hcall, hdata]
      | false =>
        have hdata : round.progresses = false := by
          simpa [HandshakeRound.progresses] using round.unread hcall
        simp [HandshakeRound.idle, hcall, hdata]
    rw [List.countP_cons, List.countP_cons, List.countP_cons, ih, hround]
    omega

theorem countP_firstRounds_mono {peer : Nat → HandshakeRound} (p : HandshakeRound → Bool)
    {m n : Nat} (hle : m ≤ n) : (firstRounds peer m).countP p ≤ (firstRounds peer n).countP p := by
  induction hle with
  | refl => exact Nat.le_refl _
  | step hle ih =>
    rw [firstRounds_succ, List.countP_append]
    omega

/-- **The handshake loop.**  It is bounded exactly if some round ends it, and up to that round
    no more than `max_retries` calls of `SSL_connect` are idle. -/
theorem bounded_iff (hmax : 1 ≤ maxRetries) (peer : Nat → HandshakeRound) :
    Bounded maxRetries peer ↔
      ∃ k, (peer k).ends = true ∧
        (firstRounds peer (k + 1)).countP HandshakeRound.idle ≤ maxRetries := by
  constructor
  · intro hbounded
    obtain ⟨n, pc, hexec, hleft, hcalls⟩ := hbounded {}
    rw [toHandshake_of_lt hmax] at hexec
    rw [countP_calls] at hcalls
    obtain ⟨k, hk, hends⟩ : ∃ k < n, (peer k).ends = true := by
      by_contra hnone
      push Not at hnone
      have hgoes := exec_firstRounds hmax fun k hk => Bool.eq_false_iff.mpr (hnone k hk)
      rw [hgoes] at hexec
      cases hexec
      cases hleft
    refine ⟨k, hends, ?_⟩
    have hmono := @countP_firstRounds_mono peer HandshakeRound.idle (k + 1) n hk
    omega
  · rintro ⟨k, hends, hidle⟩ result
    have hsome : ∃ k, (peer k).ends = true := ⟨k, hends⟩
    have hfirst : Nat.find hsome ≤ k := Nat.find_min' hsome hends
    obtain ⟨pc, hround, hleft⟩ := handshakeRound_ends maxRetries 0 (Nat.find_spec hsome)
    refine ⟨Nat.find hsome + 1, pc, ?_, hleft, ?_⟩
    · rw [toHandshake_of_lt hmax, firstRounds_succ, exec_append_eq_some]
      refine ⟨.handshaking 0, exec_firstRounds hmax fun j hj => ?_, ?_⟩
      · exact Bool.eq_false_iff.mpr (Nat.find_min hsome hj)
      · rw [exec_cons_eq_some]
        exact ⟨pc, hround, rfl⟩
    · rw [countP_calls]
      have hmono := @countP_firstRounds_mono peer HandshakeRound.idle (Nat.find hsome + 1) (k + 1)
        (by omega)
      omega

def silentRound : HandshakeRound where
  handshake := .tls (-1) wantsRead
  arrival := .nothing
  poll := .ready { pollout := true } none
  handshake_fits := rfl
  poll_fits := rfl
  writable := rfl
  silent _ _ := rfl
  unread := Bool.noConfusion

def answeringRound : HandshakeRound where
  handshake := .tls 1 wantsRead
  arrival := .data
  poll := .ready { pollin := true, pollout := true } none
  handshake_fits := rfl
  poll_fits := rfl
  writable := rfl
  silent := Arrival.noConfusion
  unread := Bool.noConfusion

/-- A peer that answers in the second round. -/
theorem answering_bounded :
    1 ≤ 1 ∧ Bounded 1 fun n => if n = 0 then silentRound else answeringRound :=
  ⟨Nat.le_refl 1, (bounded_iff (Nat.le_refl 1) _).mpr ⟨1, rfl, Nat.le_refl 1⟩⟩

/-- A peer that accepts the connection and never answers keeps `connect` in the loop. -/
theorem silent_not_bounded :
    (∀ n, exec (handshakeRound 1) (toHandshake 1 0 {}) (firstRounds (fun _ => silentRound) n) =
      some (.handshaking 0)) ∧
    ¬ Bounded 1 fun _ => silentRound := by
  have hgoes : ∀ n, exec (handshakeRound 1) (toHandshake 1 0 {})
      (firstRounds (fun _ => silentRound) n) = some (.handshaking 0) := by
    intro n
    rw [toHandshake_of_lt (Nat.lt_succ_self 0)]
    exact exec_firstRounds (Nat.le_refl 1) fun _ _ => rfl
  refine ⟨hgoes, fun hbounded => ?_⟩
  obtain ⟨n, pc, hexec, hleft, _⟩ := hbounded {}
  rw [hgoes n] at hexec
  cases hexec
  cases hleft

end SocketClient

end SecuritySocket
