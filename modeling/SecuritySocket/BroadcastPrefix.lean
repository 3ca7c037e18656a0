import SecuritySocket.BroadcastWrite

/-!
# What a broadcast write sends to one client

The loop for one client with the calls of `send` it has made, under whatever poll and `send`
answer for ever.  Each poll moves the loop by a retry or by at least one byte, or ends it; and
what is accepted is always the next bytes of the buffer.
-/

namespace SecuritySocket.BroadcastServer

open FixedWidth Transition

/-- What an iteration meets: the poll, and a `send` of whatever length it is asked for. -/
structure ClientOutcome where
  poll : PollReturn
  send : Nat → SendReturn
  send_fits : ∀ length, (send length).fits length = true

/-- A call of `send`: where in the buffer it starts, how many bytes it is given, and how many of
    them the socket accepts. -/
structure SendCall where
  offset : Nat
  length : Nat
  accepted : Nat
deriving DecidableEq, Repr

namespace SendCall

/-- Where in the buffer the accepted bytes are. -/
def positions (call : SendCall) : List Nat := List.range' call.offset call.accepted

def bytes (buffer : List UInt8) (call : SendCall) : List UInt8 :=
  (buffer.drop call.offset).take call.accepted

end SendCall

/-- The loop, with the calls of `send` it has made. -/
structure SendingLoop where
  loop : ClientLoop := {}
  sends : List SendCall := []
deriving DecidableEq, Repr

def ClientLoop.sendCall (size : Nat) (l : ClientLoop) (round : ClientRound) : List SendCall :=
  if (SocketEventListener.wait round.poll).code = .success then
    [⟨l.writtenSize, ServerActiveSocket.sendLength (l.remaining size), round.send.count⟩]
  else []

def ClientOutcome.round (size : Nat) (l : ClientLoop) (o : ClientOutcome) : ClientRound where
  poll := o.poll
  send := o.send (ServerActiveSocket.sendLength (l.remaining size))

def sendingStep (maxRetries size : Nat) (s : SendingLoop) (o : ClientOutcome) : Option SendingLoop :=
  (clientStep maxRetries size s.loop (o.round size s.loop)).map fun l =>
    { loop := l, sends := s.sends ++ s.loop.sendCall size (o.round size s.loop) }

/-- What has been sent is the front of the buffer, in order. -/
structure InOrder (buffer : List UInt8) (s : SendingLoop) : Prop where
  positions : s.sends.flatMap SendCall.positions = List.range s.loop.writtenSize
  bytes : s.sends.flatMap (SendCall.bytes buffer) = buffer.take s.loop.writtenSize
  inside : ∀ call ∈ s.sends, call.offset + call.length ≤ buffer.length ∧ call.accepted ≤ call.length

variable {maxRetries size : Nat}

/-! ### One iteration -/

/-- What an iteration can do: time out, end, or get something accepted. -/
inductive SendingMove (size : Nat) (s : SendingLoop) : SendingLoop → Prop where
  | timedOut : SendingMove size s { s with loop := { s.loop with i := s.loop.i + 1 } }
  | stopped (code : SocketCode) : SendingMove size s { s with loop := s.loop.stop code }
  | refused (code : SocketCode) :
      SendingMove size s
        { loop := s.loop.stop code
          sends := s.sends ++ [⟨s.loop.writtenSize, size - s.loop.writtenSize, 0⟩] }
  | sent {count : Nat} {l : ClientLoop} (hpos : 0 < count)
      (hcount : s.loop.writtenSize + count ≤ size)
      (hpart : s.loop.writtenSize + count < size → l = { s.loop with
        writtenSize := s.loop.writtenSize + count })
      (hdone : s.loop.writtenSize + count = size → l = { s.loop with writtenSize := size }.stop .success) :
      SendingMove size s
        { loop := l
          sends := s.sends ++ [⟨s.loop.writtenSize, size - s.loop.writtenSize, count⟩] }

theorem remaining_eq {l : ClientLoop} (hsize : size < 2 ^ 64) (hle : l.writtenSize ≤ size) :
    ServerActiveSocket.sendLength (l.remaining size) = size - l.writtenSize := sizeSub_eq hle hsize

theorem sendingStep_cases {s : SendingLoop} (hsize : size < 2 ^ 64)
    (hle : s.loop.writtenSize ≤ size) (hrunning : s.loop.running maxRetries = true)
    (o : ClientOutcome) :
    ∃ s', sendingStep maxRetries size s o = some s' ∧ SendingMove size s s' := by
  have hlength := remaining_eq hsize hle
  have hfits := o.send_fits (size - s.loop.writtenSize)
  have hround : o.round size s.loop = ⟨o.poll, o.send (size - s.loop.writtenSize)⟩ := by
    rw [ClientOutcome.round, hlength]
  simp only [sendingStep, hround, clientStep, hrunning, if_true, ClientLoop.sendCall]
  rcases polled_cases s.loop o.poll with ⟨hcode, hpolled⟩ | ⟨hcode, hpolled⟩ |
    ⟨htimeout, hsuccess, hpolled⟩
  · simp only [hpolled, hcode, reduceCtorEq, if_false, List.append_nil, Option.map_some]
    exact ⟨_, rfl, .timedOut⟩
  · simp only [hpolled, hcode, hlength, hfits, if_true, Option.map_some]
    refine ⟨_, rfl, ?_⟩
    by_cases hsent : (ServerActiveSocket.write (o.send (size - s.loop.writtenSize))).code = .success
    · have hpos := (SendReturn.result_code_eq_success_of_fits hfits).mp hsent
      have hcount := SendReturn.count_le_of_fits hfits
      have hlt : s.loop.writtenSize < size := by omega
      have hasked : (o.send (size - s.loop.writtenSize)).fits
          (ServerActiveSocket.sendLength (s.loop.remaining size)) = true := by
        rw [hlength]
        exact hfits
      rcases sent_cases hsize hlt hasked with ⟨hfail, -, -⟩ | ⟨-, hpart, hafter⟩ |
        ⟨-, hfull, hafter⟩
      · exact absurd hsent hfail
      · exact .sent hpos (by omega) (fun _ => hafter) (fun hdone => absurd hdone (by omega))
      · exact .sent hpos (by omega) (fun hlt' => absurd hlt' (by omega)) (fun _ => hafter)
    · have hzero : (o.send (size - s.loop.writtenSize)).count = 0 := by
        by_contra hne
        exact hsent ((SendReturn.result_code_eq_success_of_fits hfits).mpr (by omega))
      rw [sent_of_failed hsent, hzero]
      exact .refused _
  · simp only [hpolled, hsuccess, if_false, List.append_nil, Option.map_some]
    exact ⟨_, rfl, .stopped _⟩

/-! ### The loop -/

/-- After `polls` polls: what has been sent, and how far the loop has come. -/
structure Streaming (maxRetries : Nat) (buffer : List UInt8) (polls : Nat) (s : SendingLoop) : Prop where
  inOrder : InOrder buffer s
  written : s.loop.writtenSize ≤ buffer.length
  retries : s.loop.i ≤ maxRetries
  open_ : s.loop.broken = false → polls ≤ s.loop.writtenSize + s.loop.i ∧
    (s.loop.writtenSize < buffer.length ∨ buffer.length = 0)
  ended : s.loop.broken = true → polls ≤ buffer.length + maxRetries

theorem positions_append {sends : List SendCall} {call : SendCall} {written : Nat}
    (hsends : sends.flatMap SendCall.positions = List.range written) (hcall : call.offset = written) :
    (sends ++ [call]).flatMap SendCall.positions = List.range (written + call.accepted) := by
  rw [List.flatMap_append, hsends, List.flatMap_singleton, SendCall.positions, hcall,
    List.range_eq_range', List.range_eq_range', ← List.range'_append_1, Nat.zero_add]

theorem bytes_eq_take {buffer : List UInt8} {sends : List SendCall} {written : Nat}
    (hsends : sends.flatMap (SendCall.bytes buffer) = buffer.take written) {call : SendCall}
    (hcall : call.offset = written) :
    (sends ++ [call]).flatMap (SendCall.bytes buffer) = buffer.take (written + call.accepted) := by
  rw [List.flatMap_append, hsends, List.flatMap_singleton, SendCall.bytes, hcall, List.take_add]

theorem InOrder.send {buffer : List UInt8} {s : SendingLoop} (h : InOrder buffer s) {count : Nat}
    (hwritten : s.loop.writtenSize ≤ buffer.length)
    (hcount : s.loop.writtenSize + count ≤ buffer.length) {l : ClientLoop}
    (hl : l.writtenSize = s.loop.writtenSize + count) :
    InOrder buffer { loop := l, sends := s.sends ++
      [⟨s.loop.writtenSize, buffer.length - s.loop.writtenSize, count⟩] } := by
  refine ⟨?_, ?_, ?_⟩
  · rw [hl]
    exact positions_append h.positions rfl
  · rw [hl]
    exact bytes_eq_take h.bytes rfl
  · intro call hcall
    rcases List.mem_append.mp hcall with hcall | hcall
    · exact h.inside call hcall
    · rw [List.mem_singleton.mp hcall]
      dsimp only
      omega

theorem Streaming.step {buffer : List UInt8} {polls : Nat} {s s' : SendingLoop}
    (h : Streaming maxRetries buffer polls s) (hrunning : s.loop.running maxRetries = true)
    (hmove : SendingMove buffer.length s s') : Streaming maxRetries buffer (polls + 1) s' := by
  simp only [ClientLoop.running, Bool.and_eq_true, Bool.not_eq_true', decide_eq_true_eq] at hrunning
  obtain ⟨hbroken, hretries⟩ := hrunning
  obtain ⟨hpolls, hopen⟩ := h.open_ hbroken
  have hwritten := h.written
  cases hmove with
  | timedOut =>
    refine ⟨⟨h.inOrder.positions, h.inOrder.bytes, h.inOrder.inside⟩, hwritten, hretries, ?_, ?_⟩
    · exact fun _ => ⟨by dsimp only; omega, hopen⟩
    · intro hover
      simp [hbroken] at hover
  | stopped code =>
    refine ⟨⟨h.inOrder.positions, h.inOrder.bytes, h.inOrder.inside⟩, hwritten, h.retries, ?_, ?_⟩
    · intro hnot
      cases hnot
    · intro _
      omega
  | refused code =>
    refine ⟨h.inOrder.send hwritten hwritten rfl, hwritten, h.retries, ?_, ?_⟩
    · intro hnot
      cases hnot
    · intro _
      omega
  | @sent count l hpos hcount hpart hdone =>
    rcases Nat.lt_or_eq_of_le hcount with hlt | hfull
    · obtain rfl := hpart hlt
      refine ⟨h.inOrder.send hwritten hcount rfl, hcount, h.retries, ?_, ?_⟩
      · exact fun _ => ⟨by dsimp only; omega, .inl hlt⟩
      · intro hover
        simp [hbroken] at hover
    · obtain rfl := hdone hfull
      refine ⟨h.inOrder.send hwritten hcount hfull.symm, Nat.le_refl _, h.retries, ?_, ?_⟩
      · intro hnot
        cases hnot
      · intro _
        omega

theorem exec_clientStep {outcomes : List ClientOutcome} {s s' : SendingLoop}
    (h : exec (sendingStep maxRetries size) s outcomes = some s') :
    ∃ rounds, rounds.length = outcomes.length ∧
      exec (clientStep maxRetries size) s.loop rounds = some s'.loop := by
  induction outcomes generalizing s with
  | nil =>
    cases h
    exact ⟨[], rfl, rfl⟩
  | cons o outcomes ih =>
    obtain ⟨m, hm, hrest⟩ := exec_cons_eq_some.mp h
    obtain ⟨l, hl, rfl⟩ := Option.map_eq_some_iff.mp hm
    obtain ⟨rounds, hlength, hrounds⟩ := ih hrest
    exact ⟨_ :: rounds, congrArg (· + 1) hlength, exec_cons_eq_some.mpr ⟨l, hl, hrounds⟩⟩

/-- The loop for a client that answers with `outcomes` for ever: it stops after so many polls, and
    what it has sent is the front of the buffer. -/
structure Stops (maxRetries : Nat) (buffer : List UInt8) (outcomes : Nat → ClientOutcome)
    (rounds : List ClientRound) (s : SendingLoop) (polls : Nat) : Prop where
  met : exec (sendingStep maxRetries buffer.length) {} (firstLabels outcomes polls) = some s
  stopped : s.loop.running maxRetries = false
  polls_le : polls ≤ buffer.length + maxRetries
  inOrder : InOrder buffer s
  complete : exec (clientStep maxRetries buffer.length) {} rounds = some s.loop
  length : rounds.length = polls

theorem exists_stops {buffer : List UInt8} (hsize : buffer.length < 2 ^ 64)
    (outcomes : Nat → ClientOutcome) :
    ∃ rounds s polls, Stops maxRetries buffer outcomes rounds s polls := by
  have hstart : Streaming maxRetries buffer 0 {} := by
    refine ⟨⟨rfl, rfl, by simp⟩, Nat.zero_le _, Nat.zero_le _, fun _ => ⟨Nat.le_refl _, ?_⟩, ?_⟩
    · exact (Nat.eq_zero_or_pos _).symm
    · intro hover
      cases hover
  obtain ⟨polls, s, hmet, hstreaming, hstopped⟩ :=
    @exists_stop _ _ (sendingStep maxRetries buffer.length) outcomes
      (fun s => s.loop.running maxRetries) (Streaming maxRetries buffer)
      (buffer.length + maxRetries)
      (fun n s h hrunning => by
        obtain ⟨s', hs', hmove⟩ := sendingStep_cases hsize h.written hrunning (outcomes n)
        exact ⟨s', hs', h.step hrunning hmove⟩)
      (fun n s h hrunning => by
        simp only [ClientLoop.running, Bool.and_eq_true, Bool.not_eq_true', decide_eq_true_eq]
          at hrunning
        have hpolls := (h.open_ hrunning.1).1
        have hwritten := h.written
        omega)
      _ hstart
  obtain ⟨rounds, hlength, hrounds⟩ := exec_clientStep hmet
  refine ⟨rounds, s, polls, hmet, hstopped, ?_, hstreaming.inOrder, hrounds,
    by simpa [firstLabels] using hlength⟩
  cases hbroken : s.loop.broken with
  | true => exact hstreaming.ended hbroken
  | false =>
    have hpolls := (hstreaming.open_ hbroken).1
    have hwritten := hstreaming.written
    have hretries := hstreaming.retries
    omega

/-- `write` returns once every client's loop has stopped. -/
theorem exists_writeClients {buffer : List UInt8} {clients : List (Nat → ClientOutcome)}
    {rounds : List (List ClientRound)} (h : List.Forall₂ (fun outcomes rounds =>
      ∃ s polls, Stops maxRetries buffer outcomes rounds s polls) clients rounds)
    (result : SocketResult) : ∃ r, writeClients maxRetries buffer.length result rounds = some r := by
  induction h generalizing result with
  | nil => exact ⟨result, rfl⟩
  | cons hfirst hrest ih =>
    obtain ⟨s, polls, hstops⟩ := hfirst
    obtain ⟨r, hr⟩ := ih s.loop.result
    refine ⟨r, ?_⟩
    rw [writeClients, hstops.complete]
    simpa [hstops.stopped] using hr

/-- **A broadcast write.**  Whatever the polls and sends answer for ever, `write` returns; for each
    client of the snapshot it stops after at most as many polls as there are bytes and retries,
    its socket has accepted the first bytes of the buffer, each once and in order, and every
    `send` was given bytes inside the buffer. -/
theorem write_prefix (maxRetries : Nat) (buffer : List UInt8) (hsize : buffer.length < 2 ^ 64)
    (clients : List (Nat → ClientOutcome)) :
    ∃ rounds r, write maxRetries buffer.length rounds = some r ∧
      List.Forall₂ (fun outcomes rounds => ∃ s polls, Stops maxRetries buffer outcomes rounds s polls)
        clients rounds := by
  have hall : ∃ rounds : List (List ClientRound),
      List.Forall₂ (fun outcomes rounds => ∃ s polls, Stops maxRetries buffer outcomes rounds s polls)
        clients rounds := by
    induction clients with
    | nil => exact ⟨[], .nil⟩
    | cons outcomes clients ih =>
      obtain ⟨rest, hrest⟩ := ih
      obtain ⟨rounds, hrounds⟩ := exists_stops hsize outcomes
      exact ⟨rounds :: rest, .cons hrounds hrest⟩
  obtain ⟨rounds, hrounds⟩ := hall
  obtain ⟨r, hr⟩ := exists_writeClients hrounds { code := .success }
  by_cases hempty : rounds.isEmpty
  · exact ⟨rounds, { code := .success, bytes := 0 }, by rw [write, if_pos hempty], hrounds⟩
  · exact ⟨rounds, r, by rw [write, if_neg hempty, hr], hrounds⟩

/-- A peer that takes one byte of each `send`, and one that never becomes writable. -/
def slowPeer : ClientOutcome where
  poll := .ready { pollout := true } none
  send length := if length = 0 then .error .ewouldblock else .sent 1
  send_fits length := by
    split
    · rfl
    · rename_i hne
      exact decide_eq_true (by unfold transferMax; omega)

def stuckPeer : ClientOutcome where
  poll := .timeout
  send _ := .sent 0
  send_fits _ := by simp [SendReturn.fits]

theorem write_prefix_slow : ∃ rounds r, write 3 2 rounds = some r ∧
    List.Forall₂ (fun outcomes rounds => ∃ s polls, Stops 3 [1, 2] outcomes rounds s polls)
      [fun _ => slowPeer, fun _ => stuckPeer] rounds :=
  write_prefix 3 [1, 2] (by decide) [fun _ => slowPeer, fun _ => stuckPeer]

end SecuritySocket.BroadcastServer
