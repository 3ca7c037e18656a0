import SecuritySocket.BroadcastSubscribers

/-!
# Several callers at once

The `write` calls of any number of threads overlap: none of them holds `_clients_mtx` while it sends,
so the bytes of two calls may alternate on a connection, and on two connections in different ways.
What remains is that each connection takes from each call the first bytes of its buffer, in order
and each once, and a subscriber reads these as they were mixed.
-/

namespace SecuritySocket

open Transition SocketClient MessageStreams BroadcastServer

namespace BroadcastSystem

variable {calls : WriteCalls} {s s' : BroadcastSystem} {call : Nat}

/-- A call in the loop for client `id`: the client has what the loop counts of its buffer, and those
    to follow have none of it. -/
structure Underway (calls : WriteCalls) (s : BroadcastSystem) (call id : Nat) (todo : List Nat)
    (loop : ClientLoop) : Prop where
  nodup : (id :: todo).Nodup
  written : loop.writtenSize ≤ calls.size call
  stream : bytesOf call (s.streams id) = piece call loop.writtenSize
  todo : ∀ id' ∈ todo, bytesOf call (s.streams id') = []

/-- What the calls have made of the streams. -/
structure Mixing (calls : WriteCalls) (s : BroadcastSystem) : Prop where
  mixed : ∀ id, Mixed calls.size (s.streams id)
  underway : ∀ call id todo loop, (s.writes call).serving? = some (id, todo, loop) →
    Underway calls s call id todo loop

theorem mixing_opened (fd : Int) : Mixing calls (opened fd) where
  mixed _ := mixed_nil
  underway call id todo loop h := by simp [opened, WritePc.serving?] at h

theorem Underway.of_bytes {id : Nat} {todo : List Nat} {loop : ClientLoop}
    (h : Underway calls s call id todo loop)
    (hbytes : ∀ id, bytesOf call (s'.streams id) = bytesOf call (s.streams id)) :
    Underway calls s' call id todo loop where
  nodup := h.nodup
  written := h.written
  stream := (hbytes id).trans h.stream
  todo id' hid' := (hbytes id').trans (h.todo id' hid')

theorem Mixing.moved (h : Mixing calls s) {pc : WritePc}
    (hwrites : s'.writes = Function.update s.writes call pc)
    (hothers : ∀ c, c ≠ call → ∀ id, bytesOf c (s'.streams id) = bytesOf c (s.streams id))
    (hmixed : ∀ id, ∃ n ≤ calls.size call, bytesOf call (s'.streams id) = piece call n)
    (hunderway : ∀ id todo loop, pc.serving? = some (id, todo, loop) →
      Underway calls s' call id todo loop) : Mixing calls s' where
  mixed id c := by
    by_cases hc : c = call
    · exact hc ▸ hmixed id
    · rw [hothers c hc id]
      exact h.mixed id c
  underway c id todo loop hpc := by
    by_cases hc : c = call
    · subst hc
      rw [hwrites, Function.update_self] at hpc
      exact hunderway id todo loop hpc
    · rw [hwrites, Function.update_of_ne hc] at hpc
      exact (h.underway c id todo loop hpc).of_bytes (hothers c hc)

theorem Mixing.unsent (h : Mixing calls s) {pc : WritePc}
    (hwrites : s'.writes = Function.update s.writes call pc) (hstreams : s'.streams = s.streams)
    (hunderway : ∀ id todo loop, pc.serving? = some (id, todo, loop) →
      Underway calls s call id todo loop) : Mixing calls s' := by
  have hbytes : ∀ c id, bytesOf c (s'.streams id) = bytesOf c (s.streams id) := by
    intro c id
    rw [hstreams]
  apply h.moved hwrites
  · intro c _ id
    exact hbytes c id
  · intro id
    rw [hbytes]
    exact h.mixed id call
  · intro id todo loop hpc
    exact (hunderway id todo loop hpc).of_bytes (hbytes call)

theorem Mixing.kept (h : Mixing calls s) {id : Nat} {todo : List Nat} {loop loop' : ClientLoop}
    {pc : WritePc} (hpc : (s.writes call).serving? = some (id, todo, loop))
    (hpc' : pc.serving? = some (id, todo, loop')) (hwritten : loop'.writtenSize = loop.writtenSize) :
    Mixing calls (s.setWrite call pc) := by
  refine h.unsent rfl rfl ?_
  intro id' todo' loop'' heq
  rw [hpc', Option.some.injEq, Prod.mk.injEq, Prod.mk.injEq] at heq
  obtain ⟨rfl, rfl, rfl⟩ := heq
  have hold := h.underway call id todo loop hpc
  exact ⟨hold.nodup, hwritten ▸ hold.written, hwritten ▸ hold.stream, hold.todo⟩

theorem Mixing.next (h : Mixing calls s) {id : Nat} {snapshot todo : List Nat} {loop : ClientLoop}
    {result : SocketResult} (hpc : (s.writes call).serving? = some (id, todo, loop)) :
    Mixing calls (s.setWrite call (.next snapshot result todo)) := by
  have hold := h.underway call id todo loop hpc
  refine h.unsent rfl rfl ?_
  intro id' todo' loop' heq
  cases todo with
  | nil => cases heq
  | cons next rest =>
    cases heq
    obtain ⟨-, hnodup⟩ := List.nodup_cons.mp hold.nodup
    refine ⟨hnodup, Nat.zero_le _, ?_, ?_⟩
    · exact hold.todo id' List.mem_cons_self
    · intro other hother
      exact hold.todo other (List.mem_cons_of_mem _ hother)

theorem Mixing.sent (h : Mixing calls s) (hhomed : Homed calls s) {snapshot todo : List Nat}
    {id : Nat} {loop : ClientLoop} {fd : Int} {a : WriteAnswer}
    (hpc : s.writes call = .sending snapshot id todo loop fd)
    (hfits : a.send.fits (ServerActiveSocket.sendLength (loop.remaining (calls.size call))))
    (hopen : a.send.count = 0 ∨ (s.server.kernel.connectionAt fd).isSome) :
    Mixing calls ((s.accept fd call loop.writtenSize a.send.count).setWrite call
      (.waiting snapshot id todo (loop.sent (calls.size call) a.send))) := by
  have hold := h.underway call id todo loop (by rw [hpc]; rfl)
  obtain ⟨hwritten, hle⟩ := sent_writtenSize (calls.size_lt call) hold.written hfits
  have hstreams : (s.accept fd call loop.writtenSize a.send.count).streams = _ :=
    hhomed.accept_streams hpc hopen
  -- what the client has of the call afterwards, and the other clients
  have hself : bytesOf call ((s.accept fd call loop.writtenSize a.send.count).streams id) =
      piece call (loop.writtenSize + a.send.count) := by
    rw [hstreams, Function.update_self, bytesOf_append, hold.stream, bytesOf_self, piece_append]
  have hother : ∀ id', id' ≠ id →
      (s.accept fd call loop.writtenSize a.send.count).streams id' = s.streams id' := by
    intro id' hne
    rw [hstreams, Function.update_of_ne hne]
  apply @Mixing.moved _ s _ call h (.waiting snapshot id todo (loop.sent (calls.size call) a.send))
  · simp [setWrite]
  · intro c hc id'
    simp only [setWrite]
    by_cases hid : id' = id
    · subst hid
      rw [hstreams, Function.update_self, bytesOf_append, bytesOf_other (Ne.symm hc),
        List.append_nil]
    · rw [hother id' hid]
  · intro id'
    simp only [setWrite]
    by_cases hid : id' = id
    · subst hid
      exact ⟨_, hle, hself⟩
    · rw [hother id' hid]
      exact h.mixed id' call
  · intro id' todo' loop' heq
    cases heq
    refine ⟨hold.nodup, hwritten ▸ hle, hwritten ▸ hself, ?_⟩
    intro other hmem
    have hne : other ≠ id := by
      rintro rfl
      exact (List.nodup_cons.mp hold.nodup).1 hmem
    simp only [setWrite]
    rw [hother other hne]
    exact hold.todo other hmem

theorem Mixing.writeMove {fd : Int} (h : Mixing calls s) (hhomed : Homed calls s)
    (hreach : Reachable BroadcastServer.step (.opened fd) s.server) {a : WriteAnswer}
    (hmove : WriteMove calls s call a s') : Mixing calls s' := by
  cases hmove with
  | nobody hpc =>
    refine h.unsent rfl rfl ?_
    intro id todo loop heq
    cases heq
  | @started id todo hpc hfree hsnapshot =>
    -- nothing of the call has been sent, and the list names each client once
    have hsilent : ∀ id, bytesOf call (s.streams id) = [] := by
      intro id
      exact bytesOf_eq_nil (hhomed.silent call hpc id)
    have hnodup : (id :: todo).Nodup := by
      obtain ⟨place, hledger⟩ := reachable_ledger hreach
      exact hsnapshot ▸ hledger.placed.nodup
    refine h.unsent rfl rfl ?_
    intro id' todo' loop' heq
    cases heq
    refine ⟨hnodup, Nat.zero_le _, hsilent _, ?_⟩
    intro other _
    exact hsilent other
  | stayed hpc hrunning hpolled =>
    exact h.kept (by rw [hpc]; rfl) rfl (polled_writtenSize hpolled)
  | ready hpc hrunning hpolled =>
    exact h.kept (by rw [hpc]; rfl) rfl (polled_writtenSize hpolled)
  | finished hpc hover => exact h.next (by rw [hpc]; rfl)
  | loaded hpc => exact h.kept (by rw [hpc]; rfl) rfl rfl
  | sent hpc hfits hopen => exact h.sent hhomed hpc hfits hopen

theorem Mixing.step {fd : Int} (h : Mixing calls s) (hhomed : Homed calls s)
    (hreach : Reachable (step calls) (opened fd) s) {label : Label}
    (hstep : step calls s label = some s') : Mixing calls s' := by
  rcases step_cases hstep with ⟨l, server, rfl, -, rfl⟩ | ⟨call, a, rfl, hmove⟩
  · exact ⟨h.mixed, fun call id todo loop hpc =>
      (h.underway call id todo loop hpc).of_bytes fun _ => rfl⟩
  · exact h.writeMove hhomed (reachable_server hreach) hmove

end BroadcastSystem

namespace BroadcastNetwork

variable {calls : WriteCalls} {memory : Nat → Nat → UInt8} {maxRetries : Nat}
  {s s' : BroadcastNetwork}

/-- The step accepts no client on a number a call has in hand. -/
def unreused (calls : WriteCalls) (s : BroadcastNetwork) : Label → Bool
  | .broadcast label => !s.broadcast.reuses calls label
  | .subscriber _ _ => true

/-- The calls are mixed on each connection, and each subscriber reads a front of what its
    connection has accepted: of each call the first bytes of its buffer. -/
structure Blended (calls : WriteCalls) (memory : Nat → Nat → UInt8) (s : BroadcastNetwork) :
    Prop where
  accepted : ∀ id, Mixed calls.size (s.broadcast.streams id)
  once : ∀ id, (s.broadcast.streams id).Nodup
  received : ∀ id, ∃ stream, stream <+: s.broadcast.streams id ∧ Mixed calls.size stream ∧
    (s.subscribers id).received = contents memory stream

/-- The server with any number of callers, and the subscribers reading what was accepted. -/
structure Joined (calls : WriteCalls) (memory : Nat → Nat → UInt8) (fd : Int)
    (s : BroadcastNetwork) : Prop where
  reachable : Reachable (BroadcastSystem.step calls) (.opened fd) s.broadcast
  homed : BroadcastSystem.Homed calls s.broadcast
  mixing : BroadcastSystem.Mixing calls s.broadcast
  reading : Reading s.subscribers (s.accepted memory)

theorem joined_opened (fd : Int) : Joined calls memory fd (opened fd) where
  reachable := .refl _
  homed := BroadcastSystem.homed_opened fd
  mixing := BroadcastSystem.mixing_opened fd
  reading := reading_start

theorem Joined.step {fd : Int} (h : Joined calls memory fd s)
    {label : Label} (hunreused : s.unreused calls label = true)
    (hstep : step calls memory maxRetries s label = some s') : Joined calls memory fd s' := by
  cases label with
  | broadcast label =>
    obtain ⟨broadcast, hbroadcast, rfl⟩ := Option.map_eq_some_iff.mp hstep
    have hreuses : s.broadcast.reuses calls label = false := by simpa [unreused] using hunreused
    refine ⟨h.reachable.tail hbroadcast, h.homed.step h.reachable hreuses hbroadcast,
      h.mixing.step h.homed h.reachable hbroadcast, ?_⟩
    apply h.reading.grown
    intro id
    exact (streams_step hbroadcast id).map _
  | subscriber id label =>
    simp only [BroadcastNetwork.step] at hstep
    split at hstep
    · rename_i hcarries
      obtain ⟨subscriber, hsubscriber, rfl⟩ := Option.map_eq_some_iff.mp hstep
      exact ⟨h.reachable, h.homed, h.mixing, h.reading.step hcarries hsubscriber⟩
    · cases hstep

theorem Joined.blended {fd : Int} (h : Joined calls memory fd s) : s.Blended calls memory where
  accepted := h.mixing.mixed
  once id := (h.mixing.mixed id).nodup
  received id := by
    have hfront : (s.subscribers id).received <+: contents memory (s.broadcast.streams id) :=
      h.reading.received id
    -- the bytes that were read are those of a front of the stream
    obtain ⟨stream, hstream, hreceived⟩ := List.prefix_map_iff.mp hfront
    exact ⟨stream, hstream, (h.mixing.mixed id).front hstream, hreceived⟩

/-- **Writes at once.**  However the calls of `write`, the monitor, `dropAll`, `close` and the subscribers
    come one after another, as long as `accept` returns no number a call has in hand: each connection
    has accepted of each call the first bytes of its buffer, in order and each once, and a
    subscriber has read the first of what its connection accepted. -/
theorem blended_of_unreused {fd : Int} {labels : List Label}
    (hexec : exec (step calls memory maxRetries) (opened fd) labels = some s)
    (hmeets : Meets (step calls memory maxRetries) (fun s label => s.unreused calls label = true)
      (opened fd) labels) : s.Blended calls memory := by
  have hjoined : Joined calls memory fd s :=
    exec_invariant_of_meets (fun s label s' h hguard hstep => Joined.step h hguard hstep)
      hexec hmeets (joined_opened fd)
  exact hjoined.blended

open BroadcastSystem (twoBytes loadSteps sendStep)

def sendRound (call count : Nat) : List BroadcastSystem.Label :=
  [.write call { poll := .ready { pollout := true } none }, .write call {},
    .write call { send := .sent count }]

/-- Two calls send their bytes to the first client in turns; the second client gets the whole of the
    later call first. -/
def twoCallers : List BroadcastSystem.Label :=
  (acceptRound 4 [] ++ acceptRound 5 [{}]).map .server ++
    loadSteps 0 ++ loadSteps 1 ++ [sendStep 0, sendStep 1] ++ sendRound 0 1 ++ sendRound 1 1 ++
    [.write 1 {}] ++ sendRound 1 2 ++ [.write 0 {}] ++ sendRound 0 2

def twoCallersRead : List Label :=
  let read (bytes : List UInt8) : ReadRound :=
    ⟨.ready { pollin := true } none, .plain (.data bytes)⟩
  twoCallers.map .broadcast ++
    [.subscriber 0 (.arrive [10, 20, 11, 21]), .subscriber 1 (.arrive [20, 21, 10, 11]),
     .subscriber 0 (.call (.short 3)),
     .subscriber 0 (.round (read [10, 20, 11, 21])),
     .subscriber 1 (.call (.short 3)),
     .subscriber 1 (.round (read [20, 21, 10, 11]))]

theorem blended_twoCallers :
    ∃ s, exec (step twoBytes letters 3) (opened 3) twoCallersRead = some s ∧
      s.broadcast.streams 0 = [(0, 0), (1, 0), (0, 1), (1, 1)] ∧
      (s.subscribers 0).received = [10, 20, 11, 21] ∧
      (s.subscribers 1).received = [20, 21, 10, 11] ∧ s.Blended twoBytes letters := by
  have hmeets : Meets (step twoBytes letters 3)
      (fun s label => s.unreused twoBytes label = true) (opened 3) twoCallersRead := by decide
  refine ⟨_, rfl, rfl, rfl, rfl, ?_⟩
  exact @blended_of_unreused twoBytes letters 3 _ 3 twoCallersRead rfl hmeets

end BroadcastNetwork

end SecuritySocket
