import SecuritySocket.BroadcastDelivery
import SecuritySocket.BroadcastWrite
import SecuritySocket.MessageStreams

/-!
# The streams of a broadcast

One caller writes one message after another.  A client whose retries are used up, or whose
`send` fails, in the middle of a message stays on the active list until the monitor takes it
off, and nothing tells the next `write` that it is in the middle of a message.  The theorem
here says that the streams are intact as long as no call takes its snapshot while such a
client is active, and descriptor numbers are not used again while a call has them in hand.
-/

namespace SecuritySocket

open Transition BroadcastServer MessageStreams

def WritePc.serving? : WritePc → Option (Nat × List Nat × ClientLoop)
  | .waiting _ id todo loop | .loading _ id todo loop | .sending _ id todo loop _ =>
    some (id, todo, loop)
  | .idle | .returned _ => none

namespace BroadcastServer

theorem polled_writtenSize {l l' : ClientLoop} {r : PollReturn} {goesOn : Bool}
    (h : l.polled r = (l', goesOn)) : l'.writtenSize = l.writtenSize := by
  rcases polled_cases l r with ⟨_, hpolled⟩ | ⟨_, hpolled⟩ | ⟨_, _, hpolled⟩
  all_goals
    rw [hpolled] at h
    cases h
    rfl

theorem sent_writtenSize {size : Nat} {l : ClientLoop} {r : SendReturn} (hsize : size < 2 ^ 64)
    (hle : l.writtenSize ≤ size)
    (hfits : r.fits (ServerActiveSocket.sendLength (l.remaining size))) :
    (l.sent size r).writtenSize = l.writtenSize + r.count ∧ l.writtenSize + r.count ≤ size := by
  rcases Nat.lt_or_eq_of_le hle with hlt | heq
  · rcases sent_cases hsize hlt hfits with ⟨_, hzero, hsent⟩ | ⟨_, hpart, hsent⟩ | ⟨_, hfull, hsent⟩
    · rw [hsent, hzero]
      exact ⟨rfl, hle⟩
    · rw [hsent]
      exact ⟨rfl, Nat.le_of_lt hpart⟩
    · rw [hsent]
      exact ⟨hfull.symm, Nat.le_of_eq hfull⟩
  · -- nothing remains, so `send` is given no bytes and accepts none
    have hremaining : l.remaining size = 0 := by
      rw [ClientLoop.remaining, FixedWidth.sizeSub_eq hle hsize, heq, Nat.sub_self]
    have hcount : r.count = 0 := by
      have hle := SendReturn.count_le_of_fits hfits
      rw [ServerActiveSocket.sendLength, hremaining] at hle
      omega
    have hcode : (ServerActiveSocket.write r).code ≠ .success := by
      intro hcode
      have hpos := (SendReturn.result_code_eq_success_of_fits hfits).mp hcode
      omega
    refine ⟨?_, by omega⟩
    unfold ClientLoop.sent
    rw [hcount, Nat.add_zero]
    split
    · rfl
    · rfl
    · rename_i hsuccess
      exact absurd hsuccess hcode
    · rfl

end BroadcastServer

namespace BroadcastSystem

variable {calls : WriteCalls} {s s' : BroadcastSystem} {call : Nat}

/-- The step does not begin a call while another one is in progress. -/
def alone (s : BroadcastSystem) : Label → Bool
  | .write call _ =>
    s.writes call != .idle || s.calls.all fun other => (s.writes other).serving?.isNone
  | .server _ => true

/-- The step begins a call while the stream of an active client ends within an earlier call's
    buffer. -/
def resumes (calls : WriteCalls) (s : BroadcastSystem) : Label → Bool
  | .write call _ =>
    s.writes call == .idle &&
      s.server.activeClients.any fun id => cut calls.size s.calls (s.streams id)
  | .server _ => false

/-- A call in the loop for client `id`: it is the last one, the client has what the loop counts
    of its buffer, and those to follow have none of it. -/
structure Serving (calls : WriteCalls) (s : BroadcastSystem) (call id : Nat) (todo : List Nat)
    (loop : ClientLoop) (earlier : List Nat) : Prop where
  last : s.calls = earlier ++ [call]
  nodup : (id :: todo).Nodup
  written : loop.writtenSize ≤ calls.size call
  stream : ∃ stream, Whole calls.size earlier stream ∧
    s.streams id = stream ++ piece call loop.writtenSize
  todo : ∀ id' ∈ todo, Whole calls.size earlier (s.streams id')

/-- What one caller's writes have made of the streams. -/
structure Streaming (calls : WriteCalls) (s : BroadcastSystem) : Prop where
  nodup : s.calls.Nodup
  begun : ∀ call, call ∈ s.calls ↔ s.writes call ≠ .idle
  intact : ∀ id, Intact calls.size s.calls (s.streams id)
  serving : ∀ call id todo loop, (s.writes call).serving? = some (id, todo, loop) →
    ∃ earlier, Serving calls s call id todo loop earlier

theorem streaming_opened (fd : Int) : Streaming calls (opened fd) where
  nodup := List.nodup_nil
  begun call := by simp [opened]
  intact id := whole_nil.intact
  serving call id todo loop h := by simp [opened, WritePc.serving?] at h

theorem Serving.intact {id : Nat} {todo earlier : List Nat} {loop : ClientLoop}
    (h : Serving calls s call id todo loop earlier) : Intact calls.size s.calls (s.streams id) := by
  obtain ⟨stream, hwhole, hstream⟩ := h.stream
  rw [h.last, hstream]
  exact hwhole.continued h.written

theorem Streaming.unique (h : Streaming calls s) {c id id' : Nat} {todo todo' : List Nat}
    {loop loop' : ClientLoop} (hcall : (s.writes call).serving? = some (id, todo, loop))
    (hc : (s.writes c).serving? = some (id', todo', loop')) : c = call := by
  obtain ⟨earlier, hserving⟩ := h.serving call id todo loop hcall
  obtain ⟨earlier', hserving'⟩ := h.serving c id' todo' loop' hc
  have heq := hserving'.last.symm.trans hserving.last
  exact List.singleton_inj.mp (List.append_inj_right' heq rfl)

theorem Streaming.advance (h : Streaming calls s) {id : Nat} {todo : List Nat} {loop : ClientLoop}
    {pc : WritePc} (hpc : (s.writes call).serving? = some (id, todo, loop)) (hbegun : pc ≠ .idle)
    (hwrites : s'.writes = Function.update s.writes call pc) (hcalls : s'.calls = s.calls)
    (hintact : ∀ id, Intact calls.size s.calls (s'.streams id))
    (hserving : ∀ id todo loop, pc.serving? = some (id, todo, loop) →
      ∃ earlier, Serving calls s' call id todo loop earlier) : Streaming calls s' where
  nodup := hcalls ▸ h.nodup
  begun c := by
    rw [hcalls, hwrites, h.begun]
    by_cases hc : c = call
    · subst hc
      have hold : s.writes c ≠ .idle := fun hidle => by simp [hidle, WritePc.serving?] at hpc
      simp [hold, hbegun]
    · simp [hc]
  intact := hcalls ▸ hintact
  serving c id' todo' loop' hc := by
    by_cases hcall : c = call
    · subst hcall
      rw [hwrites, Function.update_self] at hc
      exact hserving id' todo' loop' hc
    · rw [hwrites, Function.update_of_ne hcall] at hc
      exact absurd (h.unique hpc hc) hcall

theorem Streaming.start (h : Streaming calls s) {a : WriteAnswer} {pc : WritePc}
    (hidle : s.writes call = .idle) (halone : s.alone (.write call a) = true)
    (hbegun : pc ≠ .idle) (hwrites : s'.writes = Function.update s.writes call pc)
    (hcalls : s'.calls = s.calls ++ [call]) (hstreams : s'.streams = s.streams)
    (hserving : ∀ id todo loop, pc.serving? = some (id, todo, loop) →
      Serving calls s' call id todo loop s.calls) : Streaming calls s' where
  nodup := by
    have hnew : call ∉ s.calls := fun hmem => (h.begun call).mp hmem hidle
    simpa [hcalls, List.nodup_append, h.nodup] using fun c hc (heq : c = call) => hnew (heq ▸ hc)
  begun c := by
    rw [hcalls, hwrites, List.mem_append, h.begun]
    by_cases hc : c = call
    · subst hc
      simp [hbegun]
    · simp [hc]
  intact id := by
    rw [hcalls, hstreams]
    exact (h.intact id).mono (List.sublist_append_left _ _)
  serving c id todo loop hc := by
    by_cases hcall : c = call
    · subst hcall
      rw [hwrites, Function.update_self] at hc
      exact ⟨s.calls, hserving id todo loop hc⟩
    · rw [hwrites, Function.update_of_ne hcall] at hc
      have hmem : c ∈ s.calls := (h.begun c).mpr fun hnone => by
        simp [hnone, WritePc.serving?] at hc
      have hnone : (s.writes c).serving? = none := by
        have hall : ∀ other ∈ s.calls, (s.writes other).serving? = none := by
          simpa [alone, hidle] using halone
        exact hall c hmem
      rw [hnone] at hc
      cases hc

theorem Streaming.kept (h : Streaming calls s) {id : Nat} {todo : List Nat}
    {loop loop' : ClientLoop} {pc : WritePc}
    (hpc : (s.writes call).serving? = some (id, todo, loop))
    (hpc' : pc.serving? = some (id, todo, loop')) (hwritten : loop'.writtenSize = loop.writtenSize) :
    Streaming calls (s.setWrite call pc) := by
  have hbegun : pc ≠ .idle := by
    rintro rfl
    cases hpc'
  refine h.advance hpc hbegun rfl rfl h.intact fun id' todo' loop'' heq => ?_
  rw [hpc', Option.some.injEq, Prod.mk.injEq, Prod.mk.injEq] at heq
  obtain ⟨rfl, rfl, rfl⟩ := heq
  obtain ⟨earlier, hserving⟩ := h.serving call id todo loop hpc
  exact ⟨earlier, hserving.last, hserving.nodup, hwritten ▸ hserving.written,
    hwritten ▸ hserving.stream, hserving.todo⟩

theorem Streaming.next (h : Streaming calls s) {id : Nat} {snapshot todo : List Nat}
    {loop : ClientLoop} {result : SocketResult}
    (hpc : (s.writes call).serving? = some (id, todo, loop)) :
    Streaming calls (s.setWrite call (.next snapshot result todo)) := by
  obtain ⟨earlier, hserving⟩ := h.serving call id todo loop hpc
  refine h.advance hpc (by cases todo <;> simp [WritePc.next]) rfl rfl h.intact
    fun id' todo' loop' heq => ?_
  cases todo with
  | nil => cases heq
  | cons _ rest =>
    cases heq
    obtain ⟨-, hnodup⟩ := List.nodup_cons.mp hserving.nodup
    refine ⟨earlier, hserving.last, hnodup, Nat.zero_le _, ?_, ?_⟩
    · exact ⟨_, hserving.todo id' List.mem_cons_self, by simp [piece, setWrite]⟩
    · exact fun other hother => hserving.todo other (List.mem_cons_of_mem _ hother)

theorem Homed.accept_streams (h : Homed calls s) {snapshot todo : List Nat} {id : Nat}
    {loop : ClientLoop} {fd : Int} (hpc : s.writes call = .sending snapshot id todo loop fd)
    {offset count : Nat} (hopen : count = 0 ∨ (s.server.kernel.connectionAt fd).isSome) :
    (s.accept fd call offset count).streams =
      Function.update s.streams id (s.streams id ++ (List.range' offset count).map (call, ·)) := by
  have hmem : (id, fd) ∈ s.numbers calls call := by
    rw [numbers, hpc]
    exact List.mem_cons_self
  unfold accept
  cases hconnection : s.server.kernel.connectionAt fd with
  | some target =>
    obtain rfl := h.own call _ hmem target hconnection
    rfl
  | none =>
    have hzero : count = 0 := hopen.resolve_right (by simp [hconnection])
    simp [hzero]

theorem Streaming.sent (h : Streaming calls s) (hhomed : Homed calls s) {snapshot todo : List Nat}
    {id : Nat} {loop : ClientLoop} {fd : Int} {a : WriteAnswer}
    (hpc : s.writes call = .sending snapshot id todo loop fd)
    (hfits : a.send.fits (ServerActiveSocket.sendLength (loop.remaining (calls.size call))))
    (hopen : a.send.count = 0 ∨ (s.server.kernel.connectionAt fd).isSome) :
    Streaming calls ((s.accept fd call loop.writtenSize a.send.count).setWrite call
      (.waiting snapshot id todo (loop.sent (calls.size call) a.send))) := by
  have hserves : (s.writes call).serving? = some (id, todo, loop) := by rw [hpc]; rfl
  obtain ⟨earlier, hserving⟩ := h.serving call id todo loop hserves
  obtain ⟨hwritten, hle⟩ := sent_writtenSize (calls.size_lt call) hserving.written hfits
  have hstreams : (s.accept fd call loop.writtenSize a.send.count).streams = _ :=
    hhomed.accept_streams hpc hopen
  have hserving' : Serving calls
      ((s.accept fd call loop.writtenSize a.send.count).setWrite call
        (.waiting snapshot id todo (loop.sent (calls.size call) a.send)))
      call id todo (loop.sent (calls.size call) a.send) earlier := by
    refine ⟨by simp [setWrite, hserving.last], hserving.nodup, hwritten ▸ hle, ?_, ?_⟩
    · obtain ⟨stream, hwhole, hstream⟩ := hserving.stream
      refine ⟨stream, hwhole, ?_⟩
      simp only [setWrite, hstreams, Function.update_self, hwritten]
      rw [hstream, List.append_assoc, piece_append]
    · intro id' hid'
      have hne : id' ≠ id := by
        rintro rfl
        exact (List.nodup_cons.mp hserving.nodup).1 hid'
      simp only [setWrite, hstreams, Function.update_of_ne hne]
      exact hserving.todo id' hid'
  have hbegun : WritePc.waiting snapshot id todo (loop.sent (calls.size call) a.send) ≠ .idle := by
    intro h
    cases h
  refine h.advance hserves hbegun (by simp [setWrite]) (by simp [setWrite]) (fun id' => ?_)
    fun id' todo' loop' heq => ?_
  · by_cases hid : id' = id
    · subst hid
      simpa [setWrite] using hserving'.intact
    · simp only [setWrite, hstreams, Function.update_of_ne hid]
      exact h.intact id'
  · cases heq
    exact ⟨earlier, hserving'⟩

theorem Streaming.writeMove {fd : Int} (h : Streaming calls s) (hhomed : Homed calls s)
    (hreach : Reachable BroadcastServer.step (.opened fd) s.server) {a : WriteAnswer}
    (halone : s.alone (.write call a) = true)
    (hresumes : s.resumes calls (.write call a) = false)
    (hmove : WriteMove calls s call a s') : Streaming calls s' := by
  cases hmove with
  | nobody hpc =>
    exact h.start hpc halone (by simp) rfl rfl rfl fun _ _ _ heq => nomatch heq
  | @started id todo hpc hfree hsnapshot =>
    have hwhole : ∀ id ∈ s.server.activeClients, Whole calls.size s.calls (s.streams id) := by
      intro id hactive
      have hcut : ∀ id ∈ s.server.activeClients, cut calls.size s.calls (s.streams id) = false := by
        simpa [resumes, hpc] using hresumes
      exact (h.intact id).whole h.nodup (hcut id hactive)
    rw [hsnapshot] at hwhole
    have hnodup : s.server.activeClients.Nodup := by
      obtain ⟨place, hledger⟩ := reachable_ledger hreach
      exact hledger.placed.nodup
    refine h.start hpc halone (by simp) rfl rfl rfl fun id' todo' loop' heq => ?_
    cases heq
    refine ⟨rfl, hsnapshot ▸ hnodup, Nat.zero_le _, ?_, ?_⟩
    · exact ⟨_, hwhole id List.mem_cons_self, by simp [piece, setWrite]⟩
    · exact fun id' hid' => hwhole id' (List.mem_cons_of_mem _ hid')
  | stayed hpc hrunning hpolled =>
    exact h.kept (by rw [hpc]; rfl) rfl (polled_writtenSize hpolled)
  | ready hpc hrunning hpolled =>
    exact h.kept (by rw [hpc]; rfl) rfl (polled_writtenSize hpolled)
  | finished hpc hover => exact h.next (by rw [hpc]; rfl)
  | loaded hpc => exact h.kept (by rw [hpc]; rfl) rfl rfl
  | sent hpc hfits hopen => exact h.sent hhomed hpc hfits hopen

theorem Streaming.serverStep (h : Streaming calls s) (server : BroadcastServer) :
    Streaming calls { s with server := server } where
  nodup := h.nodup
  begun := h.begun
  intact := h.intact
  serving call id todo loop hpc := by
    obtain ⟨earlier, hserving⟩ := h.serving call id todo loop hpc
    exact ⟨earlier, hserving.last, hserving.nodup, hserving.written, hserving.stream,
      hserving.todo⟩

/-- **Stream integrity.**  One caller's calls, one after the other: as long as none of them
    begins while an active client is left within an earlier buffer, and `accept` returns no
    number a call has in hand, every connection has accepted complete buffers in the order of
    the calls, and then at most a proper beginning of one more. -/
theorem intact_of_unresumed {fd : Int} {labels : List Label}
    (hexec : exec (step calls) (opened fd) labels = some s)
    (halone : Meets (step calls) (fun s label => s.alone label = true) (opened fd) labels)
    (hmeets : Meets (step calls)
      (fun s label => s.resumes calls label = false ∧ s.reuses calls label = false)
      (opened fd) labels) (id : Nat) : Intact calls.size s.calls (s.streams id) := by
  have hend := exec_invariant_of_meets
    (I := fun s => Reachable (step calls) (opened fd) s ∧ Homed calls s ∧ Streaming calls s)
    ?_ hexec (halone.and hmeets) ⟨.refl _, homed_opened fd, streaming_opened fd⟩
  · exact hend.2.2.intact id
  · rintro s label s' ⟨hreach, hhomed, hstreaming⟩ ⟨halone, hresumes, hreuses⟩ hstep
    refine ⟨hreach.tail hstep, hhomed.step hreach hreuses hstep, ?_⟩
    rcases step_cases hstep with ⟨l, server, rfl, _, rfl⟩ | ⟨call, a, rfl, hmove⟩
    · exact hstreaming.serverStep server
    · exact hstreaming.writeMove hhomed (reachable_server hreach) halone hresumes hmove

def twoBytes : WriteCalls := { maxRetries := 1, size := fun _ => 2, size_lt := fun _ => by decide }

/-- A call whose client takes the first byte and is then not ready again. -/
def cutShort (call : Nat) : List Label :=
  loadSteps call ++ [sendStep call, .write call {}, .write call {}]

/-- A client gets one message, the beginning of another, and is taken off the list before the
    third. -/
def cutThenLeft : List Label :=
  (acceptRound 4 []).map .server ++ loadSteps 0 ++ [.write 0 { send := .sent 2 }, .write 0 {}] ++
    cutShort 1 ++ (monitorRound 11 { poll := .ready [{}, { pollhup := true }] }).map .server ++
    [.write 2 {}]

theorem cutThenLeft_intact :
    ∃ s, exec (step twoBytes) (opened 3) cutThenLeft = some s ∧
      s.calls = [0, 1, 2] ∧ s.streams 0 = [(0, 0), (0, 1), (1, 0)] ∧
      Intact twoBytes.size s.calls (s.streams 0) := by
  have halone : Meets (step twoBytes) (fun s label => s.alone label = true) (opened 3)
      cutThenLeft := by decide
  have hmeets : Meets (step twoBytes)
      (fun s label => s.resumes twoBytes label = false ∧ s.reuses twoBytes label = false)
      (opened 3) cutThenLeft := by decide
  exact ⟨_, rfl, rfl, rfl, intact_of_unresumed rfl halone hmeets 0⟩

/-- The client is still on the list when the next call begins: it gets the start of the second
    message after the first byte of the first. -/
def cutThenResumed : List Label :=
  (acceptRound 4 []).map .server ++ cutShort 0 ++ loadSteps 1 ++ [sendStep 1]

theorem cutThenResumed_not_intact :
    ∃ s, exec (step twoBytes) (opened 3) cutThenResumed = some s ∧
      Meets (step twoBytes) (fun s label => s.alone label = true) (opened 3) cutThenResumed ∧
      s.writes 0 = .returned { code := .success } ∧ s.streams 0 = [(0, 0), (1, 0)] ∧
      ¬ Intact twoBytes.size s.calls (s.streams 0) := by
  have hnot : ¬ Intact twoBytes.size [0, 1] [(0, 0), (1, 0)] := by
    rintro ⟨sent, rest, hstream, hrest⟩
    cases sent with
    | nil =>
      rcases hrest with ⟨rfl, _⟩ | ⟨m, n, hlt, rfl, _⟩
      · cases hstream
      · have hlength : 2 = n := by simpa [piece] using congrArg List.length hstream
        exact absurd hlt (by simp [twoBytes, ← hlength])
    | cons m sent =>
      have hbytes : [(0, 0), (1, 0)] =
          (m, 0) :: (m, 1) :: (sent.flatMap (message twoBytes.size) ++ rest) := hstream
      simp at hbytes
  exact ⟨_, rfl, by decide, rfl, rfl, hnot⟩

end BroadcastSystem

end SecuritySocket
