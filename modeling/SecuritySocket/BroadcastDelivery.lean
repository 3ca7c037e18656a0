import SecuritySocket.BroadcastLifetime

/-!
# Where the bytes of a write go

A `write` call reaches its clients through descriptor numbers: the `_socket` of each client
it has yet to serve, and the number it has loaded and not yet passed to `send`.  Another
thread closes a client's descriptor before it overwrites `_socket`, and the call keeps what
it has loaded; in between the kernel may give the number to the next accepted client.  The
theorem here excludes that: as long as `accept` returns no number a call still has in hand,
every byte of a call goes to a client of its snapshot.
-/

namespace SecuritySocket

open Transition

/-- The clients a call may still send to, with the numbers through which it would; `field`
    reads the socket of a client. -/
def WritePc.numbers (maxRetries : Nat) (field : Nat → Nat × Int) : WritePc → List (Nat × Int)
  | .waiting _ id todo loop =>
    (if loop.running maxRetries then id :: todo else todo).map field
  | .loading _ id todo _ => (id :: todo).map field
  | .sending _ id todo _ fd => (id, fd) :: (id :: todo).map field
  | .idle | .returned _ => []

/-! ### Numbers and connections -/

namespace BroadcastServer

variable {s s' : BroadcastServer}

def accepts (s : BroadcastServer) : Bool :=
  match s.monitor with
  | .dispatching (p :: _) => (s.context p).type == .accept
  | _ => false

theorem step_connectionAt {label : Label} (hstep : s.step label = some s') {fd : Int} {id : Nat}
    (hid : s'.kernel.connectionAt fd = some id) :
    s.kernel.connectionAt fd = some id ∨
      ∃ a, label = .monitor a ∧ s.accepts = true ∧ 0 ≤ a.accept.descriptor ∧
        fd = a.accept.descriptor := by
  have hclose : ∀ fd', (s.kernel.close fd').connectionAt fd = some id →
      s.kernel.connectionAt fd = some id := fun fd' h => (Kernel.connectionAt_close.mp h).2
  rcases step_cases hstep with ⟨a, rfl, hmove⟩ | ⟨call, rfl, hmove⟩ | ⟨rfl, hmove⟩
  · cases hmove with
    | refused hpc htype | accepted hpc htype =>
      rcases Kernel.connectionAt_accept hid with hold | ⟨hnonneg, hfd, _⟩
      · exact .inl hold
      · exact .inr ⟨a, rfl, by simp [accepts, hpc, htype], hnonneg, hfd⟩
    | closed => exact .inl (hclose _ hid)
    | _ => exact .inl hid
  · cases hmove with
    | closed => exact .inl (hclose _ hid)
    | _ => exact .inl hid
  · cases hmove with
    | closed | finished => exact .inl (hclose _ hid)
    | _ => exact .inl hid

theorem socket_closed (s : BroadcastServer) (id id' : Nat) :
    (Function.update s.clients id' { s.clients id' with socket := (s.clients id').socket.closed }
        id).socket.socket = (s.clients id).socket.socket ∨
      (Function.update s.clients id' { s.clients id' with socket := (s.clients id').socket.closed }
        id).socket.socket = -1 := by
  by_cases hid : id = id'
  · subst hid
    exact .inr (by simp [ServerActiveSocket.closed])
  · exact .inl (by simp [hid])

theorem step_socket {label : Label} (hstep : s.step label = some s') {id : Nat}
    (hlt : id < s.kernel.nextConnection) :
    (s'.clients id).socket.socket = (s.clients id).socket.socket ∨
      (s'.clients id).socket.socket = -1 := by
  rcases step_cases hstep with ⟨a, rfl, hmove⟩ | ⟨call, rfl, hmove⟩ | ⟨rfl, hmove⟩
  · cases hmove with
    | reported hpc hret hcollect hretyped => exact .inl (by rw [hretyped.socket])
    | accepted => exact .inl (by simp [Nat.ne_of_lt hlt])
    | stored => exact socket_closed s id _
    | _ => exact .inl rfl
  · cases hmove with
    | stored => exact socket_closed s id _
    | _ => exact .inl rfl
  · cases hmove with
    | stored => exact socket_closed s id _
    | _ => exact .inl rfl

/-- While nobody holds `_clients_mtx` the socket of an active client is open, and its own. -/
theorem connectionAt_of_active {fd : Int} (hreach : Reachable step (opened fd) s)
    (hfree : s.clientsMtx = none) {id : Nat} (hactive : id ∈ s.activeClients) :
    s.kernel.connectionAt (s.clients id).socket.socket = some id ∧
      id < s.kernel.nextConnection := by
  obtain ⟨place, hledger⟩ := reachable_ledger hreach
  have hmutex : s.custody.mutex ≠ some .close := by simp [custody, hfree]
  have hplace : place id = .active :=
    ((hledger.placed.active id).mp hactive).resolve_right (hledger.placed.undrained hmutex id)
  refine ⟨hledger.referring.opened id (by rw [hplace]; rfl), ?_⟩
  by_contra hge
  have habsent := hledger.placed.absent id (Nat.le_of_not_lt hge)
  rw [hplace] at habsent
  cases habsent

end BroadcastServer

namespace BroadcastSystem

open BroadcastServer

variable {calls : WriteCalls} {s s' : BroadcastSystem} {call : Nat}

/-! ### The numbers a call has in hand -/

def field (s : BroadcastSystem) (id : Nat) : Nat × Int := (id, (s.server.clients id).socket.socket)

def numbers (calls : WriteCalls) (s : BroadcastSystem) (call : Nat) : List (Nat × Int) :=
  (s.writes call).numbers calls.maxRetries s.field

/-- The step accepts a client on a number a `write` call has in hand. -/
def reuses (calls : WriteCalls) (s : BroadcastSystem) : Label → Bool
  | .server (.monitor a) =>
    s.server.accepts && decide (0 ≤ a.accept.descriptor) &&
      s.calls.any fun call => (s.numbers calls call).any fun n => n.2 == a.accept.descriptor
  | .server (.dropAll _) | .server .close | .write _ _ => false

section Numbers

variable {maxRetries : Nat} {field : Nat → Nat × Int} {snapshot todo : List Nat} {id : Nat}
  {loop : ClientLoop}

theorem numbers_waiting :
    (WritePc.waiting snapshot id todo loop).numbers maxRetries field ⊆ (id :: todo).map field := by
  rw [WritePc.numbers]
  split
  · exact List.Subset.refl _
  · exact List.subset_cons_self _ _

theorem numbers_running (h : loop.running maxRetries = true) :
    (WritePc.waiting snapshot id todo loop).numbers maxRetries field = (id :: todo).map field := by
  rw [WritePc.numbers, if_pos h]

theorem numbers_next {result : SocketResult} :
    (WritePc.next snapshot result todo).numbers maxRetries field ⊆ todo.map field := by
  cases todo with
  | nil => exact List.Subset.refl _
  | cons id todo => exact numbers_waiting

end Numbers

/-- Where a step of a call leads it: it has no number it had not in hand before, save after the
    first step, when it has those of the active clients. -/
theorem WriteMove.numbers {a : WriteAnswer} (h : WriteMove calls s call a s') :
    ∃ pc, s'.writes = Function.update s.writes call pc ∧ pc ≠ .idle ∧
      (pc.numbers calls.maxRetries s.field ⊆ s.numbers calls call ∨
        s.writes call = .idle ∧ s.server.clientsMtx = none ∧
          pc.numbers calls.maxRetries s.field ⊆ s.server.activeClients.map s.field) := by
  cases h with
  | nobody hpc => exact ⟨_, rfl, by simp, .inl (List.nil_subset _)⟩
  | started hpc hfree hsnapshot =>
    refine ⟨_, rfl, by simp, .inr ⟨hpc, hfree, ?_⟩⟩
    rw [hsnapshot]
    exact numbers_waiting
  | stayed hpc hrunning =>
    refine ⟨_, rfl, by simp, .inl ?_⟩
    rw [BroadcastSystem.numbers, hpc, numbers_running hrunning]
    exact numbers_waiting
  | ready hpc hrunning =>
    refine ⟨_, rfl, by simp, .inl ?_⟩
    rw [BroadcastSystem.numbers, hpc, numbers_running hrunning]
    exact List.Subset.refl _
  | @finished snapshot todo id loop hpc hover =>
    refine ⟨_, rfl, by cases todo <;> simp [WritePc.next], .inl ?_⟩
    rw [BroadcastSystem.numbers, hpc, WritePc.numbers, hover]
    exact numbers_next
  | loaded hpc =>
    refine ⟨_, rfl, by simp, .inl ?_⟩
    rw [BroadcastSystem.numbers, hpc]
    exact List.cons_subset.mpr ⟨List.mem_cons_self, List.Subset.refl _⟩
  | sent hpc hfits hopen =>
    refine ⟨_, by rw [setWrite, accept_writes], by simp, .inl ?_⟩
    rw [BroadcastSystem.numbers, hpc]
    exact List.Subset.trans numbers_waiting (List.subset_cons_self _ _)

/-- What a call has in hand after a step of the server: the same clients, each through the
    number it had or through `-1`. -/
theorem mem_numbers_of_server {server : BroadcastServer} {label : BroadcastServer.Label}
    (hstep : s.server.step label = some server) {n : Nat × Int}
    (hn : n ∈ numbers calls { s with server := server } call)
    (hknown : ∀ n ∈ s.numbers calls call, n.1 < s.server.kernel.nextConnection) :
    n ∈ s.numbers calls call ∨ n.2 = -1 ∧ ∃ fd, (n.1, fd) ∈ s.numbers calls call := by
  have hmap : ∀ ids : List Nat, (∀ n ∈ ids.map s.field, n.1 < s.server.kernel.nextConnection) →
      n ∈ ids.map (field { s with server := server }) →
      n ∈ ids.map s.field ∨ n.2 = -1 ∧ ∃ fd, (n.1, fd) ∈ ids.map s.field := by
    intro ids hlt hn
    obtain ⟨id, hid, rfl⟩ := List.mem_map.mp hn
    have hmem : s.field id ∈ ids.map s.field := List.mem_map_of_mem hid
    rcases step_socket hstep (hlt _ hmem) with hsame | hclosed
    · refine .inl ?_
      have hfield : field { s with server := server } id = s.field id := Prod.ext rfl hsame
      rw [hfield]
      exact hmem
    · exact .inr ⟨hclosed, _, hmem⟩
  unfold numbers at hn hknown ⊢
  dsimp only at hn
  cases hpc : s.writes call with
  | idle | returned => simp [hpc, WritePc.numbers] at hn
  | waiting snapshot id todo loop | loading snapshot id todo loop =>
    rw [hpc] at hn hknown
    exact hmap _ hknown hn
  | sending snapshot id todo loop fd =>
    rw [hpc] at hn hknown
    rcases List.mem_cons.mp hn with rfl | hn
    · exact .inl List.mem_cons_self
    · rcases hmap _ (fun n hn => hknown n (List.mem_cons_of_mem _ hn)) hn with h | ⟨h, fd', hfd⟩
      · exact .inl (List.mem_cons_of_mem _ h)
      · exact .inr ⟨h, fd', List.mem_cons_of_mem _ hfd⟩

/-! ### Runs in which no number is reused -/

/-- Every number a call has in hand refers to the client it belongs to, or to nothing. -/
structure Homed (calls : WriteCalls) (s : BroadcastSystem) : Prop where
  nonneg : ∀ fd id, s.server.kernel.connectionAt fd = some id → 0 ≤ fd
  begun : ∀ call, s.writes call ≠ .idle → call ∈ s.calls
  silent : ∀ call, s.writes call = .idle → ∀ id pos, (call, pos) ∉ s.streams id
  known : ∀ call, ∀ n ∈ s.numbers calls call, n.1 < s.server.kernel.nextConnection
  own : ∀ call, ∀ n ∈ s.numbers calls call, ∀ id,
    s.server.kernel.connectionAt n.2 = some id → id = n.1

theorem homed_opened (fd : Int) : Homed calls (opened fd) where
  nonneg fd' id hid := by
    rw [Kernel.connectionAt_eq_some] at hid
    by_cases hfd : fd' = fd <;> simp [opened, BroadcastServer.opened, Kernel.listening, hfd] at hid
  begun call h := absurd rfl h
  silent call _ id pos := List.not_mem_nil
  known call n hn := by simp [opened, numbers, WritePc.numbers] at hn
  own call n hn := by simp [opened, numbers, WritePc.numbers] at hn

theorem Homed.serverStep (h : Homed calls s) {server : BroadcastServer}
    {label : BroadcastServer.Label} (hstep : s.server.step label = some server)
    (hreuse : s.reuses calls (.server label) = false) :
    Homed calls { s with server := server } := by
  have hnonneg : ∀ fd id, server.kernel.connectionAt fd = some id → 0 ≤ fd := by
    intro fd id hid
    rcases step_connectionAt hstep hid with hold | ⟨a, _, _, hpos, rfl⟩
    · exact h.nonneg fd id hold
    · exact hpos
  refine ⟨hnonneg, h.begun, h.silent, fun call n hn => ?_, fun call n hn id hid => ?_⟩
  · refine Nat.lt_of_lt_of_le ?_ (BroadcastServer.nextConnection_le_step hstep)
    rcases mem_numbers_of_server hstep hn (h.known call) with hmem | ⟨_, fd, hmem⟩
    · exact h.known call n hmem
    · exact h.known call (n.1, fd) hmem
  · rcases mem_numbers_of_server hstep hn (h.known call) with hmem | ⟨hclosed, _⟩
    · rcases step_connectionAt hstep hid with hold | ⟨a, rfl, haccepts, hpos, hfd⟩
      · exact h.own call n hmem id hold
      · -- the call has the number in hand that `accept` has returned
        have hbegun : call ∈ s.calls := by
          refine h.begun call fun hidle => ?_
          simp [numbers, hidle, WritePc.numbers] at hmem
        have hreused : s.reuses calls (.server (.monitor a)) = true := by
          simp only [reuses, haccepts, hpos, decide_true, Bool.and_self, Bool.true_and,
            List.any_eq_true]
          exact ⟨call, hbegun, n, hmem, by simpa using hfd⟩
        rw [hreuse] at hreused
        cases hreused
    · have hneg := hnonneg _ _ hid
      omega

theorem WriteMove.order {a : WriteAnswer} (h : WriteMove calls s call a s') :
    (s.writes call ≠ .idle ∧ s'.calls = s.calls) ∨
      (s.writes call = .idle ∧ s'.calls = s.calls ++ [call]) := by
  cases h with
  | nobody hpc | started hpc => exact .inr ⟨hpc, rfl⟩
  | sent hpc => exact .inl ⟨by simp [hpc], by simp [setWrite]⟩
  | stayed hpc | ready hpc | finished hpc | loaded hpc => exact .inl ⟨by simp [hpc], rfl⟩

/-- A byte that a step puts into a stream is one of the call that takes it, sent on a number it
    has in hand. -/
theorem WriteMove.streams {a : WriteAnswer} (h : WriteMove calls s call a s') {c id pos : Nat}
    (hbyte : (c, pos) ∈ s'.streams id) :
    (c, pos) ∈ s.streams id ∨
      c = call ∧ ∃ n ∈ s.numbers calls call, s.server.kernel.connectionAt n.2 = some id := by
  cases h with
  | @sent snapshot todo id' loop fd hpc hfits hopen =>
    simp only [setWrite, accept] at hbyte
    cases hconnection : s.server.kernel.connectionAt fd with
    | none => exact .inl (by simpa [hconnection] using hbyte)
    | some target =>
      simp only [hconnection] at hbyte
      by_cases htarget : id = target
      · subst htarget
        rw [Function.update_self, List.mem_append] at hbyte
        refine hbyte.imp_right fun hnew => ?_
        obtain ⟨_, _, heq⟩ := List.mem_map.mp hnew
        cases heq
        refine ⟨rfl, (id', fd), ?_, hconnection⟩
        rw [BroadcastSystem.numbers, hpc]
        exact List.mem_cons_self
      · exact .inl (by simpa [htarget] using hbyte)
  | _ => exact .inl hbyte

theorem Homed.writeStep {fd : Int} (h : Homed calls s)
    (hreach : Reachable BroadcastServer.step (.opened fd) s.server) {a : WriteAnswer}
    (hmove : WriteMove calls s call a s') : Homed calls s' := by
  obtain ⟨pc, hwrites, hpc, hnumbers⟩ := hmove.numbers
  have hserver := hmove.server
  -- what a call has in hand afterwards, each with the client it belongs to
  have hhand : ∀ c, ∀ n ∈ s'.numbers calls c, n ∈ s.numbers calls c ∨
      s.server.kernel.connectionAt n.2 = some n.1 ∧ n.1 < s.server.kernel.nextConnection := by
    intro c n hn
    have hfield : s'.field = s.field := by
      funext id
      rw [field, hserver]
      rfl
    rw [numbers, hwrites, hfield] at hn
    by_cases hc : c = call
    · subst hc
      rw [Function.update_self] at hn
      rcases hnumbers with hsub | ⟨_, hfree, hsub⟩
      · exact .inl (hsub hn)
      · obtain ⟨id, hactive, rfl⟩ := List.mem_map.mp (hsub hn)
        exact .inr (connectionAt_of_active hreach hfree hactive)
    · exact .inl (by rwa [Function.update_of_ne hc] at hn)
  refine ⟨hserver ▸ h.nonneg, fun c hc => ?_, fun c hc id pos hbyte => ?_, fun c n hn => ?_,
    fun c n hn id hid => ?_⟩
  · by_cases hcall : c = call
    · subst hcall
      rcases hmove.order with ⟨hbegun, hcalls⟩ | ⟨_, hcalls⟩
      · exact hcalls ▸ h.begun c hbegun
      · simp [hcalls]
    · rw [hwrites, Function.update_of_ne hcall] at hc
      rcases hmove.order with ⟨_, hcalls⟩ | ⟨_, hcalls⟩
      · exact hcalls ▸ h.begun c hc
      · exact hcalls ▸ List.mem_append_left _ (h.begun c hc)
  · by_cases hcall : c = call
    · subst hcall
      rw [hwrites, Function.update_self] at hc
      exact hpc hc
    · rw [hwrites, Function.update_of_ne hcall] at hc
      rcases hmove.streams hbyte with hold | ⟨heq, _⟩
      · exact h.silent c hc id pos hold
      · exact hcall heq
  · rw [hserver]
    rcases hhand c n hn with hmem | ⟨_, hlt⟩
    · exact h.known c n hmem
    · exact hlt
  · rw [hserver] at hid
    rcases hhand c n hn with hmem | ⟨hown, _⟩
    · exact h.own c n hmem id hid
    · exact Option.some.inj (hid.symm.trans hown)

theorem Homed.step {fd : Int} (h : Homed calls s) (hreach : Reachable (step calls) (opened fd) s)
    {label : Label} (hreuse : s.reuses calls label = false)
    (hstep : step calls s label = some s') : Homed calls s' := by
  rcases step_cases hstep with ⟨l, server, rfl, hserver, rfl⟩ | ⟨call, a, rfl, hmove⟩
  · exact h.serverStep hserver hreuse
  · exact h.writeStep (reachable_server hreach) hmove

/-! ### Delivery -/

/-- The call has taken its snapshot when `next` connections had been accepted, and none of its
    bytes has gone to a later one. -/
structure Aimed (calls : WriteCalls) (call next : Nat) (s : BroadcastSystem) : Prop where
  begun : s.writes call ≠ .idle
  known : ∀ n ∈ s.numbers calls call, n.1 < next
  streams : ∀ id pos, next ≤ id → (call, pos) ∉ s.streams id

theorem aimed_of_start {fd : Int} (h : Homed calls s)
    (hreach : Reachable BroadcastServer.step (.opened fd) s.server) {a : WriteAnswer}
    (hidle : s.writes call = .idle) (hmove : WriteMove calls s call a s') :
    Aimed calls call s.server.kernel.nextConnection s' := by
  obtain ⟨pc, hwrites, hpc, _⟩ := hmove.numbers
  refine ⟨by simpa [hwrites] using hpc, fun n hn => ?_, fun id pos _ hbyte => ?_⟩
  · rw [← hmove.server]
    exact (h.writeStep hreach hmove).known call n hn
  · rcases hmove.streams hbyte with hold | ⟨_, n, hn, _⟩
    · exact h.silent call hidle id pos hold
    · simp [numbers, hidle, WritePc.numbers] at hn

theorem Aimed.step {next : Nat} (h : Aimed calls call next s) (hhomed : Homed calls s)
    {label : Label} (hstep : step calls s label = some s') : Aimed calls call next s' := by
  rcases step_cases hstep with ⟨l, server, rfl, hserver, rfl⟩ | ⟨c, a, rfl, hmove⟩
  · refine ⟨h.begun, fun n hn => ?_, h.streams⟩
    rcases mem_numbers_of_server hserver hn (hhomed.known call) with hmem | ⟨_, fd, hmem⟩
    · exact h.known n hmem
    · exact h.known (n.1, fd) hmem
  · obtain ⟨pc, hwrites, hpc, hnumbers⟩ := hmove.numbers
    refine ⟨?_, fun n hn => ?_, fun id pos hid hbyte => ?_⟩
    · by_cases hc : call = c
      · subst hc
        simpa [hwrites] using hpc
      · rw [hwrites, Function.update_of_ne hc]
        exact h.begun
    · have hfield : s'.field = s.field := by
        funext id
        rw [field, hmove.server]
        rfl
      rw [numbers, hwrites, hfield] at hn
      by_cases hc : call = c
      · subst hc
        rw [Function.update_self] at hn
        rcases hnumbers with hsub | ⟨hidle, _⟩
        · exact h.known n (hsub hn)
        · exact absurd hidle h.begun
      · exact h.known n (by rwa [Function.update_of_ne hc] at hn)
    · rcases hmove.streams hbyte with hold | ⟨rfl, n, hn, hconnection⟩
      · exact h.streams id pos hid hold
      · have hlt := h.known n hn
        rw [← hhomed.own call n hn id hconnection] at hlt
        exact absurd hlt (Nat.not_lt.mpr hid)

/-- No byte of a call in the run goes to a connection accepted after the call's snapshot, which
    its first step takes. -/
def WellAimed (calls : WriteCalls) (fd : Int) (labels : List Label) : Prop :=
  ∀ before call a after m s, labels = before ++ .write call a :: after →
    exec (step calls) (opened fd) before = some m → m.writes call = .idle →
    exec (step calls) m (.write call a :: after) = some s →
    ∀ id pos, m.server.kernel.nextConnection ≤ id → (call, pos) ∉ s.streams id

/-- **Delivery.**  In a run in which `accept` never returns a number that a `write` call still
    has in hand, no byte of a call goes to a client accepted after its snapshot. -/
theorem wellAimed_of_unreused {fd : Int} {labels : List Label}
    (hmeets : Meets (step calls) (fun s label => s.reuses calls label = false) (opened fd)
      labels) : WellAimed calls fd labels := by
  rintro before call a after m s rfl hbefore hidle hafter
  obtain ⟨hbeforeMeets, hafterMeets⟩ := (meets_append hbefore).mp hmeets
  have hinvariant : ∀ s label s', (Reachable (step calls) (opened fd) s ∧ Homed calls s) →
      s.reuses calls label = false → step calls s label = some s' →
      Reachable (step calls) (opened fd) s' ∧ Homed calls s' :=
    fun s label s' ⟨hreach, hs⟩ hreuse hstep => ⟨hreach.tail hstep, hs.step hreach hreuse hstep⟩
  have hm := exec_invariant_of_meets hinvariant hbefore hbeforeMeets ⟨.refl _, homed_opened fd⟩
  obtain ⟨t, ht, hrest⟩ := exec_cons_eq_some.mp hafter
  have hstart : Aimed calls call m.server.kernel.nextConnection t :=
    aimed_of_start hm.2 (reachable_server hm.1) hidle (writeStep_cases ht)
  have hend := exec_invariant_of_meets
    (I := fun s => (Reachable (step calls) (opened fd) s ∧ Homed calls s) ∧
      Aimed calls call m.server.kernel.nextConnection s)
    (fun s label s' ⟨hs, haimed⟩ hreuse hstep =>
      ⟨hinvariant s label s' hs hreuse hstep, haimed.step hs.2 hstep⟩)
    hrest (hafterMeets.2 t ht) ⟨hinvariant m _ t hm hafterMeets.1 ht, hstart⟩
  exact hend.2.streams

def oneByte : WriteCalls := { maxRetries := 1, size := fun _ => 1, size_lt := fun _ => by decide }

def loadSteps (call : Nat) : List Label :=
  [.write call {}, .write call { poll := .ready { pollout := true } none }, .write call {}]

def sendStep (call : Nat) : Label := .write call { send := .sent 1 }

/-- A number is used again once the call that had it in hand is over. -/
def reusedLater : List Label :=
  (acceptRound 4 []).map .server ++ loadSteps 0 ++ [sendStep 0, .write 0 {}] ++
    (List.replicate 8 (.dropAll 0)).map .server ++ (acceptRound 4 []).map .server ++
    loadSteps 1 ++ [sendStep 1, .write 1 {}]

theorem reusedLater_wellAimed :
    ∃ s, exec (step oneByte) (opened 3) reusedLater = some s ∧ s.streams 0 = [(0, 0)] ∧
      s.streams 1 = [(1, 0)] ∧ WellAimed oneByte 3 reusedLater := by
  refine ⟨_, rfl, rfl, rfl, wellAimed_of_unreused ?_⟩
  decide

/-- A client is dropped, and the next one accepted on its number, between the load of the number
    and the `send`. -/
def reusedInHand : List Label :=
  (acceptRound 4 []).map .server ++ loadSteps 0 ++
    (List.replicate 8 (.dropAll 0)).map .server ++ (acceptRound 4 []).map .server ++ [sendStep 0]

theorem reusedInHand_not_wellAimed :
    ∃ s, exec (step oneByte) (opened 3) reusedInHand = some s ∧ s.streams 1 = [(0, 0)] ∧
      ¬ WellAimed oneByte 3 reusedInHand := by
  refine ⟨_, rfl, rfl, fun h => ?_⟩
  have hbyte := h ((acceptRound 4 []).map .server) 0 {} _ _ _ rfl rfl rfl rfl 1 0 (by decide)
  exact hbyte (by decide)

end BroadcastSystem

end SecuritySocket
