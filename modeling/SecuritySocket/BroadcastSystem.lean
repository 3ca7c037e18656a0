import SecuritySocket.SocketBroadcastWrite
import SecuritySocket.BroadcastMoves

/-!
# Writes next to the other parties

Any number of `write` calls beside the monitor, `dropAll` and `close`: a client may be
closed, and its descriptor given to another connection, while a call is writing to it.  A
call loads the descriptor of the client's socket and passes it to `send` in two steps.

What a connection has accepted is kept as pairs of a call and a position in that call's
buffer, so that equal bytes of different calls stay apart.
-/

namespace SecuritySocket

open FixedWidth Transition BroadcastServer

structure WriteCalls where
  maxRetries : Nat
  size : Nat → Nat
  size_lt : ∀ call, size call < 2 ^ 64

/-- Where a `write` call is: in the loop for client `id`, with `todo` to follow. -/
inductive WritePc where
  | idle
  | waiting (snapshot : List Nat) (id : Nat) (todo : List Nat) (loop : ClientLoop)
  | loading (snapshot : List Nat) (id : Nat) (todo : List Nat) (loop : ClientLoop)
  | sending (snapshot : List Nat) (id : Nat) (todo : List Nat) (loop : ClientLoop) (fd : Int)
  | returned (result : SocketResult)
deriving DecidableEq, Repr

/-- The next client of the snapshot, or the end of the call. -/
def WritePc.next (snapshot : List Nat) (result : SocketResult) : List Nat → WritePc
  | [] => .returned result
  | id :: todo => .waiting snapshot id todo {}

structure BroadcastSystem where
  server : BroadcastServer
  writes : Nat → WritePc
  /-- The calls, in the order in which they took their snapshots. -/
  calls : List Nat
  /-- What the socket of each connection has accepted. -/
  streams : Nat → List (Nat × Nat)

namespace BroadcastSystem

def opened (fd : Int) : BroadcastSystem where
  server := BroadcastServer.opened fd
  writes _ := .idle
  calls := []
  streams _ := []

structure WriteAnswer where
  poll : PollReturn := .timeout
  send : SendReturn := .error (.other 0)

def setWrite (s : BroadcastSystem) (call : Nat) (pc : WritePc) : BroadcastSystem :=
  { s with writes := Function.update s.writes call pc }

def accept (s : BroadcastSystem) (fd : Int) (call offset count : Nat) : BroadcastSystem :=
  match s.server.kernel.connectionAt fd with
  | some id =>
    let bytes := (List.range' offset count).map (call, ·)
    { s with streams := Function.update s.streams id (s.streams id ++ bytes) }
  | none => s

def writeStep (calls : WriteCalls) (s : BroadcastSystem) (call : Nat) (a : WriteAnswer) :
    Option BroadcastSystem :=
  match s.writes call with
  | .idle =>
    if s.server.clientsMtx = none then
      let snapshot := s.server.activeClients
      let s := { s with calls := s.calls ++ [call] }
      if snapshot.isEmpty then some (s.setWrite call (.returned { code := .success, bytes := 0 }))
      else some (s.setWrite call (.next snapshot { code := .success } snapshot))
    else none
  | .waiting snapshot id todo loop =>
    if loop.running calls.maxRetries then
      match loop.polled a.poll with
      | (loop, false) => some (s.setWrite call (.waiting snapshot id todo loop))
      | (loop, true) => some (s.setWrite call (.loading snapshot id todo loop))
    else
      some (s.setWrite call (.next snapshot loop.result todo))
  | .loading snapshot id todo loop =>
    some (s.setWrite call
      (.sending snapshot id todo loop (s.server.clients id).socket.socket))
  | .sending snapshot id todo loop fd =>
    let size := calls.size call
    -- a descriptor that is no connection takes nothing
    if a.send.fits (ServerActiveSocket.sendLength (loop.remaining size)) ∧
        (a.send.count = 0 ∨ (s.server.kernel.connectionAt fd).isSome) then
      let s := s.accept fd call loop.writtenSize a.send.count
      some (s.setWrite call (.waiting snapshot id todo (loop.sent size a.send)))
    else none
  | .returned _ => none

inductive Label where
  | server (label : BroadcastServer.Label)
  | write (call : Nat) (answer : WriteAnswer)

def step (calls : WriteCalls) (s : BroadcastSystem) : Label → Option BroadcastSystem
  | .server label => (s.server.step label).map fun server => { s with server := server }
  | .write call answer => s.writeStep calls call answer

/-! ### The moves of a call -/

variable {calls : WriteCalls} {s s' : BroadcastSystem}

/-- Everything a step of the `write` call with number `call` can do. -/
inductive WriteMove (calls : WriteCalls) (s : BroadcastSystem) (call : Nat) (a : WriteAnswer) :
    BroadcastSystem → Prop where
  | nobody (hpc : s.writes call = .idle) (hfree : s.server.clientsMtx = none)
      (hsnapshot : s.server.activeClients = []) :
      WriteMove calls s call a ({ s with calls := s.calls ++ [call] }.setWrite call
        (.returned { code := .success, bytes := 0 }))
  | started {id : Nat} {todo : List Nat} (hpc : s.writes call = .idle)
      (hfree : s.server.clientsMtx = none) (hsnapshot : s.server.activeClients = id :: todo) :
      WriteMove calls s call a ({ s with calls := s.calls ++ [call] }.setWrite call
        (.waiting (id :: todo) id todo {}))
  | stayed {snapshot todo : List Nat} {id : Nat} {loop loop' : ClientLoop}
      (hpc : s.writes call = .waiting snapshot id todo loop)
      (hrunning : loop.running calls.maxRetries = true)
      (hpolled : loop.polled a.poll = (loop', false)) :
      WriteMove calls s call a (s.setWrite call (.waiting snapshot id todo loop'))
  | ready {snapshot todo : List Nat} {id : Nat} {loop loop' : ClientLoop}
      (hpc : s.writes call = .waiting snapshot id todo loop)
      (hrunning : loop.running calls.maxRetries = true)
      (hpolled : loop.polled a.poll = (loop', true)) :
      WriteMove calls s call a (s.setWrite call (.loading snapshot id todo loop'))
  | finished {snapshot todo : List Nat} {id : Nat} {loop : ClientLoop}
      (hpc : s.writes call = .waiting snapshot id todo loop)
      (hover : loop.running calls.maxRetries = false) :
      WriteMove calls s call a (s.setWrite call (.next snapshot loop.result todo))
  | loaded {snapshot todo : List Nat} {id : Nat} {loop : ClientLoop}
      (hpc : s.writes call = .loading snapshot id todo loop) :
      WriteMove calls s call a (s.setWrite call
        (.sending snapshot id todo loop (s.server.clients id).socket.socket))
  | sent {snapshot todo : List Nat} {id : Nat} {loop : ClientLoop} {fd : Int}
      (hpc : s.writes call = .sending snapshot id todo loop fd)
      (hfits : a.send.fits (ServerActiveSocket.sendLength (loop.remaining (calls.size call))))
      (hopen : a.send.count = 0 ∨ (s.server.kernel.connectionAt fd).isSome) :
      WriteMove calls s call a ((s.accept fd call loop.writtenSize a.send.count).setWrite call
        (.waiting snapshot id todo (loop.sent (calls.size call) a.send)))

theorem writeStep_cases {call : Nat} {a : WriteAnswer} (h : s.writeStep calls call a = some s') :
    WriteMove calls s call a s' := by
  unfold writeStep at h
  split at h <;> rename_i hpc
  · split at h
    · rename_i hfree
      cases hsnapshot : s.server.activeClients with
      | nil =>
        simp only [hsnapshot, List.isEmpty_nil, if_true, Option.some.injEq] at h
        subst h
        exact .nobody hpc hfree hsnapshot
      | cons id todo =>
        simp only [hsnapshot, List.isEmpty_cons, Bool.false_eq_true, if_false,
          Option.some.injEq] at h
        subst h
        exact .started hpc hfree hsnapshot
    · cases h
  · split at h
    · rename_i hrunning
      split at h <;> rename_i hpolled <;> cases h
      · exact .stayed hpc hrunning hpolled
      · exact .ready hpc hrunning hpolled
    · rename_i hover
      cases h
      exact .finished hpc (by simpa using hover)
  · cases h
    exact .loaded hpc
  · dsimp only at h
    split at h
    · rename_i hsend
      cases h
      exact .sent hpc hsend.1 hsend.2
    · cases h
  · cases h

theorem step_cases {label : Label} (h : step calls s label = some s') :
    (∃ l server, label = .server l ∧ s.server.step l = some server ∧
      s' = { s with server := server }) ∨
    ∃ call a, label = .write call a ∧ WriteMove calls s call a s' := by
  cases label with
  | server l =>
    obtain ⟨server, hserver, rfl⟩ := Option.map_eq_some_iff.mp h
    exact .inl ⟨l, server, rfl, hserver, rfl⟩
  | write call a => exact .inr ⟨call, a, rfl, writeStep_cases h⟩

@[simp] theorem accept_server (s : BroadcastSystem) (fd : Int) (call offset count : Nat) :
    (s.accept fd call offset count).server = s.server := by
  unfold accept
  split <;> rfl

@[simp] theorem accept_writes (s : BroadcastSystem) (fd : Int) (call offset count : Nat) :
    (s.accept fd call offset count).writes = s.writes := by
  unfold accept
  split <;> rfl

@[simp] theorem accept_calls (s : BroadcastSystem) (fd : Int) (call offset count : Nat) :
    (s.accept fd call offset count).calls = s.calls := by
  unfold accept
  split <;> rfl

theorem WriteMove.server {call : Nat} {a : WriteAnswer} (h : WriteMove calls s call a s') :
    s'.server = s.server := by
  cases h <;> simp [setWrite]

/-- **Projection.**  Every reachable state of the system has a server that is reachable on
    its own. -/
theorem reachable_server {fd : Int} (h : Reachable (step calls) (opened fd) s) :
    Reachable BroadcastServer.step (BroadcastServer.opened fd) s.server := by
  refine h.invariant (I := fun s => Reachable BroadcastServer.step (BroadcastServer.opened fd)
    s.server) (.refl _) ?_
  intro s label s' hs hstep
  rcases step_cases hstep with ⟨l, server, _, hserver, rfl⟩ | ⟨call, a, _, hmove⟩
  · exact hs.tail hserver
  · rw [hmove.server]
    exact hs

theorem exec_server {server : BroadcastServer} {labels : List BroadcastServer.Label}
    (h : exec BroadcastServer.step s.server labels = some server) :
    exec (step calls) s (labels.map .server) = some { s with server := server } := by
  induction labels generalizing s with
  | nil =>
    cases h
    rfl
  | cons label labels ih =>
    obtain ⟨m, hm, hrest⟩ := exec_cons_eq_some.mp h
    refine exec_cons_eq_some.mpr ⟨{ s with server := m }, ?_, ih hrest⟩
    simp [step, hm]

end BroadcastSystem

end SecuritySocket
