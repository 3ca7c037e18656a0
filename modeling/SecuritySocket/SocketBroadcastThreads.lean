import SecuritySocket.LockOrder
import SecuritySocket.SocketBroadcastWrite
import SecuritySocket.SocketBroadcastAwait

/-!
# The broadcast server's threads and its mutexes

The operations of the broadcast server as programs over its two mutexes, the server's
`_clients_mtx` and the listener's `_mtx`, with the calls of the handler as callbacks: a
handler may call `write`, `await`, `awaitClose` and `dropAll` again.  Thread `0` runs
`monitorClient`; every other number is a thread of the application, which calls the same
operations as it likes.

The data is that of `BroadcastServer`; where the threads are is told here by their programs,
so its program counters stay as `opened` leaves them.  A call has its locals in a frame of
its thread.
-/

namespace SecuritySocket.BroadcastThreads

open FixedWidth Transition BroadcastServer LockOrder LockOrder.Prog

inductive Mutex where
  | clientsMtx
  | mtx
deriving DecidableEq, Repr

/-- `dropAll` takes the listener's mutex inside `_clients_mtx`. -/
def Mutex.rank : Mutex → Nat
  | .clientsMtx => 0
  | .mtx => 1

/-! ### Locals -/

/-- The locals of one call.  `contexts` and `handle` are the copies made by `wait`, `code` and
    `batch` its result; `todo` is what a loop over a vector has left. -/
structure Locals where
  contexts : List ContextPtr := []
  handle : List PollFd := []
  code : SocketCode := .success
  batch : List ContextPtr := []
  broken : Bool := false
  context : ContextPtr := .server
  accepted : ServerActiveSocket := {}
  client : Nat := 0
  erased : Bool := false
  closing : Option CloseStage := none
  dropped : List Nat := []
  todo : List Nat := []
  size : Nat := 0
  loop : ClientLoop := {}
  writable : Bool := false
  timedOut : Bool := false
  returned : Option SocketResult := none

structure Input where
  poll : MultiPollReturn := .timeout
  accept : AcceptReturn := { descriptor := -1 }
  round : ClientRound := { poll := .timeout }
  timedOut : Bool := false

/-- What the operations do between taking and giving back mutexes. -/
inductive Action where
  | enter (size : Nat)
  | leave
  | clearPending
  | copyVectors
  | poll
  | breakLoop
  | nextContext
  | acceptSocket
  | makeClient
  | addEvent
  | pushClient
  | notifyAll
  | castClient
  | removeEvent
  | eraseClient
  | loadClose
  | closeSocket
  | swapActive
  | startDropped
  | nextClient
  | insertPending
  | copyActive
  | openListener
  | waitWritable
  | send
  | storeResult
  | blockOnCv
  | readFirst
  | readSecond
  | readClose
deriving DecidableEq, Repr

/-- The conditions of the operations' loops and branches. -/
inductive Test where
  | monitoring
  | codeIs (code : SocketCode)
  | moreContexts
  | typeIs (type : SocketEventType)
  | accepted
  | handlerSet
  | erased
  | closing
  | moreClients
  | running
  | writable
  | unsatisfied (kind : WaitKind)
  | returned
deriving DecidableEq, Repr

structure Data where
  server : BroadcastServer
  handler : Bool
  maxRetries : Nat
  frames : Nat → List Locals

/-! ### Actions -/

/-- `wait` once `poll` has returned on the copied vectors. -/
def polled (server : BroadcastServer) (l : Locals) :
    MultiPollReturn → Option (BroadcastServer × Locals)
  | .timeout => some (server, { l with code := .socketTimeout, batch := [] })
  | .error => some (server, { l with code := .socketEventError, batch := [] })
  | .ready revents =>
    match SocketMultiEventListener.collect server.fdOf l.contexts (l.handle.zip revents) with
    | none => none
    | some reported =>
      some (server.storeTypes reported,
        { l with code := .success, batch := reported.map (·.context) })

/-- An action of thread `t` on the server and the locals of its call; `none` where the source
    uses a pointer that is not what it takes it for, and for a return the system cannot give. -/
def Action.run (t : Nat) (input : Input) (server : BroadcastServer) (l : Locals) :
    Action → Option (BroadcastServer × Locals)
  | .enter _ | .leave => none
  | .clearPending => some ({ server with pendingDestruction := [] }, l)
  | .copyVectors =>
    some (server, { l with contexts := server.listener.contexts, handle := server.listener.handle })
  | .poll => if input.poll.consistent l.handle then polled server l input.poll else none
  | .breakLoop => some (server, { l with broken := true })
  | .nextContext =>
    match l.batch with
    | [] => none
    | p :: batch => some (server, { l with context := p, batch := batch })
  | .acceptSocket =>
    if input.accept.fits server.kernel then
      some ({ server with kernel := server.kernel.accept input.accept },
        { l with accepted := .ofAccept input.accept, client := server.kernel.nextConnection })
    else none
  | .makeClient =>
    let client : BroadcastClient := { context := { fd := l.accepted.socket }, socket := l.accepted }
    some ({ server with clients := Function.update server.clients l.client client }, l)
  | .addEvent =>
    let listener := server.listener.addEvent (.peer l.client) (server.fdOf (.peer l.client)) .read
    some ({ server with listener := listener }, l)
  | .pushClient =>
    some ({ server with activeClients := server.activeClients ++ [l.client] }, l)
  | .notifyAll => some (server, l)
  | .castClient =>
    match l.context with
    | .server => none
    | .peer id => some (server, { l with client := id })
  | .removeEvent =>
    let listener := server.listener.removeEvent (.peer l.client) (server.fdOf (.peer l.client))
    some ({ server with listener := listener }, l)
  | .eraseClient =>
    some ({ server with activeClients := server.activeClients.erase l.client },
      { l with erased := l.client ∈ server.activeClients })
  | .loadClose => some (server, { l with closing := some .load })
  | .closeSocket =>
    l.closing.map fun stage =>
      let by_ := if t = 0 then .monitor else .dropAll t
      let (server, next) := server.closeSocket by_ l.client stage
      (server, { l with closing := next })
  | .swapActive =>
    some ({ server with activeClients := [] }, { l with dropped := server.activeClients })
  | .startDropped => some (server, { l with todo := l.dropped })
  | .nextClient =>
    match l.todo with
    | [] => none
    | id :: todo => some (server, { l with client := id, todo := todo })
  | .insertPending =>
    some ({ server with pendingDestruction := server.pendingDestruction ++ l.dropped }, l)
  | .copyActive =>
    let result : SocketResult :=
      if server.activeClients.isEmpty then { code := .success, bytes := 0 }
      else { code := .success }
    some (server, { l with todo := server.activeClients, returned := some result })
  | .openListener => some (server, { l with loop := {} })
  | .waitWritable =>
    let polled := l.loop.polled input.round.poll
    some (server, { l with loop := polled.1, writable := polled.2 })
  | .send =>
    if input.round.send.fits (ServerActiveSocket.sendLength (l.loop.remaining l.size)) then
      some (server, { l with loop := l.loop.sent l.size input.round.send })
    else none
  | .storeResult => some (server, { l with returned := some l.loop.result })
  | .blockOnCv => some (server, { l with timedOut := input.timedOut })
  | .readFirst => some (server, { l with returned := server.awaitFirst })
  | .readSecond => some (server, { l with returned := some server.awaitSecond })
  | .readClose => some (server, { l with returned := some server.awaitClose })

def Test.holds (d : Data) (l : Locals) : Test → Bool
  | .monitoring => d.server.isMonitoring && !l.broken
  | .codeIs code => l.code == code
  | .moreContexts => !l.batch.isEmpty
  | .typeIs type => (d.server.context l.context).type == type
  | .accepted => l.accepted.result.code == .success
  | .handlerSet => d.handler
  | .erased => l.erased
  | .closing => l.closing.isSome
  | .moreClients => !l.todo.isEmpty
  | .running => l.loop.running d.maxRetries
  | .writable => l.writable
  | .unsatisfied kind => !d.server.predicate kind && !l.timedOut
  | .returned => l.returned.isSome

/-- The meaning of actions and tests: those of a call work on the frame of its thread made
    last. -/
def meaning : Meaning Action Test Data Nat Input where
  act a t input d :=
    match a, d.frames t with
    | .enter size, frames =>
      some { d with frames := Function.update d.frames t ({ size := size } :: frames) }
    | _, [] => none
    | .leave, _ :: frames => some { d with frames := Function.update d.frames t frames }
    | a, l :: frames => (a.run t input d.server l).map fun (server, l) =>
      { d with server := server, frames := Function.update d.frames t (l :: frames) }
  test c t d :=
    match d.frames t with
    | [] => false
    | l :: _ => c.holds d l

/-! ### Operations -/

abbrev Program := Prog Action Test Mutex

def wait : Program := block [guarded .mtx (act .copyVectors), act .poll]

/-- `_listener.addEvent(client, READ)`. -/
def addEvent : Program := guarded .mtx (act .addEvent)

def removeEvent : Program := guarded .mtx (act .removeEvent)

def closeSocket : Program := block [act .loadClose, loop .closing (act .closeSocket)]

/-- `if (_handler) _handler->…`. -/
def callHandler : Program := when .handlerSet callback

def acceptCase : Program :=
  block [act .acceptSocket, when .accepted (block [
    act .makeClient,
    addEvent,
    guarded .clientsMtx (act .pushClient),
    act .notifyAll,
    callHandler])]

def disconnectedCase : Program :=
  block [
    act .castClient,
    removeEvent,
    guarded .clientsMtx (act .eraseClient),
    when .erased (block [closeSocket, callHandler]),
    act .notifyAll]

def monitorClient : Program :=
  block [act (.enter 0), loop .monitoring (block [
    guarded .clientsMtx (act .clearPending),
    wait,
    branch (.codeIs .socketTimeout) skip (branch (.codeIs .success)
      (loop .moreContexts (block [
        act .nextContext,
        branch (.typeIs .accept) acceptCase (when (.typeIs .disconnected) disconnectedCase)]))
      (act .breakLoop))]), act .leave]

def dropAll : Program :=
  block [
    act (.enter 0),
    guarded .clientsMtx (block [
      act .swapActive,
      act .startDropped,
      loop .moreClients (block [act .nextClient, removeEvent]),
      act .insertPending]),
    act .notifyAll,
    act .startDropped,
    loop .moreClients (block [act .nextClient, closeSocket, callHandler]),
    act .leave]

def write (size : Nat) : Program :=
  block [
    act (.enter size),
    guarded .clientsMtx (act .copyActive),
    loop .moreClients (block [
      act .nextClient,
      act .openListener,
      loop .running (block [act .waitWritable, when .writable (act .send)]),
      act .storeResult]),
    act .leave]

/-- `_clients_cv.wait_for` on a locked `_clients_mtx`. -/
def waitFor (kind : WaitKind) : Program :=
  loop (.unsatisfied kind) (block [unlock .clientsMtx, act .blockOnCv, lock .clientsMtx])

def await : Program :=
  block [
    act (.enter 0),
    guarded .clientsMtx (block [waitFor .await, act .readFirst]),
    branch .returned skip (guarded .clientsMtx (act .readSecond)),
    act .leave]

def awaitClose : Program :=
  block [
    act (.enter 0),
    guarded .clientsMtx (block [waitFor .awaitClose, act .readClose]),
    act .leave]

/-- What the application and its handler may call. -/
inductive Op where
  | write (size : Nat)
  | await
  | awaitClose
  | dropAll
deriving DecidableEq, Repr

def Op.program : Op → Program
  | .write size => BroadcastThreads.write size
  | .await => BroadcastThreads.await
  | .awaitClose => BroadcastThreads.awaitClose
  | .dropAll => BroadcastThreads.dropAll

/-! ### Runs -/

abbrev System := Threads Action Test Mutex Data Nat

def opened (fd : Int) (handler : Bool) (maxRetries : Nat) : System where
  work t := if t = 0 then [monitorClient] else [callback]
  holder _ := none
  data :=
    { server := BroadcastServer.opened fd
      handler := handler
      maxRetries := maxRetries
      frames := fun _ => [] }

def step : System → Nat × Turn Input Op → Option System := LockOrder.step meaning Op.program

/-- No thread requests a mutex it holds, and no two of them hold one each and request the
    other's. -/
structure DeadlockFree (s : System) : Prop where
  noRelock : ∀ t m, Requests s t m → s.holder m ≠ some t
  noCrossing : ∀ t u k m, t ≠ u → s.holder k = some t → Requests s t m →
    s.holder m = some u → ¬ Requests s u k

/-- Every operation takes `_clients_mtx` before the listener's mutex, and calls the handler with
    neither. -/
theorem ordered_program (op : Op) : Ordered Mutex.rank op.program := by
  cases op with
  | write size => rfl
  | await => rfl
  | awaitClose => rfl
  | dropAll => rfl

theorem ordered_monitorClient : Ordered Mutex.rank monitorClient := rfl

theorem checkAll_opened (fd : Int) (handler : Bool) (maxRetries t : Nat) :
    checkAll Mutex.rank [] ((opened fd handler maxRetries).work t) = some [] := by
  dsimp only [opened]
  split
  · exact checkAll_cons.mpr ⟨[], ordered_monitorClient, rfl⟩
  · rfl

/-- **Broadcast handlers may call back.** -/
theorem reachable_deadlockFree (fd : Int) (handler : Bool) (maxRetries : Nat) {s : System}
    (hreach : Reachable step (opened fd handler maxRetries) s) : DeadlockFree s := by
  obtain ⟨held, h⟩ := reachable_inOrder ordered_program (fun _ => rfl)
    (checkAll_opened fd handler maxRetries) hreach
  constructor
  · intro t m hrequest
    exact h.not_holds hrequest
  · intro t u k m _ hholds hrequest hholds' hrequest'
    have hwait : Relation.TransGen (WaitsFor s) t u := .single ⟨m, hrequest, hholds'⟩
    exact h.acyclic t (hwait.tail ⟨k, hrequest', hholds⟩)

def arrival : Input where
  poll := .ready [{ pollin := true }]
  accept := { descriptor := 5 }

def goes (t n : Nat) : List (Nat × Turn Input Op) := List.replicate n (t, .go arrival)

/-- The monitor tells the handler of a client, the handler calls `await`, and the monitor copies
    the listener's vectors when thread `1` comes to `removeEvent` in `dropAll` and thread `2`
    calls `write`. -/
def contention : List (Nat × Turn Input Op) :=
  goes 0 58 ++ (0, .call .await) :: goes 0 26 ++ (0, .back) :: goes 0 18 ++
    (1, .call .dropAll) :: goes 1 16 ++ (2, .call (.write 1)) :: goes 2 4

set_option maxRecDepth 4000 in
theorem contention_deadlockFree : ∃ s, exec step (opened 3 true 3) contention = some s ∧
    WaitsFor s 2 1 ∧ WaitsFor s 1 0 ∧ DeadlockFree s :=
  ⟨_, rfl, ⟨.clientsMtx, rfl, rfl⟩, ⟨.mtx, rfl, rfl⟩,
    reachable_deadlockFree 3 true 3 ⟨contention, rfl⟩⟩

end SecuritySocket.BroadcastThreads
