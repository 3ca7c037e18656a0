import SecuritySocket.Kernel
import SecuritySocket.SocketEvent
import SecuritySocket.Transition

/-!
# The broadcast server (`SocketBroadcastServer.cpp`)

Three parties work on the clients of a broadcast server: the accept monitor on its thread,
any number of `dropAll` calls on others, and `close`.  Each is a program counter in the
state, and a step of the model is one step of one of them, so that a run is an
interleaving.  What a mutex makes indivisible is one step, except in `dropAll` and `close`,
which hold `_clients_mtx` over several operations; there the holder is part of the state.
System calls and the loads and stores of a socket's descriptor are steps of their own.

A `BroadcastClient` is known by the number of its connection, so no two clients ever have
the same address; the pointers that keep a client alive are the lists and local variables
of the state.
-/

namespace SecuritySocket

/-- `BroadcastClient`: the context it inherits, and the socket in its container. -/
structure BroadcastClient where
  context : SocketEventContext := {}
  socket : ServerActiveSocket := {}
deriving Repr

/-- Who takes a client off the server. -/
inductive Party where
  | monitor
  | dropAll (call : Nat)
  | close
deriving DecidableEq, Repr

/-- What happens to a connection, in the order in which it happens.  `closed` is a
    `::close` made through the client's socket; `endpoint` is what the descriptor it was
    given referred to. -/
inductive BroadcastEvent where
  | accepted (id : Nat) (fd : Int)
  | connected (id : Nat)
  | removed (id : Nat) (by_ : Party)
  | closed (id : Nat) (by_ : Party) (endpoint : Option Endpoint)
  | disconnected (id : Nat) (by_ : Party)
deriving DecidableEq, Repr

def BroadcastEvent.ofAccept (kernel : Kernel) (r : AcceptReturn) : List BroadcastEvent :=
  if 0 ≤ r.descriptor then [.accepted kernel.nextConnection r.descriptor] else []

/-- The steps of `ServerActiveSocket::close`: `_socket` is loaded, passed to `::close`, and
    set to `-1`. -/
inductive CloseStage where
  | load
  | call (fd : Int)
  | store
deriving DecidableEq, Repr

/-- Where `monitorClient` is.  `batch` is the rest of the reported contexts. -/
inductive MonitorPc where
  | top
  | clearing
  | waiting
  | polling (contexts : List ContextPtr) (handle : List PollFd)
  | dispatching (batch : List ContextPtr)
  | registering (id : Nat) (batch : List ContextPtr)
  | pushing (id : Nat) (batch : List ContextPtr)
  | announcing (id : Nat) (batch : List ContextPtr)
  | erasing (id : Nat) (batch : List ContextPtr)
  | closing (id : Nat) (stage : CloseStage) (batch : List ContextPtr)
  | telling (id : Nat) (batch : List ContextPtr)
  | exited
  | faulted
deriving DecidableEq, Repr

/-- Where a `dropAll` call is; `dropped` is its local vector, `todo` the part of it the loop
    has not done.  It holds `_clients_mtx` while `removing`. -/
inductive DropPc where
  | idle
  | removing (dropped todo : List Nat)
  | closing (stage : CloseStage) (dropped todo : List Nat)
  | telling (id : Nat) (dropped todo : List Nat)
  | returned
deriving DecidableEq, Repr

/-- Where `close` is.  It holds `_clients_mtx` while `closing`. -/
inductive ClosePc where
  | idle
  | joining
  | locking
  | closing (stage : CloseStage) (todo : List Nat)
  | finishing
  | returned
deriving DecidableEq, Repr

structure BroadcastServer where
  isMonitoring : Bool
  serverContext : SocketEventContext
  listener : SocketMultiEventListener ContextPtr
  clients : Nat → BroadcastClient
  activeClients : List Nat
  pendingDestruction : List Nat
  clientsMtx : Option Party
  monitor : MonitorPc
  drops : Nat → DropPc
  closer : ClosePc
  kernel : Kernel
  events : List BroadcastEvent

namespace BroadcastServer

/-- The state in which `open` returns on a new server listening on `fd`, its monitor thread
    started. -/
def opened (fd : Int) : BroadcastServer where
  isMonitoring := true
  serverContext := { fd := fd }
  listener := ({} : SocketMultiEventListener ContextPtr).addEvent .server fd .accept
  clients _ := {}
  activeClients := []
  pendingDestruction := []
  clientsMtx := none
  monitor := .top
  drops _ := .idle
  closer := .idle
  kernel := .listening fd
  events := []

/-! ### Contexts -/

def context (s : BroadcastServer) : ContextPtr → SocketEventContext
  | .server => s.serverContext
  | .peer id => (s.clients id).context

def fdOf (s : BroadcastServer) (p : ContextPtr) : Int := (s.context p).fd

def setType (s : BroadcastServer) (p : ContextPtr) (type : SocketEventType) : BroadcastServer :=
  match p with
  | .server => { s with serverContext := { s.serverContext with type := type } }
  | .peer id =>
    let client := s.clients id
    let client := { client with context := { client.context with type := type } }
    { s with clients := Function.update s.clients id client }

/-- The stores of `wait` for the reported entries, in order. -/
def storeTypes (s : BroadcastServer) : List (Reported ContextPtr) → BroadcastServer
  | [] => s
  | e :: rest =>
    let type := SocketMultiEventListener.eventType s.listener.serverSocket e.fd e.revents
      (s.context e.context).type
    (s.setType e.context type).storeTypes rest

/-! ### Closing a client's socket -/

/-- One step of `ServerActiveSocket::close` on the socket of client `id`, with the stage
    that comes next. -/
def closeSocket (s : BroadcastServer) (by_ : Party) (id : Nat) :
    CloseStage → BroadcastServer × Option CloseStage
  | .load => (s, some (.call (s.clients id).socket.socket))
  | .call fd =>
    ({ s with
        kernel := s.kernel.close fd
        events := s.events ++ [.closed id by_ (s.kernel.fdTable fd)] }, some .store)
  | .store =>
    let client := s.clients id
    let client := { client with socket := client.socket.closed }
    ({ s with clients := Function.update s.clients id client }, none)

/-! ### The accept monitor -/

/-- What `poll` and `accept` return to the monitor, where a step asks for it. -/
structure MonitorAnswer where
  poll : MultiPollReturn := .timeout
  accept : AcceptReturn := { descriptor := -1 }

/-- `_listener.wait` once `poll` has returned on the copied vectors. -/
def polled (s : BroadcastServer) (contexts : List ContextPtr) (handle : List PollFd) :
    MultiPollReturn → BroadcastServer
  | .timeout => { s with monitor := .top }
  | .error => { s with monitor := .exited }
  | .ready revents =>
    match SocketMultiEventListener.collect s.fdOf contexts (handle.zip revents) with
    | none => { s with monitor := .faulted }
    | some reported =>
      { s.storeTypes reported with monitor := .dispatching (reported.map (·.context)) }

def acceptClient (s : BroadcastServer) (r : AcceptReturn) (batch : List ContextPtr) :
    BroadcastServer :=
  let id := s.kernel.nextConnection
  let socket := ServerActiveSocket.ofAccept r
  let s := { s with
    kernel := s.kernel.accept r
    events := s.events ++ BroadcastEvent.ofAccept s.kernel r }
  if socket.result.code = .success then
    let client : BroadcastClient := { context := { fd := socket.socket }, socket := socket }
    { s with
      clients := Function.update s.clients id client
      monitor := .registering id batch }
  else
    { s with monitor := .dispatching batch }

def dispatch (s : BroadcastServer) (r : AcceptReturn) (p : ContextPtr)
    (batch : List ContextPtr) : Option BroadcastServer :=
  match (s.context p).type with
  | .accept => if r.fits s.kernel then some (s.acceptClient r batch) else none
  | .disconnected =>
    match p with
    -- the accept context cast to a client
    | .server => some { s with monitor := .faulted }
    | .peer id =>
      some { s with
        listener := s.listener.removeEvent (.peer id) (s.fdOf (.peer id))
        monitor := .erasing id batch }
  | .undefined | .connect | .read | .write | .readWrite =>
    some { s with monitor := .dispatching batch }

/-- One step of `monitorClient`; `none` while it waits for `_clients_mtx`, and after it has
    returned. -/
def monitorStep (s : BroadcastServer) (a : MonitorAnswer) : Option BroadcastServer :=
  match s.monitor with
  | .top => some { s with monitor := if s.isMonitoring then .clearing else .exited }
  | .clearing =>
    if s.clientsMtx = none then some { s with pendingDestruction := [], monitor := .waiting }
    else none
  | .waiting => some { s with monitor := .polling s.listener.contexts s.listener.handle }
  | .polling contexts handle =>
    if a.poll.consistent handle then some (s.polled contexts handle a.poll) else none
  | .dispatching [] => some { s with monitor := .top }
  | .dispatching (p :: batch) => s.dispatch a.accept p batch
  | .registering id batch =>
    some { s with
      listener := s.listener.addEvent (.peer id) (s.fdOf (.peer id)) .read
      monitor := .pushing id batch }
  | .pushing id batch =>
    if s.clientsMtx = none then
      some { s with activeClients := s.activeClients ++ [id], monitor := .announcing id batch }
    else none
  | .announcing id batch =>
    some { s with events := s.events ++ [.connected id], monitor := .dispatching batch }
  | .erasing id batch =>
    if s.clientsMtx = none then
      if id ∈ s.activeClients then
        some { s with
          activeClients := s.activeClients.erase id
          events := s.events ++ [.removed id .monitor]
          monitor := .closing id .load batch }
      else
        some { s with monitor := .dispatching batch }
    else none
  | .closing id stage batch =>
    let (s, next) := s.closeSocket .monitor id stage
    match next with
    | some stage => some { s with monitor := .closing id stage batch }
    | none => some { s with monitor := .telling id batch }
  | .telling id batch =>
    some { s with
      events := s.events ++ [.disconnected id .monitor]
      monitor := .dispatching batch }
  | .exited | .faulted => none

/-! ### `dropAll` -/

def setDrop (s : BroadcastServer) (call : Nat) (pc : DropPc) : BroadcastServer :=
  { s with drops := Function.update s.drops call pc }

def dropStep (s : BroadcastServer) (call : Nat) : Option BroadcastServer :=
  match s.drops call with
  | .idle =>
    if s.clientsMtx = none then
      let removed := s.activeClients.map fun id => BroadcastEvent.removed id (.dropAll call)
      let s' := { s with
        activeClients := []
        clientsMtx := some (.dropAll call)
        events := s.events ++ removed }
      some (s'.setDrop call (.removing s.activeClients s.activeClients))
    else none
  | .removing dropped (id :: todo) =>
    let s := { s with listener := s.listener.removeEvent (.peer id) (s.fdOf (.peer id)) }
    some (s.setDrop call (.removing dropped todo))
  | .removing dropped [] =>
    let s := { s with
      pendingDestruction := s.pendingDestruction ++ dropped
      clientsMtx := none }
    some (s.setDrop call (.closing .load dropped dropped))
  | .closing stage dropped (id :: todo) =>
    let (s, next) := s.closeSocket (.dropAll call) id stage
    match next with
    | some stage => some (s.setDrop call (.closing stage dropped (id :: todo)))
    | none => some (s.setDrop call (.telling id dropped todo))
  | .closing _ _ [] => some (s.setDrop call .returned)
  | .telling id dropped todo =>
    let s := { s with events := s.events ++ [BroadcastEvent.disconnected id (.dropAll call)] }
    some (s.setDrop call (.closing .load dropped todo))
  | .returned => none

/-! ### `close` -/

def closeStep (s : BroadcastServer) : Option BroadcastServer :=
  match s.closer with
  | .idle => some { s with isMonitoring := false, closer := .joining }
  | .joining => if s.monitor = .exited then some { s with closer := .locking } else none
  | .locking =>
    if s.clientsMtx = none then
      some { s with clientsMtx := some .close, closer := .closing .load s.activeClients }
    else none
  | .closing stage (id :: todo) =>
    let (s, next) := s.closeSocket .close id stage
    match next with
    | some stage => some { s with closer := .closing stage (id :: todo) }
    | none => some { s with closer := .closing .load todo }
  | .closing _ [] =>
    let removed := s.activeClients.map fun id => BroadcastEvent.removed id .close
    some { s with
      activeClients := []
      pendingDestruction := []
      clientsMtx := none
      events := s.events ++ removed
      closer := .finishing }
  | .finishing =>
    some { s with kernel := s.kernel.close s.serverContext.fd, closer := .returned }
  | .returned => none

/-! ### Runs -/

inductive Label where
  | monitor (answer : MonitorAnswer)
  | dropAll (call : Nat)
  | close

def step (s : BroadcastServer) : Label → Option BroadcastServer
  | .monitor answer => s.monitorStep answer
  | .dropAll call => s.dropStep call
  | .close => s.closeStep

/-! ### Waiting for the list to become empty -/

/-- What `awaitClose` returns when it stops waiting in `s`, its predicate true or its time
    over. -/
def awaitClose (s : BroadcastServer) : SocketResult :=
  if !s.isMonitoring then { code := .socketClosed }
  else if s.activeClients.isEmpty then { code := .success, bytes := 0 }
  else { code := .socketTimeout, bytes := FixedWidth.toInt32 s.activeClients.length }

end BroadcastServer

end SecuritySocket
