import SecuritySocket.BroadcastCustody

/-!
# Waiting for clients (`SocketBroadcastServerImpl::await`, `awaitClose`)

Any number of `await` and `awaitClose` calls beside the monitor, `dropAll` and `close`.
`wait_for` is the loop of the standard: test the predicate under `_clients_mtx`, release the
mutex and block in one step, and lock it again when woken, by a notification or without one,
or when the time is over.  `notify_all` is a step of its own, after the one whose change it
tells, and wakes the calls that are blocked at that moment.
-/

namespace SecuritySocket

open FixedWidth Transition BroadcastServer

inductive WaitKind where
  | await
  | awaitClose
deriving DecidableEq, Repr

/-- What a call saw of the server when it read its result under the mutex. -/
structure Seen where
  monitoring : Bool
  active : List Nat
deriving DecidableEq, Repr

/-- Where a call is.  It holds `_clients_mtx` while `testing`, `blocking`, `checking` and
    `counting`; `timedOut` tells whether its time is over. -/
inductive WaitPc where
  | idle
  | locking (timedOut : Bool)
  | testing (timedOut : Bool)
  | blocking
  | blocked
  | checking
  | gap
  | counting
  | returned (result : SocketResult) (seen : Seen)
deriving DecidableEq, Repr

def WaitPc.notified : WaitPc → WaitPc
  | .blocked => .locking false
  | pc => pc

namespace BroadcastServer

/-- The predicates of the two `wait_for`. -/
def predicate (s : BroadcastServer) : WaitKind → Bool
  | .await => !s.activeClients.isEmpty || !s.isMonitoring
  | .awaitClose => s.activeClients.isEmpty || !s.isMonitoring

/-- What `await` returns at the end of its first critical section, if it does. -/
def awaitFirst (s : BroadcastServer) : Option SocketResult :=
  if !s.isMonitoring then some { code := .socketClosed }
  else if s.activeClients.isEmpty then some { code := .socketTimeout }
  else none

/-- What `await` returns from its second critical section. -/
def awaitSecond (s : BroadcastServer) : SocketResult :=
  if !s.isMonitoring then { code := .socketClosed }
  else { code := .success, bytes := toInt32 s.activeClients.length }

def seen (s : BroadcastServer) : Seen where
  monitoring := s.isMonitoring
  active := s.activeClients

def Label.party : Label → Party
  | .monitor _ => .monitor
  | .dropAll call => .dropAll call
  | .close => .close

def locks (s : BroadcastServer) : Label → Bool
  | .monitor _ =>
    match s.monitor with
    | .clearing | .pushing _ _ | .erasing _ _ => true
    | _ => false
  | .dropAll call => s.drops call == .idle
  | .close => s.closer == .locking

/-- The next thing the party does after the step is `_clients_cv.notify_all()`. -/
def notifies (s : BroadcastServer) : Label → Bool
  | .monitor _ =>
    match s.monitor with
    | .pushing _ _ | .telling _ _ => true
    | .erasing id _ => decide (id ∉ s.activeClients)
    | _ => false
  | .dropAll call =>
    match s.drops call with
    | .removing _ [] => true
    | _ => false
  | .close => s.closer == .idle

end BroadcastServer

/-- The server, its waiting calls, the one that holds `_clients_mtx`, and the parties about to
    call `notify_all`. -/
structure BroadcastWaiters where
  server : BroadcastServer
  kinds : Nat → WaitKind
  waiters : Nat → WaitPc
  holder : Option Nat
  owes : Party → Bool

namespace BroadcastWaiters

def opened (fd : Int) : BroadcastWaiters where
  server := BroadcastServer.opened fd
  kinds _ := .await
  waiters _ := .idle
  holder := none
  owes _ := false

def free (s : BroadcastWaiters) : Bool := s.holder.isNone && s.server.clientsMtx.isNone

def setWaiter (s : BroadcastWaiters) (call : Nat) (pc : WaitPc) : BroadcastWaiters :=
  { s with waiters := Function.update s.waiters call pc }

def lock (s : BroadcastWaiters) (call : Nat) (pc : WaitPc) : Option BroadcastWaiters :=
  if s.free then some { s.setWaiter call pc with holder := some call } else none

def unlock (s : BroadcastWaiters) (call : Nat) (pc : WaitPc) : BroadcastWaiters :=
  { s.setWaiter call pc with holder := none }

/-- What happens to a call: it is made, goes on, or is woken while it is blocked, by nobody or
    by its timeout. -/
inductive WaitEvent where
  | start (kind : WaitKind)
  | go
  | spurious
  | timeout
deriving DecidableEq, Repr

def waitStep (s : BroadcastWaiters) (call : Nat) : WaitEvent → Option BroadcastWaiters
  | .start kind =>
    match s.waiters call with
    | .idle =>
      some { s.setWaiter call (.locking false) with kinds := Function.update s.kinds call kind }
    | _ => none
  | .spurious =>
    match s.waiters call with
    | .blocked => some (s.setWaiter call (.locking false))
    | _ => none
  | .timeout =>
    match s.waiters call with
    | .blocked => some (s.setWaiter call (.locking true))
    | _ => none
  | .go =>
    match s.waiters call with
    | .locking timedOut => s.lock call (.testing timedOut)
    | .testing timedOut =>
      if s.server.predicate (s.kinds call) || timedOut then some (s.setWaiter call .checking)
      else some (s.setWaiter call .blocking)
    | .blocking => some (s.unlock call .blocked)
    | .checking =>
      match s.kinds call with
      | .awaitClose => some (s.unlock call (.returned s.server.awaitClose s.server.seen))
      | .await =>
        match s.server.awaitFirst with
        | some result => some (s.unlock call (.returned result s.server.seen))
        | none => some (s.unlock call .gap)
    | .gap => s.lock call .counting
    | .counting => some (s.unlock call (.returned s.server.awaitSecond s.server.seen))
    | .idle | .blocked | .returned _ _ => none

inductive Label where
  | server (label : BroadcastServer.Label)
  | notify (party : Party)
  | wait (call : Nat) (event : WaitEvent)

def step (s : BroadcastWaiters) : Label → Option BroadcastWaiters
  | .server label =>
    if s.owes label.party || (s.holder.isSome && s.server.locks label) then none
    else (s.server.step label).map fun server =>
      { s with
        server := server
        owes := Function.update s.owes label.party (s.server.notifies label) }
  | .notify party =>
    if s.owes party then
      some { s with
        waiters := fun call => (s.waiters call).notified
        owes := Function.update s.owes party false }
    else none
  | .wait call event => s.waitStep call event

end BroadcastWaiters

end SecuritySocket
