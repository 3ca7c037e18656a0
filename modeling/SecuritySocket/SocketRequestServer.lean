import SecuritySocket.Kernel
import SecuritySocket.ObjectPool
import SecuritySocket.SocketConnection
import SecuritySocket.Transition

/-!
# The request server (`SocketRequestServer.cpp`)

`SocketRequestServerImpl::run` is one thread: it polls, and then dispatches the reported
contexts one after the other.  A step of the model is one poll or the dispatch of one
context; its label carries everything that comes from outside, the return of `poll`, of
`accept`, `recv` or `send`, and what the handler answers.  `close` on another thread only
clears `_is_running`.

A step the source cannot make without undefined behaviour (a null connection, a context
that is not a connection, an object that has been released) ends the run in `faulted`.
-/

namespace SecuritySocket

open Transition

/-- What cannot be undone. -/
inductive Fault where
  | nullContext
  | nullConnection
  | notAConnection
  | released
deriving DecidableEq, Repr

/-- Where the loop of `run` is; `running []` is its test, `running (context :: …)` the rest
    of a batch. -/
inductive LoopState where
  | running (batch : List ContextPtr)
  | exited
  | faulted (fault : Fault)
deriving DecidableEq, Repr

/-- The calls of `onClientConnected` and `onClientDisconnected`, with the connection each is
    about. -/
inductive Notice where
  | connected (id : Nat) (ip : String) (port : Nat)
  | disconnected (id : Nat) (ip : String) (port : Nat)
deriving DecidableEq, Repr

/-- The server during `run`, and what is observed of it from outside: per connection its
    log, and the notices its handler got. -/
structure RequestServer where
  isRunning : Bool
  loop : LoopState
  serverContext : SocketEventContext
  listener : SocketMultiEventListener ContextPtr
  pool : ObjectPool SocketConnection
  kernel : Kernel
  logs : Nat → ConnectionLog
  notices : List Notice

structure Answer where
  accept : AcceptReturn := { descriptor := -1 }
  recv : RecvReturn := .error .ewouldblock
  send : SendReturn := .error .ewouldblock
  response : HandlerResponse := .empty

namespace RequestServer

/-- The state in which `run` enters its loop on a new server listening on `fd`. -/
def opened (fd : Int) : RequestServer where
  isRunning := true
  loop := .running []
  serverContext := { fd := fd }
  listener := ({} : SocketMultiEventListener ContextPtr).addEvent .server fd .accept
  pool := .make 32
  kernel := .listening fd
  logs _ := {}
  notices := []

/-! ### Contexts -/

/-- The context a pointer points to; `none` when its object has been released. -/
def context? (s : RequestServer) : ContextPtr → Option SocketEventContext
  | .server => some s.serverContext
  | .peer i => (s.pool.objects i).map (·.context)

def fdOf (s : RequestServer) (p : ContextPtr) : Int :=
  match s.context? p with
  | some context => context.fd
  | none => -1

def setType (s : RequestServer) (p : ContextPtr) (type : SocketEventType) : RequestServer :=
  match p with
  | .server => { s with serverContext := { s.serverContext with type := type } }
  | .peer i =>
    match s.pool.objects i with
    | none => s
    | some c => { s with pool := s.pool.store i { c with context := { c.context with type } } }

def storeTypes (s : RequestServer) : List (Reported ContextPtr) → RequestServer
  | [] => s
  | e :: rest =>
    let old := (s.context? e.context).elim .undefined (·.type)
    let type := SocketMultiEventListener.eventType s.listener.serverSocket e.fd e.revents old
    (s.setType e.context type).storeTypes rest

/-! ### The steps of `run` -/

def poll (s : RequestServer) : MultiPollReturn → RequestServer
  | .timeout => s
  | .error => { s with loop := .exited }
  | .ready revents =>
    if s.listener.contexts.all fun p => (s.context? p).isSome then
      match SocketMultiEventListener.collect s.fdOf s.listener.contexts
          (s.listener.handle.zip revents) with
      | none => { s with loop := .faulted .nullContext }
      | some reported =>
        { s.storeTypes reported with loop := .running (reported.map (·.context)) }
    else
      { s with loop := .faulted .released }

/-- The ACCEPT case once `accept` returned a client: it gets a connection from the pool. -/
def addConnection (s : RequestServer) (handler : SocketRequestHandler)
    (configuration : SocketConfiguration) (id : Nat) (client : ServerActiveSocket) :
    RequestServer :=
  match s.pool.acquire (SocketConnection.make client handler configuration.pduSize) with
  | none => { s with loop := .faulted .nullConnection }
  | some (i, pool) =>
    { s with
      pool := pool
      notices := s.notices ++ [.connected id client.clientIp client.clientPort]
      listener := s.listener.addEvent (.peer i) client.socket .read }

def acceptClient (s : RequestServer) (handler : SocketRequestHandler)
    (configuration : SocketConfiguration) (r : AcceptReturn) : RequestServer :=
  let id := s.kernel.nextConnection
  let s := { s with kernel := s.kernel.accept r }
  let client := ServerActiveSocket.ofAccept r
  if client.result.code = .success then s.addConnection handler configuration id client else s

def disconnect (s : RequestServer) (i : Nat) (c : SocketConnection) : RequestServer :=
  let notice := (s.kernel.connectionAt c.socket.socket).toList.map fun id =>
    Notice.disconnected id c.socket.clientIp c.socket.clientPort
  { s with
    notices := s.notices ++ notice
    kernel := s.kernel.close c.socket.socket
    listener := s.listener.removeEvent (.peer i) c.context.fd
    pool := s.pool.release i }

def served (s : RequestServer) (i : Nat) (c : SocketConnection) (id : Nat) (r : Served) :
    RequestServer :=
  { s with
    pool := s.pool.store i r.connection
    logs := Function.update s.logs id r.log
    listener :=
      match r.interest with
      | none => s.listener
      | some type => s.listener.modifyEvent (.peer i) c.context.fd type }

/-- A READ or WRITE event of slot `i`.  A socket without a connection behind it answers
    `EBADF`, which leaves the connection as it is. -/
def serve (s : RequestServer) (i : Nat) (c : SocketConnection)
    (event : ConnectionLog → Option Served) : Option RequestServer :=
  match s.kernel.connectionAt c.socket.socket with
  | none => some s
  | some id => (event (s.logs id)).map (s.served i c id)

def dispatch (s : RequestServer) (handler : SocketRequestHandler)
    (configuration : SocketConfiguration) (p : ContextPtr) (a : Answer) :
    Option RequestServer :=
  match s.context? p with
  | none => some { s with loop := .faulted .released }
  | some context =>
    match context.type with
    | .accept =>
      if a.accept.fits s.kernel then some (s.acceptClient handler configuration a.accept)
      else none
    | .disconnected =>
      match p with
      | .server => some { s with loop := .faulted .notAConnection }
      | .peer i => (s.pool.objects i).map (s.disconnect i)
    | .read =>
      match p with
      | .server => some { s with loop := .faulted .notAConnection }
      | .peer i => (s.pool.objects i).bind fun c =>
          s.serve i c (SocketConnection.serveRead handler a.recv a.response c)
    | .write =>
      match p with
      | .server => some { s with loop := .faulted .notAConnection }
      | .peer i => (s.pool.objects i).bind fun c =>
          s.serve i c (SocketConnection.serveWrite a.send c)
    | .undefined | .connect | .readWrite => some s

/-- The labels of the steps; `stop` is `close` clearing `_is_running`. -/
inductive Label where
  | poll (ret : MultiPollReturn)
  | dispatch (answer : Answer)
  | leave
  | stop

def step (handler : SocketRequestHandler) (configuration : SocketConfiguration)
    (s : RequestServer) : Label → Option RequestServer
  | .stop => some { s with isRunning := false }
  | .poll ret =>
    match s.loop with
    | .running [] =>
      if s.isRunning && ret.consistent s.listener.handle then some (s.poll ret) else none
    | .running (_ :: _) | .exited | .faulted _ => none
  | .leave =>
    match s.loop with
    | .running [] => if s.isRunning then none else some { s with loop := .exited }
    | .running (_ :: _) | .exited | .faulted _ => none
  | .dispatch a =>
    match s.loop with
    | .running (p :: rest) => { s with loop := .running rest }.dispatch handler configuration p a
    | .running [] | .exited | .faulted _ => none

end RequestServer

end SecuritySocket
