import SecuritySocket.SocketResult

/-!
# Event listeners (`SocketEvent.hpp`, `SocketEvent_Linux.cpp`)

`SocketEventListener` polls one descriptor and turns the outcome into a result code.
`SocketMultiEventListener` keeps two parallel vectors, the `pollfd`s and the contexts
they belong to; `wait` copies both, polls the copy, and turns the reported flags of each
entry into an event type stored in the context found for its descriptor.

Contexts are pointers, of a type `P` the servers choose; where a context's `fd` field is
read, a function `P → Int` gives the value that field has in memory at that moment.
-/

namespace SecuritySocket

inductive SocketEventType where
  | undefined
  | accept
  | connect
  | disconnected
  | read
  | write
  | readWrite
deriving DecidableEq, Repr

structure PollEvents where
  pollin : Bool := false
  pollout : Bool := false
deriving DecidableEq, Repr

structure Revents where
  pollin : Bool := false
  pollout : Bool := false
  pollerr : Bool := false
  pollhup : Bool := false
  pollnval : Bool := false
deriving DecidableEq, Repr

/-- `POLLERR | POLLHUP | POLLNVAL`, which poll reports without being asked. -/
def Revents.hangup (r : Revents) : Bool := r.pollerr || r.pollhup || r.pollnval

def Revents.isZero (r : Revents) : Bool := !(r.pollin || r.pollout || r.hangup)

/-- poll reports POLLIN and POLLOUT only where they were asked for. -/
def Revents.allowedBy (r : Revents) (events : PollEvents) : Bool :=
  (!r.pollin || events.pollin) && (!r.pollout || events.pollout)

/-- The `events` mask both listeners derive from an event type.  The remaining types reach
    the `default` branch, which leaves the field unset; nothing passes them. -/
def SocketEventType.events : SocketEventType → PollEvents
  | .accept => { pollin := true }
  | .connect => { pollin := true, pollout := true }
  | .read => { pollin := true }
  | .write => { pollout := true }
  | .readWrite => { pollin := true, pollout := true }
  | .undefined | .disconnected => {}

/-! ### One descriptor -/

/-- What `poll` on a single descriptor comes back with.  `soError` is the pending error
    `getsockopt(SO_ERROR)` would then read, `none` for zero. -/
inductive PollReturn where
  | timeout
  | error
  | ready (revents : Revents) (soError : Option Errno)
deriving DecidableEq, Repr

def SocketEventListener.wait : PollReturn → SocketResult
  | .timeout => { code := .socketTimeout }
  | .error => { code := .socketEventError }
  | .ready revents soError =>
    if revents.pollerr then
      match soError with
      | none => { code := .success }
      | some error => createResultFromSocketError error
    else if revents.pollhup then
      { code := .socketClosed }
    else
      { code := .success }

/-- What poll may come back with for a descriptor asked for as `type`: a positive return
    reports something. -/
def PollReturn.fits (type : SocketEventType) : PollReturn → Bool
  | .timeout | .error => true
  | .ready revents _ => !revents.isZero && revents.allowedBy type.events

/-- The poll reports POLLHUP, and not POLLERR. -/
def PollReturn.hangsUp : PollReturn → Bool
  | .timeout | .error => false
  | .ready revents _ => revents.pollhup && !revents.pollerr

theorem SocketEventListener.wait_code_eq_closed {ret : PollReturn} :
    (SocketEventListener.wait ret).code = .socketClosed ↔ ret.hangsUp = true := by
  cases ret with
  | timeout => simp [SocketEventListener.wait, PollReturn.hangsUp]
  | error => simp [SocketEventListener.wait, PollReturn.hangsUp]
  | ready revents soError =>
    simp only [SocketEventListener.wait, PollReturn.hangsUp, Bool.and_eq_true, Bool.not_eq_true']
    split
    · rename_i herr
      cases soError with
      | none => simp [herr]
      | some error => simp [herr, createResultFromSocketError_code_ne_closed error]
    · split <;> simp_all

theorem SocketEventListener.wait_code_eq_timeout {ret : PollReturn} :
    (SocketEventListener.wait ret).code = .socketTimeout ↔ ret = .timeout := by
  cases ret with
  | timeout => simp [SocketEventListener.wait]
  | error => simp [SocketEventListener.wait]
  | ready revents soError =>
    simp only [SocketEventListener.wait, reduceCtorEq, iff_false]
    split
    · cases soError with
      | none => simp
      | some error => exact createResultFromSocketError_code_ne_timeout error
    · split <;> simp

/-! ### Many descriptors -/

structure SocketEventContext where
  fd : Int := -1
  type : SocketEventType := .undefined
deriving DecidableEq, Repr

structure PollFd where
  fd : Int
  events : PollEvents
deriving DecidableEq, Repr

structure SocketMultiEventListener (P : Type) where
  serverSocket : Int := 0
  contexts : List P := []
  handle : List PollFd := []
deriving DecidableEq, Repr

/-- The contexts the servers register: the accept context, and one per client. -/
inductive ContextPtr where
  | server
  | peer (id : Nat)
deriving DecidableEq, Repr

/-- One reported entry of a poll: the context found for it, its descriptor and its flags. -/
structure Reported (P : Type) where
  context : P
  fd : Int
  revents : Revents
deriving DecidableEq, Repr

namespace SocketMultiEventListener

variable {P : Type} [DecidableEq P]

/-- `addEvent`; `fd` is `context->fd`. -/
def addEvent (l : SocketMultiEventListener P) (context : P) (fd : Int)
    (eventType : SocketEventType) : SocketMultiEventListener P :=
  { serverSocket := if eventType = .accept then fd else l.serverSocket
    contexts := l.contexts ++ [context]
    handle := l.handle ++ [⟨fd, eventType.events⟩] }

/-- `removeEvent`: the first `pollfd` with the context's descriptor goes, and the first
    entry that is the context itself. -/
def removeEvent (l : SocketMultiEventListener P) (context : P) (fd : Int) :
    SocketMultiEventListener P :=
  { l with
    contexts := l.contexts.erase context
    handle := l.handle.eraseP fun h => h.fd == fd }

def modifyEvent (l : SocketMultiEventListener P) (context : P) (fd : Int)
    (eventType : SocketEventType) : SocketMultiEventListener P :=
  (l.removeEvent context fd).addEvent context fd eventType

/-- The event type `wait` derives from the reported flags; `old` is the type the context
    keeps when no branch applies. -/
def eventType (serverSocket fd : Int) (r : Revents) (old : SocketEventType) : SocketEventType :=
  if r.pollerr || r.pollhup || r.pollnval then .disconnected
  else if serverSocket == fd && r.pollin then .accept
  else if r.pollin then .read
  else if r.pollout then .write
  else old

/-- The loop of `wait` over the polled copy: entries without flags are skipped, each other
    one is matched with the first context that has its descriptor.  `none` when there is no
    such context, where the source dereferences a null pointer. -/
def collect (fdOf : P → Int) (contexts : List P) :
    List (PollFd × Revents) → Option (List (Reported P))
  | [] => some []
  | (h, r) :: rest =>
    if r.isZero then
      collect fdOf contexts rest
    else
      match contexts.find? fun c => fdOf c == h.fd with
      | none => none
      | some c => (collect fdOf contexts rest).map (⟨c, h.fd, r⟩ :: ·)

end SocketMultiEventListener

/-- What `poll` on the copied vector comes back with. -/
inductive MultiPollReturn where
  | timeout
  | error
  | ready (revents : List Revents)
deriving DecidableEq, Repr

/-- A positive return of `poll`: flags for every entry, at least one of them nonzero, none
    that was not asked for. -/
def MultiPollReturn.consistent (handle : List PollFd) : MultiPollReturn → Bool
  | .timeout | .error => true
  | .ready revents =>
    revents.length == handle.length && revents.any (fun r => !r.isZero) &&
      (handle.zip revents).all fun p => p.2.allowedBy p.1.events

end SecuritySocket
