import SecuritySocket.SocketBroadcastServer

/-!
# Broadcast writes (`SocketBroadcastServerImpl::write`)

The loop of `write` for one client is a state with the effect of a poll and the effect of a
`send`; an iteration is labelled with the outcomes it meets.  `write` is a fold of that loop
over the snapshot, with the outcomes of every client's iterations given.
-/

namespace SecuritySocket.BroadcastServer

open FixedWidth Transition

/-! ### One client -/

structure ClientLoop where
  i : Nat := 0
  writtenSize : Nat := 0
  result : SocketResult := { code := .success }
  broken : Bool := false
deriving DecidableEq, Repr

namespace ClientLoop

def running (maxRetries : Nat) (l : ClientLoop) : Bool := !l.broken && l.i < maxRetries

/-- `per_client_result = SocketResult(code, static_cast<int32_t>(written_size)); break;` -/
def stop (l : ClientLoop) (code : SocketCode) : ClientLoop :=
  { l with result := { code := code, bytes := toInt32 l.writtenSize }, broken := true }

/-- What follows `listener.wait`, and whether the iteration goes on to `write`. -/
def polled (l : ClientLoop) (r : PollReturn) : ClientLoop × Bool :=
  match (SocketEventListener.wait r).code with
  | .socketTimeout => ({ l with i := l.i + 1 }, false)
  | .socketClosed => (l.stop .socketClosed, false)
  | .success => (l, true)
  | code => (l.stop code, false)

def sent (size : Nat) (l : ClientLoop) (r : SendReturn) : ClientLoop :=
  match (ServerActiveSocket.write r).code with
  | .socketTimeout => { l with i := l.i + 1 }
  | .socketClosed => l.stop .socketClosed
  | .success =>
    let l := { l with
      writtenSize := sizeAdd l.writtenSize (toSize (ServerActiveSocket.write r).bytes) }
    if size ≤ l.writtenSize then l.stop .success else l
  | code => l.stop code

def remaining (size : Nat) (l : ClientLoop) : Nat := sizeSub size l.writtenSize

end ClientLoop

structure ClientRound where
  poll : PollReturn
  send : SendReturn := .sent 0
deriving DecidableEq, Repr

def clientStep (maxRetries size : Nat) (l : ClientLoop) (round : ClientRound) :
    Option ClientLoop :=
  if l.running maxRetries then
    match l.polled round.poll with
    | (l, false) => some l
    | (l, true) =>
      if round.send.fits (ServerActiveSocket.sendLength (l.remaining size)) then
        some (l.sent size round.send)
      else
        none
  else
    none

/-- The loop over the snapshot from `result` on, the rounds of each client given; `none` when
    these are not the rounds of complete loops. -/
def writeClients (maxRetries size : Nat) (result : SocketResult) :
    List (List ClientRound) → Option SocketResult
  | [] => some result
  | rounds :: rest =>
    match exec (clientStep maxRetries size) {} rounds with
    | some l => if l.running maxRetries then none else writeClients maxRetries size l.result rest
    | none => none

/-- `write` with a snapshot that has one client for each list of rounds. -/
def write (maxRetries size : Nat) (clients : List (List ClientRound)) : Option SocketResult :=
  if clients.isEmpty then some { code := .success, bytes := 0 }
  else writeClients maxRetries size { code := .success } clients

end SecuritySocket.BroadcastServer
