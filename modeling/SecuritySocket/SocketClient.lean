import SecuritySocket.ActiveSocket
import SecuritySocket.SocketEvent
import SecuritySocket.Transition

/-!
# The client (`SocketClient.cpp`)

`SocketClientImpl::write` and `SocketClientImpl::read` as loop states and the effect of one
iteration.  An iteration polls the descriptor and, when that succeeds, makes one transport
call; both outcomes are the iteration's label, so a run of the loop is the list of outcomes
it met.
-/

namespace SecuritySocket.SocketClient

open FixedWidth Transition

/-- The locals of `write`.  `handed` lists the positions, counted from the start of the
    caller's buffer, of the bytes handed to the transport so far, in order. -/
structure WriteLoop where
  i : Nat := 0
  writtenSize : Nat := 0
  result : SocketResult := {}
  broken : Bool := false
  handed : List Nat := []
deriving DecidableEq, Repr

/-- What one iteration meets: the poll, and the transport call if it comes to one. -/
structure WriteRound where
  poll : PollReturn
  transport : ClientWriteReturn
deriving DecidableEq, Repr

variable (tls : Bool) (maxRetries size : Nat)

def WriteLoop.running (s : WriteLoop) : Bool := !s.broken && s.i < maxRetries

def WriteLoop.remaining (s : WriteLoop) : Nat := sizeSub size s.writtenSize

/-- `written_size += (size_t)result.bytes()` and the test that follows it. -/
def WriteLoop.accumulate (s : WriteLoop) : WriteLoop :=
  let writtenSize := sizeAdd s.writtenSize (toSize s.result.bytes)
  { s with writtenSize := writtenSize, broken := writtenSize == size }

def WriteLoop.transport (s : WriteLoop) (r : ClientWriteReturn) : WriteLoop :=
  let result := ClientActiveSocket.write r
  let s := { s with
    result := result
    handed := s.handed ++ List.range' s.writtenSize r.count }
  match result.code with
  | .socketTimeout => { s with i := s.i + 1 }.accumulate size
  -- the retryable code leaves `i` alone and goes on to the accumulation
  | .socketConnectionNeedToBeBlocked => s.accumulate size
  | .success => s.accumulate size
  | _ => { s with broken := true }

def writeStep (s : WriteLoop) (round : WriteRound) : Option WriteLoop :=
  if !s.running maxRetries then
    none
  else
    let result := SocketEventListener.wait round.poll
    match result.code with
    | .socketTimeout => some { s with result := result, i := s.i + 1 }
    | .success =>
      if round.transport.fits tls (s.remaining size) then
        some ({ s with result := result }.transport size round.transport)
      else
        none
    | _ => some { s with result := result, broken := true }

def WriteLoop.returned (s : WriteLoop) : SocketResult :=
  { code := s.result.code, bytes := toInt32 s.writtenSize }

/-! ### Reading -/

structure ReadLoop where
  i : Nat := 0
  result : SocketResult := {}
  broken : Bool := false
deriving DecidableEq, Repr

structure ReadRound where
  poll : PollReturn
  transport : ClientReadReturn
deriving DecidableEq, Repr

def ReadRound.reads (round : ReadRound) : Bool :=
  (SocketEventListener.wait round.poll).code == .success

def ReadLoop.running (s : ReadLoop) : Bool := !s.broken && s.i < maxRetries

def ReadLoop.transport (s : ReadLoop) (r : ClientReadReturn) : ReadLoop :=
  let result := ClientActiveSocket.read r
  if result.bytes = 0 then
    { s with result := { code := .socketClosed }, broken := true }
  else
    match result.code with
    | .socketTimeout | .socketConnectionNeedToBeBlocked =>
      { s with result := result, i := s.i + 1 }
    | _ => { s with result := result, broken := true }

def readStep (s : ReadLoop) (round : ReadRound) : Option ReadLoop :=
  if !s.running maxRetries then
    none
  else
    let result := SocketEventListener.wait round.poll
    match result.code with
    | .socketTimeout => some { s with result := result, i := s.i + 1 }
    | .success =>
      if round.transport.fits tls size then
        some (s.transport round.transport)
      else
        none
    | _ => some { s with result := result, broken := true }

end SecuritySocket.SocketClient
