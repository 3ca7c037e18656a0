import SecuritySocket.ActiveSocket
import SecuritySocket.SocketEvent

/-!
# A request connection (`SocketConnection.hpp`, `SocketConnection.cpp`)

The parser state of one accepted connection: which part of a request it is in, three
counters and three buffers that are reused from request to request.  `readHeader`,
`readPayload`, `writeResponse`, `flush` and `runTask` are the methods; `serveRead` and
`serveWrite` are what the event loop of `SocketRequestServerImpl::run` does with one READ
or WRITE event of the connection, up to the interest change it then asks the listener for.

The handler is the user's.  Its pure questions are functions; what `onProcessed` leaves in
the output buffer and in `*output_size` is part of the event, so it may depend on
anything.
-/

namespace SecuritySocket

open FixedWidth

inductive SocketRequestMode where
  | fast
  | slow
  | readStream
  | writeStream
deriving DecidableEq, Repr

/-- The part of `SocketConfiguration` the servers use.  A buffer of `pdu_size()` bytes could
    be allocated. -/
structure SocketConfiguration where
  pduSize : Nat
  maxRetries : Nat := 3
  pduSize_lt : pduSize < 2 ^ 63

/-- The questions a `SocketRequestHandler` answers about headers.  Sizes are `size_t`; a
    buffer of `getHeaderSize()` bytes could be allocated. -/
structure SocketRequestHandler where
  getHeaderSize : Nat
  getPayloadSize : List UInt8 → Nat
  onModeClassified : List UInt8 → SocketRequestMode
  headerSize_lt : getHeaderSize < 2 ^ 63
  payloadSize_lt : ∀ header, getPayloadSize header < 2 ^ 64

/-- What one `onProcessed` call leaves behind: the byte at each position of the output
    buffer, and `*output_size`. -/
structure HandlerResponse where
  contents : Nat → UInt8
  size : Nat
  size_lt : size < 2 ^ 64

def HandlerResponse.empty : HandlerResponse :=
  { contents := fun _ => 0, size := 0, size_lt := by decide }

def HandlerResponse.short (more : UInt8) (contents : Nat → UInt8) : HandlerResponse where
  contents := contents
  size := more.toNat + 1
  size_lt := Nat.lt_trans (FixedWidth.byte_succ_lt more) (by decide)

/-- One call of the handler with a complete request, with everything it was shown.
    `response` is what it asked to be sent, empty for `onProcessedWithoutResponse`. -/
structure HandlerCall where
  replies : Bool
  header : List UInt8
  inputBuffer : List UInt8
  inputSize : Nat
  outputBuffer : List UInt8
  outputSize : Nat
  response : List UInt8
deriving DecidableEq, Repr

inductive ProcessState where
  | readingHeader
  | readingPayload
  | writingResponse
  | finishProcess
deriving DecidableEq, Repr

structure SocketConnection where
  context : SocketEventContext := {}
  socket : ServerActiveSocket := {}
  state : ProcessState := .readingHeader
  totalInputHeaderReadSize : Nat := 0
  inputHeaderBuffer : List UInt8 := []
  payloadSize : Nat := 0
  totalInputPayloadReadSize : Nat := 0
  inputPayloadBuffer : List UInt8 := []
  mode : SocketRequestMode := .fast
  responseSize : Nat := 0
  totalOutputWriteSize : Nat := 0
  outputBuffer : List UInt8 := []
deriving DecidableEq, Repr

/-- The memory a system call is given: where in which buffer, and how much. -/
structure Region where
  offset : Nat
  length : Nat
  capacity : Nat
deriving DecidableEq, Repr

def Region.InBounds (r : Region) : Prop := r.offset + r.length ≤ r.capacity

instance (r : Region) : Decidable r.InBounds := inferInstanceAs (Decidable (_ ≤ _))

/-- `bytes` placed into `buffer` from `offset` on.  What falls behind the end of the buffer
    goes to memory this model does not have; the buffer keeps its size. -/
def place (buffer : List UInt8) (offset : Nat) (bytes : List UInt8) : List UInt8 :=
  (buffer.take offset ++ bytes ++ buffer.drop (offset + bytes.length)).take buffer.length

namespace SocketConnection

def make (socket : ServerActiveSocket) (handler : SocketRequestHandler) (pduSize : Nat) :
    SocketConnection :=
  { context := { fd := socket.socket }
    socket := socket
    inputHeaderBuffer := List.replicate handler.getHeaderSize 0
    inputPayloadBuffer := List.replicate pduSize 0
    outputBuffer := List.replicate pduSize 0 }

/-! ### The memory of each system call -/

def headerRegion (c : SocketConnection) : Region :=
  { offset := c.totalInputHeaderReadSize
    length := ServerActiveSocket.recvLength
      (sizeSub c.inputHeaderBuffer.length c.totalInputHeaderReadSize)
    capacity := c.inputHeaderBuffer.length }

def payloadRegion (c : SocketConnection) : Region :=
  { offset := c.totalInputPayloadReadSize
    length := ServerActiveSocket.recvLength (sizeSub c.payloadSize c.totalInputPayloadReadSize)
    capacity := c.inputPayloadBuffer.length }

def responseRegion (c : SocketConnection) : Region :=
  { offset := c.totalOutputWriteSize
    length := ServerActiveSocket.sendLength (sizeSub c.responseSize c.totalOutputWriteSize)
    capacity := c.outputBuffer.length }

/-! ### Methods -/

/-- A method's effect: the connection afterwards, the state it returns, and the handler
    calls it made. -/
structure Outcome where
  connection : SocketConnection
  next : ProcessState
  calls : List HandlerCall

def runTask (c : SocketConnection) (mode : SocketRequestMode) (payloadSize : Nat)
    (response : HandlerResponse) : Outcome :=
  let answered : Outcome :=
    let output := (List.range c.outputBuffer.length).map response.contents
    { connection := { c with outputBuffer := output, responseSize := response.size }
      next := .writingResponse
      calls := [{ replies := true, header := c.inputHeaderBuffer,
                  inputBuffer := c.inputPayloadBuffer, inputSize := payloadSize,
                  outputBuffer := c.outputBuffer, outputSize := c.responseSize,
                  response := output.take response.size }] }
  match mode with
  | .fast => answered
  -- `@Todo` in the source: no handler call, and the response that was never computed is next
  | .slow => { connection := c, next := .writingResponse, calls := [] }
  | .readStream => answered
  | .writeStream =>
    { connection := c
      next := .finishProcess
      calls := [{ replies := false, header := c.inputHeaderBuffer,
                  inputBuffer := c.inputPayloadBuffer, inputSize := payloadSize,
                  outputBuffer := [], outputSize := 0, response := [] }] }

def receiveHeader (c : SocketConnection) (bytes : List UInt8) (count : Int) :
    SocketConnection :=
  { c with
    inputHeaderBuffer := place c.inputHeaderBuffer c.totalInputHeaderReadSize bytes
    totalInputHeaderReadSize := sizeAdd c.totalInputHeaderReadSize (toSize count) }

/-- The rest of `readHeader` once the header is complete. -/
def classifyHeader (c : SocketConnection) (handler : SocketRequestHandler)
    (response : HandlerResponse) : Outcome :=
  let c := { c with
    payloadSize := handler.getPayloadSize c.inputHeaderBuffer
    mode := handler.onModeClassified c.inputHeaderBuffer }
  if c.payloadSize = 0 then
    c.runTask c.mode c.payloadSize response
  else
    { connection := c, next := .readingPayload, calls := [] }

def readHeader (c : SocketConnection) (handler : SocketRequestHandler) (recv : RecvReturn)
    (response : HandlerResponse) : Outcome :=
  let result := ServerActiveSocket.read recv
  if result.bytes < 0 then
    { connection := c, next := .readingHeader, calls := [] }
  else
    let c := c.receiveHeader recv.bytes result.bytes
    if c.totalInputHeaderReadSize = c.inputHeaderBuffer.length then
      c.classifyHeader handler response
    else
      { connection := c, next := .readingHeader, calls := [] }

/-- The `recv` of `readPayload` has placed its bytes, and they have been counted. -/
def receivePayload (c : SocketConnection) (bytes : List UInt8) (count : Int) :
    SocketConnection :=
  { c with
    inputPayloadBuffer := place c.inputPayloadBuffer c.totalInputPayloadReadSize bytes
    totalInputPayloadReadSize := sizeAdd c.totalInputPayloadReadSize (toSize count) }

def readPayload (c : SocketConnection) (recv : RecvReturn) (response : HandlerResponse) :
    Outcome :=
  let result := ServerActiveSocket.read recv
  if result.bytes < 0 then
    { connection := c, next := .readingPayload, calls := [] }
  else
    let c := c.receivePayload recv.bytes result.bytes
    if c.totalInputPayloadReadSize = c.payloadSize then
      c.runTask c.mode c.payloadSize response
    else
      { connection := c, next := .readingPayload, calls := [] }

def writeResponse (c : SocketConnection) (send : SendReturn) : Outcome :=
  let result := ServerActiveSocket.write send
  if result.bytes < 0 then
    { connection := c, next := .writingResponse, calls := [] }
  else
    let c := { c with
      totalOutputWriteSize := sizeAdd c.totalOutputWriteSize (toSize result.bytes) }
    if c.totalOutputWriteSize = c.responseSize then
      { connection := c, next := .finishProcess, calls := [] }
    else
      { connection := c, next := .writingResponse, calls := [] }

def flush (c : SocketConnection) : SocketConnection :=
  { c with
    inputHeaderBuffer := List.replicate c.inputHeaderBuffer.length 0
    inputPayloadBuffer := List.replicate c.inputPayloadBuffer.length 0
    outputBuffer := List.replicate c.outputBuffer.length 0
    state := .readingHeader
    totalInputHeaderReadSize := 0
    payloadSize := 0
    totalInputPayloadReadSize := 0
    responseSize := 0
    totalOutputWriteSize := 0 }

end SocketConnection

/-! ### Serving an event -/

/-- What is observed of a connection from outside: the bytes its socket delivered, the
    handler calls made for it, and the bytes its socket accepted. -/
structure ConnectionLog where
  consumed : List UInt8 := []
  calls : List HandlerCall := []
  sent : List UInt8 := []
deriving DecidableEq, Repr

/-- The connection after an event, and the interest it asks the listener to register. -/
structure Served where
  connection : SocketConnection
  log : ConnectionLog
  interest : Option SocketEventType

namespace SocketConnection

/-- The branches of `run` after `readHeader` or `readPayload`. -/
def afterRead (outcome : Outcome) (log : ConnectionLog) : Served :=
  let c := { outcome.connection with state := outcome.next }
  let log := { log with calls := log.calls ++ outcome.calls }
  match outcome.next with
  | .writingResponse => { connection := c, log := log, interest := some .write }
  | .finishProcess =>
    { connection := { c.flush with state := .readingHeader }, log := log, interest := none }
  | .readingHeader | .readingPayload => { connection := c, log := log, interest := none }

/-- The READ case of `run`; `none` when `recv` could not have returned that. -/
def serveRead (handler : SocketRequestHandler) (recv : RecvReturn) (response : HandlerResponse)
    (c : SocketConnection) (log : ConnectionLog) : Option Served :=
  let log' := { log with consumed := log.consumed ++ recv.bytes }
  match c.state with
  | .readingHeader =>
    if recv.fits c.headerRegion.length then
      some (afterRead (c.readHeader handler recv response) log')
    else
      none
  | .readingPayload =>
    if recv.fits c.payloadRegion.length then
      some (afterRead (c.readPayload recv response) log')
    else
      none
  | .writingResponse | .finishProcess =>
    some { connection := c, log := log, interest := none }

/-- The WRITE case of `run`; `none` when `send` could not have returned that. -/
def serveWrite (send : SendReturn) (c : SocketConnection) (log : ConnectionLog) :
    Option Served :=
  match c.state with
  | .writingResponse =>
    if send.fits c.responseRegion.length then
      let bytes := (c.outputBuffer.drop c.totalOutputWriteSize).take send.count
      let log := { log with sent := log.sent ++ bytes }
      let outcome := c.writeResponse send
      let c := { outcome.connection with state := outcome.next }
      match outcome.next with
      | .finishProcess =>
        some { connection := { c.flush with state := .readingHeader }, log := log,
               interest := some .read }
      | .readingHeader | .readingPayload | .writingResponse =>
        some { connection := c, log := log, interest := none }
    else
      none
  | .readingHeader | .readingPayload | .finishProcess =>
    some { connection := c, log := log, interest := none }

/-- An event of a connection with what its system call and its handler answer. -/
inductive Event where
  | read (recv : RecvReturn) (response : HandlerResponse)
  | write (send : SendReturn)

def step (handler : SocketRequestHandler) (s : SocketConnection × ConnectionLog) :
    Event → Option (SocketConnection × ConnectionLog)
  | .read recv response =>
    (serveRead handler recv response s.1 s.2).map fun r => (r.connection, r.log)
  | .write send => (serveWrite send s.1 s.2).map fun r => (r.connection, r.log)

end SocketConnection

end SecuritySocket
