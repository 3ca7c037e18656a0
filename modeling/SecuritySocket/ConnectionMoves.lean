import SecuritySocket.SocketConnection
import SecuritySocket.Transition

/-!
# What one event does to a connection

`Sound` says that the counters and buffer sizes of a connection are in order; it holds in
every state a connection can be in, whatever the handler announces and the peer sends.
From it the wrap-around arithmetic of the methods disappears, and `ReadServed` and
`WriteServed` list, once, everything a READ or WRITE event can do.  The properties of
connections elsewhere are case analyses over these two relations.
-/

namespace SecuritySocket.SocketConnection

open FixedWidth Transition

/-! ### Placing bytes -/

@[simp] theorem length_place (buffer : List UInt8) (offset : Nat) (bytes : List UInt8) :
    (place buffer offset bytes).length = buffer.length := by
  simp only [place, List.length_take, List.length_append, List.length_drop]
  omega

theorem take_place {buffer bytes : List UInt8} {offset : Nat}
    (h : offset + bytes.length ≤ buffer.length) :
    (place buffer offset bytes).take (offset + bytes.length) =
      buffer.take offset ++ bytes := by
  have hlength : (buffer.take offset ++ bytes).length = offset + bytes.length := by
    rw [List.length_append, List.length_take]; omega
  rw [place, List.take_take, Nat.min_eq_left h, ← hlength, List.take_left]

/-! ### Soundness of the counters -/

/-- The buffers have the sizes they were given, and no counter is past what it counts
    towards.  A connection at rest is never in `finishProcess`. -/
structure Sound (handler : SocketRequestHandler) (pduSize : Nat) (c : SocketConnection) :
    Prop where
  headerLength : c.inputHeaderBuffer.length = handler.getHeaderSize
  payloadLength : c.inputPayloadBuffer.length = pduSize
  outputLength : c.outputBuffer.length = pduSize
  headerCount : c.totalInputHeaderReadSize ≤ handler.getHeaderSize
  payloadCount : c.state = .readingPayload → c.totalInputPayloadReadSize ≤ c.payloadSize
  payloadSize_lt : c.payloadSize < 2 ^ 64
  payloadFresh : c.state = .readingHeader → c.totalInputPayloadReadSize = 0
  responseFresh : c.state ≠ .writingResponse → c.responseSize = 0 ∧ c.totalOutputWriteSize = 0
  responseCount : c.totalOutputWriteSize ≤ c.responseSize
  responseSize_lt : c.responseSize < 2 ^ 64
  notFinished : c.state ≠ .finishProcess

variable {handler : SocketRequestHandler} {pduSize : Nat}

theorem sound_make (socket : ServerActiveSocket) :
    Sound handler pduSize (make socket handler pduSize) := by
  constructor <;> simp [make]

/-! ### The moves -/

def headerGot (c : SocketConnection) (bytes : List UInt8) : SocketConnection :=
  { c with
    inputHeaderBuffer := place c.inputHeaderBuffer c.totalInputHeaderReadSize bytes
    totalInputHeaderReadSize := c.totalInputHeaderReadSize + bytes.length }

def payloadGot (c : SocketConnection) (bytes : List UInt8) : SocketConnection :=
  { c with
    inputPayloadBuffer := place c.inputPayloadBuffer c.totalInputPayloadReadSize bytes
    totalInputPayloadReadSize := c.totalInputPayloadReadSize + bytes.length }

def classified (c : SocketConnection) (handler : SocketRequestHandler) : SocketConnection :=
  { c with
    payloadSize := handler.getPayloadSize c.inputHeaderBuffer
    mode := handler.onModeClassified c.inputHeaderBuffer }

/-- What the handler is shown of a complete request. -/
def callOf (c : SocketConnection) (response : HandlerResponse) : HandlerCall :=
  { replies := true, header := c.inputHeaderBuffer, inputBuffer := c.inputPayloadBuffer,
    inputSize := c.payloadSize, outputBuffer := c.outputBuffer, outputSize := c.responseSize,
    response := ((List.range c.outputBuffer.length).map response.contents).take response.size }

def silentCallOf (c : SocketConnection) : HandlerCall :=
  { replies := false, header := c.inputHeaderBuffer, inputBuffer := c.inputPayloadBuffer,
    inputSize := c.payloadSize, outputBuffer := [], outputSize := 0, response := [] }

/-- The response of the handler is in the output buffer, ready to be sent. -/
def responding (c : SocketConnection) (response : HandlerResponse) : SocketConnection :=
  { c with
    outputBuffer := (List.range c.outputBuffer.length).map response.contents
    responseSize := response.size
    state := .writingResponse }

/-- A complete request has been dealt with, by the mode of the connection. -/
inductive TaskServed (response : HandlerResponse) (c : SocketConnection) (log : ConnectionLog) :
    Served → Prop where
  | answered (hmode : c.mode = .fast ∨ c.mode = .readStream) :
      TaskServed response c log
        ⟨c.responding response, { log with calls := log.calls ++ [c.callOf response] },
          some .write⟩
  | deferred (hmode : c.mode = .slow) :
      TaskServed response c log ⟨{ c with state := .writingResponse }, log, some .write⟩
  | silent (hmode : c.mode = .writeStream) :
      TaskServed response c log
        ⟨c.flush, { log with calls := log.calls ++ [c.silentCallOf] }, none⟩

/-- Everything a READ event can do whose `recv` came back with `recv`. -/
inductive ReadServed (handler : SocketRequestHandler) (response : HandlerResponse)
    (c : SocketConnection) (log : ConnectionLog) (recv : RecvReturn) : Served → Prop where
  | ignored (hstate : c.state = .writingResponse) :
      ReadServed handler response c log recv ⟨c, log, none⟩
  | failed (hstate : c.state = .readingHeader ∨ c.state = .readingPayload)
      (hneg : recv.result.bytes < 0) (hnil : recv.bytes = []) :
      ReadServed handler response c log recv ⟨c, log, none⟩
  | headerPart (hstate : c.state = .readingHeader)
      (hnarrow : recv.bytes.length ≤ narrow (handler.getHeaderSize - c.totalInputHeaderReadSize))
      (hlt : c.totalInputHeaderReadSize + recv.bytes.length < handler.getHeaderSize) :
      ReadServed handler response c log recv
        ⟨c.headerGot recv.bytes, { log with consumed := log.consumed ++ recv.bytes }, none⟩
  | headerFull (hstate : c.state = .readingHeader)
      (hnarrow : recv.bytes.length ≤ narrow (handler.getHeaderSize - c.totalInputHeaderReadSize))
      (hfull : c.totalInputHeaderReadSize + recv.bytes.length = handler.getHeaderSize)
      (hpayload : handler.getPayloadSize (c.headerGot recv.bytes).inputHeaderBuffer ≠ 0) :
      ReadServed handler response c log recv
        ⟨{ (c.headerGot recv.bytes).classified handler with state := .readingPayload },
          { log with consumed := log.consumed ++ recv.bytes }, none⟩
  | headerTask (hstate : c.state = .readingHeader)
      (hnarrow : recv.bytes.length ≤ narrow (handler.getHeaderSize - c.totalInputHeaderReadSize))
      (hfull : c.totalInputHeaderReadSize + recv.bytes.length = handler.getHeaderSize)
      (hpayload : handler.getPayloadSize (c.headerGot recv.bytes).inputHeaderBuffer = 0)
      {r : Served}
      (htask : TaskServed response ((c.headerGot recv.bytes).classified handler)
        { log with consumed := log.consumed ++ recv.bytes } r) :
      ReadServed handler response c log recv r
  | payloadPart (hstate : c.state = .readingPayload)
      (hnarrow : recv.bytes.length ≤ narrow (c.payloadSize - c.totalInputPayloadReadSize))
      (hlt : c.totalInputPayloadReadSize + recv.bytes.length < c.payloadSize) :
      ReadServed handler response c log recv
        ⟨c.payloadGot recv.bytes, { log with consumed := log.consumed ++ recv.bytes }, none⟩
  | payloadTask (hstate : c.state = .readingPayload)
      (hnarrow : recv.bytes.length ≤ narrow (c.payloadSize - c.totalInputPayloadReadSize))
      (hfull : c.totalInputPayloadReadSize + recv.bytes.length = c.payloadSize) {r : Served}
      (htask : TaskServed response (c.payloadGot recv.bytes)
        { log with consumed := log.consumed ++ recv.bytes } r) :
      ReadServed handler response c log recv r

/-- Everything a WRITE event whose `send` moved `count` bytes can do. -/
inductive WriteServed (c : SocketConnection) (log : ConnectionLog) (count : Nat) :
    Served → Prop where
  | ignored (hstate : c.state = .readingHeader ∨ c.state = .readingPayload) :
      WriteServed c log count ⟨c, log, none⟩
  | failed (hstate : c.state = .writingResponse) (hzero : count = 0) :
      WriteServed c log count ⟨c, log, none⟩
  | part (hstate : c.state = .writingResponse)
      (hlt : c.totalOutputWriteSize + count < c.responseSize) :
      WriteServed c log count
        ⟨{ c with totalOutputWriteSize := c.totalOutputWriteSize + count },
          { log with
            sent := log.sent ++ (c.outputBuffer.drop c.totalOutputWriteSize).take count }, none⟩
  | done (hstate : c.state = .writingResponse)
      (hfull : c.totalOutputWriteSize + count = c.responseSize) :
      WriteServed c log count
        ⟨c.flush,
          { log with
            sent := log.sent ++ (c.outputBuffer.drop c.totalOutputWriteSize).take count },
          some .read⟩

/-! ### The events do nothing else -/

theorem withState_eq {c : SocketConnection} {state : ProcessState} (h : c.state = state) :
    { c with state := state } = c := by
  subst h; rfl

theorem afterRead_reading {c : SocketConnection} {next : ProcessState} (log : ConnectionLog)
    (h : next = .readingHeader ∨ next = .readingPayload) :
    afterRead ⟨c, next, []⟩ log = ⟨{ c with state := next }, log, none⟩ := by
  rcases h with rfl | rfl <;> simp [afterRead]

theorem afterRead_runTask (response : HandlerResponse) (c : SocketConnection)
    (log : ConnectionLog) :
    TaskServed response c log (afterRead (c.runTask c.mode c.payloadSize response) log) := by
  cases hmode : c.mode with
  | fast => exact .answered (.inl hmode)
  | readStream => exact .answered (.inr hmode)
  | slow =>
    have hserved : TaskServed response c log _ := .deferred hmode
    simpa [runTask, afterRead] using hserved
  | writeStream => exact .silent hmode

theorem receiveHeader_eq {c : SocketConnection} {bytes : List UInt8}
    (h : c.totalInputHeaderReadSize + bytes.length < 2 ^ 64) :
    c.receiveHeader bytes bytes.length = c.headerGot bytes := by
  simp only [receiveHeader, headerGot]
  rw [toSize_natCast (by omega), sizeAdd_eq h]

theorem receivePayload_eq {c : SocketConnection} {bytes : List UInt8}
    (h : c.totalInputPayloadReadSize + bytes.length < 2 ^ 64) :
    c.receivePayload bytes bytes.length = c.payloadGot bytes := by
  simp only [receivePayload, payloadGot]
  rw [toSize_natCast (by omega), sizeAdd_eq h]

theorem recv_length_le {rest : Nat} {recv : RecvReturn}
    (h : recv.fits (ServerActiveSocket.recvLength rest)) :
    recv.bytes.length ≤ narrow rest ∧ recv.bytes.length ≤ rest := by
  have hle := RecvReturn.length_le_of_fits h
  have hmin : min (narrow rest) transferMax ≤ rest := min_narrow_le (by decide)
  simp only [ServerActiveSocket.recvLength] at hle
  omega

theorem serveRead_cases {recv : RecvReturn} {response : HandlerResponse} {c : SocketConnection}
    {log : ConnectionLog} {r : Served} (hsound : Sound handler pduSize c)
    (h : serveRead handler recv response c log = some r) :
    ReadServed handler response c log recv r := by
  have hheader := hsound.headerCount
  have hbound := handler.headerSize_lt
  unfold serveRead at h
  split at h
  · rename_i hstate
    split at h
    · rename_i hfits
      rw [headerRegion, hsound.headerLength, sizeSub_eq hheader (by omega)] at hfits
      obtain ⟨hnarrow, hle⟩ := recv_length_le hfits
      simp only [Option.some.injEq] at h
      subst h
      rcases RecvReturn.result_bytes_of_fits hfits with ⟨hneg, hnil⟩ | hbytes
      · simp only [readHeader, ServerActiveSocket.read, hneg, hnil, Int.reduceNeg,
          Int.reduceLT, if_true, List.append_nil]
        rw [afterRead_reading log (.inl rfl), withState_eq hstate]
        exact .failed (.inl hstate) (by omega) hnil
      · simp only [readHeader, ServerActiveSocket.read, hbytes]
        rw [if_neg (by omega), receiveHeader_eq (by omega)]
        by_cases hfull : c.totalInputHeaderReadSize + recv.bytes.length = handler.getHeaderSize
        · rw [if_pos (by simpa [headerGot, hsound.headerLength] using hfull), classifyHeader]
          split
          · rename_i hpayload
            exact .headerTask hstate hnarrow hfull hpayload (afterRead_runTask _ _ _)
          · rename_i hpayload
            rw [afterRead_reading _ (.inr rfl)]
            exact .headerFull hstate hnarrow hfull hpayload
        · rw [if_neg (by simpa [headerGot, hsound.headerLength] using hfull),
            afterRead_reading _ (.inl rfl), withState_eq (by exact hstate)]
          exact .headerPart hstate hnarrow (by omega)
    · cases h
  · rename_i hstate
    have hpayload := hsound.payloadCount hstate
    have hlt := hsound.payloadSize_lt
    split at h
    · rename_i hfits
      rw [payloadRegion, sizeSub_eq hpayload hlt] at hfits
      obtain ⟨hnarrow, hle⟩ := recv_length_le hfits
      simp only [Option.some.injEq] at h
      subst h
      rcases RecvReturn.result_bytes_of_fits hfits with ⟨hneg, hnil⟩ | hbytes
      · simp only [readPayload, ServerActiveSocket.read, hneg, hnil, Int.reduceNeg,
          Int.reduceLT, if_true, List.append_nil]
        rw [afterRead_reading log (.inr rfl), withState_eq hstate]
        exact .failed (.inr hstate) (by omega) hnil
      · simp only [readPayload, ServerActiveSocket.read, hbytes]
        rw [if_neg (by omega), receivePayload_eq (by omega)]
        by_cases hfull : c.totalInputPayloadReadSize + recv.bytes.length = c.payloadSize
        · rw [if_pos (by simpa [payloadGot] using hfull)]
          exact .payloadTask hstate hnarrow hfull (afterRead_runTask _ _ _)
        · rw [if_neg (by simpa [payloadGot] using hfull),
            afterRead_reading _ (.inr rfl), withState_eq (by exact hstate)]
          exact .payloadPart hstate hnarrow (by omega)
    · cases h
  · rename_i hstate
    simp only [Option.some.injEq] at h
    subst h
    exact .ignored hstate
  · rename_i hstate
    exact absurd hstate hsound.notFinished

theorem serveWrite_cases {send : SendReturn} {c : SocketConnection} {log : ConnectionLog}
    {r : Served} (hsound : Sound handler pduSize c)
    (h : serveWrite send c log = some r) : WriteServed c log send.count r := by
  have hcount := hsound.responseCount
  have hlt := hsound.responseSize_lt
  unfold serveWrite at h
  split at h
  · rename_i hstate
    split at h
    · rename_i hfits
      rw [responseRegion, sizeSub_eq hcount hlt] at hfits
      have hle := SendReturn.count_le_of_fits hfits
      simp only [ServerActiveSocket.sendLength] at hle
      dsimp only at h
      rcases SendReturn.result_bytes_of_fits hfits with ⟨hneg, hzero⟩ | hbytes
      · simp only [writeResponse, ServerActiveSocket.write, hneg, hzero, Int.reduceNeg,
          Int.reduceLT, if_true, List.take_zero, List.append_nil, Option.some.injEq] at h
        rw [← h, withState_eq hstate]
        exact .failed hstate hzero
      · have hadd : sizeAdd c.totalOutputWriteSize (toSize (send.count : Int)) =
            c.totalOutputWriteSize + send.count := by
          rw [toSize_natCast (by omega), sizeAdd_eq (by omega)]
        simp only [writeResponse, ServerActiveSocket.write, hbytes, hadd] at h
        rw [if_neg (by omega)] at h
        by_cases hfull : c.totalOutputWriteSize + send.count = c.responseSize
        · simp only [if_pos hfull, Option.some.injEq] at h
          rw [← h]
          exact .done hstate hfull
        · simp only [if_neg hfull, Option.some.injEq] at h
          rw [← h]
          have hserved : WriteServed c log send.count _ := .part hstate (by omega)
          simpa [hstate] using hserved
    · cases h
  · rename_i hstate
    simp only [Option.some.injEq] at h
    subst h
    exact .ignored (.inl hstate)
  · rename_i hstate
    simp only [Option.some.injEq] at h
    subst h
    exact .ignored (.inr hstate)
  · rename_i hstate
    exact absurd hstate hsound.notFinished

/-! ### Soundness is kept -/

theorem Sound.flush {c : SocketConnection} (h : Sound handler pduSize c) :
    Sound handler pduSize c.flush := by
  constructor <;>
    simp [SocketConnection.flush, h.headerLength, h.payloadLength, h.outputLength]

theorem TaskServed.sound {response : HandlerResponse} {c : SocketConnection}
    {log : ConnectionLog} {r : Served} (hc : Sound handler pduSize c)
    (hstate : c.state ≠ .writingResponse) (h : TaskServed response c log r) :
    Sound handler pduSize r.connection := by
  obtain ⟨hresponse, hwritten⟩ := hc.responseFresh hstate
  cases h with
  | answered hmode =>
    exact { hc with
      outputLength := by simp [responding, hc.outputLength]
      payloadCount := by simp [responding]
      payloadFresh := by simp [responding]
      responseFresh := by simp [responding]
      responseCount := by simp [responding, hwritten]
      responseSize_lt := response.size_lt
      notFinished := by simp [responding] }
  | deferred hmode =>
    exact { hc with
      payloadCount := by simp
      payloadFresh := by simp
      responseFresh := by simp
      notFinished := by simp }
  | silent hmode => exact hc.flush

theorem Sound.headerGot {c : SocketConnection} {bytes : List UInt8}
    (h : Sound handler pduSize c)
    (hle : c.totalInputHeaderReadSize + bytes.length ≤ handler.getHeaderSize) :
    Sound handler pduSize (c.headerGot bytes) :=
  { h with
    headerLength := by simp [SocketConnection.headerGot, h.headerLength]
    headerCount := hle }

theorem Sound.classified {c : SocketConnection} (h : Sound handler pduSize c)
    (hstate : c.state = .readingHeader) : Sound handler pduSize (c.classified handler) :=
  { h with
    payloadCount := by simp [SocketConnection.classified, hstate]
    payloadSize_lt := handler.payloadSize_lt _ }

theorem Sound.payloadGot {c : SocketConnection} {bytes : List UInt8}
    (h : Sound handler pduSize c) (hstate : c.state = .readingPayload)
    (hle : c.totalInputPayloadReadSize + bytes.length ≤ c.payloadSize) :
    Sound handler pduSize (c.payloadGot bytes) :=
  { h with
    payloadLength := by simp [SocketConnection.payloadGot, h.payloadLength]
    payloadCount := fun _ => hle
    payloadFresh := by simp [SocketConnection.payloadGot, hstate] }

theorem ReadServed.sound {response : HandlerResponse} {c : SocketConnection}
    {log : ConnectionLog} {recv : RecvReturn} {r : Served} (hc : Sound handler pduSize c)
    (h : ReadServed handler response c log recv r) : Sound handler pduSize r.connection := by
  cases h with
  | ignored hstate => exact hc
  | failed hstate hneg hnil => exact hc
  | headerPart hstate hnarrow hlt => exact hc.headerGot (by omega)
  | headerFull hstate hnarrow hfull hpayload =>
    have hgot := (hc.headerGot (Nat.le_of_eq hfull)).classified hstate
    have hfresh := hgot.payloadFresh hstate
    have hresponse := hgot.responseFresh
      (by simp [SocketConnection.classified, SocketConnection.headerGot, hstate])
    exact { hgot with
      payloadCount := fun _ => by rw [hfresh]; exact Nat.zero_le _
      payloadFresh := by simp
      responseFresh := fun _ => hresponse
      notFinished := by simp }
  | headerTask hstate hnarrow hfull hpayload htask =>
    exact htask.sound ((hc.headerGot (Nat.le_of_eq hfull)).classified hstate)
      (by simp [SocketConnection.classified, SocketConnection.headerGot, hstate])
  | payloadPart hstate hnarrow hlt => exact hc.payloadGot hstate (by omega)
  | payloadTask hstate hnarrow hfull htask =>
    exact htask.sound (hc.payloadGot hstate (Nat.le_of_eq hfull))
      (by simp [SocketConnection.payloadGot, hstate])

theorem WriteServed.sound {c : SocketConnection} {log : ConnectionLog} {count : Nat}
    {r : Served} (hc : Sound handler pduSize c) (h : WriteServed c log count r) :
    Sound handler pduSize r.connection := by
  cases h with
  | ignored hstate => exact hc
  | failed hstate hzero => exact hc
  | part hstate hlt =>
    exact { hc with
      responseFresh := fun hne => absurd hstate hne
      responseCount := Nat.le_of_lt hlt }
  | done hstate hfull => exact hc.flush

theorem step_cases {s s' : SocketConnection × ConnectionLog} {event : Event}
    (hsound : Sound handler pduSize s.1) (h : step handler s event = some s') :
    (∃ recv response r, event = .read recv response ∧
      ReadServed handler response s.1 s.2 recv r ∧ s' = (r.connection, r.log)) ∨
    (∃ send r, event = .write send ∧ WriteServed s.1 s.2 send.count r ∧
      s' = (r.connection, r.log)) := by
  cases event with
  | read recv response =>
    obtain ⟨r, hr, rfl⟩ := Option.map_eq_some_iff.mp h
    exact .inl ⟨recv, response, r, rfl, serveRead_cases hsound hr, rfl⟩
  | write send =>
    obtain ⟨r, hr, rfl⟩ := Option.map_eq_some_iff.mp h
    exact .inr ⟨send, r, rfl, serveWrite_cases hsound hr, rfl⟩

/-- **Soundness.**  Every state of a connection is sound. -/
theorem reachable_sound {socket : ServerActiveSocket} {s : SocketConnection × ConnectionLog}
    (h : Reachable (step handler) (make socket handler pduSize, {}) s) :
    Sound handler pduSize s.1 := by
  refine h.invariant (I := fun s => Sound handler pduSize s.1) (sound_make socket) ?_
  intro s event s' hsound hstep
  rcases step_cases hsound hstep with ⟨recv, response, r, rfl, hr, rfl⟩ | ⟨send, r, rfl, hr, rfl⟩
  · exact hr.sound hsound
  · exact hr.sound hsound

end SecuritySocket.SocketConnection
