import SecuritySocket.ConnectionMoves
import SecuritySocket.Framing

/-!
# A connection parses its stream into frames

`Framing.Format.frames` reads a whole stream; a connection gets it in pieces and keeps
what it has in buffers and counters.  `Assembling` relates the two: what was consumed is
the frames handed to the handler so far followed by what the buffers hold, and what was
sent is the finished responses followed by the part of the current one already written.
It is kept by every event, so at every moment the handler has been called with exactly the
complete frames of the consumed bytes, in order.
-/

namespace SecuritySocket

open Framing

def SocketRequestHandler.format (handler : SocketRequestHandler) : Format UInt8 :=
  { headerSize := handler.getHeaderSize, payloadSize := handler.getPayloadSize }

/-- The request a handler call is about: its header and the payload bytes it announces. -/
def HandlerCall.frame (call : HandlerCall) : Frame UInt8 :=
  { header := call.header, payload := call.inputBuffer.take call.inputSize }

def responses (calls : List HandlerCall) : List UInt8 := (calls.map (·.response)).flatten

def stream (calls : List HandlerCall) : List UInt8 :=
  ((calls.map HandlerCall.frame).map Frame.bytes).flatten

/-- The calls are the complete frames of the consumed bytes, and the sent bytes the
    beginning of their responses. -/
structure Framed (handler : SocketRequestHandler) (log : ConnectionLog) : Prop where
  calls : log.calls.map HandlerCall.frame = handler.format.frames log.consumed
  sent : log.sent <+: responses log.calls

/-- What the handler promises: a header has at least one byte, payloads fit the
    configuration, and no request is deferred to the unimplemented mode. -/
structure Serviceable (handler : SocketRequestHandler) (pduSize : Nat) : Prop where
  headerSize_pos : 1 ≤ handler.getHeaderSize
  payloadSize_le : ∀ header : List UInt8, header.length = handler.getHeaderSize →
    handler.getPayloadSize header ≤ pduSize
  not_slow : ∀ header : List UInt8, header.length = handler.getHeaderSize →
    handler.onModeClassified header ≠ .slow

@[simp] theorem responses_append (before after : List HandlerCall) :
    responses (before ++ after) = responses before ++ responses after := by
  simp [responses]

@[simp] theorem stream_append (before after : List HandlerCall) :
    stream (before ++ after) = stream before ++ stream after := by
  simp [stream]

@[simp] theorem responses_singleton (call : HandlerCall) : responses [call] = call.response := by
  simp [responses]

@[simp] theorem stream_singleton (call : HandlerCall) : stream [call] = call.frame.bytes := by
  simp [stream]

namespace SocketConnection

variable {handler : SocketRequestHandler} {pduSize : Nat}

/-! ### The three phases of a request -/

structure HeaderPhase (handler : SocketRequestHandler) (c : SocketConnection)
    (log : ConnectionLog) : Prop where
  incomplete : c.totalInputHeaderReadSize < handler.getHeaderSize
  consumed : log.consumed =
    stream log.calls ++ c.inputHeaderBuffer.take c.totalInputHeaderReadSize
  sent : log.sent = responses log.calls

structure PayloadPhase (handler : SocketRequestHandler) (c : SocketConnection)
    (log : ConnectionLog) : Prop where
  size : c.payloadSize = handler.getPayloadSize c.inputHeaderBuffer
  mode : c.mode = handler.onModeClassified c.inputHeaderBuffer
  incomplete : c.totalInputPayloadReadSize < c.payloadSize
  consumed : log.consumed = stream log.calls ++
    (c.inputHeaderBuffer ++ c.inputPayloadBuffer.take c.totalInputPayloadReadSize)
  sent : log.sent = responses log.calls

structure ResponsePhase (c : SocketConnection) (log : ConnectionLog) : Prop where
  consumed : log.consumed = stream log.calls
  sent : ∃ before call, log.calls = before ++ [call] ∧
    call.response = c.outputBuffer.take c.responseSize ∧
    log.sent = responses before ++ c.outputBuffer.take c.totalOutputWriteSize

/-- The simulation relation between a connection and its log. -/
structure Assembling (handler : SocketRequestHandler) (c : SocketConnection)
    (log : ConnectionLog) : Prop where
  fits : ∀ call ∈ log.calls, handler.format.Fits call.frame
  header : c.state = .readingHeader → HeaderPhase handler c log
  payload : c.state = .readingPayload → PayloadPhase handler c log
  response : c.state = .writingResponse → ResponsePhase c log

theorem assembling_make (hservice : Serviceable handler pduSize) (socket : ServerActiveSocket) :
    Assembling handler (make socket handler pduSize) {} where
  fits := by simp
  header _ := ⟨hservice.headerSize_pos, by simp [make, stream], by simp [responses]⟩
  payload := by simp [make]
  response := by simp [make]

/-- The relation gives the frames: what the buffers hold is not a complete one. -/
theorem Assembling.framed {c : SocketConnection} {log : ConnectionLog}
    (hservice : Serviceable handler pduSize) (hsound : Sound handler pduSize c)
    (h : Assembling handler c log) : Framed handler log := by
  have hfits : ∀ f ∈ log.calls.map HandlerCall.frame, handler.format.Fits f := by
    intro f hf
    obtain ⟨call, hcall, rfl⟩ := List.mem_map.mp hf
    exact h.fits call hcall
  have hframes : ∀ rest, handler.format.next? rest = none →
      log.consumed = stream log.calls ++ rest →
        log.calls.map HandlerCall.frame = handler.format.frames log.consumed := by
    intro rest hrest hconsumed
    rw [hconsumed, stream, handler.format.frames_of_split hservice.headerSize_pos hfits hrest]
  cases hstate : c.state with
  | readingHeader =>
    obtain ⟨hincomplete, hconsumed, hsent⟩ := h.header hstate
    refine ⟨hframes _ ?_ hconsumed, hsent ▸ List.prefix_rfl⟩
    apply handler.format.next?_eq_none_of_short_header
    rw [List.length_take]
    exact Nat.lt_of_le_of_lt (Nat.min_le_left _ _) hincomplete
  | readingPayload =>
    obtain ⟨hsize, _, hincomplete, hconsumed, hsent⟩ := h.payload hstate
    refine ⟨hframes _ ?_ hconsumed, hsent ▸ List.prefix_rfl⟩
    apply handler.format.next?_eq_none_of_short_payload hsound.headerLength
    rw [hsize] at hincomplete
    rw [List.length_take]
    exact Nat.lt_of_le_of_lt (Nat.min_le_left _ _) hincomplete
  | writingResponse =>
    obtain ⟨hconsumed, before, call, hcalls, hresponse, hsent⟩ := h.response hstate
    refine ⟨hframes [] ?_ (by rw [hconsumed, List.append_nil]), ?_⟩
    · apply handler.format.next?_eq_none_of_short_header
      exact hservice.headerSize_pos
    · rw [hsent, hcalls, responses_append, responses_singleton, hresponse]
      exact (List.prefix_append_right_inj _).mpr
        (List.take_prefix_take_left (hsound.responseCount))
  | finishProcess => exact absurd hstate hsound.notFinished

/-! ### Every event keeps the relation -/

/-- The connection holds a complete request that has not been handled yet. -/
structure RequestReady (handler : SocketRequestHandler) (c : SocketConnection)
    (log : ConnectionLog) : Prop where
  fits : ∀ call ∈ log.calls, handler.format.Fits call.frame
  size : c.payloadSize = handler.getPayloadSize c.inputHeaderBuffer
  mode : c.mode = handler.onModeClassified c.inputHeaderBuffer
  consumed : log.consumed = stream log.calls ++
    (c.inputHeaderBuffer ++ c.inputPayloadBuffer.take c.payloadSize)
  sent : log.sent = responses log.calls

theorem RequestReady.fits_frame {c : SocketConnection} {log : ConnectionLog}
    (hservice : Serviceable handler pduSize) (hsound : Sound handler pduSize c)
    (h : RequestReady handler c log) :
    handler.format.Fits ⟨c.inputHeaderBuffer, c.inputPayloadBuffer.take c.payloadSize⟩ := by
  refine ⟨hsound.headerLength, ?_⟩
  have hle := hservice.payloadSize_le _ hsound.headerLength
  rw [← h.size] at hle
  rw [List.length_take, hsound.payloadLength, Nat.min_eq_left hle]
  exact h.size

theorem assembling_flush (hservice : Serviceable handler pduSize) {c : SocketConnection}
    {log : ConnectionLog} (hfits : ∀ call ∈ log.calls, handler.format.Fits call.frame)
    (hconsumed : log.consumed = stream log.calls) (hsent : log.sent = responses log.calls) :
    Assembling handler c.flush log where
  fits := hfits
  header _ := ⟨hservice.headerSize_pos, by simpa [flush] using hconsumed, hsent⟩
  payload := by simp [flush]
  response := by simp [flush]

theorem TaskServed.assembling {response : HandlerResponse} {c : SocketConnection}
    {log : ConnectionLog} {r : Served} (hservice : Serviceable handler pduSize)
    (hsound : Sound handler pduSize c) (hstate : c.state ≠ .writingResponse)
    (hready : RequestReady handler c log) (h : TaskServed response c log r) :
    Assembling handler r.connection r.log := by
  have hframe := hready.fits_frame hservice hsound
  have hfits : ∀ call : HandlerCall,
      call.frame = ⟨c.inputHeaderBuffer, c.inputPayloadBuffer.take c.payloadSize⟩ →
      ∀ call' ∈ log.calls ++ [call], handler.format.Fits call'.frame := by
    intro call hcall call' hmem
    rcases List.mem_append.mp hmem with hmem | hmem
    · exact hready.fits call' hmem
    · rw [List.mem_singleton.mp hmem, hcall]
      exact hframe
  cases h with
  | answered hmode =>
    refine ⟨hfits _ rfl, by simp [responding], by simp [responding], fun _ => ⟨?_, ?_⟩⟩
    · rw [hready.consumed, stream_append, stream_singleton]
      rfl
    · refine ⟨log.calls, c.callOf response, rfl, rfl, ?_⟩
      rw [responding, hready.sent, (hsound.responseFresh hstate).2, List.take_zero,
        List.append_nil]
  | deferred hmode =>
    exact absurd (hready.mode ▸ hmode) (hservice.not_slow _ hsound.headerLength)
  | silent hmode =>
    refine assembling_flush hservice (hfits _ rfl) ?_ ?_
    · rw [hready.consumed, stream_append, stream_singleton]
      rfl
    · rw [hready.sent, responses_append, responses_singleton]
      simp [silentCallOf]

theorem Assembling.headerGot {c : SocketConnection} {log : ConnectionLog} {bytes : List UInt8}
    (hsound : Sound handler pduSize c) (hc : Assembling handler c log)
    (hstate : c.state = .readingHeader)
    (hle : c.totalInputHeaderReadSize + bytes.length ≤ handler.getHeaderSize) :
    log.consumed ++ bytes = stream log.calls ++
      (c.headerGot bytes).inputHeaderBuffer.take (c.totalInputHeaderReadSize + bytes.length) := by
  rw [SocketConnection.headerGot, take_place (by rw [hsound.headerLength]; exact hle),
    (hc.header hstate).consumed, List.append_assoc]

theorem Assembling.headerFull {c : SocketConnection} {log : ConnectionLog} {bytes : List UInt8}
    (hsound : Sound handler pduSize c) (hc : Assembling handler c log)
    (hstate : c.state = .readingHeader)
    (hcount : c.totalInputHeaderReadSize + bytes.length = handler.getHeaderSize) :
    log.consumed ++ bytes = stream log.calls ++ (c.headerGot bytes).inputHeaderBuffer := by
  rw [hc.headerGot hsound hstate (Nat.le_of_eq hcount), hcount,
    List.take_of_length_le (by simp [SocketConnection.headerGot, hsound.headerLength])]

theorem Assembling.payloadGot {c : SocketConnection} {log : ConnectionLog} {bytes : List UInt8}
    (hservice : Serviceable handler pduSize) (hsound : Sound handler pduSize c)
    (hc : Assembling handler c log) (hstate : c.state = .readingPayload)
    (hle : c.totalInputPayloadReadSize + bytes.length ≤ c.payloadSize) :
    log.consumed ++ bytes = stream log.calls ++ (c.inputHeaderBuffer ++
      (c.payloadGot bytes).inputPayloadBuffer.take
        (c.totalInputPayloadReadSize + bytes.length)) := by
  have hphase := hc.payload hstate
  have hpdu := hservice.payloadSize_le _ hsound.headerLength
  rw [← hphase.size] at hpdu
  rw [SocketConnection.payloadGot, take_place (by rw [hsound.payloadLength]; omega),
    hphase.consumed]
  simp only [List.append_assoc]

theorem Assembling.header_ready {c : SocketConnection} {log : ConnectionLog} {bytes : List UInt8}
    (hsound : Sound handler pduSize c) (hc : Assembling handler c log)
    (hstate : c.state = .readingHeader)
    (hcount : c.totalInputHeaderReadSize + bytes.length = handler.getHeaderSize)
    (hsize : ((c.headerGot bytes).classified handler).payloadSize = 0) :
    RequestReady handler ((c.headerGot bytes).classified handler)
      { log with consumed := log.consumed ++ bytes } where
  fits := hc.fits
  size := rfl
  mode := rfl
  consumed := by
    rw [hsize, List.take_zero, List.append_nil]
    exact hc.headerFull hsound hstate hcount
  sent := (hc.header hstate).sent

theorem Assembling.payload_ready {c : SocketConnection} {log : ConnectionLog} {bytes : List UInt8}
    (hservice : Serviceable handler pduSize) (hsound : Sound handler pduSize c)
    (hc : Assembling handler c log) (hstate : c.state = .readingPayload)
    (hcount : c.totalInputPayloadReadSize + bytes.length = c.payloadSize) :
    RequestReady handler (c.payloadGot bytes)
      { log with consumed := log.consumed ++ bytes } where
  fits := hc.fits
  size := (hc.payload hstate).size
  mode := (hc.payload hstate).mode
  consumed := by
    have htaken := hc.payloadGot hservice hsound hstate (Nat.le_of_eq hcount)
    rw [hcount] at htaken
    exact htaken
  sent := (hc.payload hstate).sent

theorem ReadServed.assembling {response : HandlerResponse} {c : SocketConnection}
    {log : ConnectionLog} {recv : RecvReturn} {r : Served}
    (hservice : Serviceable handler pduSize) (hsound : Sound handler pduSize c)
    (hc : Assembling handler c log) (h : ReadServed handler response c log recv r) :
    Assembling handler r.connection r.log := by
  cases h with
  | ignored hstate => exact hc
  | failed hstate hneg hnil => exact hc
  | headerPart hstate hnarrow hlt =>
    have hconsumed := hc.headerGot hsound hstate (Nat.le_of_lt hlt)
    refine ⟨hc.fits, fun _ => ?_, by simp [SocketConnection.headerGot, hstate],
      by simp [SocketConnection.headerGot, hstate]⟩
    exact ⟨hlt, hconsumed, (hc.header hstate).sent⟩
  | headerFull hstate hnarrow hcount hne =>
    have hconsumed := hc.headerFull hsound hstate hcount
    refine ⟨hc.fits, by simp, fun _ => ?_, by simp⟩
    refine ⟨rfl, rfl, ?_, ?_, (hc.header hstate).sent⟩
    · simp only [classified, SocketConnection.headerGot, hsound.payloadFresh hstate]
      exact Nat.pos_of_ne_zero hne
    · simpa [classified, SocketConnection.headerGot, hsound.payloadFresh hstate] using hconsumed
  | headerTask hstate hnarrow hcount hzero htask =>
    have hsound' := (hsound.headerGot (Nat.le_of_eq hcount)).classified hstate
    have hready := hc.header_ready hsound hstate hcount hzero
    exact htask.assembling hservice hsound'
      (by simp [classified, SocketConnection.headerGot, hstate]) hready
  | payloadPart hstate hnarrow hlt =>
    have hphase := hc.payload hstate
    have hconsumed := hc.payloadGot hservice hsound hstate (Nat.le_of_lt hlt)
    refine ⟨hc.fits, by simp [SocketConnection.payloadGot, hstate], fun _ => ?_,
      by simp [SocketConnection.payloadGot, hstate]⟩
    exact ⟨hphase.size, hphase.mode, hlt, hconsumed, hphase.sent⟩
  | payloadTask hstate hnarrow hcount htask =>
    have hsound' := hsound.payloadGot hstate (Nat.le_of_eq hcount)
    have hready := hc.payload_ready hservice hsound hstate hcount
    exact htask.assembling hservice hsound'
      (by simp [SocketConnection.payloadGot, hstate]) hready

theorem WriteServed.assembling {c : SocketConnection} {log : ConnectionLog} {count : Nat}
    {r : Served} (hservice : Serviceable handler pduSize) (hc : Assembling handler c log)
    (h : WriteServed c log count r) : Assembling handler r.connection r.log := by
  cases h with
  | ignored hstate => exact hc
  | failed hstate hzero => exact hc
  | part hstate hlt =>
    obtain ⟨hconsumed, before, call, hcalls, hresponse, hsent⟩ := hc.response hstate
    refine ⟨hc.fits, by simp [hstate], by simp [hstate], fun _ => ⟨hconsumed, ?_⟩⟩
    refine ⟨before, call, hcalls, hresponse, ?_⟩
    simp only [hsent, List.append_assoc, List.take_add]
  | done hstate hfull =>
    obtain ⟨hconsumed, before, call, hcalls, hresponse, hsent⟩ := hc.response hstate
    refine assembling_flush hservice hc.fits hconsumed ?_
    simp only [hsent, hcalls, responses_append, responses_singleton, hresponse, ← hfull,
      List.append_assoc, List.take_add]

end SocketConnection

end SecuritySocket
