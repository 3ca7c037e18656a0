import SecuritySocket.RequestServerFraming

/-!
# What the handler is shown of a request

Buffers and counters of a connection serve one request after the other, and pool slots one
client after the other.  Between two requests `flush` has put everything back, so that what
the handler is shown of a request (`HandlerCall.view`) can be computed from the request
(`SocketRequestHandler.view`): no call depends on what came before it.
-/

namespace SecuritySocket

open Framing Transition

/-- All the handler was given in a call, without what it answered. -/
def HandlerCall.view (call : HandlerCall) : HandlerCall := { call with response := [] }

/-- What a handler is shown of a request: the payload with zeros up to the size of the buffer,
    and an output buffer of zeros. -/
def SocketRequestHandler.view (handler : SocketRequestHandler) (pduSize : Nat)
    (request : Frame UInt8) : HandlerCall :=
  let replies := handler.onModeClassified request.header != .writeStream
  { replies := replies
    header := request.header
    inputBuffer := request.payload ++ List.replicate (pduSize - request.payload.length) 0
    inputSize := handler.getPayloadSize request.header
    outputBuffer := if replies then List.replicate pduSize 0 else []
    outputSize := 0
    response := [] }

namespace SocketConnection

variable {handler : SocketRequestHandler} {pduSize : Nat}

theorem drop_place {buffer bytes : List UInt8} {offset : Nat}
    (h : offset + bytes.length ≤ buffer.length) :
    (place buffer offset bytes).drop (offset + bytes.length) =
      buffer.drop (offset + bytes.length) := by
  have hfront : (buffer.take offset ++ bytes).length = offset + bytes.length := by
    rw [List.length_append, List.length_take]
    omega
  have hwhole : (buffer.take offset ++ bytes ++ buffer.drop (offset + bytes.length)).length =
      buffer.length := by
    rw [List.length_append, hfront, List.length_drop]
    omega
  rw [place, List.take_of_length_le (Nat.le_of_eq hwhole), List.drop_left' hfront]

/-- What is left over of earlier requests: nothing, unless a response is being sent. -/
structure Clean (handler : SocketRequestHandler) (pduSize : Nat) (c : SocketConnection)
    (log : ConnectionLog) : Prop where
  output : c.state ≠ .writingResponse → c.outputBuffer = List.replicate pduSize 0
  payload : c.state ≠ .writingResponse →
    c.inputPayloadBuffer.drop c.totalInputPayloadReadSize =
      List.replicate (pduSize - c.totalInputPayloadReadSize) 0
  size : c.state = .readingPayload → c.payloadSize = handler.getPayloadSize c.inputHeaderBuffer
  mode : c.state = .readingPayload → c.mode = handler.onModeClassified c.inputHeaderBuffer
  calls : ∀ call ∈ log.calls, call.view = handler.view pduSize call.frame

theorem clean_make (socket : ServerActiveSocket) :
    Clean handler pduSize (make socket handler pduSize) {} := by
  constructor <;> simp [make]

theorem clean_flush {c : SocketConnection} {log : ConnectionLog} (hsound : Sound handler pduSize c)
    (hcalls : ∀ call ∈ log.calls, call.view = handler.view pduSize call.frame) :
    Clean handler pduSize c.flush log where
  output _ := by rw [flush, hsound.outputLength]
  payload _ := by simp [flush, hsound.payloadLength]
  size := by simp [flush]
  mode := by simp [flush]
  calls := hcalls

/-- The connection holds a complete request, and nothing else. -/
structure RequestAlone (handler : SocketRequestHandler) (pduSize : Nat) (c : SocketConnection)
    (log : ConnectionLog) : Prop where
  state : c.state ≠ .writingResponse
  output : c.outputBuffer = List.replicate pduSize 0
  payload : c.inputPayloadBuffer.drop c.payloadSize = List.replicate (pduSize - c.payloadSize) 0
  size : c.payloadSize = handler.getPayloadSize c.inputHeaderBuffer
  fits : c.payloadSize ≤ pduSize
  mode : c.mode = handler.onModeClassified c.inputHeaderBuffer
  calls : ∀ call ∈ log.calls, call.view = handler.view pduSize call.frame

theorem RequestAlone.buffer {c : SocketConnection} {log : ConnectionLog}
    (hsound : Sound handler pduSize c) (h : RequestAlone handler pduSize c log) :
    c.inputPayloadBuffer.take c.payloadSize ++
        List.replicate (pduSize - min c.payloadSize c.inputPayloadBuffer.length) 0 =
      c.inputPayloadBuffer := by
  rw [hsound.payloadLength, Nat.min_eq_left h.fits, ← h.payload, List.take_append_drop]

theorem RequestAlone.callOf {c : SocketConnection} {log : ConnectionLog}
    (hsound : Sound handler pduSize c) (h : RequestAlone handler pduSize c log)
    (response : HandlerResponse) (hmode : c.mode ≠ .writeStream) :
    (c.callOf response).view = handler.view pduSize (c.callOf response).frame := by
  have hresponse := (hsound.responseFresh h.state).1
  have hbuffer := h.buffer hsound
  rw [h.mode] at hmode
  simp [HandlerCall.view, HandlerCall.frame, SocketConnection.callOf, SocketRequestHandler.view,
    hresponse, hmode, h.output, hbuffer, ← h.size]

theorem RequestAlone.silentCallOf {c : SocketConnection} {log : ConnectionLog}
    (hsound : Sound handler pduSize c) (h : RequestAlone handler pduSize c log)
    (hmode : c.mode = .writeStream) :
    c.silentCallOf.view = handler.view pduSize c.silentCallOf.frame := by
  have hbuffer := h.buffer hsound
  rw [h.mode] at hmode
  simp [HandlerCall.view, HandlerCall.frame, SocketConnection.silentCallOf,
    SocketRequestHandler.view, hmode, hbuffer, ← h.size]

theorem TaskServed.clean {response : HandlerResponse} {c : SocketConnection}
    {log : ConnectionLog} {r : Served} (hsound : Sound handler pduSize c)
    (halone : RequestAlone handler pduSize c log) (h : TaskServed response c log r) :
    Clean handler pduSize r.connection r.log := by
  have hcalls : ∀ call : HandlerCall, call.view = handler.view pduSize call.frame →
      ∀ call' ∈ log.calls ++ [call], call'.view = handler.view pduSize call'.frame := by
    intro call hcall call' hmem
    rcases List.mem_append.mp hmem with hmem | hmem
    · exact halone.calls call' hmem
    · rw [List.mem_singleton.mp hmem]
      exact hcall
  cases h with
  | answered hmode =>
    have hreplies : c.mode ≠ .writeStream := by rcases hmode with h | h <;> simp [h]
    exact ⟨by simp [responding], by simp [responding], by simp [responding], by simp [responding],
      hcalls _ (halone.callOf hsound response hreplies)⟩
  | deferred hmode => exact ⟨by simp, by simp, by simp, by simp, halone.calls⟩
  | silent hmode => exact clean_flush hsound (hcalls _ (halone.silentCallOf hsound hmode))

theorem Clean.payload_empty {c : SocketConnection} {log : ConnectionLog}
    (hsound : Sound handler pduSize c) (hc : Clean handler pduSize c log)
    (hstate : c.state = .readingHeader) :
    c.inputPayloadBuffer = List.replicate pduSize 0 := by
  have hpayload := hc.payload (by simp [hstate])
  rwa [hsound.payloadFresh hstate, List.drop_zero, Nat.sub_zero] at hpayload

theorem Clean.drop_payloadGot {c : SocketConnection} {log : ConnectionLog} {bytes : List UInt8}
    (hsound : Sound handler pduSize c) (hc : Clean handler pduSize c log)
    (hstate : c.state = .readingPayload) (hpdu : c.payloadSize ≤ pduSize)
    (hle : c.totalInputPayloadReadSize + bytes.length ≤ c.payloadSize) :
    (c.payloadGot bytes).inputPayloadBuffer.drop (c.totalInputPayloadReadSize + bytes.length) =
      List.replicate (pduSize - (c.totalInputPayloadReadSize + bytes.length)) 0 := by
  have hroom : c.totalInputPayloadReadSize + bytes.length ≤ c.inputPayloadBuffer.length := by
    rw [hsound.payloadLength]
    omega
  rw [payloadGot, drop_place hroom, ← List.drop_drop, hc.payload (by simp [hstate]),
    List.drop_replicate, Nat.sub_sub]

theorem Clean.header_alone {c : SocketConnection} {log log' : ConnectionLog} {bytes : List UInt8}
    (hsound : Sound handler pduSize c) (hc : Clean handler pduSize c log)
    (hstate : c.state = .readingHeader)
    (hsize : ((c.headerGot bytes).classified handler).payloadSize = 0)
    (hcalls : log'.calls = log.calls) :
    RequestAlone handler pduSize ((c.headerGot bytes).classified handler) log' where
  state := by simp [classified, headerGot, hstate]
  output := hc.output (by simp [hstate])
  payload := by
    have hempty := hc.payload_empty hsound hstate
    rw [hsize, List.drop_zero, Nat.sub_zero]
    exact hempty
  size := rfl
  fits := by
    rw [hsize]
    exact Nat.zero_le pduSize
  mode := rfl
  calls := hcalls ▸ hc.calls

theorem Clean.payload_alone {c : SocketConnection} {log log' : ConnectionLog} {bytes : List UInt8}
    (hsound : Sound handler pduSize c) (hc : Clean handler pduSize c log)
    (hstate : c.state = .readingPayload) (hpdu : c.payloadSize ≤ pduSize)
    (hcount : c.totalInputPayloadReadSize + bytes.length = c.payloadSize)
    (hcalls : log'.calls = log.calls) :
    RequestAlone handler pduSize (c.payloadGot bytes) log' where
  state := by simp [payloadGot, hstate]
  output := hc.output (by simp [hstate])
  payload := by
    have hrest := hc.drop_payloadGot hsound hstate hpdu (Nat.le_of_eq hcount)
    rwa [hcount] at hrest
  size := hc.size hstate
  fits := hpdu
  mode := hc.mode hstate
  calls := hcalls ▸ hc.calls

theorem ReadServed.clean {response : HandlerResponse} {c : SocketConnection}
    {log : ConnectionLog} {recv : RecvReturn} {r : Served}
    (hfits : ∀ header : List UInt8, header.length = handler.getHeaderSize →
      handler.getPayloadSize header ≤ pduSize)
    (hsound : Sound handler pduSize c) (hc : Clean handler pduSize c log)
    (h : ReadServed handler response c log recv r) :
    Clean handler pduSize r.connection r.log := by
  have hpdu : c.state = .readingPayload → c.payloadSize ≤ pduSize := by
    intro hstate
    rw [hc.size hstate]
    exact hfits _ hsound.headerLength
  cases h with
  | ignored hstate => exact hc
  | failed hstate hneg hnil => exact hc
  | headerPart hstate hnarrow hlt =>
    exact ⟨hc.output, hc.payload, by simp [headerGot, hstate], by simp [headerGot, hstate], hc.calls⟩
  | headerFull hstate hnarrow hcount hne =>
    refine ⟨fun _ => hc.output (by simp [hstate]), fun _ => hc.payload (by simp [hstate]), ?_, ?_,
      hc.calls⟩
    · exact fun _ => rfl
    · exact fun _ => rfl
  | headerTask hstate hnarrow hcount hzero htask =>
    have hsound' := (hsound.headerGot (Nat.le_of_eq hcount)).classified hstate
    apply htask.clean hsound'
    exact hc.header_alone hsound hstate hzero rfl
  | payloadPart hstate hnarrow hlt =>
    have hrest := hc.drop_payloadGot hsound hstate (hpdu hstate) (Nat.le_of_lt hlt)
    exact ⟨hc.output, fun _ => hrest, hc.size, hc.mode, hc.calls⟩
  | payloadTask hstate hnarrow hcount htask =>
    have hsound' := hsound.payloadGot hstate (Nat.le_of_eq hcount)
    apply htask.clean hsound'
    exact hc.payload_alone hsound hstate (hpdu hstate) hcount rfl

theorem WriteServed.clean {c : SocketConnection} {log : ConnectionLog} {count : Nat} {r : Served}
    (hsound : Sound handler pduSize c) (hc : Clean handler pduSize c log)
    (h : WriteServed c log count r) : Clean handler pduSize r.connection r.log := by
  cases h with
  | ignored hstate => exact hc
  | failed hstate hzero => exact hc
  | part hstate hlt =>
    exact ⟨by simp [hstate], by simp [hstate], by simp [hstate], by simp [hstate], hc.calls⟩
  | done hstate hfull => exact clean_flush hsound hc.calls

end SocketConnection

namespace RequestServer

open SocketConnection

variable {handler : SocketRequestHandler} {configuration : SocketConfiguration}
  {s s' : RequestServer}

theorem clean_connectionInvariant
    (hfits : ∀ header : List UInt8, header.length = handler.getHeaderSize →
      handler.getPayloadSize header ≤ configuration.pduSize) :
    ConnectionInvariant handler configuration fun c log =>
      SocketConnection.Sound handler configuration.pduSize c ∧
        SocketConnection.Clean handler configuration.pduSize c log where
  make socket := ⟨sound_make socket, clean_make socket⟩
  retype := by
    rintro c log type ⟨hsound, hc⟩
    exact ⟨sound_retype hsound, hc.output, hc.payload, hc.size, hc.mode, hc.calls⟩
  read := by
    rintro recv response c log r ⟨hsound, hc⟩ hr
    have hserved := serveRead_cases hsound hr
    exact ⟨hserved.sound hsound, hserved.clean hfits hsound hc⟩
  write := by
    rintro send c log r ⟨hsound, hc⟩ hr
    have hserved := serveWrite_cases hsound hr
    exact ⟨hserved.sound hsound, hserved.clean hsound hc⟩

/-- What the handler is shown in a call is computed from the request of that call. -/
theorem view_of_reachable
    (hfits : ∀ header : List UInt8, header.length = handler.getHeaderSize →
      handler.getPayloadSize header ≤ configuration.pduSize) {fd : Int}
    (h : Reachable (step handler configuration) (opened fd) s) {id : Nat} {call : HandlerCall}
    (hcall : call ∈ (s.logs id).calls) :
    call.view = handler.view configuration.pduSize call.frame := by
  obtain ⟨c, _, hclean⟩ := (reachable_eachConnection (clean_connectionInvariant hfits) h).logs id
  exact hclean.calls call hcall

/-- **Requests do not leak.**  Whatever happened before it in either of two runs, and on
    whichever connection it comes, a request is shown to the handler in the same way. -/
theorem view_eq_of_frame_eq
    (hfits : ∀ header : List UInt8, header.length = handler.getHeaderSize →
      handler.getPayloadSize header ≤ configuration.pduSize) {fd fd' : Int}
    (h : Reachable (step handler configuration) (opened fd) s)
    (h' : Reachable (step handler configuration) (opened fd') s') {id id' : Nat}
    {call call' : HandlerCall} (hcall : call ∈ (s.logs id).calls)
    (hcall' : call' ∈ (s'.logs id').calls) (hrequest : call.frame = call'.frame) :
    call.view = call'.view := by
  rw [view_of_reachable hfits h hcall, view_of_reachable hfits h' hcall', hrequest]

def shortHandler : SocketRequestHandler where
  getHeaderSize := 1
  getPayloadSize header := (header.headD 0).toNat % 4
  onModeClassified _ := .fast
  headerSize_lt := byteHandler.headerSize_lt
  payloadSize_lt header := Nat.lt_of_lt_of_le (Nat.mod_lt _ (by decide)) (by decide)

def shortPdu : SocketConfiguration := { pduSize := 4, pduSize_lt := by decide }

/-- A client has a request of three bytes answered, sends two more bytes of another one, and
    leaves; the next client gets its descriptor and its slot, and sends a request. -/
def reusedSlot : List Label :=
  [.poll (.ready [{ pollin := true }]), .dispatch { accept := { descriptor := 4 } },
    .poll (.ready [{}, { pollin := true }]), .dispatch { recv := .data [3] },
    .poll (.ready [{}, { pollin := true }]),
    .dispatch { recv := .data [5, 5, 5],
                response := { contents := fun _ => 9, size := 3, size_lt := by decide } },
    .poll (.ready [{}, { pollout := true }]), .dispatch { send := .sent 3 },
    .poll (.ready [{}, { pollin := true }]), .dispatch { recv := .data [2] },
    .poll (.ready [{}, { pollin := true }]), .dispatch { recv := .data [6] },
    .poll (.ready [{}, { pollhup := true }]), .dispatch {}] ++ roundTrip

theorem reusedSlot_view_eq :
    ∃ s s', Reachable (step shortHandler shortPdu) (opened 3) s ∧
      Reachable (step shortHandler shortPdu) (opened 3) s' ∧
      ∃ call call', call ∈ (s.logs 0).calls ∧ call' ∈ (s'.logs 1).calls ∧
        call.inputBuffer = [7, 0, 0, 0] ∧ call.view = call'.view := by
  have hfits : ∀ header : List UInt8, header.length = shortHandler.getHeaderSize →
      shortHandler.getPayloadSize header ≤ shortPdu.pduSize :=
    fun header _ => Nat.le_of_lt (Nat.mod_lt _ (by decide))
  have h : Reachable (step shortHandler shortPdu) (opened 3) _ := ⟨roundTrip, rfl⟩
  have h' : Reachable (step shortHandler shortPdu) (opened 3) _ := ⟨reusedSlot, rfl⟩
  exact ⟨_, _, h, h', _, _, List.mem_cons_self, List.mem_cons_self, rfl,
    @view_eq_of_frame_eq shortHandler shortPdu _ _ hfits 3 3 h h' 0 1 _ _ List.mem_cons_self
      List.mem_cons_self rfl⟩

end RequestServer

end SecuritySocket
