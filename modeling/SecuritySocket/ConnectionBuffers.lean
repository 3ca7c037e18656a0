import SecuritySocket.ConnectionMoves

/-!
# The memory a connection's system calls touch

`readHeader` asks for the rest of the header, a length it knows from its own buffer;
`readPayload` asks for the rest of a payload whose size comes from the handler and so from
the peer, while the buffer was sized from the configuration.  Nothing compares the two.
The calls stay inside their buffers exactly when the sizes the handler announces do, after
the narrowing of the length to `int32_t` on its way to `recv`.
-/

namespace SecuritySocket.SocketConnection

open FixedWidth Transition

variable {handler : SocketRequestHandler} {pduSize : Nat}

/-- In this state, whichever system call comes next stays inside the buffer it is given,
    and the subtraction for its length does not wrap around. -/
structure BufferSafe (handler : SocketRequestHandler) (pduSize : Nat) (c : SocketConnection) :
    Prop where
  headerCapacity : c.headerRegion.capacity = handler.getHeaderSize
  payloadCapacity : c.payloadRegion.capacity = pduSize
  responseCapacity : c.responseRegion.capacity = pduSize
  header : c.state = .readingHeader → c.headerRegion.InBounds
  payload : c.state = .readingPayload → c.payloadRegion.InBounds
  response : c.state = .writingResponse → c.responseSize ≤ pduSize → c.responseRegion.InBounds
  headerRest : c.totalInputHeaderReadSize ≤ c.inputHeaderBuffer.length
  payloadRest : c.state = .readingPayload → c.totalInputPayloadReadSize ≤ c.payloadSize
  responseRest : c.totalOutputWriteSize ≤ c.responseSize

/-- The lengths the reads start with fit: the header's, and the payload's for every header
    that can be completed.  Below `2 ^ 31` narrowing changes nothing, and the condition is
    `getPayloadSize header ≤ pdu_size` for every header. -/
def PayloadsFit (handler : SocketRequestHandler) (pduSize : Nat) : Prop :=
  narrow handler.getHeaderSize ≤ handler.getHeaderSize ∧
    (handler.getHeaderSize < 2 ^ 31 → ∀ header : List UInt8,
      header.length = handler.getHeaderSize →
        narrow (handler.getPayloadSize header) ≤ pduSize)

/-- What the reads have moved lies below the narrowed length they started with. -/
structure Fitting (handler : SocketRequestHandler) (pduSize : Nat) (c : SocketConnection) :
    Prop where
  header : c.state = .readingHeader →
    c.totalInputHeaderReadSize ≤ handler.getHeaderSize % 2 ^ 32
  payload : c.state = .readingPayload →
    narrow c.payloadSize ≤ pduSize ∧ c.totalInputPayloadReadSize ≤ c.payloadSize % 2 ^ 32

theorem fitting_make (socket : ServerActiveSocket) :
    Fitting handler pduSize (make socket handler pduSize) := by
  constructor <;> simp [make]

theorem TaskServed.fitting {response : HandlerResponse} {c : SocketConnection}
    {log : ConnectionLog} {r : Served} (h : TaskServed response c log r) :
    Fitting handler pduSize r.connection := by
  cases h <;> constructor <;> simp [responding, SocketConnection.flush]

theorem ReadServed.fitting {response : HandlerResponse} {c : SocketConnection}
    {log : ConnectionLog} {recv : RecvReturn} {r : Served} (hpdu : pduSize < 2 ^ 63)
    (hfit : PayloadsFit handler pduSize) (hsound : Sound handler pduSize c)
    (hc : Fitting handler pduSize c) (h : ReadServed handler response c log recv r) :
    Fitting handler pduSize r.connection := by
  have hhalf := ((narrow_le_iff handler.headerSize_lt).mp hfit.1).1
  cases h with
  | ignored hstate => exact hc
  | failed hstate hneg hnil => exact hc
  | headerPart hstate hnarrow hlt =>
    rw [narrow_sub hhalf (hc.header hstate)] at hnarrow
    have hcount := hc.header hstate
    refine ⟨fun _ => ?_, ?_⟩
    · simp only [headerGot]; omega
    · simp [headerGot, hstate]
  | headerFull hstate hnarrow hfull hpayload =>
    rw [narrow_sub hhalf (hc.header hstate)] at hnarrow
    have hcount := hc.header hstate
    refine ⟨by simp, fun _ => ⟨hfit.2 (by omega) _ ?_, ?_⟩⟩
    · simp [headerGot, hsound.headerLength]
    · simp [classified, headerGot, hsound.payloadFresh hstate]
  | headerTask hstate hnarrow hfull hpayload htask => exact htask.fitting
  | payloadPart hstate hnarrow hlt =>
    obtain ⟨hle, hcount⟩ := hc.payload hstate
    rw [narrow_sub ((narrow_le_iff hpdu).mp hle).1 hcount] at hnarrow
    refine ⟨by simp [payloadGot, hstate], fun _ => ⟨hle, ?_⟩⟩
    simp only [payloadGot]; omega
  | payloadTask hstate hnarrow hfull htask => exact htask.fitting

theorem WriteServed.fitting {c : SocketConnection} {log : ConnectionLog} {count : Nat}
    {r : Served} (hc : Fitting handler pduSize c) (h : WriteServed c log count r) :
    Fitting handler pduSize r.connection := by
  cases h with
  | ignored hstate => exact hc
  | failed hstate hzero => exact hc
  | part hstate hlt => constructor <;> simp [hstate]
  | done hstate hfull => constructor <;> simp [SocketConnection.flush]

theorem Fitting.bufferSafe {c : SocketConnection} (hpdu : pduSize < 2 ^ 63)
    (hfit : PayloadsFit handler pduSize) (hsound : Sound handler pduSize c)
    (hc : Fitting handler pduSize c) : BufferSafe handler pduSize c := by
  refine ⟨hsound.headerLength, hsound.payloadLength, hsound.outputLength, ?_, ?_, ?_,
    hsound.headerLength ▸ hsound.headerCount, hsound.payloadCount, hsound.responseCount⟩
  · intro hstate
    have hhalf := (narrow_le_iff handler.headerSize_lt).mp hfit.1
    have hbound := handler.headerSize_lt
    simp only [headerRegion, Region.InBounds, ServerActiveSocket.recvLength, hsound.headerLength]
    rw [sizeSub_eq hsound.headerCount (by omega), narrow_sub hhalf.1 (hc.header hstate)]
    have := hc.header hstate
    omega
  · intro hstate
    obtain ⟨hle, hcount⟩ := hc.payload hstate
    have hhalf := (narrow_le_iff hpdu).mp hle
    simp only [payloadRegion, Region.InBounds, ServerActiveSocket.recvLength,
      hsound.payloadLength]
    rw [sizeSub_eq (hsound.payloadCount hstate) hsound.payloadSize_lt,
      narrow_sub hhalf.1 hcount]
    omega
  · intro hstate hresponse
    simp only [responseRegion, Region.InBounds, ServerActiveSocket.sendLength,
      hsound.outputLength]
    rw [sizeSub_eq hsound.responseCount hsound.responseSize_lt]
    have := hsound.responseCount
    omega

/-! ### Every header can be sent -/

theorem serveRead_byte {c : SocketConnection} (log : ConnectionLog) (byte : UInt8)
    (response : HandlerResponse) (hsound : Sound handler pduSize c)
    (hsmall : handler.getHeaderSize < 2 ^ 31) (hstate : c.state = .readingHeader)
    (hlt : c.totalInputHeaderReadSize < handler.getHeaderSize) :
    ∃ r, serveRead handler (.data [byte]) response c log = some r := by
  have hfits : (RecvReturn.data [byte]).fits c.headerRegion.length := by
    have hnarrow : narrow (handler.getHeaderSize - c.totalInputHeaderReadSize) =
        handler.getHeaderSize - c.totalInputHeaderReadSize := narrow_of_lt (by omega)
    simp only [RecvReturn.fits, headerRegion, ServerActiveSocket.recvLength, hsound.headerLength,
      sizeSub_eq hsound.headerCount (by omega : handler.getHeaderSize < 2 ^ 64), hnarrow,
      transferMax]
    simp only [List.isEmpty_cons, Bool.not_false, Bool.true_and, List.length_singleton,
      decide_eq_true_eq]
    omega
  exact ⟨_, by simp only [serveRead, hstate, if_pos hfits]; rfl⟩

theorem exists_header_part (pduSize : Nat) (socket : ServerActiveSocket) (response : HandlerResponse)
    (hsmall : handler.getHeaderSize < 2 ^ 31) {header : List UInt8}
    (hlength : header.length = handler.getHeaderSize) (count : Nat)
    (hcount : count < handler.getHeaderSize) :
    ∃ s, Reachable (step handler) (make socket handler pduSize, {}) s ∧
      s.1.state = .readingHeader ∧ s.1.totalInputHeaderReadSize = count ∧
      s.1.inputHeaderBuffer.take count = header.take count := by
  induction count with
  | zero => exact ⟨_, .refl _, rfl, rfl, by simp⟩
  | succ count ih =>
    obtain ⟨s, hreach, hstate, htotal, htake⟩ := ih (by omega)
    have hsound := reachable_sound hreach
    obtain ⟨r, hr⟩ := serveRead_byte s.2 header[count] response hsound hsmall hstate
      (by omega)
    have hstep : step handler s (.read (.data [header[count]]) response) =
        some (r.connection, r.log) := by simp [step, hr]
    refine ⟨_, hreach.tail hstep, ?_⟩
    cases serveRead_cases hsound hr with
    | ignored h => simp [hstate] at h
    | failed h hneg hnil => simp [RecvReturn.bytes] at hnil
    | headerPart h hnarrow hlt =>
      refine ⟨hstate, by simp [headerGot, htotal, RecvReturn.bytes], ?_⟩
      have hplace : (place s.1.inputHeaderBuffer count [header[count]]).take (count + 1) =
          s.1.inputHeaderBuffer.take count ++ [header[count]] :=
        take_place (by
          show count + [header[count]].length ≤ _
          rw [hsound.headerLength, List.length_singleton]; omega)
      simp only [headerGot, RecvReturn.bytes, htotal]
      rw [hplace, htake, List.take_append_getElem]
    | headerFull h hnarrow hfull hpayload =>
      simp only [RecvReturn.bytes, List.length_singleton] at hfull; omega
    | headerTask h hnarrow hfull hpayload htask =>
      simp only [RecvReturn.bytes, List.length_singleton] at hfull; omega
    | payloadPart h hnarrow hlt => simp [hstate] at h
    | payloadTask h hnarrow hfull htask => simp [hstate] at h

theorem serveRead_last {s : SocketConnection × ConnectionLog} {recv : RecvReturn}
    {response : HandlerResponse} {r : Served} {header : List UInt8}
    (hsound : Sound handler pduSize s.1) (hlength : header.length = handler.getHeaderSize)
    (hstate : s.1.state = .readingHeader)
    (htake : s.1.inputHeaderBuffer.take s.1.totalInputHeaderReadSize =
      header.take s.1.totalInputHeaderReadSize)
    (hbytes : recv.bytes = header.drop s.1.totalInputHeaderReadSize)
    (hok : 0 ≤ recv.result.bytes) (hpayload : handler.getPayloadSize header ≠ 0)
    (hr : serveRead handler recv response s.1 s.2 = some r) :
    r.connection.state = .readingPayload ∧ r.connection.totalInputPayloadReadSize = 0 ∧
      r.connection.payloadSize = handler.getPayloadSize header := by
  have hcount := hsound.headerCount
  have hrest : s.1.totalInputHeaderReadSize + recv.bytes.length = handler.getHeaderSize := by
    rw [hbytes, List.length_drop]; omega
  have hheader : (s.1.headerGot recv.bytes).inputHeaderBuffer = header := by
    have hroom : s.1.totalInputHeaderReadSize + recv.bytes.length ≤
        s.1.inputHeaderBuffer.length := by rw [hsound.headerLength]; omega
    have htaken := take_place hroom
    rw [hrest, List.take_of_length_le (by simp [hsound.headerLength]), htake, hbytes,
      List.take_append_drop] at htaken
    rw [headerGot, hbytes]
    exact htaken
  cases serveRead_cases hsound hr with
  | ignored h => simp [hstate] at h
  | failed h hneg hnil => omega
  | headerPart h hnarrow hlt => omega
  | headerFull h hnarrow hfull hne =>
    refine ⟨rfl, hsound.payloadFresh hstate, ?_⟩
    simp only [classified]
    rw [hheader]
  | headerTask h hnarrow hfull hzero htask =>
    rw [hheader] at hzero
    exact absurd hzero hpayload
  | payloadPart h hnarrow hlt => simp [hstate] at h
  | payloadTask h hnarrow hfull htask => simp [hstate] at h

/-- Every header of the right size can be received completely; if it announces a payload,
    the connection then waits for the first byte of it. -/
theorem exists_header_received (pduSize : Nat) (socket : ServerActiveSocket) (response : HandlerResponse)
    (hsmall : handler.getHeaderSize < 2 ^ 31) {header : List UInt8}
    (hlength : header.length = handler.getHeaderSize)
    (hpayload : handler.getPayloadSize header ≠ 0) :
    ∃ s, Reachable (step handler) (make socket handler pduSize, {}) s ∧
      s.1.state = .readingPayload ∧ s.1.totalInputPayloadReadSize = 0 ∧
      s.1.payloadSize = handler.getPayloadSize header := by
  by_cases hempty : handler.getHeaderSize = 0
  · -- a header of no bytes is complete after a read that delivers none
    obtain ⟨r, hr⟩ : ∃ r, serveRead handler .closed response
        (make socket handler pduSize : SocketConnection) {} = some r :=
      ⟨_, by simp only [serveRead, make, RecvReturn.fits, if_true]; rfl⟩
    have hreach : Reachable (step handler) (make socket handler pduSize, {})
        (r.connection, r.log) :=
      (Reachable.refl _).tail (a := .read .closed response) (by simp [step, hr])
    have hnil : header = [] := List.length_eq_zero_iff.mp (by omega)
    exact ⟨_, hreach, serveRead_last (s := (make socket handler pduSize, {}))
      (sound_make socket) hlength rfl (by simp [make]) (by simp [RecvReturn.bytes, hnil])
      (by simp [RecvReturn.result]) hpayload hr⟩
  · obtain ⟨s, hreach, hstate, htotal, htake⟩ := exists_header_part pduSize socket
      response hsmall hlength (handler.getHeaderSize - 1) (by omega)
    have hsound := reachable_sound hreach
    obtain ⟨r, hr⟩ := serveRead_byte s.2 header[handler.getHeaderSize - 1] response
      hsound hsmall hstate (by omega)
    have hstep : step handler s
        (.read (.data [header[handler.getHeaderSize - 1]]) response) =
          some (r.connection, r.log) := by simp [step, hr]
    refine ⟨(r.connection, r.log), hreach.tail hstep,
      serveRead_last hsound hlength hstate (by rw [htotal]; exact htake) ?_
        (by simp [RecvReturn.result, toInt32]) hpayload hr⟩
    have hlast : header.drop (handler.getHeaderSize - 1) =
        [header[handler.getHeaderSize - 1]] := by
      rw [List.drop_eq_getElem_cons (by omega), List.drop_of_length_le (by omega)]
    rw [htotal, hlast]
    rfl

/-- **Buffer ranges.**  The system calls of a connection stay inside their buffers in every
    state it can reach if and only if the announced lengths fit. -/
theorem reachable_bufferSafe_iff (socket : ServerActiveSocket) (handler : SocketRequestHandler)
    (configuration : SocketConfiguration) :
    (∀ s, Reachable (step handler) (make socket handler configuration.pduSize, {}) s →
        BufferSafe handler configuration.pduSize s.1) ↔
      PayloadsFit handler configuration.pduSize := by
  have hpdu := configuration.pduSize_lt
  have hbound := handler.headerSize_lt
  constructor
  · intro hsafe
    refine ⟨?_, fun hsmall header hlength => ?_⟩
    · have hinit := (hsafe _ (.refl _)).header rfl
      simp only [Region.InBounds, headerRegion, make, ServerActiveSocket.recvLength,
        List.length_replicate, Nat.zero_add] at hinit
      rwa [sizeSub_eq (Nat.zero_le _) (by omega), Nat.sub_zero] at hinit
    · by_cases hpayload : handler.getPayloadSize header = 0
      · rw [hpayload]
        exact Nat.zero_le _
      · obtain ⟨s, hreach, hstate, hzero, hsize⟩ :=
          exists_header_received configuration.pduSize socket
            .empty hsmall hlength hpayload
        have hpayloadSafe := (hsafe s hreach).payload hstate
        simp only [Region.InBounds, payloadRegion, ServerActiveSocket.recvLength, hzero, hsize,
          Nat.zero_add, (reachable_sound hreach).payloadLength] at hpayloadSafe
        rwa [sizeSub_eq (Nat.zero_le _) (handler.payloadSize_lt header),
          Nat.sub_zero] at hpayloadSafe
  · intro hfit s hreach
    refine Fitting.bufferSafe hpdu hfit (reachable_sound hreach) ?_
    refine (hreach.invariant
      (I := fun s => Sound handler configuration.pduSize s.1 ∧
        Fitting handler configuration.pduSize s.1)
      ⟨sound_make socket, fitting_make socket⟩ ?_).2
    rintro s event s' ⟨hsound, hfitting⟩ hstep
    rcases step_cases hsound hstep with
      ⟨recv, response, r, rfl, hr, rfl⟩ | ⟨send, r, rfl, hr, rfl⟩
    · exact ⟨hr.sound hsound, hr.fitting hpdu hfit hsound hfitting⟩
    · exact ⟨hr.sound hsound, hr.fitting hfitting⟩

def byteHandler : SocketRequestHandler where
  getHeaderSize := 1
  getPayloadSize header := (header.headD 0).toNat
  onModeClassified _ := .fast
  headerSize_lt := by decide
  payloadSize_lt header := Nat.lt_of_lt_of_le (header.headD 0).toNat_lt (by decide)

/-- One header byte 8 from the peer, and the next `recv` is given 8 bytes of a payload
    buffer that has 4. -/
theorem payload_overruns_pdu :
    ¬ ∀ s, Reachable (step byteHandler) (make {} byteHandler 4, {}) s →
      BufferSafe byteHandler 4 s.1 := by
  intro hsafe
  have hreach : Reachable (step byteHandler) (make {} byteHandler 4, {})
      ({ inputHeaderBuffer := [8], totalInputHeaderReadSize := 1, payloadSize := 8,
         inputPayloadBuffer := [0, 0, 0, 0], outputBuffer := [0, 0, 0, 0],
         context := { fd := 0 }, state := .readingPayload },
       { consumed := [8] }) :=
    ⟨[.read (.data [8]) .empty], by decide⟩
  have hpayload := (hsafe _ hreach).payload rfl
  revert hpayload
  decide

end SecuritySocket.SocketConnection
