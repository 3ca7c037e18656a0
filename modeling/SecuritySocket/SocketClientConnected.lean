import SecuritySocket.SocketClientConnect
import SecuritySocket.SocketClientStream

/-!
# `isConnected` beside `read`

Two looks at one connection.  `isConnected` peeks for one byte on the descriptor, which is
blocking again after `connect`, and takes whatever is not a byte for a close: the end of the
stream, a pending error, and a wait that comes to its timeout.  `read` polls the descriptor and
asks the transport, which on a TLS socket looks into the records.

A connection is in the system's hands and, with TLS, in those of the `SSL`: what is unread on the
descriptor, what the `SSL` holds back, and what the system knows of the peer.  With nothing
further arriving both looks are determined by it.
-/

namespace SecuritySocket.SocketClient

open FixedWidth Transition

/-- What is unread on the descriptor of a TLS client: some bytes of a record, or a record. -/
inductive TlsArrival where
  | part
  | ticket
  | data (bytes : List UInt8)
  | closeNotify
  | fatalAlert
deriving DecidableEq, Repr

/-- The bytes of a connection.  `held` are those of a record the `SSL` has decrypted, `shutdown` is
    its SSL_RECEIVED_SHUTDOWN. -/
inductive ByteStream where
  | plain (unread : List UInt8)
  | tls (unread : List TlsArrival) (held : List UInt8) (shutdown : Bool)
deriving DecidableEq, Repr

/-- A connected client: its bytes, whether the peer has closed, whether poll reports POLLHUP, and
    the pending error of the socket. -/
structure ConnectedSocket where
  stream : ByteStream
  ended : Bool := false
  hangup : Bool := false
  error : Option Errno := none
deriving DecidableEq, Repr

/-- The timeout of blocking calls, none if it is zero, and what `SSL_read` returns at the end of a
    stream that was not shut down, and for a fatal alert. -/
structure ReadSetting where
  readTimeout : Nat
  eofReturn : Int
  eofFailure : SslFailure
  alertReturn : Int
  alertFailure : SslFailure
  eofReturn_le : eofReturn ≤ 0
  eofReturn_ge : -2 ^ 31 ≤ eofReturn
  alertReturn_le : alertReturn ≤ 0
  alertReturn_ge : -2 ^ 31 ≤ alertReturn
  eof_unblocked : (createTLSResult eofReturn eofFailure).code ≠ .socketConnectionNeedToBeBlocked
  alert_unblocked :
    (createTLSResult alertReturn alertFailure).code ≠ .socketConnectionNeedToBeBlocked

/-- The first record that is not skipped: data, a close_notify or a fatal alert. -/
def pull : List TlsArrival → Option TlsArrival × List TlsArrival
  | [] => (none, [])
  | .part :: unread => pull unread
  | .ticket :: unread => pull unread
  | .data [] :: unread => pull unread
  | arrival :: unread => (some arrival, unread)

namespace ByteStream

def isTls : ByteStream → Bool
  | .plain _ => false
  | .tls _ _ _ => true

def queued : ByteStream → Bool
  | .plain unread => !unread.isEmpty
  | .tls unread _ _ => !unread.isEmpty

/-- The transport call of `read`, and the bytes it leaves; `none` if it waits for ever. -/
def read (e : ReadSetting) (size : Nat) (ended : Bool) :
    ByteStream → Option (ClientReadReturn × ByteStream)
  | .plain [] =>
    if ended then some (.plain .closed, .plain [])
    else if e.readTimeout = 0 then none
    else some (.plain (.error .ewouldblock), .plain [])
  | .plain (b :: unread) =>
    let length := min (narrow size) transferMax
    some (.plain (.data ((b :: unread).take length)), .plain ((b :: unread).drop length))
  | .tls unread held shutdown =>
    let length := (toInt32 size).toNat
    let noError := wantsRead
    let zeroReturn := { wantsRead with error := .zeroReturn }
    if shutdown then some (.tls [] 0 zeroReturn, .tls unread held true)
    else if held ≠ [] then
      some (.tls (held.take length) (held.take length).length noError,
        .tls unread (held.drop length) false)
    else
      match pull unread with
      | (some (.data bytes), unread) =>
        some (.tls (bytes.take length) (bytes.take length).length noError,
          .tls unread (bytes.drop length) false)
      | (some .closeNotify, unread) => some (.tls [] 0 zeroReturn, .tls unread [] true)
      | (some .fatalAlert, unread) =>
        some (.tls [] e.alertReturn e.alertFailure, .tls unread [] true)
      | (_, unread) =>
        if ended then some (.tls [] e.eofReturn e.eofFailure, .tls unread [] false)
        else if e.readTimeout = 0 then none
        else some (.tls [] (-1) wantsRead, .tls unread [] false)

/-- The transport call of `read` returns zero: with TLS, where the close was already taken, or where
    nothing is held back and the next record is a close, or there is none. -/
def AtClose (e : ReadSetting) (ended : Bool) : ByteStream → Prop
  | .plain unread => unread = [] ∧ ended = true
  | .tls unread held shutdown =>
    shutdown = true ∨ held = [] ∧
      ((pull unread).1 = some .closeNotify ∨
        (pull unread).1 = some .fatalAlert ∧ e.alertReturn = 0 ∨
          (pull unread).1 = none ∧ ended = true ∧ e.eofReturn = 0)

end ByteStream

namespace ConnectedSocket

/-- `recv` of one byte with MSG_PEEK; a pending error is reported once. -/
def peek (e : ReadSetting) (c : ConnectedSocket) : Option (Int × ConnectedSocket) :=
  if c.stream.queued then some (1, c)
  else if c.error.isSome then some (-1, { c with error := none })
  else if c.ended then some (0, c)
  else if e.readTimeout = 0 then none
  else some (-1, c)

def isConnected (e : ReadSetting) (c : ConnectedSocket) : Option (SocketResult × ConnectedSocket) :=
  (c.peek e).map fun (bytesRead, c) =>
    (if bytesRead > 0 then { code := .success } else { code := .socketClosed }, c)

def poll (c : ConnectedSocket) : PollReturn :=
  let revents : Revents :=
    { pollin := c.stream.queued || c.ended, pollerr := c.error.isSome, pollhup := c.hangup }
  if revents.isZero then .timeout else .ready revents c.error

/-- One iteration of `read`; the poll takes the pending error.  Where the transport is not called,
    the return that stands in its place is not looked at. -/
def round (e : ReadSetting) (size : Nat) (c : ConnectedSocket) :
    Option (ReadRound × ConnectedSocket) :=
  if (SocketEventListener.wait c.poll).code = .success then
    (c.stream.read e size c.ended).map fun (transport, stream) =>
      (⟨c.poll, transport⟩, { c with stream := stream, error := none })
  else some (⟨c.poll, .plain .closed⟩, { c with error := none })

/-- The loop of `read` from these locals on, with nothing further arriving. -/
def readFrom (e : ReadSetting) (maxRetries size : Nat) :
    Nat → ReadLoop → ConnectedSocket → Option (SocketResult × ConnectedSocket)
  | 0, l, c => if l.running maxRetries then none else some (l.result, c)
  | fuel + 1, l, c =>
    if l.running maxRetries then
      match c.round e size with
      | none => none
      | some (round, c') =>
        (readStep c.stream.isTls maxRetries size l round).bind fun l' =>
          readFrom e maxRetries size fuel l' c'
    else some (l.result, c)

def read (e : ReadSetting) (maxRetries size : Nat) (c : ConnectedSocket) :
    Option (SocketResult × ConnectedSocket) :=
  readFrom e maxRetries size maxRetries {} c

/-- `read` returns that the socket is closed. -/
def ReadsClosed (e : ReadSetting) (maxRetries size : Nat) (c : ConnectedSocket) : Prop :=
  ∃ result c', c.read e maxRetries size = some (result, c') ∧ result.code = .socketClosed

/-- Nothing has arrived that is not taken, and nobody has closed. -/
def idle (c : ConnectedSocket) : Bool :=
  !c.stream.queued && !c.ended && c.error.isNone &&
    match c.stream with
    | .plain _ => true
    | .tls _ held shutdown => held.isEmpty && !shutdown

/-- `isConnected` returns, and says that the socket is closed exactly if `read` would; on an idle
    connection it returns success; and it takes none of the bytes. -/
structure Agrees (e : ReadSetting) (maxRetries size : Nat) (c : ConnectedSocket) : Prop where
  closed : ∃ result c', c.isConnected e = some (result, c') ∧
    (result.code = .socketClosed ↔ c.ReadsClosed e maxRetries size)
  idle : c.idle = true → ∃ result c', c.isConnected e = some (result, c') ∧ result.code = .success
  stream : ∀ result c', c.isConnected e = some (result, c') → c'.stream = c.stream

/-- What a `read` finds first is a close: no error is pending, and poll reports a hangup, or the
    descriptor is readable and the transport returns zero. -/
def Closes (e : ReadSetting) (c : ConnectedSocket) : Prop :=
  c.error = none ∧ (c.hangup = true ∨
    (c.stream.queued || c.ended) = true ∧ c.stream.AtClose e c.ended)

/-- `isConnected` tells what a `read` finds: something is unread on the descriptor, and it is not
    read as a close; or nothing is, and it is. -/
def Tells (e : ReadSetting) (c : ConnectedSocket) : Prop :=
  if c.stream.queued then ¬ c.Closes e else c.Closes e

/-- What happens to a connection, and what is done with it. -/
inductive Label where
  | arrive (bytes : List UInt8)
  | record (arrival : TlsArrival)
  | finish
  | hangUp
  | reset (error : Errno)
  | read (size : Nat)
  | isConnected
deriving DecidableEq, Repr

def connected (tls : Bool) : ConnectedSocket where
  stream := if tls then .tls [] [] false else .plain []

/-- One step.  A peer that has closed sends nothing more. -/
def step (e : ReadSetting) (maxRetries : Nat) (c : ConnectedSocket) :
    Label → Option ConnectedSocket
  | .arrive bytes =>
    match c.stream with
    | .plain unread =>
      if c.ended then none else some { c with stream := .plain (unread ++ bytes) }
    | .tls _ _ _ => none
  | .record arrival =>
    match c.stream with
    | .plain _ => none
    | .tls unread held shutdown =>
      if c.ended then none
      else some { c with stream := .tls (unread ++ [arrival]) held shutdown }
  | .finish => some { c with ended := true }
  | .hangUp => some { c with ended := true, hangup := true }
  | .reset error => some { c with ended := true, hangup := true, error := some error }
  | .read size => (c.read e maxRetries size).map (·.2)
  | .isConnected => (c.isConnected e).map (·.2)

end ConnectedSocket

variable {e : ReadSetting} {maxRetries size : Nat}

/-! ### The transport call -/

/-- What `pull` finds is no record to be skipped, and if it finds none then nothing is left. -/
theorem pull_cases (unread : List TlsArrival) :
    (∃ b bytes, (pull unread).1 = some (.data (b :: bytes))) ∨
      (pull unread).1 = some .closeNotify ∨ (pull unread).1 = some .fatalAlert ∨
        (pull unread).1 = none ∧ (pull unread).2 = [] := by
  induction unread with
  | nil => exact .inr (.inr (.inr ⟨rfl, rfl⟩))
  | cons arrival unread ih =>
    cases arrival with
    | part => exact ih
    | ticket => exact ih
    | data bytes =>
      cases bytes with
      | nil => exact ih
      | cons b bytes => exact .inl ⟨b, bytes, rfl⟩
    | closeNotify => exact .inr (.inl rfl)
    | fatalAlert => exact .inr (.inr (.inl rfl))

namespace ByteStream

/-- What the transport call can come to, under a size an `int32_t` can hold. -/
inductive ReadMove (e : ReadSetting) (size : Nat) (ended : Bool) (s : ByteStream) :
    ClientReadReturn → ByteStream → Prop where
  | taken {r : ClientReadReturn} {s' : ByteStream} (hfits : r.fits s.isTls size = true)
      (hsome : r.bytes ≠ []) (hopen : ¬ s.AtClose e ended) : ReadMove e size ended s r s'
  | zero {r : ClientReadReturn} {s' : ByteStream} (hfits : r.fits s.isTls size = true)
      (hzero : r.isZero = true) (hclose : s.AtClose e ended) : ReadMove e size ended s r s'
  | failed {r : ClientReadReturn} {s' : ByteStream} (hfits : r.fits s.isTls size = true)
      (hzero : r.isZero = false) (hopen : ¬ s.AtClose e ended)
      (hcode : (ClientActiveSocket.read r).code ≠ .socketConnectionNeedToBeBlocked) :
      ReadMove e size ended s r s'
  | waited {r : ClientReadReturn} {s' : ByteStream} (hfits : r.fits s.isTls size = true)
      (hzero : r.isZero = false) (hopen : ¬ s.AtClose e ended) (hended : ended = false)
      (hleft : s'.queued = false) : ReadMove e size ended s r s'

theorem fits_front {bytes : List UInt8} (hsome : bytes ≠ []) (hpos : 1 ≤ size)
    (hlt : size < 2 ^ 31) :
    (ClientReadReturn.plain (.data (bytes.take (min size transferMax)))).fits false size = true ∧
      (ClientReadReturn.tls (bytes.take size) (bytes.take size).length wantsRead).fits true size =
        true ∧ bytes.take (min size transferMax) ≠ [] ∧ bytes.take size ≠ [] := by
  have hrecv : bytes.take (min size transferMax) ≠ [] := by
    rw [ne_eq, List.take_eq_nil_iff, transferMax]
    rintro (hzero | hnil)
    · omega
    · exact hsome hnil
  have hread : bytes.take size ≠ [] := by
    rw [ne_eq, List.take_eq_nil_iff]
    rintro (hzero | hnil)
    · omega
    · exact hsome hnil
  have hlength : (bytes.take size).length ≤ size := by
    rw [List.length_take]
    omega
  refine ⟨?_, ?_, hrecv, hread⟩
  · simp only [ClientReadReturn.fits, RecvReturn.fits, narrow_of_lt hlt, Bool.not_false,
      Bool.true_and, Bool.and_eq_true, Bool.not_eq_true', List.isEmpty_eq_false_iff,
      decide_eq_true_eq, List.length_take]
    exact ⟨hrecv, by omega⟩
  · simp only [ClientReadReturn.fits, toInt32_of_lt hlt, List.isEmpty_eq_false_iff.mpr hread,
      Bool.false_eq_true, if_false, beq_self_eq_true, Bool.true_and, Bool.and_eq_true,
      decide_eq_true_eq]
    omega

theorem fits_none {ret : Int} {failure : SslFailure} (hle : ret ≤ 0) (hge : -2 ^ 31 ≤ ret) :
    (ClientReadReturn.tls [] ret failure).fits true size = true := by
  simp only [ClientReadReturn.fits, List.isEmpty_nil, if_true, Bool.true_and, Bool.and_eq_true,
    decide_eq_true_eq]
  exact ⟨hge, hle⟩

theorem read_plain {ended : Bool} {unread : List UInt8} {r : ClientReadReturn} {s' : ByteStream}
    (hpos : 1 ≤ size) (hlt : size < 2 ^ 31)
    (h : (ByteStream.plain unread).read e size ended = some (r, s')) :
    ReadMove e size ended (.plain unread) r s' := by
  cases unread with
  | nil =>
    simp only [read] at h
    split at h
    · rename_i hended
      cases h
      exact .zero rfl rfl ⟨rfl, hended⟩
    · rename_i hended
      split at h
      · cases h
      · cases h
        exact .waited rfl rfl (fun hclose => hended hclose.2) (Bool.eq_false_iff.mpr hended) rfl
  | cons b unread =>
    obtain ⟨hfits, -, hsome, -⟩ := fits_front (List.cons_ne_nil b unread) hpos hlt
    simp only [read, narrow_of_lt hlt] at h
    cases h
    exact .taken hfits hsome fun hclose => List.cons_ne_nil _ _ hclose.1

theorem read_pull {ended : Bool} {unread : List TlsArrival} {r : ClientReadReturn}
    {s' : ByteStream} (hpos : 1 ≤ size) (hlt : size < 2 ^ 31)
    (h : (ByteStream.tls unread [] false).read e size ended = some (r, s')) :
    ReadMove e size ended (.tls unread [] false) r s' := by
  simp only [read, Bool.false_eq_true, if_false, ne_eq, not_true_eq_false, toInt32_of_lt hlt,
    Int.toNat_natCast] at h
  have hcases := pull_cases unread
  cases hpull : pull unread with
  | mk found left =>
    rw [hpull] at h hcases
    rcases hcases with ⟨b, bytes, rfl⟩ | rfl | rfl | ⟨rfl, rfl⟩
    · obtain ⟨-, hfits, -, hsome⟩ := fits_front (List.cons_ne_nil b bytes) hpos hlt
      cases h
      refine .taken hfits hsome ?_
      simp [AtClose, hpull]
    · cases h
      refine .zero (fits_none (Int.le_refl 0) (by decide)) rfl ?_
      simp [AtClose, hpull]
    · cases h
      by_cases hzero : e.alertReturn = 0
      · refine .zero (fits_none e.alertReturn_le e.alertReturn_ge) ?_ ?_
        · simp [ClientReadReturn.isZero, hzero]
        · simp [AtClose, hpull, hzero]
      · refine .failed (fits_none e.alertReturn_le e.alertReturn_ge) ?_ ?_ e.alert_unblocked
        · simp [ClientReadReturn.isZero, hzero]
        · simp [AtClose, hpull, hzero]
    · dsimp only at h
      split at h
      · rename_i hended
        cases h
        by_cases hzero : e.eofReturn = 0
        · refine .zero (fits_none e.eofReturn_le e.eofReturn_ge) ?_ ?_
          · simp [ClientReadReturn.isZero, hzero]
          · simp [AtClose, hpull, hzero, hended]
        · refine .failed (fits_none e.eofReturn_le e.eofReturn_ge) ?_ ?_ e.eof_unblocked
          · simp [ClientReadReturn.isZero, hzero]
          · simp [AtClose, hpull, hzero]
      · rename_i hended
        split at h
        · cases h
        · cases h
          refine .waited (fits_none (by decide) (by decide)) rfl ?_ (Bool.eq_false_iff.mpr hended)
            rfl
          simp [AtClose, hpull, hended]

/-- **The transport call.** -/
theorem read_cases {ended : Bool} {s s' : ByteStream} {r : ClientReadReturn} (hpos : 1 ≤ size)
    (hlt : size < 2 ^ 31) (h : s.read e size ended = some (r, s')) :
    ReadMove e size ended s r s' := by
  cases s with
  | plain unread => exact read_plain hpos hlt h
  | tls unread held shutdown =>
    cases shutdown with
    | true =>
      simp only [read, if_true] at h
      cases h
      exact .zero (fits_none (Int.le_refl 0) (by decide)) rfl (.inl rfl)
    | false =>
      cases held with
      | nil => exact read_pull hpos hlt h
      | cons b held =>
        obtain ⟨-, hfits, -, hsome⟩ := fits_front (List.cons_ne_nil b held) hpos hlt
        simp only [read, Bool.false_eq_true, if_false, ne_eq, reduceCtorEq, not_false_eq_true,
          if_true, toInt32_of_lt hlt, Int.toNat_natCast] at h
        cases h
        refine .taken hfits hsome ?_
        simp [AtClose]

theorem read_isSome {ended : Bool} {s : ByteStream} (hclose : s.AtClose e ended) :
    ∃ r s', s.read e size ended = some (r, s') := by
  cases s with
  | plain unread =>
    obtain ⟨rfl, hended⟩ := hclose
    exact ⟨.plain .closed, .plain [], by rw [read, if_pos hended]⟩
  | tls unread held shutdown =>
    simp only [read]
    rcases hclose with rfl | ⟨rfl, hfound⟩
    · exact ⟨_, _, rfl⟩
    · cases shutdown with
      | true => exact ⟨_, _, rfl⟩
      | false =>
        cases hpull : pull unread with
        | mk found left =>
          rw [hpull] at hfound
          rcases hfound with rfl | ⟨rfl, -⟩ | ⟨rfl, hended, -⟩
          · exact ⟨_, _, rfl⟩
          · exact ⟨_, _, rfl⟩
          · exact ⟨_, _, if_pos hended⟩

theorem ReadMove.fits {ended : Bool} {s s' : ByteStream} {r : ClientReadReturn}
    (h : ReadMove e size ended s r s') : r.fits s.isTls size = true := by
  cases h <;> assumption

theorem ReadMove.isZero_iff {ended : Bool} {s s' : ByteStream} {r : ClientReadReturn}
    (h : ReadMove e size ended s r s') : r.isZero = true ↔ s.AtClose e ended := by
  cases h with
  | taken hfits hsome hopen =>
    constructor
    · intro hzero
      exact absurd (ClientReadReturn.bytes_eq_nil hfits hzero) hsome
    · intro hclose
      exact absurd hclose hopen
  | zero hfits hzero hclose => exact ⟨fun _ => hclose, fun _ => hzero⟩
  | failed hfits hzero hopen hcode => simp [hzero, hopen]
  | waited hfits hzero hopen hended hleft => simp [hzero, hopen]

end ByteStream

/-! ### One iteration of `read` -/

theorem goesOn_cases {tls : Bool} {l l' : ReadLoop} {round : ReadRound}
    (h : readStep tls maxRetries size l round = some l') (hrunning : l'.running maxRetries = true) :
    round.poll = .timeout ∨ round.reads = true ∧
      (ClientActiveSocket.read round.transport).code = .socketConnectionNeedToBeBlocked := by
  cases readStep_cases h with
  | timeout hstarts hcode => exact .inl (SocketEventListener.wait_code_eq_timeout.mp hcode)
  | transport hreads hfits =>
    refine .inr ⟨hreads, ?_⟩
    unfold ReadLoop.transport at hrunning
    dsimp only at hrunning
    split at hrunning
    · simp [ReadLoop.running] at hrunning
    · split at hrunning
      · rename_i htimeout
        exact absurd htimeout (ClientActiveSocket.read_code_ne_timeout _)
      · rename_i hblocked
        exact hblocked
      · simp [ReadLoop.running] at hrunning
  | failed htimeout hreads => simp [ReadLoop.running] at hrunning

namespace ConnectedSocket

variable {c c' : ConnectedSocket} {round : ReadRound}

def ready (c : ConnectedSocket) : Bool :=
  c.error.isNone && !c.hangup && (c.stream.queued || c.ended)

theorem poll_hangsUp : c.poll.hangsUp = true ↔ c.error = none ∧ c.hangup = true := by
  unfold poll
  cases herror : c.error <;> cases hhangup : c.hangup <;>
    cases hreadable : c.stream.queued || c.ended <;>
    simp [Revents.isZero, Revents.hangup, PollReturn.hangsUp]

theorem wait_poll : (SocketEventListener.wait c.poll).code = .success ↔ c.ready = true := by
  unfold poll ready
  cases herror : c.error with
  | some error =>
    simp [Revents.isZero, Revents.hangup, SocketEventListener.wait,
      createResultFromSocketError_code_ne_success]
  | none =>
    cases hhangup : c.hangup <;> cases hreadable : c.stream.queued || c.ended <;>
      simp [Revents.isZero, Revents.hangup, SocketEventListener.wait]

theorem error_of_timeout (h : c.poll = .timeout) : c.error = none := by
  by_contra herror
  have hsome : c.error.isSome = true := Option.isSome_iff_ne_none.mpr herror
  simp [poll, Revents.isZero, Revents.hangup, hsome] at h

theorem round_peer (h : c.round e size = some (round, c')) :
    round.poll = c.poll ∧ c'.ended = c.ended ∧ c'.hangup = c.hangup ∧ c'.error = none := by
  unfold ConnectedSocket.round at h
  split at h
  · obtain ⟨⟨r, s'⟩, -, hsame⟩ := Option.map_eq_some_iff.mp h
    cases hsame
    exact ⟨rfl, rfl, rfl, rfl⟩
  · cases h
    exact ⟨rfl, rfl, rfl, rfl⟩

structure Round (e : ReadSetting) (size : Nat) (c : ConnectedSocket) (round : ReadRound)
    (c' : ConnectedSocket) : Prop where
  poll : round.poll = c.poll
  reads : round.reads = c.ready
  ended : c'.ended = c.ended
  hangup : c'.hangup = c.hangup
  transport : c.ready = true →
    ByteStream.ReadMove e size c.ended c.stream round.transport c'.stream
  stream : c.ready = false → c'.stream = c.stream

theorem round_cases (hpos : 1 ≤ size) (hlt : size < 2 ^ 31)
    (h : c.round e size = some (round, c')) : Round e size c round c' := by
  obtain ⟨hpoll, hended, hhangup, -⟩ := round_peer h
  have hreads : round.reads = c.ready := by
    rw [Bool.eq_iff_iff, ← wait_poll, ReadRound.reads, hpoll, beq_iff_eq]
  unfold ConnectedSocket.round at h
  split at h
  · rename_i hready
    obtain ⟨⟨r, s'⟩, hread, hsame⟩ := Option.map_eq_some_iff.mp h
    cases hsame
    refine ⟨hpoll, hreads, hended, hhangup, fun _ => ByteStream.read_cases hpos hlt hread, ?_⟩
    intro hnot
    rw [wait_poll.mp hready] at hnot
    cases hnot
  · rename_i hnot
    cases h
    refine ⟨hpoll, hreads, hended, hhangup, ?_, fun _ => rfl⟩
    intro hready
    exact absurd (wait_poll.mpr hready) hnot

/-- An iteration meets a close exactly where it finds one first. -/
theorem Round.closes_iff (h : Round e size c round c') : round.closes = true ↔ c.Closes e := by
  simp only [ReadRound.closes, Bool.or_eq_true, Bool.and_eq_true, h.poll, h.reads, poll_hangsUp]
  by_cases hready : c.ready = true
  · rw [(h.transport hready).isZero_iff]
    simp only [ready, Bool.and_eq_true, Option.isNone_iff_eq_none, Bool.not_eq_true'] at hready
    simp [Closes, ready, hready]
  · constructor
    · rintro (⟨herror, hhangup⟩ | ⟨hnow, -⟩)
      · exact ⟨herror, .inl hhangup⟩
      · exact absurd hnow hready
    · rintro ⟨herror, hhangup | ⟨hreadable, -⟩⟩
      · exact .inl ⟨herror, hhangup⟩
      · refine .inl ⟨herror, ?_⟩
        by_contra hhangup
        apply hready
        rw [Bool.not_eq_true] at hhangup
        simp [ready, herror, hhangup, hreadable]

theorem exists_round (h : c.Closes e) : ∃ round c', c.round e size = some (round, c') := by
  unfold ConnectedSocket.round
  split
  · rename_i hready
    rw [wait_poll, ready, Bool.and_eq_true, Bool.and_eq_true, Bool.not_eq_true'] at hready
    obtain ⟨-, hhangup | ⟨-, hclose⟩⟩ := h
    · rw [hready.1.2] at hhangup
      cases hhangup
    · obtain ⟨r, s', hread⟩ : ∃ r s', c.stream.read e size c.ended = some (r, s') :=
        ByteStream.read_isSome hclose
      rw [hread]
      exact ⟨_, _, rfl⟩
  · exact ⟨_, _, rfl⟩

/-- An iteration that finds no close and after which the loop goes on leaves none to be found. -/
theorem Round.not_closes {l l' : ReadLoop} (hlt : size < 2 ^ 31) (h : Round e size c round c')
    (hopen : ¬ c.Closes e) (hstep : readStep c.stream.isTls maxRetries size l round = some l')
    (hrunning : l'.running maxRetries = true) : ¬ c'.Closes e := by
  rintro ⟨-, hclose⟩
  rw [h.ended, h.hangup] at hclose
  rcases goesOn_cases hstep hrunning with htimeout | ⟨hreads, hblocked⟩
  · rw [h.poll] at htimeout
    have hready : c.ready = false := by
      rw [Bool.eq_false_iff, ne_eq, ← wait_poll, htimeout]
      simp [SocketEventListener.wait]
    rw [h.stream hready] at hclose
    exact hopen ⟨error_of_timeout htimeout, hclose⟩
  · have hready : c.ready = true := h.reads ▸ hreads
    have hhangup : c.hangup = false := by
      simp only [ready, Bool.and_eq_true, Bool.not_eq_true'] at hready
      exact hready.1.2
    cases h.transport hready with
    | taken hfits hsome _ =>
      rcases ClientActiveSocket.read_cases hlt hfits with ⟨hcode, -⟩ | ⟨-, hnone⟩
      · rw [hcode] at hblocked
        cases hblocked
      · exact hsome hnone
    | zero hfits hzero hfound =>
      have hcloses : round.closes = true := by simp [ReadRound.closes, hreads, hzero]
      exact hopen (h.closes_iff.mp hcloses)
    | failed hfits hzero _ hcode => exact hcode hblocked
    | waited hfits hzero _ hended hleft =>
      simp [hhangup, hended, hleft] at hclose

/-! ### The loop of `read` -/

theorem readFrom_over {l : ReadLoop} (hover : l.running maxRetries = false) (fuel : Nat) :
    readFrom e maxRetries size fuel l c = some (l.result, c) := by
  cases fuel <;> simp [readFrom, hover]

theorem readFrom_running {l : ReadLoop} (hrunning : l.running maxRetries = true) {fuel : Nat} :
    readFrom e maxRetries size (fuel + 1) l c =
      (c.round e size).bind fun p =>
        (readStep c.stream.isTls maxRetries size l p.1).bind fun l' =>
          readFrom e maxRetries size fuel l' p.2 := by
  simp only [readFrom, hrunning, if_true]
  cases c.round e size <;> rfl

theorem readFrom_of_closes (hpos : 1 ≤ size) (hlt : size < 2 ^ 31) (h : c.Closes e)
    {l : ReadLoop} (hrunning : l.running maxRetries = true) (fuel : Nat) :
    ∃ result c', readFrom e maxRetries size (fuel + 1) l c = some (result, c') ∧
      result.code = .socketClosed := by
  obtain ⟨round, c', hround⟩ : ∃ round c', c.round e size = some (round, c') := exists_round h
  have hcase := round_cases hpos hlt hround
  have hfits : round.reads = true → round.transport.fits c.stream.isTls size = true := fun hreads =>
    (hcase.transport (hcase.reads ▸ hreads)).fits
  obtain ⟨l', hl'⟩ := @readStep_isSome c.stream.isTls _ _ _ _ hrunning hfits
  obtain ⟨hcode, hover⟩ := readStep_closed hl'
  have hcloses : round.closes = true := hcase.closes_iff.mpr h
  refine ⟨l'.result, c', ?_, hcode.mpr hcloses⟩
  rw [readFrom_running hrunning, hround, Option.bind_some, hl', Option.bind_some,
    readFrom_over (hover hcloses)]

/-- **Rule.**  What every iteration keeps holds of the locals and the connection that `read` returns
    with.  By induction on the iterations that are left. -/
theorem readFrom_invariant {I : ReadLoop → ConnectedSocket → Prop}
    (hkept : ∀ {l : ReadLoop} {c : ConnectedSocket} {round : ReadRound} {c' : ConnectedSocket}
      {l' : ReadLoop}, I l c → l.running maxRetries = true → c.round e size = some (round, c') →
        readStep c.stream.isTls maxRetries size l round = some l' → I l' c')
    {fuel : Nat} {l : ReadLoop} (hI : I l c) {result : SocketResult} {c' : ConnectedSocket}
    (h : readFrom e maxRetries size fuel l c = some (result, c')) :
    ∃ l', I l' c' ∧ l'.result = result := by
  induction fuel generalizing l c with
  | zero =>
    simp only [readFrom] at h
    split at h
    · cases h
    · cases h
      exact ⟨l, hI, rfl⟩
  | succ fuel ih =>
    cases hrunning : l.running maxRetries with
    | false =>
      rw [readFrom_over hrunning] at h
      cases h
      exact ⟨l, hI, rfl⟩
    | true =>
      rw [readFrom_running hrunning] at h
      obtain ⟨⟨round, c₁⟩, hround, hrest⟩ := Option.bind_eq_some_iff.mp h
      obtain ⟨l', hl', hafter⟩ := Option.bind_eq_some_iff.mp hrest
      exact ih (hkept hI hrunning hround hl') hafter

/-- Where it does not, no iteration does: as long as the loop goes on there is no close to be
    found. -/
theorem readFrom_of_not_closes (hpos : 1 ≤ size) (hlt : size < 2 ^ 31) {fuel : Nat} {l : ReadLoop}
    (hopen : ¬ c.Closes e) (hcode : l.result.code ≠ .socketClosed) {result : SocketResult}
    {c' : ConnectedSocket} (h : readFrom e maxRetries size fuel l c = some (result, c')) :
    result.code ≠ .socketClosed := by
  have hend := readFrom_invariant (I := fun l c =>
    (l.running maxRetries = true → ¬ c.Closes e) ∧ l.result.code ≠ .socketClosed) ?_
    ⟨fun _ => hopen, hcode⟩ h
  · obtain ⟨l', ⟨-, hcode'⟩, rfl⟩ := hend
    exact hcode'
  · rintro l c round c' l' ⟨hopen, -⟩ hrunning hround hl'
    have hcase := round_cases hpos hlt hround
    refine ⟨fun hgoes => hcase.not_closes hlt (hopen hrunning) hl' hgoes, ?_⟩
    rw [ne_eq, (readStep_closed hl').1, hcase.closes_iff]
    exact hopen hrunning

/-- `read` returns that the socket is closed exactly where a close is what it finds first. -/
theorem readsClosed_iff (hretries : 1 ≤ maxRetries) (hpos : 1 ≤ size) (hlt : size < 2 ^ 31) :
    c.ReadsClosed e maxRetries size ↔ c.Closes e := by
  obtain ⟨left, rfl⟩ : ∃ left, maxRetries = left + 1 := ⟨maxRetries - 1, by omega⟩
  constructor
  · rintro ⟨result, c', hread, hcode⟩
    by_contra hopen
    exact readFrom_of_not_closes hpos hlt hopen (by simp) hread hcode
  · intro h
    exact readFrom_of_closes hpos hlt h (ReadLoop.running_start hretries) left

/-! ### Both looks -/

/-- What `isConnected` can come to. -/
inductive PeekMove (e : ReadSetting) (c : ConnectedSocket) : Prop where
  | byte (hqueued : c.stream.queued = true) (h : c.isConnected e = some ({ code := .success }, c))
  | atEnd {c' : ConnectedSocket} (hqueued : c.stream.queued = false)
      (hover : c.error ≠ none ∨ c.ended = true) (hsame : c' = { c with error := c'.error })
      (h : c.isConnected e = some ({ code := .socketClosed }, c'))
  | silent (hqueued : c.stream.queued = false) (hended : c.ended = false)
      (h : ∀ result c', c.isConnected e = some (result, c') → result.code = .socketClosed ∧ c' = c)

theorem isConnected_cases (e : ReadSetting) (c : ConnectedSocket) : PeekMove e c := by
  by_cases hqueued : c.stream.queued = true
  · exact .byte hqueued (by simp [isConnected, peek, hqueued])
  · rw [Bool.not_eq_true] at hqueued
    by_cases herror : c.error.isSome = true
    · refine @PeekMove.atEnd _ _ { c with error := none } hqueued ?_ rfl ?_
      · exact .inl (Option.isSome_iff_ne_none.mp herror)
      · simp [isConnected, peek, hqueued, herror]
    · by_cases hended : c.ended = true
      · refine @PeekMove.atEnd _ _ c hqueued (.inr hended) rfl ?_
        simp [isConnected, peek, hqueued, herror, hended]
      · refine .silent hqueued (Bool.eq_false_iff.mpr hended) fun result c' h => ?_
        simp only [isConnected, peek, hqueued, herror, hended, Bool.false_eq_true, if_false] at h
        split at h
        · cases h
        · cases h
          exact ⟨rfl, rfl⟩

/-- A hangup is reported only of a peer that has closed. -/
def Sound (c : ConnectedSocket) : Prop := c.hangup = true → c.ended = true

/-- Where `isConnected` returns and the connection is not idle, it is only about the close. -/
theorem agrees_iff_of_returns {result : SocketResult} (h : c.isConnected e = some (result, c'))
    (hstream : c'.stream = c.stream) (hbusy : c.idle = false) : c.Agrees e maxRetries size ↔
      (result.code = .socketClosed ↔ c.ReadsClosed e maxRetries size) := by
  constructor
  · rintro ⟨⟨result', c₁, hsame, hiff⟩, -, -⟩
    rw [h] at hsame
    cases hsame
    exact hiff
  · intro hiff
    refine ⟨⟨result, c', h, hiff⟩, fun hidle => ?_, fun result' c₁ hsame => ?_⟩
    · rw [hbusy] at hidle
      cases hidle
    · rw [h] at hsame
      cases hsame
      exact hstream

theorem agrees_iff_tells (hsound : c.Sound) (hretries : 1 ≤ maxRetries) (hpos : 1 ≤ size)
    (hlt : size < 2 ^ 31) : c.Agrees e maxRetries size ↔ c.Tells e := by
  have hreads := readsClosed_iff (e := e) (c := c) hretries hpos hlt
  cases isConnected_cases e c with
  | byte hqueued hpeek =>
    have htells : c.Tells e ↔ ¬ c.Closes e := by rw [Tells, if_pos hqueued]
    have hbusy : c.idle = false := by simp [idle, hqueued]
    rw [htells, ← hreads, agrees_iff_of_returns hpeek rfl hbusy]
    simp
  | @atEnd c₁ hqueued hover hsame hpeek =>
    have htells : c.Tells e ↔ c.Closes e := by rw [Tells, if_neg (by simp [hqueued])]
    have hbusy : c.idle = false := by
      rcases hover with herror | hended
      · simp [idle, herror]
      · simp [idle, hended]
    have hstream : c₁.stream = c.stream := by rw [hsame]
    rw [htells, ← hreads, agrees_iff_of_returns hpeek hstream hbusy]
    simp
  | silent hqueued hended hpeek =>
    have hopen : ¬ c.Closes e := by
      rintro ⟨-, hhangup | ⟨hreadable, -⟩⟩
      · rw [hsound hhangup] at hended
        cases hended
      · simp [hqueued, hended] at hreadable
    have htells : c.Tells e ↔ c.Closes e := by rw [Tells, if_neg (by simp [hqueued])]
    rw [htells]
    constructor
    · rintro ⟨⟨result, c', h, hiff⟩, -, -⟩
      exact hreads.mp (hiff.mp (hpeek result c' h).1)
    · intro hclosed
      exact absurd hclosed hopen

/-! ### Runs -/

theorem sound_readFrom (hsound : c.Sound) {fuel : Nat} {l : ReadLoop} {result : SocketResult}
    {c' : ConnectedSocket} (h : readFrom e maxRetries size fuel l c = some (result, c')) :
    c'.Sound := by
  have hend := readFrom_invariant (I := fun _ c => c.Sound) ?_ hsound h
  · obtain ⟨-, hsound', -⟩ := hend
    exact hsound'
  · intro l c round c' l' hsound _ hround _ hnow
    obtain ⟨-, hended, hhangup, -⟩ := round_peer hround
    rw [hended]
    exact hsound (hhangup ▸ hnow)

theorem Sound.step (hsound : c.Sound) {label : Label}
    (hstep : step e maxRetries c label = some c') : c'.Sound := by
  cases label with
  | arrive bytes =>
    simp only [ConnectedSocket.step] at hstep
    split at hstep
    · split at hstep
      · cases hstep
      · cases hstep
        exact hsound
    · cases hstep
  | record arrival =>
    simp only [ConnectedSocket.step] at hstep
    split at hstep
    · cases hstep
    · split at hstep
      · cases hstep
      · cases hstep
        exact hsound
  | finish =>
    cases hstep
    exact fun _ => rfl
  | hangUp =>
    cases hstep
    exact fun _ => rfl
  | reset error =>
    cases hstep
    exact fun _ => rfl
  | read size =>
    obtain ⟨⟨result, c₁⟩, hread, rfl⟩ := Option.map_eq_some_iff.mp hstep
    exact sound_readFrom hsound hread
  | isConnected =>
    obtain ⟨⟨result, c₁⟩, hpeek, rfl⟩ := Option.map_eq_some_iff.mp hstep
    cases isConnected_cases e c with
    | byte hqueued h =>
      rw [hpeek] at h
      cases h
      exact hsound
    | atEnd hqueued hover hsame h =>
      rw [hpeek] at h
      cases h
      rw [hsame]
      exact hsound
    | silent hqueued hended h =>
      rw [(h result c₁ hpeek).2]
      exact hsound

/-- **`isConnected` beside `read`.**  In every state a connection can come to, `isConnected` agrees with
    a `read` of any size an `int32_t` can hold exactly when what it peeks at tells: bytes are
    unread on the descriptor, and `read` would not meet a close; or none are, and it would. -/
theorem isConnected_agrees_iff (e : ReadSetting) (tls : Bool) (hretries : 1 ≤ maxRetries)
    (hpos : 1 ≤ size) (hlt : size < 2 ^ 31) {labels : List Label}
    (hexec : exec (step e maxRetries) (connected tls) labels = some c) :
    c.Agrees e maxRetries size ↔ c.Tells e := by
  have hstart : (connected tls).Sound := fun hhangup => by cases hhangup
  have hsound : c.Sound :=
    exec_invariant (fun _ _ _ hsound hstep => Sound.step hsound hstep) hexec hstart
  exact agrees_iff_tells hsound hretries hpos hlt

def patientReads : ReadSetting where
  readTimeout := 2000
  eofReturn := -1
  eofFailure := { wantsRead with error := .ssl }
  alertReturn := -1
  alertFailure := { wantsRead with error := .ssl }
  eofReturn_le := by decide
  eofReturn_ge := by decide
  alertReturn_le := by decide
  alertReturn_ge := by decide
  eof_unblocked := by decide
  alert_unblocked := by decide

def halfRead : List Label := [.arrive [1, 2], .read 1, .finish]

theorem isConnected_agrees_iff_halfRead : ∃ c,
    exec (step patientReads 3) (connected false) halfRead = some c ∧
      (c.Agrees patientReads 3 16 ↔ c.Tells patientReads) := by
  have hruns : (exec (step patientReads 3) (connected false) halfRead).isSome = true := by decide
  obtain ⟨c, hc⟩ := Option.isSome_iff_exists.mp hruns
  exact ⟨c, hc, isConnected_agrees_iff patientReads false (by decide) (by decide) (by decide) hc⟩

/-- On an idle connection `isConnected` says that the socket is closed, and a `read` times out; with a
    close_notify to be read it says that it is open, and a `read` returns that it is closed. -/
theorem idle_disagrees :
    ((connected false).isConnected patientReads).map (·.1.code) = some .socketClosed ∧
    ((connected false).read patientReads 3 16).map (·.1.code) = some .socketTimeout ∧
    ¬ (connected false).Agrees patientReads 3 16 ∧
    ∃ c, exec (step patientReads 3) (connected true) [.record .closeNotify] = some c ∧
      (c.isConnected patientReads).map (·.1.code) = some .success ∧
      (c.read patientReads 3 16).map (·.1.code) = some .socketClosed ∧
      ¬ c.Agrees patientReads 3 16 := by
  have hpeek : ((connected false).isConnected patientReads).map (·.1.code) = some .socketClosed := by
    decide
  have hruns : exec (step patientReads 3) (connected true) [.record .closeNotify] =
      some { stream := .tls [.closeNotify] [] false } := by decide
  let c : ConnectedSocket := { stream := .tls [.closeNotify] [] false }
  have hpeek' : (c.isConnected patientReads).map (·.1.code) = some .success := by decide
  have hread' : (c.read patientReads 3 16).map (·.1.code) = some .socketClosed := by decide
  refine ⟨hpeek, by decide, fun h => ?_, c, hruns, hpeek', hread', fun h => ?_⟩
  · obtain ⟨result, c', hsome, hcode⟩ := h.idle rfl
    rw [hsome, Option.map_some, hcode] at hpeek
    cases hpeek
  · obtain ⟨⟨result, c₁⟩, hread, hcode⟩ := Option.map_eq_some_iff.mp hread'
    obtain ⟨result', c₂, hsome, hiff⟩ := h.closed
    rw [hsome, Option.map_some, hiff.mpr ⟨result, c₁, hread, hcode⟩] at hpeek'
    cases hpeek'

end ConnectedSocket

end SecuritySocket.SocketClient
