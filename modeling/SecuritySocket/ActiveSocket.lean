import SecuritySocket.SocketResult

/-!
# Connected sockets (`ServerActiveSocket.cpp`, `ClientActiveSocket.cpp`)

The read and write operations of a connected socket are one system or OpenSSL call and
the classification of its return.  The call's return is chosen by the environment within
what the call allows; `fits` says what that is for the length the call was given.
-/

namespace SecuritySocket

open FixedWidth

/-- The most bytes one `recv` or `send` moves on Linux, whatever it was asked for. -/
def transferMax : Nat := 0x7ffff000

/-- What `recv` comes back with; `closed` is its return of zero. -/
inductive RecvReturn where
  | data (bytes : List UInt8)
  | closed
  | error (errno : Errno)
deriving DecidableEq, Repr

namespace RecvReturn

def fits (length : Nat) : RecvReturn → Bool
  | .data bytes => !bytes.isEmpty && bytes.length ≤ min length transferMax
  | .closed | .error _ => true

def bytes : RecvReturn → List UInt8
  | .data bytes => bytes
  | .closed | .error _ => []

/-- `ret = ::recv(…)`, stored in an `int32_t`, and its classification. -/
def result : RecvReturn → SocketResult
  | .data bytes => createResult (toInt32 bytes.length) (.other 0)
  | .closed => { code := .socketClosed, bytes := 0 }
  | .error errno => createResult (-1) errno

theorem length_le_of_fits {length : Nat} {r : RecvReturn} (h : r.fits length) :
    r.bytes.length ≤ min length transferMax := by
  cases r with
  | data bytes =>
    simp only [fits, Bool.and_eq_true, decide_eq_true_eq] at h
    exact h.2
  | closed | error => simp [bytes]

theorem result_bytes_of_fits {length : Nat} {r : RecvReturn} (h : r.fits length) :
    (r.result.bytes = -1 ∧ r.bytes = []) ∨ r.result.bytes = r.bytes.length := by
  cases r with
  | data bytes =>
    have hle := length_le_of_fits h
    have hlt : bytes.length < 2 ^ 31 := by
      simp only [RecvReturn.bytes, transferMax] at hle; omega
    right
    simp [result, RecvReturn.bytes, toInt32_of_lt hlt]
  | closed => right; simp [result, bytes]
  | error errno => left; simp [result, bytes]

end RecvReturn

/-- What `send` comes back with. -/
inductive SendReturn where
  | sent (count : Nat)
  | error (errno : Errno)
deriving DecidableEq, Repr

namespace SendReturn

def fits (length : Nat) : SendReturn → Bool
  | .sent count => count ≤ min length transferMax
  | .error _ => true

def count : SendReturn → Nat
  | .sent count => count
  | .error _ => 0

def result : SendReturn → SocketResult
  | .sent count =>
    if toInt32 count = 0 then { code := .socketClosed, bytes := 0 }
    else createResult (toInt32 count) (.other 0)
  | .error errno => createResult (-1) errno

theorem count_le_of_fits {length : Nat} {r : SendReturn} (h : r.fits length) :
    r.count ≤ min length transferMax := by
  cases r with
  | sent count => simpa [fits, SendReturn.count] using h
  | error => simp [count]

theorem result_bytes_of_fits {length : Nat} {r : SendReturn} (h : r.fits length) :
    (r.result.bytes = -1 ∧ r.count = 0) ∨ r.result.bytes = r.count := by
  cases r with
  | sent count =>
    have hle := count_le_of_fits h
    have hlt : count < 2 ^ 31 := by
      simp only [SendReturn.count, transferMax] at hle; omega
    right
    simp only [result, SendReturn.count, toInt32_of_lt hlt]
    split <;> rename_i hzero
    · exact hzero.symm
    · simp
  | error errno => left; simp [result, count]

/-- A send reports success exactly when it moved something. -/
theorem result_code_eq_success_of_fits {length : Nat} {r : SendReturn} (h : r.fits length) :
    r.result.code = .success ↔ 0 < r.count := by
  cases r with
  | sent count =>
    have hle := count_le_of_fits h
    have hlt : count < 2 ^ 31 := by
      simp only [SendReturn.count, transferMax] at hle; omega
    simp only [result, SendReturn.count, toInt32_of_lt hlt]
    split <;> rename_i hzero
    · simp only [reduceCtorEq, false_iff]; omega
    · rw [createResult_code_eq_success]; omega
  | error errno =>
    simp only [result, count, createResult_code_eq_success]
    omega

theorem result_code_ne_timeout (r : SendReturn) : r.result.code ≠ .socketTimeout := by
  cases r with
  | sent count =>
    simp only [result]
    split
    · simp
    · exact createResult_code_ne_timeout _ _
  | error errno => exact createResult_code_ne_timeout _ _

end SendReturn

/-! ### Server side -/

/-- What `accept` comes back with: the descriptor or `-1`, the `errno` of the moment, and
    the peer's address as `inet_ntop` and `ntohs` render it. -/
structure AcceptReturn where
  descriptor : Int
  errno : Errno := .other 0
  ip : String := ""
  port : Nat := 0
deriving DecidableEq, Repr

structure ServerActiveSocket where
  result : SocketResult := {}
  socket : Int := 0
  clientIp : String := ""
  clientPort : Nat := 0
deriving DecidableEq, Repr

namespace ServerActiveSocket

/-- The constructor, applied to what `accept` returned.  `createResult` counts only
    positive descriptors as a success; the address is filled in after that check. -/
def ofAccept (r : AcceptReturn) : ServerActiveSocket :=
  let result := createResult r.descriptor r.errno
  if result.code = .success then
    { result := result, socket := r.descriptor, clientIp := r.ip, clientPort := r.port }
  else
    { result := result, socket := r.descriptor }

/-- The part of `close` after `::close(_socket)`. -/
def closed (s : ServerActiveSocket) : ServerActiveSocket := { s with socket := -1 }

/-- The length `read` hands to `recv`: the size went through `int32_t`. -/
def recvLength (size : Nat) : Nat := narrow size

def read (r : RecvReturn) : SocketResult := r.result

/-- The length `write` hands to `send` on Linux. -/
def sendLength (size : Nat) : Nat := size

def write (r : SendReturn) : SocketResult := r.result

theorem ofAccept_result_code (r : AcceptReturn) :
    (ofAccept r).result.code = .success ↔ 0 < r.descriptor := by
  have hcreate : (createResult r.descriptor r.errno).code = .success ↔ 0 < r.descriptor :=
    createResult_code_eq_success
  rw [← hcreate]
  unfold ofAccept
  dsimp only
  split <;> rfl

@[simp] theorem ofAccept_socket (r : AcceptReturn) : (ofAccept r).socket = r.descriptor := by
  unfold ofAccept; dsimp only; split <;> rfl

end ServerActiveSocket

/-! ### Client side -/

/-- What the transport call inside the client's `write` comes back with: `send` on a plain
    socket, `SSL_write` on a TLS socket. -/
inductive ClientWriteReturn where
  | plain (r : SendReturn)
  | tls (ret : Int) (failure : SslFailure)
deriving DecidableEq, Repr

namespace ClientWriteReturn

/-- The returns the transport of the socket's kind may give for a `write` of `size` bytes.
    `SSL_write` is given the size as an `int32_t` and returns an `int`. -/
def fits (tls : Bool) (size : Nat) : ClientWriteReturn → Bool
  | .plain r => !tls && r.fits size
  | .tls ret _ => tls && (ret ≤ 0 || ret ≤ toInt32 size) && (-2 ^ 31 ≤ ret && ret < 2 ^ 31)

def count : ClientWriteReturn → Nat
  | .plain r => r.count
  | .tls ret _ => ret.toNat

end ClientWriteReturn

def ClientActiveSocket.write : ClientWriteReturn → SocketResult
  | .plain r => r.result
  | .tls ret failure => createTLSResult ret failure

theorem ClientWriteReturn.count_le_of_fits {tls : Bool} {size : Nat} {r : ClientWriteReturn}
    (hsize : size < 2 ^ 31) (h : r.fits tls size) : r.count ≤ size := by
  cases r with
  | plain r =>
    simp only [fits, Bool.and_eq_true] at h
    have := SendReturn.count_le_of_fits h.2
    simp only [count]; omega
  | tls ret failure =>
    simp only [fits, toInt32_of_lt hsize, Bool.and_eq_true, Bool.or_eq_true,
      decide_eq_true_eq] at h
    simp only [count]; omega

theorem ClientActiveSocket.write_code_ne_timeout (r : ClientWriteReturn) :
    (ClientActiveSocket.write r).code ≠ .socketTimeout := by
  cases r with
  | plain r => exact r.result_code_ne_timeout
  | tls ret failure => exact createTLSResult_code_ne_timeout ret failure

/-- The client's write reports success exactly when the transport took something, and then
    as many bytes as it took. -/
theorem ClientActiveSocket.write_code_eq_success {tls : Bool} {size : Nat}
    {r : ClientWriteReturn} (h : r.fits tls size) :
    (ClientActiveSocket.write r).code = .success ↔ 0 < r.count := by
  cases r with
  | plain r =>
    simp only [ClientWriteReturn.fits, Bool.and_eq_true] at h
    exact SendReturn.result_code_eq_success_of_fits h.2
  | tls ret failure =>
    simp only [ClientActiveSocket.write, createTLSResult_code_eq_success,
      ClientWriteReturn.count]
    omega

theorem ClientActiveSocket.write_bytes_ge {tls : Bool} {size : Nat} {r : ClientWriteReturn}
    (h : r.fits tls size) : -2 ^ 31 ≤ (ClientActiveSocket.write r).bytes := by
  cases r with
  | plain r =>
    simp only [ClientWriteReturn.fits, Bool.and_eq_true] at h
    have hbytes := SendReturn.result_bytes_of_fits h.2
    simp only [ClientActiveSocket.write]
    omega
  | tls ret failure =>
    simp only [ClientWriteReturn.fits, Bool.and_eq_true, decide_eq_true_eq] at h
    simp only [ClientActiveSocket.write, createTLSResult_bytes]
    exact h.2.1

theorem ClientActiveSocket.write_bytes {tls : Bool} {size : Nat} {r : ClientWriteReturn}
    (h : r.fits tls size) :
    ((ClientActiveSocket.write r).bytes < 0 ∧ r.count = 0) ∨
      (ClientActiveSocket.write r).bytes = r.count := by
  cases r with
  | plain r =>
    simp only [ClientWriteReturn.fits, Bool.and_eq_true] at h
    have hbytes := SendReturn.result_bytes_of_fits h.2
    simp only [ClientActiveSocket.write, ClientWriteReturn.count]
    omega
  | tls ret failure =>
    simp only [ClientActiveSocket.write, createTLSResult_bytes, ClientWriteReturn.count]
    omega

/-- What the transport call inside the client's `read` comes back with: `recv` on a plain
    socket, `SSL_read` with the bytes it placed on a TLS socket. -/
inductive ClientReadReturn where
  | plain (r : RecvReturn)
  | tls (bytes : List UInt8) (ret : Int) (failure : SslFailure)
deriving DecidableEq, Repr

namespace ClientReadReturn

/-- The returns the transport of the socket's kind may give for a `read` of `size` bytes.  Both
    are given the size as an `int32_t`, which `recv` takes for a `size_t` again. -/
def fits (tls : Bool) (size : Nat) : ClientReadReturn → Bool
  | .plain r => !tls && r.fits (narrow size)
  | .tls bytes ret _ =>
    tls && -2 ^ 31 ≤ ret &&
      if bytes.isEmpty then ret ≤ 0 else ret == bytes.length && ret ≤ toInt32 size

def bytes : ClientReadReturn → List UInt8
  | .plain r => r.bytes
  | .tls bytes _ _ => bytes

def isZero : ClientReadReturn → Bool
  | .plain r => r == .closed
  | .tls _ ret _ => ret == 0

end ClientReadReturn

theorem ClientReadReturn.bytes_eq_nil {tls : Bool} {size : Nat} {r : ClientReadReturn}
    (h : r.fits tls size) (hzero : r.isZero = true) : r.bytes = [] := by
  cases r with
  | plain r =>
    simp only [isZero, beq_iff_eq] at hzero
    subst hzero
    rfl
  | tls bytes ret failure =>
    simp only [isZero, beq_iff_eq] at hzero
    subst hzero
    cases bytes with
    | nil => rfl
    | cons b bytes =>
      simp only [fits, List.isEmpty_cons, Bool.false_eq_true, if_false, Bool.and_eq_true,
        beq_iff_eq, List.length_cons] at h
      omega

def ClientActiveSocket.read : ClientReadReturn → SocketResult
  | .plain r => r.result
  | .tls _ ret failure => createTLSResult ret failure

/-- The byte count of the client's read is zero exactly when its transport call returned zero. -/
theorem ClientActiveSocket.read_bytes_eq_zero {tls : Bool} {size : Nat} {r : ClientReadReturn}
    (h : r.fits tls size) : (ClientActiveSocket.read r).bytes = 0 ↔ r.isZero = true := by
  cases r with
  | plain r =>
    simp only [ClientReadReturn.fits, Bool.and_eq_true] at h
    simp only [ClientActiveSocket.read, ClientReadReturn.isZero, beq_iff_eq]
    cases r with
    | data bytes =>
      have hle := RecvReturn.length_le_of_fits h.2
      simp only [RecvReturn.fits, Bool.and_eq_true, Bool.not_eq_true', List.isEmpty_eq_false_iff]
        at h
      have hpos := List.length_pos_iff.mpr h.2.1
      have hlt : bytes.length < 2 ^ 31 := by
        simp only [RecvReturn.bytes, transferMax] at hle; omega
      simp only [RecvReturn.result, createResult_bytes, toInt32_of_lt hlt, reduceCtorEq, iff_false]
      omega
    | closed => simp [RecvReturn.result]
    | error errno => simp [RecvReturn.result]
  | tls bytes ret failure =>
    simp [ClientActiveSocket.read, ClientReadReturn.isZero]

theorem ClientActiveSocket.read_code_ne_closed {r : ClientReadReturn}
    (h : (ClientActiveSocket.read r).bytes ≠ 0) :
    (ClientActiveSocket.read r).code ≠ .socketClosed := by
  cases r with
  | plain r =>
    cases r with
    | data bytes => exact createResult_code_ne_closed _ _
    | closed => exact absurd rfl h
    | error errno => exact createResult_code_ne_closed _ _
  | tls bytes ret failure => exact createTLSResult_code_ne_closed ret failure

theorem ClientActiveSocket.read_code_ne_timeout (r : ClientReadReturn) :
    (ClientActiveSocket.read r).code ≠ .socketTimeout := by
  cases r with
  | plain r =>
    cases r with
    | data bytes => exact createResult_code_ne_timeout _ _
    | closed => simp [ClientActiveSocket.read, RecvReturn.result]
    | error errno => exact createResult_code_ne_timeout _ _
  | tls bytes ret failure => exact createTLSResult_code_ne_timeout ret failure

/-- A transport call under a size an `int32_t` can hold succeeds with the bytes it places, at
    least one and no more than `size`, or places none. -/
theorem ClientActiveSocket.read_cases {tls : Bool} {size : Nat} {r : ClientReadReturn}
    (hsize : size < 2 ^ 31) (h : r.fits tls size) :
    ((ClientActiveSocket.read r).code = .success ∧
        (ClientActiveSocket.read r).bytes = r.bytes.length ∧ 1 ≤ r.bytes.length ∧
          r.bytes.length ≤ size) ∨
      ((ClientActiveSocket.read r).code ≠ .success ∧ r.bytes = []) := by
  cases r with
  | plain r =>
    simp only [ClientReadReturn.fits, narrow_of_lt hsize, Bool.and_eq_true] at h
    have hle := RecvReturn.length_le_of_fits h.2
    cases r with
    | data bytes =>
      simp only [RecvReturn.bytes, transferMax] at hle
      simp only [RecvReturn.fits, Bool.and_eq_true, Bool.not_eq_true', List.isEmpty_eq_false_iff]
        at h
      have hpos := List.length_pos_iff.mpr h.2.1
      refine .inl ⟨?_, ?_, hpos, ?_⟩
      · rw [ClientActiveSocket.read, RecvReturn.result, createResult_code_eq_success,
          toInt32_of_lt (by omega)]
        omega
      · rw [ClientActiveSocket.read, RecvReturn.result, createResult_bytes,
          toInt32_of_lt (by omega)]
        rfl
      · simp only [ClientReadReturn.bytes, RecvReturn.bytes]; omega
    | closed => exact .inr ⟨by simp [ClientActiveSocket.read, RecvReturn.result], rfl⟩
    | error errno =>
      refine .inr ⟨?_, rfl⟩
      rw [ClientActiveSocket.read, RecvReturn.result, ne_eq, createResult_code_eq_success]
      omega
  | tls bytes ret failure =>
    simp only [ClientReadReturn.fits, toInt32_of_lt hsize, Bool.and_eq_true] at h
    simp only [ClientActiveSocket.read, createTLSResult_bytes, ne_eq,
      createTLSResult_code_eq_success, ClientReadReturn.bytes]
    cases bytes with
    | nil =>
      simp only [List.isEmpty_nil, if_true, decide_eq_true_eq] at h
      exact .inr ⟨by omega, rfl⟩
    | cons b bytes =>
      simp only [List.isEmpty_cons, Bool.false_eq_true, if_false, Bool.and_eq_true, beq_iff_eq,
        decide_eq_true_eq, List.length_cons] at h
      refine .inl ⟨?_, h.2.1, ?_, ?_⟩
      · omega
      · simp
      · simp only [List.length_cons]; omega

/-! ### Connecting -/

/-- What `::connect` comes back with: zero, or a negative return and its `errno`. -/
inductive ConnectReturn where
  | ok
  | error (errno : Errno)
deriving DecidableEq, Repr

/-- What `reconnect(false)` comes to: nothing on a plain socket; on a TLS socket a failed
    `SSL_set_fd`, or the return of `SSL_connect`. -/
inductive HandshakeReturn where
  | plain
  | setFdFailed
  | tls (ret : Int) (failure : SslFailure)
deriving DecidableEq, Repr

/-- What `reconnect(true)` comes to: nothing on a plain socket, nothing unless TLS 1.3 was
    negotiated, or the return of the `SSL_peek` of the probe. -/
inductive ProbeReturn where
  | plain
  | notTls13
  | peek (ret : Int) (failure : SslFailure)
deriving DecidableEq, Repr

/-- The socket's kind decides what is called; `SSL_connect` returns at most 1. -/
def HandshakeReturn.fits (tls : Bool) : HandshakeReturn → Bool
  | .plain => !tls
  | .setFdFailed => tls
  | .tls ret _ => tls && ret ≤ 1

def ProbeReturn.fits (tls : Bool) : ProbeReturn → Bool
  | .plain => !tls
  | .notTls13 | .peek _ _ => tls

def ClientActiveSocket.connect : ConnectReturn → SocketResult
  | .ok => {}
  | .error errno => createResult (-1) errno

/-- `reconnect(false)` of either socket. -/
def ClientActiveSocket.reconnect : HandshakeReturn → SocketResult
  | .plain => {}
  | .setFdFailed => { code := .tlsSetfdError }
  | .tls ret failure => if ret ≠ 1 then createTLSResult ret failure else {}

def TLSClientActiveSocket.postHandshakeProbe (ret : Int) (failure : SslFailure) : SocketResult :=
  if ret > 0 then {}
  else
    match failure.error with
    | .ssl | .zeroReturn => createTLSResult ret failure
    | .wantRead => { code := .socketConnectionNeedToBeBlocked }
    -- no alert: the connection is taken to be good
    | .wantWrite | .syscall | .other => {}

/-- `reconnect(true)` of either socket. -/
def ClientActiveSocket.reconnectAfterHandshake : ProbeReturn → SocketResult
  | .plain | .notTls13 => {}
  | .peek ret failure => TLSClientActiveSocket.postHandshakeProbe ret failure

/-- The handshake succeeds exactly when `SSL_connect` returned 1. -/
theorem ClientActiveSocket.reconnect_code_eq_success {tls : Bool} {r : HandshakeReturn}
    (h : r.fits tls) : (ClientActiveSocket.reconnect r).code = .success ↔
      r = .plain ∨ ∃ failure, r = .tls 1 failure := by
  cases r with
  | plain => simp [ClientActiveSocket.reconnect]
  | setFdFailed => simp [ClientActiveSocket.reconnect]
  | tls ret failure =>
    simp only [HandshakeReturn.fits, Bool.and_eq_true, decide_eq_true_eq] at h
    unfold ClientActiveSocket.reconnect
    dsimp only
    split
    · rename_i hne
      rw [createTLSResult_code_eq_success]
      simp only [reduceCtorEq, HandshakeReturn.tls.injEq, false_or]
      constructor
      · omega
      · rintro ⟨_, rfl, _⟩
        exact absurd rfl hne
    · rename_i hone
      simp [not_not.mp hone]

end SecuritySocket
