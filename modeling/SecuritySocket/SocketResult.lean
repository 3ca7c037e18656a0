import SecuritySocket.FixedWidth

/-!
# Result codes (`SocketResult.hpp`)

Every operation of the library reports a `SocketResult`: a code and a byte count.  The
code of a failed system call comes from `errno`, the code of a failed OpenSSL call from
`SSL_get_error` and, for protocol errors, from the verify result and the reason at the
head of the error queue.
-/

namespace SecuritySocket

/-- `SocketCode` of `SecuritySocket.hpp`, without the end marker `LENGTH`. -/
inductive SocketCode where
  | success
  | addressNotAvailable
  | windowsSocketInitializationFail
  | tlsContextInitializationFail
  | tlsInitializationFail
  | socketPermissionDenied
  | socketAddressFamilyNotSupported
  | socketInvalidArgument
  | socketCannotCreated
  | socketCannotAlloc
  | socketOptionError
  | socketConnectionNotRespond
  | socketConnectionAddressInUse
  | socketConnectionBadDescriptor
  | socketConnectionRefused
  | socketConnectionBadAddress
  | socketConnectionUnreached
  | socketConnectionInterrupted
  | socketAlreadyConnected
  | socketConnectionInProgress
  | socketConnectionNeedToBeBlocked
  | socketBindFailed
  | socketListenFailed
  | tlsSetfdError
  | tlsVersionNotSupported
  | tlsCipherSuiteMismatch
  | tlsServerCertInvalid
  | tlsClientCertRejected
  | tlsHostnameMismatch
  | sslProtocolError
  | sslErrorClosedByPeer
  | socketTimeout
  | socketClosed
  | socketEventError
  | socketEventObjectNotCreated
  | socketEventCannotAdded
  | socketServerAlreadyRunning
  | unknownError
deriving DecidableEq, Repr

structure SocketResult where
  code : SocketCode := .success
  bytes : Int := -1
deriving DecidableEq, Repr

/-- The error conditions a socket call reports; `other` stands for every number the
    library does not name. -/
inductive Errno where
  | eacces
  | eafnosupport
  | einval
  | emfile
  | enobufs
  | etimedout
  | eaddrinuse
  | ebadf
  | econnrefused
  | efault
  | enetunreach
  | eintr
  | ealready
  | einprogress
  | ewouldblock
  | other (number : Nat)
deriving DecidableEq, Repr

/-- `createResultFromSocketError`, the branch for systems with `errno`. -/
def createResultFromSocketError : Errno → SocketResult
  | .eacces => { code := .socketPermissionDenied }
  | .eafnosupport => { code := .socketAddressFamilyNotSupported }
  | .einval => { code := .socketInvalidArgument }
  | .emfile => { code := .socketCannotCreated }
  | .enobufs => { code := .socketCannotAlloc }
  | .etimedout => { code := .socketConnectionNotRespond }
  | .eaddrinuse => { code := .socketConnectionAddressInUse }
  | .ebadf => { code := .socketConnectionBadDescriptor }
  | .econnrefused => { code := .socketConnectionRefused }
  | .efault => { code := .socketConnectionBadAddress }
  | .enetunreach => { code := .socketConnectionUnreached }
  | .eintr => { code := .socketConnectionInterrupted }
  | .ealready => { code := .socketAlreadyConnected }
  | .einprogress => { code := .socketConnectionInProgress }
  | .ewouldblock => { code := .socketConnectionNeedToBeBlocked }
  | .other _ => { code := .unknownError }

/-- `createResult`: a positive return is a success with that many bytes, anything else
    takes its code from `errno` and keeps the return as its byte count. -/
def createResult (operationReturn : Int) (errno : Errno) : SocketResult :=
  if operationReturn > 0 then
    { code := .success, bytes := operationReturn }
  else
    { code := (createResultFromSocketError errno).code, bytes := operationReturn }

/-! ### OpenSSL -/

/-- What `SSL_get_error` answers. -/
inductive SslError where
  | ssl
  | wantRead
  | wantWrite
  | syscall
  | zeroReturn
  | other
deriving DecidableEq, Repr

/-- What `SSL_get_verify_result` answers. -/
inductive VerifyResult where
  | ok
  | hostnameMismatch
  | ipAddressMismatch
  | other
deriving DecidableEq, Repr

/-- `ERR_GET_REASON` of the head of the error queue. -/
inductive SslReason where
  | unsupportedProtocol
  | noProtocolsAvailable
  | tlsv1AlertProtocolVersion
  | noCiphersAvailable
  | noSharedCipher
  | tlsv13AlertCertificateRequired
  | tlsv1AlertUnknownCa
  | sslv3AlertHandshakeFailure
  | other
deriving DecidableEq, Repr

/-- What the failed OpenSSL call left to be read: the class of the error, the verify mode
    and result, the queued reason, whether a cipher was negotiated, and `errno`. -/
structure SslFailure where
  error : SslError
  verifyPeer : Bool
  verifyResult : VerifyResult
  reason : SslReason
  currentCipher : Bool
  errno : Errno
deriving DecidableEq, Repr

/-- The `SSL_ERROR_SSL` case of `createTLSResult`. -/
def tlsProtocolErrorCode (failure : SslFailure) : SocketCode :=
  if failure.verifyPeer && (failure.verifyResult == .hostnameMismatch
      || failure.verifyResult == .ipAddressMismatch) then
    .tlsHostnameMismatch
  else if failure.verifyPeer && failure.verifyResult != .ok then
    .tlsServerCertInvalid
  else
    match failure.reason with
    | .unsupportedProtocol | .noProtocolsAvailable | .tlsv1AlertProtocolVersion =>
      .tlsVersionNotSupported
    | .noCiphersAvailable | .noSharedCipher => .tlsCipherSuiteMismatch
    | .tlsv13AlertCertificateRequired | .tlsv1AlertUnknownCa => .tlsClientCertRejected
    | .sslv3AlertHandshakeFailure =>
      if failure.currentCipher then .tlsClientCertRejected else .tlsCipherSuiteMismatch
    | .other => .sslProtocolError

def createTLSResult (operationReturn : Int) (failure : SslFailure) : SocketResult :=
  if operationReturn ≥ 1 then
    { code := .success, bytes := operationReturn }
  else
    match failure.error with
    | .ssl => { code := tlsProtocolErrorCode failure, bytes := operationReturn }
    | .wantRead | .wantWrite =>
      { code := .socketConnectionNeedToBeBlocked, bytes := operationReturn }
    | .syscall => createResult operationReturn failure.errno
    | .zeroReturn => { code := .sslErrorClosedByPeer, bytes := operationReturn }
    | .other => { code := .unknownError, bytes := operationReturn }

/-! ### What the codes tell -/

theorem createResultFromSocketError_code_ne_success (errno : Errno) :
    (createResultFromSocketError errno).code ≠ .success := by
  cases errno <;> simp [createResultFromSocketError]

theorem createResultFromSocketError_code_ne_timeout (errno : Errno) :
    (createResultFromSocketError errno).code ≠ .socketTimeout := by
  cases errno <;> simp [createResultFromSocketError]

theorem createResultFromSocketError_code_ne_closed (errno : Errno) :
    (createResultFromSocketError errno).code ≠ .socketClosed := by
  cases errno <;> simp [createResultFromSocketError]

theorem createResult_code_ne_closed (operationReturn : Int) (errno : Errno) :
    (createResult operationReturn errno).code ≠ .socketClosed := by
  unfold createResult
  split
  · simp
  · exact createResultFromSocketError_code_ne_closed errno

@[simp] theorem createResult_bytes (operationReturn : Int) (errno : Errno) :
    (createResult operationReturn errno).bytes = operationReturn := by
  unfold createResult; split <;> rfl

theorem createResult_code_eq_success {operationReturn : Int} {errno : Errno} :
    (createResult operationReturn errno).code = .success ↔ 0 < operationReturn := by
  unfold createResult
  split
  · simp only [true_iff]; omega
  · simp only [createResultFromSocketError_code_ne_success, false_iff]; omega

theorem createResult_code_ne_timeout (operationReturn : Int) (errno : Errno) :
    (createResult operationReturn errno).code ≠ .socketTimeout := by
  unfold createResult
  split
  · simp
  · exact createResultFromSocketError_code_ne_timeout errno

@[simp] theorem createTLSResult_bytes (operationReturn : Int) (failure : SslFailure) :
    (createTLSResult operationReturn failure).bytes = operationReturn := by
  unfold createTLSResult
  split
  · rfl
  · cases failure.error <;> simp

theorem tlsProtocolErrorCode_mem (failure : SslFailure) :
    tlsProtocolErrorCode failure ∈ [SocketCode.tlsHostnameMismatch, .tlsServerCertInvalid,
      .tlsVersionNotSupported, .tlsCipherSuiteMismatch, .tlsClientCertRejected,
      .sslProtocolError] := by
  unfold tlsProtocolErrorCode
  split
  · simp
  · split
    · simp
    · cases failure.reason with
      | sslv3AlertHandshakeFailure => cases failure.currentCipher <;> simp
      | _ => simp

theorem tlsProtocolErrorCode_ne_success (failure : SslFailure) :
    tlsProtocolErrorCode failure ≠ .success := by
  intro h
  have hmem := tlsProtocolErrorCode_mem failure
  rw [h] at hmem
  simp at hmem

theorem createTLSResult_code_eq_success {operationReturn : Int} {failure : SslFailure} :
    (createTLSResult operationReturn failure).code = .success ↔ 0 < operationReturn := by
  unfold createTLSResult
  split
  · simp only [true_iff]; omega
  · cases failure.error with
    | ssl => simp only [tlsProtocolErrorCode_ne_success, false_iff]; omega
    | syscall => exact createResult_code_eq_success
    | wantRead | wantWrite | zeroReturn | other =>
      simp only [reduceCtorEq, false_iff]; omega

theorem createTLSResult_code_ne_timeout (operationReturn : Int) (failure : SslFailure) :
    (createTLSResult operationReturn failure).code ≠ .socketTimeout := by
  unfold createTLSResult
  split
  · simp
  · cases failure.error with
    | ssl =>
      intro h
      have hmem := tlsProtocolErrorCode_mem failure
      simp only at h
      rw [h] at hmem
      simp at hmem
    | syscall => exact createResult_code_ne_timeout _ _
    | wantRead | wantWrite | zeroReturn | other => simp

theorem createTLSResult_code_ne_closed (operationReturn : Int) (failure : SslFailure) :
    (createTLSResult operationReturn failure).code ≠ .socketClosed := by
  unfold createTLSResult
  split
  · simp
  · cases failure.error with
    | ssl =>
      intro h
      have hmem := tlsProtocolErrorCode_mem failure
      simp only at h
      rw [h] at hmem
      simp at hmem
    | syscall => exact createResult_code_ne_closed _ _
    | wantRead | wantWrite | zeroReturn | other => simp

end SecuritySocket
