import SecuritySocket.SocketResult
import SecuritySocket.TlsConfiguration

/-!
# TLS client sockets (`ClientActiveSocket.cpp`)

The constructor of a TLS client socket turns the configuration into calls on a fresh
`SSL_CTX`, and looks at none of their returns.  A setter that fails leaves the setting as it
was; the first setting of all is OpenSSL's own.
-/

namespace SecuritySocket

/-- What the chain of a peer's certificate is verified against. -/
inductive TrustStore where
  | empty
  | file (path : CString)
  | systemDefault
deriving DecidableEq, Repr

structure OpenSslDefaults where
  minProtoVersion : Nat
  maxProtoVersion : Nat
  cipherList : List CString
  ciphersuites : List CString
deriving DecidableEq, Repr

/-- The settings of an `SSL_CTX`.  `cipherList` is for the versions before TLS 1.3. -/
structure SslContext where
  minProtoVersion : Nat
  maxProtoVersion : Nat
  cipherList : List CString
  ciphersuites : List CString
  verifyPeer : Bool := false
  trustStore : TrustStore := .empty
  passwd : Option CString := none
  certificateFile : Option CString := none
  privateKeyFile : Option CString := none
deriving DecidableEq, Repr

/-- The calls of the constructor on its `SSL_CTX`; the callback that supplies the password and its
    user data are one. -/
inductive ContextCall where
  | setMinProtoVersion (version : Nat)
  | setMaxProtoVersion (version : Nat)
  | setCipherList (list : CString)
  | setCiphersuites (list : CString)
  | setVerify (peer : Bool)
  | loadVerifyLocations (path : CString)
  | setDefaultVerifyPaths
  | setDefaultPasswdCb (password : CString)
  | useCertificateFile (path : CString)
  | usePrivateKeyFile (path : CString)
deriving DecidableEq, Repr

/-- The call has a return; the others cannot fail. -/
def ContextCall.fallible : ContextCall → Bool
  | .setVerify _ | .setDefaultPasswdCb _ => false
  | _ => true

namespace SslContext

def new (library : OpenSslDefaults) : SslContext where
  minProtoVersion := library.minProtoVersion
  maxProtoVersion := library.maxProtoVersion
  cipherList := library.cipherList
  ciphersuites := library.ciphersuites

def set (context : SslContext) : ContextCall → SslContext
  | .setMinProtoVersion version => { context with minProtoVersion := version }
  | .setMaxProtoVersion version => { context with maxProtoVersion := version }
  | .setCipherList list => { context with cipherList := cipherNames list }
  | .setCiphersuites list => { context with ciphersuites := cipherNames list }
  | .setVerify peer => { context with verifyPeer := peer }
  | .loadVerifyLocations path => { context with trustStore := .file path }
  | .setDefaultVerifyPaths => { context with trustStore := .systemDefault }
  | .setDefaultPasswdCb password => { context with passwd := some password }
  | .useCertificateFile path => { context with certificateFile := some path }
  | .usePrivateKeyFile path => { context with privateKeyFile := some path }

def apply (succeeds : ContextCall → Bool) (context : SslContext) (calls : List ContextCall) :
    SslContext :=
  calls.foldl (fun context call =>
    if !call.fallible || succeeds call then context.set call else context) context

/-- The suites that may be negotiated with a version. -/
def enabled (context : SslContext) (version : Nat) : List CString :=
  if version = SocketTLSVersion.tls1_3.number then context.ciphersuites else context.cipherList

end SslContext

namespace SocketTLSClientConfiguration

variable (c : SocketTLSClientConfiguration)

/-- The range of versions asked for. -/
def minVersion : Nat :=
  if c.isVersionSupported .tls1_2 then SocketTLSVersion.tls1_2.number
  else SocketTLSVersion.tls1_3.number

def maxVersion : Nat :=
  if c.isVersionSupported .tls1_3 then SocketTLSVersion.tls1_3.number
  else SocketTLSVersion.tls1_2.number

/-- [1] The range of versions. -/
def versionCalls : List ContextCall :=
  [.setMinProtoVersion c.minVersion, .setMaxProtoVersion c.maxVersion]

/-- [2] The cipher suites, where some are listed. -/
def cipherCalls : List ContextCall :=
  (if c.generateTLS12CipherSuites ≠ [] then [.setCipherList c.generateTLS12CipherSuites] else []) ++
  (if c.generateTLS13CipherSuites ≠ [] then [.setCiphersuites c.generateTLS13CipherSuites] else [])

def trustStoreCall : ContextCall :=
  if c.serverTrustStorePath ≠ [] then .loadVerifyLocations c.serverTrustStorePath
  else .setDefaultVerifyPaths

/-- [3] The verification of the server's certificate. -/
def verifyCalls : List ContextCall :=
  if c.verifyServer then [.setVerify true, c.trustStoreCall] else [.setVerify false]

/-- [4] The certificate of the client. -/
def certificateCalls : List ContextCall :=
  if c.useClientCertificate then
    (if c.clientKeyPassword ≠ [] then [.setDefaultPasswdCb c.clientKeyPassword] else []) ++
      [.useCertificateFile c.clientCertFilePath, .usePrivateKeyFile c.clientKeyFilePath]
  else []

def contextCalls : List ContextCall :=
  c.versionCalls ++ c.cipherCalls ++ c.verifyCalls ++ c.certificateCalls

end SocketTLSClientConfiguration

/-- What the system and OpenSSL answer when a TLS client is opened: the return of `::socket`,
    whether there is a new `SSL_CTX`, which setters succeed, whether there is a new `SSL`. -/
structure TlsOpenAnswer where
  socket : Int
  errno : Errno := .other 0
  newContext : Bool := true
  succeeds : ContextCall → Bool
  newSsl : Bool := true

/-- `ClientActiveSocket`, with the result that `valid` returns. -/
structure ClientActiveSocket where
  result : SocketResult := {}
  socket : Int
deriving DecidableEq, Repr

/-- `TLSClientActiveSocket`; an `SSL` takes its settings from the `SSL_CTX` it is made of. -/
structure TLSClientActiveSocket extends ClientActiveSocket where
  context : Option SslContext := none
  ssl : Option SslContext := none
  hostname : Option CString := none
deriving DecidableEq, Repr

def ClientActiveSocket.make (a : TlsOpenAnswer) : ClientActiveSocket :=
  if a.socket < 0 then { result := createResult a.socket a.errno, socket := a.socket }
  else { socket := a.socket }

namespace TLSClientActiveSocket

/-- The host name is kept where it is to be verified, and is not empty. -/
def keptHostname (c : SocketTLSClientConfiguration) (hostname : CString) : Option CString :=
  if c.verifyHostname && hostname != [] then some hostname else none

def make (library : OpenSslDefaults) (c : SocketTLSClientConfiguration) (hostname : CString)
    (a : TlsOpenAnswer) : TLSClientActiveSocket :=
  let base := ClientActiveSocket.make a
  if base.result.code ≠ .success then { base with }
  else if a.newContext then
    let context := (SslContext.new library).apply a.succeeds c.contextCalls
    if a.newSsl then
      { base with context := some context, ssl := some context,
                  hostname := keptHostname c hostname }
    else
      { base with result := { code := .tlsInitializationFail },
                  hostname := keptHostname c hostname }
  else { base with result := { code := .tlsContextInitializationFail } }

theorem make_of_success {library : OpenSslDefaults} {c : SocketTLSClientConfiguration}
    {hostname : CString} {a : TlsOpenAnswer}
    (h : (make library c hostname a).result.code = .success) :
    (make library c hostname a).ssl =
        some ((SslContext.new library).apply a.succeeds c.contextCalls) ∧
      (make library c hostname a).hostname = keptHostname c hostname := by
  unfold make at h ⊢
  dsimp only at h ⊢
  split at h
  · rename_i hfailed
    exact absurd h hfailed
  · rename_i hbase
    rw [if_neg hbase]
    split at h
    · rename_i hcontext
      rw [if_pos hcontext]
      split at h
      · rename_i hssl
        rw [if_pos hssl]
        exact ⟨rfl, rfl⟩
      · cases h
    · cases h

end TLSClientActiveSocket

/-! ### What the calls of the constructor leave -/

namespace SslContext

variable {succeeds : ContextCall → Bool}

theorem apply_append (context : SslContext) (calls calls' : List ContextCall) :
    context.apply succeeds (calls ++ calls') =
      (context.apply succeeds calls).apply succeeds calls' := List.foldl_append

theorem apply_keeps {β : Type*} {f : SslContext → β} {calls : List ContextCall}
    (h : ∀ call ∈ calls, ∀ context : SslContext, f (context.set call) = f context)
    (context : SslContext) : f (context.apply succeeds calls) = f context := by
  induction calls generalizing context with
  | nil => rfl
  | cons call calls ih =>
    show f (SslContext.apply succeeds (if _ then _ else _) calls) = f context
    rw [ih fun call' hcall' => h call' (List.mem_cons_of_mem _ hcall')]
    split
    · exact h call List.mem_cons_self context
    · rfl

def versions (context : SslContext) : Nat × Nat :=
  (context.minProtoVersion, context.maxProtoVersion)

def suites (context : SslContext) : List CString × List CString :=
  (context.cipherList, context.ciphersuites)

def verification (context : SslContext) : Bool × TrustStore :=
  (context.verifyPeer, context.trustStore)

end SslContext

/-- The part of the settings that a call is about. -/
inductive ContextPart where
  | versions
  | suites
  | verification
  | certificate
deriving DecidableEq, Repr

def ContextCall.part : ContextCall → ContextPart
  | .setMinProtoVersion _ | .setMaxProtoVersion _ => .versions
  | .setCipherList _ | .setCiphersuites _ => .suites
  | .setVerify _ | .loadVerifyLocations _ | .setDefaultVerifyPaths => .verification
  | .setDefaultPasswdCb _ | .useCertificateFile _ | .usePrivateKeyFile _ => .certificate

namespace SslContext

theorem set_versions {call : ContextCall} (h : call.part ≠ .versions) (context : SslContext) :
    (context.set call).versions = context.versions := by
  cases call <;> first | rfl | exact absurd rfl h

theorem set_suites {call : ContextCall} (h : call.part ≠ .suites) (context : SslContext) :
    (context.set call).suites = context.suites := by
  cases call <;> first | rfl | exact absurd rfl h

theorem set_verification {call : ContextCall} (h : call.part ≠ .verification)
    (context : SslContext) : (context.set call).verification = context.verification := by
  cases call <;> first | rfl | exact absurd rfl h

end SslContext

namespace SocketTLSClientConfiguration

open SslContext

variable (c : SocketTLSClientConfiguration) {succeeds : ContextCall → Bool} (context : SslContext)

theorem part_of_versionCalls : ∀ call ∈ c.versionCalls, call.part = .versions := by
  simp [versionCalls, ContextCall.part]

theorem part_of_cipherCalls : ∀ call ∈ c.cipherCalls, call.part = .suites := by
  intro call hcall
  rcases List.mem_append.mp hcall with hcall | hcall
  · split at hcall
    · rw [List.mem_singleton.mp hcall]
      rfl
    · cases hcall
  · split at hcall
    · rw [List.mem_singleton.mp hcall]
      rfl
    · cases hcall

theorem part_of_verifyCalls : ∀ call ∈ c.verifyCalls, call.part = .verification := by
  intro call hcall
  unfold verifyCalls at hcall
  split at hcall
  · rcases List.mem_cons.mp hcall with rfl | hcall
    · rfl
    · rw [List.mem_singleton.mp hcall, trustStoreCall]
      split <;> rfl
  · rw [List.mem_singleton.mp hcall]
    rfl

theorem part_of_certificateCalls : ∀ call ∈ c.certificateCalls, call.part = .certificate := by
  intro call hcall
  unfold certificateCalls at hcall
  split at hcall
  · rcases List.mem_append.mp hcall with hcall | hcall
    · split at hcall
      · rw [List.mem_singleton.mp hcall]
        rfl
      · cases hcall
    · rcases List.mem_cons.mp hcall with rfl | hcall
      · rfl
      · rw [List.mem_singleton.mp hcall]
        rfl
  · cases hcall

theorem apply_versions : (context.apply succeeds c.contextCalls).versions =
    (if succeeds (.setMinProtoVersion c.minVersion) then c.minVersion else context.minProtoVersion,
      if succeeds (.setMaxProtoVersion c.maxVersion) then c.maxVersion
      else context.maxProtoVersion) := by
  rw [contextCalls, apply_append, apply_append, apply_append,
    apply_keeps (f := versions) fun call hcall => set_versions (by
      rw [c.part_of_certificateCalls call hcall]; decide),
    apply_keeps (f := versions) fun call hcall => set_versions (by
      rw [c.part_of_verifyCalls call hcall]; decide),
    apply_keeps (f := versions) fun call hcall => set_versions (by
      rw [c.part_of_cipherCalls call hcall]; decide)]
  simp only [versionCalls, SslContext.apply, List.foldl_cons, List.foldl_nil,
    ContextCall.fallible, Bool.not_true, Bool.false_or]
  split <;> split <;> rfl

theorem apply_suites : (context.apply succeeds c.contextCalls).suites =
    (if c.generateTLS12CipherSuites ≠ [] ∧ succeeds (.setCipherList c.generateTLS12CipherSuites) then
        cipherNames c.generateTLS12CipherSuites
      else context.cipherList,
      if c.generateTLS13CipherSuites ≠ [] ∧ succeeds (.setCiphersuites c.generateTLS13CipherSuites) then
        cipherNames c.generateTLS13CipherSuites
      else context.ciphersuites) := by
  have hversions : (context.apply succeeds c.versionCalls).suites = context.suites :=
    apply_keeps (fun call hcall => set_suites (by rw [c.part_of_versionCalls call hcall]; decide))
      context
  rw [contextCalls, apply_append, apply_append, apply_append,
    apply_keeps (f := suites) fun call hcall => set_suites (by
      rw [c.part_of_certificateCalls call hcall]; decide),
    apply_keeps (f := suites) fun call hcall => set_suites (by
      rw [c.part_of_verifyCalls call hcall]; decide)]
  generalize context.apply succeeds c.versionCalls = context' at hversions ⊢
  obtain ⟨hlist, hsuites⟩ := Prod.mk.inj hversions
  rw [← hlist, ← hsuites, cipherCalls, apply_append]
  by_cases h12 : c.generateTLS12CipherSuites = [] <;>
    by_cases h13 : c.generateTLS13CipherSuites = [] <;>
    cases hs12 : succeeds (.setCipherList c.generateTLS12CipherSuites) <;>
    cases hs13 : succeeds (.setCiphersuites c.generateTLS13CipherSuites) <;>
    simp [h12, h13, hs12, hs13, SslContext.apply, SslContext.set, ContextCall.fallible,
      SslContext.suites]

def trustStore : TrustStore :=
  if c.serverTrustStorePath ≠ [] then .file c.serverTrustStorePath else .systemDefault

/-- Nothing is verified against before the trust store is loaded, or where that fails. -/
theorem apply_verification : (context.apply succeeds c.contextCalls).verification =
    (c.verifyServer,
      if c.verifyServer ∧ succeeds c.trustStoreCall then c.trustStore else context.trustStore) := by
  have hbefore : (context.apply succeeds (c.versionCalls ++ c.cipherCalls)).verification =
      context.verification := by
    refine apply_keeps (fun call hcall => set_verification ?_) context
    rcases List.mem_append.mp hcall with hcall | hcall
    · rw [c.part_of_versionCalls call hcall]
      decide
    · rw [c.part_of_cipherCalls call hcall]
      decide
  rw [contextCalls, apply_append, apply_append,
    apply_keeps (f := verification) fun call hcall => set_verification (by
      rw [c.part_of_certificateCalls call hcall]; decide)]
  generalize context.apply succeeds (c.versionCalls ++ c.cipherCalls) = context' at hbefore ⊢
  obtain ⟨_, hstore⟩ := Prod.mk.inj hbefore
  rw [← hstore, verifyCalls]
  have hset : ∀ context : SslContext,
      context.set c.trustStoreCall = { context with trustStore := c.trustStore } := by
    intro context
    unfold trustStoreCall trustStore
    split <;> rfl
  have hfallible : c.trustStoreCall.fallible = true := by
    unfold trustStoreCall
    split <;> rfl
  cases c.verifyServer with
  | false => simp [SslContext.apply, SslContext.set, ContextCall.fallible, SslContext.verification]
  | true =>
    cases hloads : succeeds c.trustStoreCall <;>
      simp [SslContext.apply, hset, hfallible, hloads, SslContext.verification] <;>
      simp [SslContext.set, ContextCall.fallible]

end SocketTLSClientConfiguration

end SecuritySocket
