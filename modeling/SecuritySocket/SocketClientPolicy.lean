import Mathlib.Data.List.TakeDrop
import SecuritySocket.SocketClientConnect
import SecuritySocket.TLSClientActiveSocket

/-!
# The TLS policy of a client (`SocketClientImpl::open`, `SocketClientImpl::connect`)

What a server may negotiate with a client is settled by the settings of the client's `SSL`
alone.  A run of `connect` that returns success has met what the user asked for if these
settings say what the user asked for, which takes setters that succeed, or defaults that are
strict enough, and a verification of the host name that OpenSSL acts upon.
-/

namespace SecuritySocket.SocketClient

open Transition

/-- `SocketClientImpl::open`: the container holds a socket of either kind. -/
inductive ClientSocket where
  | plain (socket : ClientActiveSocket)
  | tls (socket : TLSClientActiveSocket)
deriving DecidableEq, Repr

namespace ClientSocket

def result : ClientSocket → SocketResult
  | .plain socket => socket.result
  | .tls socket => socket.result

def ssl : ClientSocket → Option SslContext
  | .plain _ => none
  | .tls socket => socket.ssl

/-- The name `SSL_set1_host` is called with. -/
def hostname : ClientSocket → Option CString
  | .plain _ => none
  | .tls socket => socket.hostname

end ClientSocket

def openSocket (library : OpenSslDefaults) (c : SocketTLSClientConfiguration) (host : CString)
    (a : TlsOpenAnswer) : ClientSocket :=
  if c.valid then .tls (TLSClientActiveSocket.make library c host a)
  else .plain (ClientActiveSocket.make a)

/-- What a server and a client agree upon: the version, the suite, which trust stores the chain
    of the server's certificate verifies against, and which names the certificate matches. -/
structure Session where
  version : Nat
  suite : CString
  verifies : TrustStore → Bool
  matchesName : CString → Bool
  verifies_empty : verifies .empty = false

/-- What OpenSSL lets pass.  Only under `SSL_VERIFY_PEER` the checks of the certificate end a
    handshake. -/
structure Permits (settings : SslContext) (host : Option CString) (session : Session) : Prop where
  min : settings.minProtoVersion ≤ session.version
  max : session.version ≤ settings.maxProtoVersion
  suite : session.suite ∈ settings.enabled session.version
  chain : settings.verifyPeer = true → session.verifies settings.trustStore = true
  name : settings.verifyPeer = true → ∀ name ∈ host, session.matchesName name = true

/-- A run of `connect` on a socket that was opened, with the session it negotiates.  `set1Host`
    tells whether `SSL_set1_host` has succeeded by the time the certificate is checked. -/
structure Connects (tls : Bool) (maxRetries : Nat) (socket : ClientSocket) (set1Host : Bool)
    (calls : List ConnectCall) (session : Session) : Prop where
  returns : ∃ result, exec (connectStep tls maxRetries) (connectStart maxRetries) calls =
    some (.returned result) ∧ result.code = .success
  permitted : Handshaken calls → ∃ settings ∈ socket.ssl,
    Permits settings (if set1Host then socket.hostname else none) session
  probed : ∀ r, .probe r ∈ calls → (r = .notTls13 ↔ session.version ≠ SocketTLSVersion.tls1_3.number)

/-- What the user wants the server's certificate verified against. -/
def configuredStore (a : TlsClientArguments) : TrustStore :=
  if a.serverTrustStorePath.getD [] ≠ [] then .file (a.serverTrustStorePath.getD [])
  else .systemDefault

/-- What was asked for is what was agreed upon. -/
structure Enforced (a : TlsClientArguments) (host : CString) (calls : List ConnectCall)
    (session : Session) : Prop where
  negotiated : Handshaken calls
  version : ∃ version ∈ a.supportVersions, session.version = version.number
  server : a.verifyServer = true → session.verifies (configuredStore a) = true
  hostname : a.verifyHostname = true → session.matchesName host = true
  tls12 : session.version = SocketTLSVersion.tls1_2.number → a.tls12CipherSuites ≠ [] →
    ∃ suite ∈ a.tls12CipherSuites, session.suite = suite.name
  tls13 : session.version = SocketTLSVersion.tls1_3.number → a.tls13CipherSuites ≠ [] →
    ∃ suite ∈ a.tls13CipherSuites, session.suite = suite.name

open SocketTLSClientConfiguration

section

variable (library : OpenSslDefaults) (a : TlsClientArguments) (succeeds : ContextCall → Bool)

/-- A version and a suite that can be negotiated, where a setter that fails leaves OpenSSL's default
    in force, and without a trust store nothing verifies. -/
structure Negotiable (version : Nat) (suite : CString) : Prop where
  min : (if succeeds (.setMinProtoVersion (make a).minVersion) then (make a).minVersion
    else library.minProtoVersion) ≤ version
  max : version ≤ if succeeds (.setMaxProtoVersion (make a).maxVersion) then (make a).maxVersion
    else library.maxProtoVersion
  tls12 : version ≠ SocketTLSVersion.tls1_3.number →
    if a.tls12CipherSuites ≠ [] ∧ succeeds (.setCipherList (make a).generateTLS12CipherSuites) then
      ∃ s ∈ a.tls12CipherSuites, s.name = suite
    else suite ∈ library.cipherList
  tls13 : version = SocketTLSVersion.tls1_3.number →
    if a.tls13CipherSuites ≠ [] ∧ succeeds (.setCiphersuites (make a).generateTLS13CipherSuites) then
      ∃ s ∈ a.tls13CipherSuites, s.name = suite
    else suite ∈ library.ciphersuites
  trusted : a.verifyServer = true → succeeds (make a).trustStoreCall = true

/-- Whatever can be negotiated: where a setter has failed the default is within what is listed, the
    path of the trust store is not cut off, and a host name to be verified is verified. -/
structure Strict (host : CString) (set1Host : Bool) (version : Nat) (suite : CString) : Prop where
  listed : succeeds (.setMinProtoVersion (make a).minVersion) = true ∧
      succeeds (.setMaxProtoVersion (make a).maxVersion) = true ∨
    ∃ v ∈ a.supportVersions, version = v.number
  server : a.verifyServer = true → (a.serverTrustStorePath.getD []).length ≤ 255
  hostname : a.verifyHostname = true → a.verifyServer = true ∧ host ≠ [] ∧ set1Host = true
  tls12 : version = SocketTLSVersion.tls1_2.number → a.tls12CipherSuites ≠ [] →
    succeeds (.setCipherList (make a).generateTLS12CipherSuites) = true ∨
      ∃ s ∈ a.tls12CipherSuites, suite = s.name
  tls13 : version = SocketTLSVersion.tls1_3.number → a.tls13CipherSuites ≠ [] →
    succeeds (.setCiphersuites (make a).generateTLS13CipherSuites) = true ∨
      ∃ s ∈ a.tls13CipherSuites, suite = s.name

def settings : SslContext := (SslContext.new library).apply succeeds (make a).contextCalls

end

variable {library : OpenSslDefaults} {a : TlsClientArguments} {succeeds : ContextCall → Bool}

theorem settings_verifyPeer : (settings library a succeeds).verifyPeer = a.verifyServer :=
  congrArg Prod.fst ((make a).apply_verification (SslContext.new library))

theorem settings_trustStore : (settings library a succeeds).trustStore =
    if a.verifyServer ∧ succeeds (make a).trustStoreCall then (make a).trustStore else .empty :=
  congrArg Prod.snd ((make a).apply_verification (SslContext.new library))

theorem mem_enabled {version : Nat} {suite : CString} :
    suite ∈ (settings library a succeeds).enabled version ↔
      (version ≠ SocketTLSVersion.tls1_3.number →
        if a.tls12CipherSuites ≠ [] ∧
            succeeds (.setCipherList (make a).generateTLS12CipherSuites) then
          ∃ s ∈ a.tls12CipherSuites, s.name = suite
        else suite ∈ library.cipherList) ∧
      (version = SocketTLSVersion.tls1_3.number →
        if a.tls13CipherSuites ≠ [] ∧
            succeeds (.setCiphersuites (make a).generateTLS13CipherSuites) then
          ∃ s ∈ a.tls13CipherSuites, s.name = suite
        else suite ∈ library.ciphersuites) := by
  have hlist : (settings library a succeeds).cipherList = _ :=
    congrArg Prod.fst ((make a).apply_suites (SslContext.new library))
  have hsuites : (settings library a succeeds).ciphersuites = _ :=
    congrArg Prod.snd ((make a).apply_suites (SslContext.new library))
  have h12 := generateTLS12CipherSuites_eq_nil a
  have h13 := generateTLS13CipherSuites_eq_nil a
  unfold SslContext.enabled
  by_cases hversion : version = SocketTLSVersion.tls1_3.number
  · rw [if_pos hversion, hsuites]
    simp only [hversion, ne_eq, not_true_eq_false, false_implies, true_implies, true_and, h13]
    split
    · exact mem_cipherNames_tls13 a
    · rfl
  · rw [if_neg hversion, hlist]
    simp only [hversion, ne_eq, not_false_eq_true, false_implies, true_implies, and_true, h12]
    split
    · exact mem_cipherNames_tls12 a
    · rfl

theorem permits_iff {host : Option CString} {session : Session} :
    Permits (settings library a succeeds) host session ↔
      Negotiable library a succeeds session.version session.suite ∧
        (a.verifyServer = true → session.verifies (make a).trustStore = true ∧
          ∀ name ∈ host, session.matchesName name = true) := by
  have hmin : (settings library a succeeds).minProtoVersion = _ :=
    congrArg Prod.fst ((make a).apply_versions (SslContext.new library))
  have hmax : (settings library a succeeds).maxProtoVersion = _ :=
    congrArg Prod.snd ((make a).apply_versions (SslContext.new library))
  constructor
  · intro h
    have hstore : a.verifyServer = true → succeeds (make a).trustStoreCall = true ∧
        session.verifies (make a).trustStore = true := by
      intro hverify
      have hchain := h.chain (settings_verifyPeer.trans hverify)
      rw [settings_trustStore] at hchain
      split at hchain
      · rename_i hboth
        exact ⟨hboth.2, hchain⟩
      · rw [session.verifies_empty] at hchain
        cases hchain
    obtain ⟨h12, h13⟩ := mem_enabled.mp h.suite
    refine ⟨⟨hmin.ge.trans h.min, h.max.trans hmax.le, h12, h13,
      fun hverify => (hstore hverify).1⟩, ?_⟩
    exact fun hverify =>
      ⟨(hstore hverify).2, h.name (settings_verifyPeer.trans hverify)⟩
  · rintro ⟨hnegotiable, hverified⟩
    have hverify : (settings library a succeeds).verifyPeer = true → a.verifyServer = true :=
      settings_verifyPeer.symm.trans
    refine ⟨hmin.le.trans hnegotiable.min, hnegotiable.max.trans hmax.ge,
      mem_enabled.mpr ⟨hnegotiable.tls12, hnegotiable.tls13⟩, fun hpeer => ?_,
      fun hpeer => (hverified (hverify hpeer)).2⟩
    rw [settings_trustStore, if_pos ⟨hverify hpeer, hnegotiable.trusted (hverify hpeer)⟩]
    exact (hverified (hverify hpeer)).1

theorem listed_of_range (hversions : a.supportVersions ≠ []) {version : Nat}
    (hmin : (make a).minVersion ≤ version) (hmax : version ≤ (make a).maxVersion) :
    ∃ v ∈ a.supportVersions, version = v.number := by
  have h12 := isVersionSupported_make a .tls1_2
  have h13 := isVersionSupported_make a .tls1_3
  obtain ⟨v, hv⟩ := List.exists_mem_of_ne_nil _ hversions
  unfold minVersion at hmin
  unfold maxVersion at hmax
  cases hhas12 : (make a).isVersionSupported .tls1_2 <;>
    cases hhas13 : (make a).isVersionSupported .tls1_3 <;>
    simp only [hhas12, hhas13, if_true, Bool.false_eq_true, if_false, false_iff, true_iff,
      SocketTLSVersion.number] at hmin hmax h12 h13
  · cases v
    · exact absurd hv h12
    · exact absurd hv h13
  · exact ⟨.tls1_3, h13, Nat.le_antisymm hmax hmin⟩
  · exact ⟨.tls1_2, h12, Nat.le_antisymm hmax hmin⟩
  · rcases Nat.lt_or_ge version 0x0304 with hlt | hge
    · exact ⟨.tls1_2, h12, Nat.le_antisymm (Nat.le_of_lt_succ hlt) hmin⟩
    · exact ⟨.tls1_3, h13, Nat.le_antisymm hmax hge⟩

/-- A path of up to 255 characters is kept as it is, and a longer one is not. -/
theorem trustStore_eq_iff : (make a).trustStore = configuredStore a ↔
    (a.serverTrustStorePath.getD []).length ≤ 255 := by
  have hpath : (make a).serverTrustStorePath = (a.serverTrustStorePath.getD []).take 255 := rfl
  unfold trustStore configuredStore
  rw [hpath, ← List.take_eq_self_iff]
  generalize a.serverTrustStorePath.getD [] = path
  cases path with
  | nil => simp
  | cons c path => simp

theorem trustStore_ne_empty (c : SocketTLSClientConfiguration) : c.trustStore ≠ .empty := by
  unfold trustStore
  split <;> simp

def smooth (version : Nat) : List ConnectCall :=
  [.connect .ok, .handshake (.tls 1 wantsRead),
    .probe (if version = SocketTLSVersion.tls1_3.number then .peek 1 wantsRead else .notTls13)]

theorem exec_smooth {maxRetries : Nat} (hmax : 0 < maxRetries) (version : Nat) :
    exec (connectStep true maxRetries) (connectStart maxRetries) (smooth version) =
      some (.returned {}) := by
  have hconnect : connectStart maxRetries = .connecting 0 := if_pos hmax
  have hhandshake : connectStep true maxRetries (.connecting 0) (.connect .ok) =
      some (.handshaking 0) := congrArg some (if_pos hmax)
  have hprobe : connectStep true maxRetries (.handshaking 0) (.handshake (.tls 1 wantsRead)) =
      some .probing := congrArg some (if_pos hmax)
  rw [hconnect, smooth, exec_cons_eq_some]
  refine ⟨_, hhandshake, exec_cons_eq_some.mpr ⟨_, hprobe, ?_⟩⟩
  split <;> rfl

/-- A client that was opened with a TLS version has the settings, and the name if it is to be
    verified. -/
theorem openSocket_of_success (hversions : a.supportVersions ≠ []) {host : CString}
    {answer : TlsOpenAnswer}
    (hopen : (openSocket library (make a) host answer).result.code = .success) :
    (openSocket library (make a) host answer).ssl = some (settings library a answer.succeeds) ∧
      (openSocket library (make a) host answer).hostname =
        TLSClientActiveSocket.keptHostname (make a) host := by
  have hsocket : openSocket library (make a) host answer =
      .tls (TLSClientActiveSocket.make library (make a) host answer) :=
    if_pos ((valid_make a).mpr hversions)
  rw [hsocket] at hopen ⊢
  exact TLSClientActiveSocket.make_of_success hopen

theorem Strict.enforced {host : CString} {set1Host : Bool} {calls : List ConnectCall}
    {session : Session} (hversions : a.supportVersions ≠ [])
    (h : Strict a succeeds host set1Host session.version session.suite)
    (hnegotiable : Negotiable library a succeeds session.version session.suite)
    (hverified : a.verifyServer = true → session.verifies (make a).trustStore = true ∧
      ∀ name ∈ (if set1Host then TLSClientActiveSocket.keptHostname (make a) host else none),
        session.matchesName name = true)
    (hhandshaken : Handshaken calls) : Enforced a host calls session where
  negotiated := hhandshaken
  version := by
    rcases h.listed with ⟨hmin, hmax⟩ | hlisted
    · have hlow := hnegotiable.min
      have hhigh := hnegotiable.max
      rw [if_pos hmin] at hlow
      rw [if_pos hmax] at hhigh
      exact listed_of_range hversions hlow hhigh
    · exact hlisted
  server := by
    intro hverify
    rw [← trustStore_eq_iff.mpr (h.server hverify)]
    exact (hverified hverify).1
  hostname := by
    intro hname
    obtain ⟨hverify, hhost, hset⟩ := h.hostname hname
    apply (hverified hverify).2
    have hkept : TLSClientActiveSocket.keptHostname (make a) host = some host :=
      if_pos (by simp [make, hname, hhost])
    rw [if_pos hset, hkept]
    rfl
  tls12 := by
    intro hversion hlisted
    rcases h.tls12 hversion hlisted with hsucceeds | hdefault
    · have hsuite := hnegotiable.tls12 (by rw [hversion]; decide)
      rw [if_pos ⟨hlisted, hsucceeds⟩] at hsuite
      obtain ⟨suite, hmem, hname⟩ := hsuite
      exact ⟨suite, hmem, hname.symm⟩
    · exact hdefault
  tls13 := by
    intro hversion hlisted
    rcases h.tls13 hversion hlisted with hsucceeds | hdefault
    · have hsuite := hnegotiable.tls13 hversion
      rw [if_pos ⟨hlisted, hsucceeds⟩] at hsuite
      obtain ⟨suite, hmem, hname⟩ := hsuite
      exact ⟨suite, hmem, hname.symm⟩
    · exact hdefault

/-- A server whose certificate is just good enough for the checks that are made. -/
def barelyPermitted (a : TlsClientArguments) (host : Option CString) (version : Nat)
    (suite : CString) : Session where
  version := version
  suite := suite
  verifies store := store != .empty && store == (make a).trustStore
  matchesName name := a.verifyServer && host == some name
  verifies_empty := rfl

theorem strict_of_enforced {host : CString} {set1Host : Bool} {calls : List ConnectCall}
    {version : Nat} {suite : CString}
    (h : Enforced a host calls (barelyPermitted a
      (if set1Host then TLSClientActiveSocket.keptHostname (make a) host else none) version suite)) :
    Strict a succeeds host set1Host version suite where
  listed := .inr h.version
  server := by
    intro hverify
    have hstore := h.server hverify
    simp only [barelyPermitted, Bool.and_eq_true, beq_iff_eq] at hstore
    exact trustStore_eq_iff.mp hstore.2.symm
  hostname := by
    intro hname
    have hmatches := h.hostname hname
    simp only [barelyPermitted, Bool.and_eq_true, beq_iff_eq] at hmatches
    obtain ⟨hverify, hkept⟩ := hmatches
    cases hset : set1Host with
    | false => simp [hset] at hkept
    | true =>
      refine ⟨hverify, ?_, rfl⟩
      rintro rfl
      simp [hset, TLSClientActiveSocket.keptHostname] at hkept
  tls12 := fun hversion hlisted => .inr (h.tls12 hversion hlisted)
  tls13 := fun hversion hlisted => .inr (h.tls13 hversion hlisted)

/-- **The TLS policy.**  Every successful `connect` of a client opened with success enforces what
    was asked for, exactly if there is a retry to make and whatever can be negotiated is strict. -/
theorem enforced_iff {host : CString} {answer : TlsOpenAnswer} {maxRetries : Nat} {set1Host : Bool}
    (hversions : a.supportVersions ≠ [])
    (hopen : (openSocket library (make a) host answer).result.code = .success) :
    (∀ calls session,
        Connects (make a).valid maxRetries (openSocket library (make a) host answer) set1Host
          calls session → Enforced a host calls session) ↔
      0 < maxRetries ∧ ∀ version suite, Negotiable library a answer.succeeds version suite →
        Strict a answer.succeeds host set1Host version suite := by
  obtain ⟨hssl, hhostname⟩ := openSocket_of_success hversions hopen
  rw [(valid_make a).mpr hversions]
  constructor
  · intro h
    have hmax : 0 < maxRetries := by
      by_contra hzero
      rw [Nat.eq_zero_of_not_pos hzero] at h
      have hnothing : Connects true 0 (openSocket library (make a) host answer) set1Host []
          (barelyPermitted a none 0 []) :=
        ⟨⟨{}, rfl, rfl⟩, fun ⟨_, hmem⟩ => absurd hmem List.not_mem_nil, by simp⟩
      obtain ⟨_, hmem⟩ := (h _ _ hnothing).negotiated
      cases hmem
    refine ⟨hmax, fun version suite hnegotiable => strict_of_enforced (h (smooth version) _ ?_)⟩
    refine ⟨⟨{}, exec_smooth hmax version, rfl⟩, fun _ => ⟨_, hssl, ?_⟩, ?_⟩
    · rw [permits_iff, hhostname]
      refine ⟨hnegotiable, fun hverify => ⟨?_, fun name hname => ?_⟩⟩
      · simp [barelyPermitted, trustStore_ne_empty]
      · rw [Option.mem_def.mp hname]
        simp [barelyPermitted, hverify]
    · intro r hr
      have hr' : r = if version = SocketTLSVersion.tls1_3.number then .peek 1 wantsRead
          else .notTls13 := by simpa [smooth] using hr
      rw [hr']
      split <;> simp_all [barelyPermitted]
  · rintro ⟨hmax, hstrict⟩ calls session hconnects
    obtain ⟨result, hexec, hsuccess⟩ := hconnects.returns
    have hhandshaken := handshaken_of_success hmax hexec hsuccess
    obtain ⟨context, hcontext, hpermits⟩ := hconnects.permitted hhandshaken
    rw [hssl, Option.mem_some_iff] at hcontext
    rw [← hcontext, permits_iff, hhostname] at hpermits
    exact (hstrict _ _ hpermits.1).enforced hversions hpermits.1 hpermits.2 hhandshaken

/-- An OpenSSL with a few suites of its own, as it is built without the protocols before TLS 1.2. -/
def sampleLibrary : OpenSslDefaults where
  minProtoVersion := 0x0303
  maxProtoVersion := 0x0304
  cipherList := ["ECDHE-RSA-AES256-GCM-SHA384".toList, "AES256-SHA".toList]
  ciphersuites := ["TLS_AES_256_GCM_SHA384".toList, "TLS_AES_128_GCM_SHA256".toList]

def allSucceed : TlsOpenAnswer where
  socket := 3
  succeeds _ := true

def checked : TlsClientArguments where
  supportVersions := [.tls1_3]
  tls13CipherSuites := [.tlsAes256GcmSha384]
  verifyServer := true
  verifyHostname := true
  serverTrustStorePath := some "ca.crt".toList

theorem checked_enforced :
    (openSocket sampleLibrary (make checked) "example".toList allSucceed).result.code = .success ∧
    ∀ calls session,
      Connects (make checked).valid 3 (openSocket sampleLibrary (make checked) "example".toList
        allSucceed) true calls session → Enforced checked "example".toList calls session := by
  have hopen : (openSocket sampleLibrary (make checked) "example".toList
      allSucceed).result.code = .success := by decide
  refine ⟨hopen, (enforced_iff (by decide) hopen).mpr ⟨by decide, fun version suite _ => ?_⟩⟩
  exact ⟨.inl ⟨rfl, rfl⟩, fun _ => by decide, fun _ => ⟨rfl, by decide, rfl⟩, fun _ _ => .inl rfl,
    fun _ _ => .inl rfl⟩

def nameOnly : TlsClientArguments where
  supportVersions := [.tls1_2, .tls1_3]
  verifyHostname := true

/-- A server with the certificate of another host. -/
def otherHost : Session where
  version := 0x0304
  suite := "TLS_AES_256_GCM_SHA384".toList
  verifies store := store != .empty
  matchesName name := name == "other".toList
  verifies_empty := rfl

theorem nameOnly_not_enforced :
    (openSocket sampleLibrary (make nameOnly) "example".toList allSucceed).result.code = .success ∧
    Connects (make nameOnly).valid 3 (openSocket sampleLibrary (make nameOnly) "example".toList
      allSucceed) true (smooth 0x0304) otherHost ∧
    ¬ Enforced nameOnly "example".toList (smooth 0x0304) otherHost := by
  refine ⟨by decide, ⟨⟨{}, by decide, rfl⟩, fun _ => ⟨_, rfl, ?_⟩, ?_⟩, fun h => ?_⟩
  · exact ⟨by decide, by decide, by decide, fun hpeer => absurd hpeer (by decide),
      fun hpeer => absurd hpeer (by decide)⟩
  · intro r hr
    have hr' : r = .peek 1 wantsRead := by simpa [smooth, SocketTLSVersion.number] using hr
    simp [hr', otherHost, SocketTLSVersion.number]
  · exact absurd (h.hostname rfl) (by decide)

end SecuritySocket.SocketClient
