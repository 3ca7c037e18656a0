import SecuritySocket.SocketAddress
import SecuritySocket.TLSClientActiveSocket

/-!
# From the configured name to the system (`SecuritySocket.hpp`, `SocketAddress.cpp`)

The name a `SocketConfiguration` is given goes into a field of 128 bytes by a `memcpy` of its
whole length, and from there to `getaddrinfo`, into the 108 bytes of a `sun_path` by
`snprintf`, or, as the host name of a TLS connection, to OpenSSL.  Nothing on the way looks
at its length.
-/

namespace SecuritySocket.Naming

open CStrings FixedWidth SocketClient Transition

/-- Where a name is used: everything but the name.  `rest` is what follows `_port` in memory. -/
structure Setting where
  port : Nat
  rest : List Char
  isUnixDomain : Bool
  user : AddressUser
  getaddrinfo : GetAddrInfo
  library : OpenSslDefaults
  tls : SocketTLSClientConfiguration

/-- The address is that of a unix domain, cut at the first NUL of its `sun_path`. -/
def SocketAddress.sunPath (address : SocketAddress) : Option CString :=
  match address.storage with
  | .unix sunPath => some (read sunPath)
  | .unfilled | .found _ => none

namespace Setting

variable (x : Setting)

/-- A `SocketConfiguration` from `_ip` on, before its constructor's body: `_ip[128]`, `_port[16]`
    and the rest. -/
def initialized : List Char := zeros 128 ++ (zeros 16 ++ x.rest)

def copied (name : CString) : List Char := memcpy x.initialized name

/-- `snprintf(_port, 16, "%d", port)`, after which the configuration is constructed. -/
def constructed (name : CString) : List Char :=
  (x.copied name).take 128 ++
    snprintf (((x.copied name).drop 128).take 16) (toString (toInt32 x.port)).toList ++
      (x.copied name).drop (128 + 16)

def ip (name : CString) : CString := read (x.constructed name)

def portName (name : CString) : CString := read ((x.constructed name).drop 128)

def address (name : CString) : SocketAddress :=
  SocketAddress.make x.getaddrinfo (x.ip name) (x.portName name) x.user.isServer x.isUnixDomain

def socket (name : CString) (a : TlsOpenAnswer) : TLSClientActiveSocket :=
  TLSClientActiveSocket.make x.library x.tls (x.ip name) a

end Setting

/-- The name reaches the system as it is: its copy stays inside the field and is terminated there;
    and where the user of the address, or `open` of a TLS client, returns success, the host or the
    path that was used, or the host name that was kept, is the name. -/
structure Unchanged (x : Setting) (name : CString) : Prop where
  inside : (x.copied name).drop 128 = x.initialized.drop 128
  terminated : nul ∈ (x.constructed name).take 128
  host : x.isUnixDomain = false → ∀ use, Ends (x.address name) x.user use →
    use.result.code = .success → ∀ host ∈ inputIp (x.ip name) x.user.isServer, host = name
  sunPath : x.isUnixDomain = true → ∀ use, Ends (x.address name) x.user use →
    use.result.code = .success → (x.address name).sunPath = some name
  hostname : ∀ a, (x.socket name a).result.code = .success →
    ∀ host ∈ (x.socket name a).hostname, host = name

/-- The two names do not reach `::bind` or `::connect` as one `sun_path` with success, unless they
    are one. -/
def Apart (x : Setting) (name : CString) (x' : Setting) (name' : CString) : Prop :=
  ∀ use use', Ends (x.address name) x.user use → Ends (x'.address name') x'.user use' →
    use.result.code = .success → use'.result.code = .success →
      ∀ given ∈ use.given, ∀ given' ∈ use'.given, ∀ path, given.sunPath = some path →
        given'.sunPath = some path → name = name'

/-- The name leaves room for its NUL in the field, and in a `sun_path` if it is a path. -/
def Fits (x : Setting) (name : CString) : Prop :=
  name.length < 128 ∧ (x.isUnixDomain = true → name.length < 108)

variable {x : Setting} {name : CString}

/-! ### The field -/

theorem take_constructed : (x.constructed name).take 128 = (x.copied name).take 128 := by
  have hlength : 128 ≤ (x.copied name).length := by
    rw [Setting.copied, memcpy, Setting.initialized, List.length_append, List.length_drop,
      List.length_append, length_zeros]
    omega
  have hfield : ((x.copied name).take 128).length = 128 := by
    rw [List.length_take]
    omega
  rw [Setting.constructed, List.append_assoc]
  exact List.take_left' hfield

/-- The field is terminated exactly when the name leaves room for a NUL. -/
theorem terminated_iff (hname : nul ∉ name) :
    nul ∈ (x.constructed name).take 128 ↔ name.length < 128 := by
  rw [take_constructed]
  exact nul_mem_take_memcpy hname

theorem ip_eq (hname : nul ∉ name) (hlt : name.length < 128) : x.ip name = name := by
  have hterminated : nul ∈ (x.constructed name).take 128 := (terminated_iff hname).mpr hlt
  calc x.ip name = read ((x.constructed name).take 128) := (read_take hterminated).symm
    _ = read ((x.copied name).take 128) := by rw [take_constructed]
    _ = read (x.copied name) := read_take (take_constructed ▸ hterminated)
    _ = name := read_memcpy_zeros hname hlt

/-! ### The address -/

theorem sunPath_address (hunix : x.isUnixDomain = true) :
    (x.address name).sunPath = some (read (snprintf (zeros 108) (x.ip name))) := by
  rw [Setting.address, hunix, make_unix]
  rfl

theorem isUnixDomain_of_sunPath {path : CString} (h : (x.address name).sunPath = some path) :
    x.isUnixDomain = true := by
  by_contra hinet
  rw [Bool.not_eq_true] at hinet
  simp only [Setting.address, hinet, SocketAddress.make, Bool.false_eq_true, if_false] at h
  split at h <;> cases h

theorem eq_of_mem_given {address given : SocketAddress} {user : AddressUser} {use : AddressUse}
    (h : Ends address user use) (hgiven : given ∈ use.given) : given = address := by
  have hopen : ∀ a, given ∈ (openWith address a).given → given = address := by
    intro a ha
    unfold openWith at ha
    dsimp only at ha
    split at ha
    · cases ha
    · split at ha
      · cases ha
      · split at ha <;> exact List.mem_singleton.mp ha
  cases h with
  | @client tls maxRetries calls _ hconnect =>
    unfold connectWith at hconnect
    split at hconnect
    · cases hconnect
      obtain ⟨_, _, hsame⟩ := List.mem_map.mp hgiven
      exact hsame.symm
    · cases hconnect
  | requestServer a hsocket => exact hopen a hgiven
  | broadcastServer a hsocket => exact hopen a hgiven

def promptly : Bool → List ConnectCall
  | false => [.connect .ok, .handshake .plain, .probe .plain]
  | true => [.connect .ok, .handshake (.tls 1 wantsRead), .probe .notTls13]

theorem exec_promptly {tls : Bool} {maxRetries : Nat} (hretries : 0 < maxRetries) :
    exec (connectStep tls maxRetries) (connectStart maxRetries) (promptly tls) =
      some (.returned {}) := by
  have hconnect : connectStep tls maxRetries (.connecting 0) (.connect .ok) =
      some (.handshaking 0) := by
    rw [← toHandshake_of_lt hretries {}]
    rfl
  rw [connectStart_of_pos hretries]
  cases tls with
  | false =>
    have hhandshake : connectStep false maxRetries (.handshaking 0) (.handshake .plain) =
        some .probing := by
      rw [← toProbe_of_pos hretries {}]
      rfl
    simp only [promptly, exec_cons_eq_some]
    exact ⟨_, hconnect, _, hhandshake, _, rfl, rfl⟩
  | true =>
    have hhandshake : connectStep true maxRetries (.handshaking 0) (.handshake (.tls 1 wantsRead)) =
        some .probing := by
      rw [← toProbe_of_pos hretries {}]
      rfl
    simp only [promptly, exec_cons_eq_some]
    exact ⟨_, hconnect, _, hhandshake, _, rfl, rfl⟩

theorem exists_success {address : SocketAddress} (hresult : address.result.code = .success)
    (user : AddressUser) : ∃ use, Ends address user use ∧ use.result.code = .success := by
  have hopen : (openWith address { socket := 3 }).result.code = .success := by
    simp [openWith, hresult, PassiveSocket.make, PassiveSocket.callResult]
  cases user with
  | client tls maxRetries =>
    cases maxRetries with
    | zero =>
      have hconnect : connectWith address tls 0 [] = some ⟨{}, []⟩ := rfl
      exact ⟨_, .client hconnect, rfl⟩
    | succ left =>
      have hconnect : connectWith address tls (left + 1) (promptly tls) =
          some ⟨{}, ((promptly tls).filter isConnect).map fun _ => address⟩ := by
        rw [connectWith, exec_promptly (Nat.succ_pos left)]
      exact ⟨_, .client hconnect, rfl⟩
  | requestServer => exact ⟨_, .requestServer { socket := 3 } (by decide), hopen⟩
  | broadcastServer => exact ⟨_, .broadcastServer { socket := 3 } (by decide), hopen⟩

/-! ### Names that fit, and names that do not -/

theorem hostname_eq {a : TlsOpenAnswer} (hsuccess : (x.socket name a).result.code = .success)
    {host : CString} (hhost : host ∈ (x.socket name a).hostname) : host = x.ip name := by
  rw [Setting.socket] at hsuccess hhost
  rw [(TLSClientActiveSocket.make_of_success hsuccess).2, TLSClientActiveSocket.keptHostname]
    at hhost
  split at hhost
  · exact (Option.some.inj hhost).symm
  · cases hhost

theorem unchanged_of_fits (hname : nul ∉ name) (hfits : Fits x name) : Unchanged x name := by
  have hip : x.ip name = name := ip_eq hname hfits.1
  refine ⟨?_, ?_, ?_, ?_, ?_⟩
  · have hbehind : x.initialized.drop 128 = zeros 16 ++ x.rest := by
      rw [Setting.initialized]
      exact List.drop_left' (length_zeros 128)
    rw [hbehind]
    exact (drop_memcpy_eq hname (by decide)).mpr (Nat.le_of_lt hfits.1)
  · exact (terminated_iff hname).mpr hfits.1
  · intro _ use _ _ host hhost
    rw [inputIp, hip] at hhost
    split at hhost
    · cases hhost
    · exact (Option.some.inj hhost).symm
  · intro hunix use _ _
    have hread : read (snprintf (zeros 108) name) = name := by
      rw [read_snprintf_eq_iff hname (by decide), length_zeros]
      exact hfits.2 hunix
    rw [sunPath_address hunix, hip, hread]
  · intro a hsuccess host hhost
    rw [hostname_eq hsuccess hhost, hip]

theorem fits_of_unchanged (hname : nul ∉ name) (h : Unchanged x name) : Fits x name := by
  have hlt : name.length < 128 := (terminated_iff hname).mp h.terminated
  refine ⟨hlt, fun hunix => ?_⟩
  have hresult : (x.address name).result.code = .success := by
    rw [Setting.address, hunix, make_unix]
  obtain ⟨use, hends, hsuccess⟩ := exists_success hresult x.user
  have hpath := h.sunPath hunix use hends hsuccess
  rw [sunPath_address hunix, ip_eq hname hlt, Option.some.injEq] at hpath
  rw [read_snprintf_eq_iff hname (by decide), length_zeros] at hpath
  exact hpath

theorem Unchanged.apart {x' : Setting} {name' : CString} (h : Unchanged x name)
    (h' : Unchanged x' name') : Apart x name x' name' := by
  intro use use' hends hends' hsuccess hsuccess' given hgiven given' hgiven' path hpath hpath'
  rw [eq_of_mem_given hends hgiven] at hpath
  rw [eq_of_mem_given hends' hgiven'] at hpath'
  have hname := h.sunPath (isUnixDomain_of_sunPath hpath) use hends hsuccess
  have hname' := h'.sunPath (isUnixDomain_of_sunPath hpath') use' hends' hsuccess'
  rw [hpath, Option.some.injEq] at hname
  rw [hpath', Option.some.injEq] at hname'
  exact hname.symm.trans hname'

/-- **Configured names.**  Two names, of whatever length and wherever they are used, reach the system
    as they are, and apart, exactly when each leaves room for its NUL in the field of the
    configuration and, if it is a path, in a `sun_path`. -/
theorem unchanged_iff (x x' : Setting) {name name' : CString} (hname : nul ∉ name)
    (hname' : nul ∉ name') :
    Unchanged x name ∧ Unchanged x' name' ∧ Apart x name x' name' ↔
      Fits x name ∧ Fits x' name' := by
  constructor
  · rintro ⟨h, h', -⟩
    exact ⟨fits_of_unchanged hname h, fits_of_unchanged hname' h'⟩
  · rintro ⟨hfits, hfits'⟩
    have h := unchanged_of_fits hname hfits
    have h' := unchanged_of_fits hname' hfits'
    exact ⟨h, h', h.apart h'⟩

def unixServer : Setting where
  port := 0
  rest := []
  isUnixDomain := true
  user := .broadcastServer
  getaddrinfo := lookup
  library := { minProtoVersion := 0, maxProtoVersion := 0, cipherList := [], ciphersuites := [] }
  tls := SocketTLSClientConfiguration.make {}

def unixClient : Setting := { unixServer with user := .client false 3 }

theorem unchanged_iff_short : Unchanged unixServer ['/', 'a'] ∧ Unchanged unixClient ['/', 'b'] ∧
    Apart unixServer ['/', 'a'] unixClient ['/', 'b'] ↔
      Fits unixServer ['/', 'a'] ∧ Fits unixClient ['/', 'b'] :=
  unchanged_iff unixServer unixClient (by decide) (by decide)

def longPath (last : Char) : CString := List.replicate 107 'p' ++ [last]

theorem nul_notMem_longPath {last : Char} (h : nul ≠ last) : nul ∉ longPath last := by
  simp only [longPath, List.mem_append, List.mem_replicate, List.mem_singleton, not_or]
  exact ⟨fun hp => absurd hp.2 (by decide), h⟩

theorem sunPath_longPath {last : Char} (h : nul ≠ last) (hunix : x.isUnixDomain = true) :
    (x.address (longPath last)).sunPath = some (List.replicate 107 'p') := by
  have hname := nul_notMem_longPath h
  have hlength : (longPath last).length = 108 := by
    rw [longPath, List.length_append, List.length_replicate, List.length_singleton]
  rw [sunPath_address hunix, ip_eq hname (by omega), read_snprintf hname, length_zeros,
    longPath, List.take_left' List.length_replicate]

/-- Of two paths of 108 characters that differ in the last, a server binds to the first 107 of the
    one, a client of the other connects to it, and both succeed; and a name of 129 characters is
    written past the field. -/
theorem longPaths_meet : ¬ Unchanged unixServer (longPath 'a') ∧
    ¬ Apart unixServer (longPath 'a') unixClient (longPath 'b') ∧
      (unixServer.copied (List.replicate 129 'p')).drop 128 ≠ unixServer.initialized.drop 128 := by
  have hserver := @sunPath_longPath unixServer 'a' (by decide) rfl
  have hclient := @sunPath_longPath unixClient 'b' (by decide) rfl
  refine ⟨fun h => ?_, fun h => ?_, by decide⟩
  · have hfits := fits_of_unchanged (nul_notMem_longPath (by decide)) h
    exact absurd (hfits.2 rfl) (by decide)
  · have hopen : openWith (unixServer.address (longPath 'a')) { socket := 3 } =
        ⟨{}, [unixServer.address (longPath 'a')]⟩ := rfl
    have hconnect : connectWith (unixClient.address (longPath 'b')) false 3 (promptly false) =
        some ⟨{}, [unixClient.address (longPath 'b')]⟩ := by
      rw [connectWith, exec_promptly (by decide)]
      rfl
    have hends : Ends (unixServer.address (longPath 'a')) .broadcastServer
        ⟨{}, [unixServer.address (longPath 'a')]⟩ := by
      rw [← hopen]
      exact .broadcastServer { socket := 3 } (by decide)
    have hsame := h _ _ hends (.client hconnect) rfl rfl _ (List.mem_singleton_self _) _
      (List.mem_singleton_self _) _ hserver hclient
    exact absurd hsame (by decide)

end SecuritySocket.Naming
