import SecuritySocket.CStrings
import SecuritySocket.PassiveSocket
import SecuritySocket.SocketClientConnect
import SecuritySocket.TlsConfiguration

/-!
# Addresses and their users (`SocketAddress.cpp`)

The client builds an address in `connect`, the servers in `open`.  When `getaddrinfo` fails
the address stays unfilled, of size 0; the errors that are named in a `switch` are recorded in
it, the others are not.  The servers take the result of the address before they bind;
`connect` tests a result of its own, which is still a success.
-/

namespace SecuritySocket.Naming

open CStrings SocketClient Transition

/-- What `_socket_address` holds: nothing, the `sun_path` of a `sockaddr_un`, or what
    `getaddrinfo` found. -/
inductive SocketStorage where
  | unfilled
  | unix (sunPath : List Char)
  | found (address : List UInt8)
deriving DecidableEq, Repr

structure SocketAddress where
  result : SocketResult := {}
  size : Nat := 0
  storage : SocketStorage := .unfilled
  isUnixDomain : Bool := false
deriving DecidableEq, Repr

structure AddrInfo where
  ret : AddrInfoReturn
  found : List UInt8 := []
deriving DecidableEq, Repr

/-- `getaddrinfo`, on the host, the port and the hint AI_PASSIVE; a null pointer for the host is
    `none`. -/
abbrev GetAddrInfo := Option CString → CString → Bool → AddrInfo

/-- The host that is looked up: a server passes a null pointer. -/
def inputIp (ip : CString) (isServer : Bool) : Option CString :=
  if isServer then none else some ip

def SocketAddress.make (getaddrinfo : GetAddrInfo) (ip port : CString)
    (isServer isUnixDomain : Bool) : SocketAddress :=
  if isUnixDomain then
    { size := 110, storage := .unix (snprintf (zeros 108) ip), isUnixDomain := true }
  else
    let address := getaddrinfo (inputIp ip isServer) port isServer
    if address.ret ≠ .ok then { result := SecuritySocket.SocketAddress.result address.ret }
    else { size := address.found.length, storage := .found address.found }

/-- Who builds an address: the client in `connect`, a server in `open`. -/
inductive AddressUser where
  | client (tls : Bool) (maxRetries : Nat)
  | requestServer
  | broadcastServer
deriving DecidableEq, Repr

def AddressUser.isServer : AddressUser → Bool
  | .client _ _ => false
  | .requestServer | .broadcastServer => true

/-- How a user of an address ends: what it returns, and the addresses it gave to `::connect` or
    `::bind`. -/
structure AddressUse where
  result : SocketResult
  given : List SocketAddress
deriving DecidableEq, Repr

def isConnect : ConnectCall → Bool
  | .connect _ => true
  | .poll _ | .handshake _ | .probe _ => false

/-- `connect` with an address, when these are its calls.  The test that follows the construction
    of the address looks at the local `result`, which is still a success. -/
def connectWith (address : SocketAddress) (tls : Bool) (maxRetries : Nat)
    (calls : List ConnectCall) : Option AddressUse :=
  match exec (connectStep tls maxRetries) (connectStart maxRetries) calls with
  | some (.returned result) => some ⟨result, (calls.filter isConnect).map fun _ => address⟩
  | _ => none

/-- The steps with which `open` of either server begins, with an address. -/
def openWith (address : SocketAddress) (a : OpenAnswer) : AddressUse :=
  let socket := PassiveSocket.make a.socket a.errno
  if socket.result.code ≠ .success then ⟨socket.result, []⟩
  else if address.result.code ≠ .success then ⟨address.result, []⟩
  else if (PassiveSocket.callResult a.bind a.errno).code ≠ .success then
    ⟨PassiveSocket.callResult a.bind a.errno, [address]⟩
  else ⟨PassiveSocket.callResult a.listen a.errno, [address]⟩

/-- How a user can end with this address, once it has a socket. -/
inductive Ends (address : SocketAddress) : AddressUser → AddressUse → Prop where
  | client {tls : Bool} {maxRetries : Nat} {calls : List ConnectCall} {use : AddressUse}
      (h : connectWith address tls maxRetries calls = some use) :
      Ends address (.client tls maxRetries) use
  | requestServer (a : OpenAnswer) (hsocket : 0 ≤ a.socket) :
      Ends address .requestServer (openWith address a)
  | broadcastServer (a : OpenAnswer) (hsocket : 0 ≤ a.socket) :
      Ends address .broadcastServer (openWith address a)

/-- However the user ends, it returns that there is no address, and has given no unfilled address
    to `::connect` or `::bind`. -/
def Reports (address : SocketAddress) (user : AddressUser) : Prop :=
  ∀ use, Ends address user use →
    use.result.code = .addressNotAvailable ∧ ∀ given ∈ use.given, given.size ≠ 0

variable {getaddrinfo : GetAddrInfo} {ip port : CString} {isServer : Bool}

/-! ### The address -/

theorem make_unix : SocketAddress.make getaddrinfo ip port isServer true =
    { size := 110, storage := .unix (snprintf (zeros 108) ip), isUnixDomain := true } := rfl

theorem make_failed (hret : (getaddrinfo (inputIp ip isServer) port isServer).ret ≠ .ok) :
    SocketAddress.make getaddrinfo ip port isServer false =
      { result := SecuritySocket.SocketAddress.result
          (getaddrinfo (inputIp ip isServer) port isServer).ret } := by
  simp only [SocketAddress.make, Bool.false_eq_true, if_false, hret, ne_eq, not_false_eq_true,
    if_true]

theorem make_result : (SocketAddress.make getaddrinfo ip port isServer false).result =
    SecuritySocket.SocketAddress.result (getaddrinfo (inputIp ip isServer) port isServer).ret := by
  by_cases hret : (getaddrinfo (inputIp ip isServer) port isServer).ret = .ok
  · simp [SocketAddress.make, hret, SecuritySocket.SocketAddress.result]
  · rw [make_failed hret]

/-- An error is recorded exactly when the `switch` names it. -/
theorem result_code_of_failed {ret : AddrInfoReturn} (hret : ret ≠ .ok) :
    (SecuritySocket.SocketAddress.result ret).code =
      if ret = .other then .success else .addressNotAvailable := by
  cases ret with
  | ok => exact absurd rfl hret
  | again | fail | memory | noName | service | other => rfl

/-! ### Failed resolutions -/

/-- What Linux makes of an address of size 0. -/
def invalidCall : ConnectCall := .connect (.error .einval)

/-- The client tries an address that the system does not accept until its retries are spent. -/
theorem exec_invalidCall {tls : Bool} {maxRetries : Nat} (left i : Nat)
    (hleft : i + (left + 1) = maxRetries) :
    exec (connectStep tls maxRetries) (.connecting i) (List.replicate (left + 1) invalidCall) =
      some (.returned { code := .socketInvalidArgument }) := by
  have hcall : connectStep tls maxRetries (.connecting i) invalidCall =
      some (toConnect maxRetries (i + 1) { code := .socketInvalidArgument }) := rfl
  rw [List.replicate_succ, exec_cons_eq_some]
  refine ⟨_, hcall, ?_⟩
  rw [toConnect_of_ne (by simp)]
  induction left generalizing i with
  | zero =>
    rw [if_neg (by omega)]
    rfl
  | succ left ih =>
    rw [if_pos (by omega), List.replicate_succ, exec_cons_eq_some]
    refine ⟨_, rfl, ?_⟩
    have hnext := ih (i + 1) (by omega) rfl
    rwa [← toConnect_of_ne (by simp)] at hnext

/-- A client with an unfilled address can end without a word of it, whatever its retries. -/
theorem not_reports_client {tls : Bool} {maxRetries : Nat} {address : SocketAddress} :
    ¬ Reports address (.client tls maxRetries) := by
  intro h
  cases maxRetries with
  | zero =>
    have hends : connectWith address tls 0 [] = some ⟨{}, []⟩ := rfl
    cases (h _ (.client hends)).1
  | succ left =>
    have hexec := @exec_invalidCall tls _ left 0 (Nat.zero_add _)
    rw [← connectStart_of_pos (Nat.succ_pos left)] at hexec
    have hends : connectWith address tls (left + 1) (List.replicate (left + 1) invalidCall) =
        some ⟨{ code := .socketInvalidArgument },
          ((List.replicate (left + 1) invalidCall).filter isConnect).map fun _ => address⟩ := by
      rw [connectWith, hexec]
    cases (h _ (.client hends)).1

def refusedBind : OpenAnswer := { socket := 3, bind := -1, errno := .einval }

/-- A server with an unfilled address reports it exactly when the address recorded the error. -/
theorem openWith_reports {address : SocketAddress} (hsize : address.size = 0) :
    (∀ a : OpenAnswer, 0 ≤ a.socket →
      (openWith address a).result.code = .addressNotAvailable ∧
        ∀ given ∈ (openWith address a).given, given.size ≠ 0) ↔
      address.result.code = .addressNotAvailable := by
  constructor
  · intro h
    have hrefused := h refusedBind (by decide)
    unfold openWith at hrefused
    dsimp only at hrefused
    rw [if_neg (by decide)] at hrefused
    split at hrefused
    · exact hrefused.1
    · rw [if_pos (by decide)] at hrefused
      exact absurd hsize (hrefused.2 address (by simp))
  · intro hcode a hsocket
    have hmake : (PassiveSocket.make a.socket a.errno).result.code = .success :=
      PassiveSocket.make_result_code.mpr hsocket
    simp [openWith, hmake, hcode]

/-- For a server it is about every answer of the system to `open`. -/
theorem reports_server {address : SocketAddress} {user : AddressUser}
    (hserver : user.isServer = true) : Reports address user ↔ ∀ a : OpenAnswer, 0 ≤ a.socket →
      (openWith address a).result.code = .addressNotAvailable ∧
        ∀ given ∈ (openWith address a).given, given.size ≠ 0 := by
  cases user with
  | client tls maxRetries => cases hserver
  | requestServer =>
    constructor
    · intro h a hsocket
      exact h _ (.requestServer a hsocket)
    · rintro h use (_ | ⟨a, hsocket⟩)
      exact h a hsocket
  | broadcastServer =>
    constructor
    · intro h a hsocket
      exact h _ (.broadcastServer a hsocket)
    · rintro h use (_ | _ | ⟨a, hsocket⟩)
      exact h a hsocket

/-- **Failed resolution.**  Whatever `getaddrinfo` fails with, on whatever host and port: it is
    reported, and the unfilled address goes nowhere, exactly where the user is a server and the
    error is one of those the `switch` names. -/
theorem reports_iff (getaddrinfo : GetAddrInfo) (ip port : CString) (user : AddressUser)
    (hret : (getaddrinfo (inputIp ip user.isServer) port user.isServer).ret ≠ .ok) :
    Reports (SocketAddress.make getaddrinfo ip port user.isServer false) user ↔
      user.isServer = true ∧
        (getaddrinfo (inputIp ip user.isServer) port user.isServer).ret ≠ .other := by
  have hsize : (SocketAddress.make getaddrinfo ip port user.isServer false).size = 0 := by
    rw [make_failed hret]
  have hcode : (SocketAddress.make getaddrinfo ip port user.isServer false).result.code =
      .addressNotAvailable ↔
        (getaddrinfo (inputIp ip user.isServer) port user.isServer).ret ≠ .other := by
    rw [make_result, result_code_of_failed hret]
    split <;> simp_all
  by_cases hserver : user.isServer = true
  · rw [reports_server hserver, openWith_reports hsize, hcode, and_iff_right hserver]
  · refine iff_of_false ?_ fun h => hserver h.1
    cases user with
    | client tls maxRetries => exact not_reports_client
    | requestServer | broadcastServer => exact absurd rfl hserver

/-- A resolver that knows every host but one, takes digits for a port, and cannot tell who it is
    asked for where the port is missing. -/
def lookup : GetAddrInfo := fun host port _ =>
  if port = [] then { ret := .other }
  else if host = some ['x'] then { ret := .noName }
  else if port.all Char.isDigit then { ret := .ok, found := List.replicate 16 0 }
  else { ret := .service }

/-- The port 4294967295 as `%d` prints it. -/
theorem reports_iff_service :
    Reports (SocketAddress.make lookup [] ['-', '1'] true false) .requestServer ↔
      AddressUser.requestServer.isServer = true ∧
        (lookup (inputIp [] true) ['-', '1'] true).ret ≠ .other :=
  reports_iff lookup [] ['-', '1'] .requestServer (by decide)

/-- An unknown host is reported by the client as an invalid argument, after three attempts with an
    address of size 0; a server binds with one when the error is none of those named. -/
theorem unknownHost_misreported :
    (∃ use, Ends (SocketAddress.make lookup ['x'] ['8', '0'] false false) (.client false 3) use ∧
      use.result.code = .socketInvalidArgument ∧ use.given.map SocketAddress.size = [0, 0, 0]) ∧
    (∃ use, Ends (SocketAddress.make lookup [] [] true false) .requestServer use ∧
      use.result.code = .socketInvalidArgument ∧ use.given.map SocketAddress.size = [0]) ∧
    ¬ Reports (SocketAddress.make lookup ['x'] ['8', '0'] false false) (.client false 3) ∧
    ¬ Reports (SocketAddress.make lookup [] [] true false) .requestServer := by
  have hclient : connectWith (SocketAddress.make lookup ['x'] ['8', '0'] false false) false 3
      (List.replicate 3 invalidCall) = some ⟨{ code := .socketInvalidArgument },
        List.replicate 3 (SocketAddress.make lookup ['x'] ['8', '0'] false false)⟩ := by decide
  have hserver : openWith (SocketAddress.make lookup [] [] true false) refusedBind =
      ⟨{ code := .socketInvalidArgument }, [SocketAddress.make lookup [] [] true false]⟩ := by decide
  refine ⟨⟨_, .client hclient, rfl, by decide⟩,
    ⟨_, .requestServer refusedBind (by decide), by rw [hserver], by rw [hserver]; decide⟩, ?_, ?_⟩
  · intro h
    cases (h _ (.client hclient)).1
  · intro h
    have hcode := (h _ (.requestServer refusedBind (by decide))).1
    rw [hserver] at hcode
    cases hcode

end SecuritySocket.Naming
