import SecuritySocket.HandleLedger
import SecuritySocket.SocketClient
import SecuritySocket.SocketClientPolicy

/-!
# The life of a client (`SocketClientImpl`, `SocketContainer`)

A client object is constructed, called in some order and destructed.  `_socket` is null until
`open`, which makes a socket in a temporary container and copies its bytes; no destructor of a
socket does anything, so what the temporary acquired belongs to the copy.  `disconnect` and
`close` release what the socket holds, and the destructor of the client calls both.
-/

namespace SecuritySocket.SocketClient

open Transition Ledger

/-- What a client acquires from the system and from OpenSSL. -/
inductive ClientHandle where
  | descriptor (fd : Int)
  | context (address : Nat)
  | ssl (address : Nat)
deriving DecidableEq, Repr

/-- What the system and OpenSSL answer to `open`, with the addresses of what they create. -/
structure ClientOpenAnswer extends TlsOpenAnswer where
  contextAddress : Nat := 0
  sslAddress : Nat := 0

/-- The members of the socket in the container; `none` is a null pointer. -/
structure SocketMembers where
  tls : Bool
  socket : Int
  context : Option Nat := none
  ssl : Option Nat := none
deriving DecidableEq, Repr

/-- The calls a client object can get, with what each of them meets. -/
inductive ClientCall where
  | open_ (a : ClientOpenAnswer)
  | connect (calls : List ConnectCall)
  | read (size : Nat) (rounds : List ReadRound)
  | write (size : Nat) (rounds : List WriteRound)
  | isConnected
  | close

def ClientCall.isOpen : ClientCall → Bool
  | .open_ _ => true
  | .connect _ | .read _ _ | .write _ _ | .isConnected | .close => false

namespace SocketMembers

def acquiredSocket (fd : Int) : List (Event ClientHandle) :=
  if fd < 0 then [] else [.acquire (.descriptor fd)]

def acquiredContext (address : Nat) (calls : List ContextCall) : List (Event ClientHandle) :=
  .acquire (.context address) :: ((calls.map fun _ => .use (.context address)) ++
    [.use (.context address)])

/-- `SSL_new` returned an `SSL`; `tracked` tells whether there is a callback for TLS events. -/
def acquiredSsl (context address : Nat) (tracked : Bool) : List (Event ClientHandle) :=
  .acquire (.ssl address) :: if tracked then [.use (.ssl address), .use (.context context)] else []

def make (c : SocketTLSClientConfiguration) (tracked : Bool) (a : ClientOpenAnswer) :
    SocketMembers × List (Event ClientHandle) :=
  if !c.valid || a.socket < 0 || !a.newContext then
    ({ tls := c.valid, socket := a.socket }, acquiredSocket a.socket)
  else if a.newSsl then
    ({ tls := true, socket := a.socket, context := some a.contextAddress, ssl := some a.sslAddress },
      acquiredSocket a.socket ++ (acquiredContext a.contextAddress c.contextCalls ++
        acquiredSsl a.contextAddress a.sslAddress tracked))
  else
    ({ tls := true, socket := a.socket },
      acquiredSocket a.socket ++ (acquiredContext a.contextAddress c.contextCalls ++
        [.release (.context a.contextAddress)]))

def destruct (_ : SocketMembers) : List (Event ClientHandle) := []

variable (m : SocketMembers)

def useDescriptor : List (Event ClientHandle) := [.use (.descriptor m.socket)]

/-- A call on `_ssl`; where that is null OpenSSL gets no handle. -/
def useSsl : List (Event ClientHandle) := m.ssl.toList.map fun ssl => .use (.ssl ssl)

def freeSsl : SocketMembers × List (Event ClientHandle) :=
  ({ m with ssl := none }, m.ssl.toList.map fun ssl => .release (.ssl ssl))

def freeContext : SocketMembers × List (Event ClientHandle) :=
  ({ m with context := none }, m.context.toList.map fun context => .release (.context context))

def disconnect : SocketMembers × List (Event ClientHandle) :=
  (m.freeSsl.1, m.useSsl ++ m.freeSsl.2 ++ m.useDescriptor)

def close : SocketMembers × List (Event ClientHandle) :=
  ({ m.freeSsl.1.freeContext.1 with socket := -1 },
    m.freeSsl.2 ++ m.freeSsl.1.freeContext.2 ++ [.release (.descriptor m.socket)])

def usedByConnect : ConnectCall → List (Event ClientHandle)
  | .connect _ | .poll _ => m.useDescriptor
  | .handshake .plain | .probe .plain => []
  | .handshake .setFdFailed | .handshake (.tls _ _) | .probe .notTls13 => m.useSsl
  -- `SSL_peek` is called in nonblocking mode
  | .probe (.peek _ _) => m.useSsl ++ m.useDescriptor ++ m.useSsl ++ m.useDescriptor

def usedByRound (transports : Bool) : List (Event ClientHandle) :=
  m.useDescriptor ++ if !transports then [] else if m.tls then m.useSsl else m.useDescriptor

/-- The handles a call uses that neither acquires nor releases any. -/
def usedBy : ClientCall → List (Event ClientHandle)
  | .connect calls => calls.flatMap m.usedByConnect
  | .read _ rounds => rounds.flatMap fun round => m.usedByRound round.reads
  | .write _ rounds => rounds.flatMap fun round =>
    m.usedByRound ((SocketEventListener.wait round.poll).code == .success)
  | .isConnected => m.useDescriptor
  | .open_ _ | .close => []

end SocketMembers

def ClientCall.returns (tls : Bool) (maxRetries : Nat) : ClientCall → Bool
  | .connect calls =>
    match exec (connectStep tls maxRetries) (connectStart maxRetries) calls with
    | some (.returned _) => true
    | _ => false
  | .read size rounds =>
    match exec (readStep tls maxRetries size) {} rounds with
    | some l => !l.running maxRetries
    | none => false
  | .write size rounds =>
    match exec (writeStep tls maxRetries size) {} rounds with
    | some l => !l.running maxRetries
    | none => false
  | .open_ _ | .isConnected | .close => true

/-- `SocketClientImpl`, with the ledger of what it has acquired.  `_socket` is null, or points into
    `_container`. -/
structure SocketClientImpl where
  container : Option SocketMembers := none
  pointed : Bool := false
  events : List (Event ClientHandle) := []
  nullDereferenced : Bool := false
deriving DecidableEq, Repr

namespace SocketClientImpl

variable (c : SocketTLSClientConfiguration) (tracked : Bool) (maxRetries : Nat)

def socket (s : SocketClientImpl) : Option SocketMembers := if s.pointed then s.container else none

def open_ (s : SocketClientImpl) (a : ClientOpenAnswer) : SocketClientImpl :=
  let made := SocketMembers.make c tracked a
  -- the temporary is copied into `_container`, and destructed
  { s with
    container := some made.1
    pointed := true
    events := s.events ++ made.2 ++ made.1.destruct }

def close (s : SocketClientImpl) : SocketClientImpl :=
  match s.socket with
  | none => { s with nullDereferenced := true }
  | some m =>
    { s with
      container := some m.disconnect.1.close.1
      events := s.events ++ m.disconnect.2 ++ m.disconnect.1.close.2 }

/-- What `::socket` and OpenSSL give out is not in use. -/
def fits (s : SocketClientImpl) (a : ClientOpenAnswer) : Bool :=
  (SocketMembers.make c tracked a).2.all fun
    | .acquire h => !live h s.events
    | .use _ | .release _ => true

/-- One call.  After a null pointer was dereferenced nothing is said about the process any more. -/
def step (s : SocketClientImpl) (call : ClientCall) : Option SocketClientImpl :=
  if s.nullDereferenced then some s
  else
    match call with
    | .open_ a => if s.fits c tracked a then some (s.open_ c tracked a) else none
    | .close => some s.close
    | call =>
      match s.socket with
      | none => some { s with nullDereferenced := true }
      | some m =>
        if call.returns m.tls maxRetries then some { s with events := s.events ++ m.usedBy call }
        else none

/-- The destructor, which calls `close` and destructs the container. -/
def destroy (s : SocketClientImpl) : SocketClientImpl :=
  if s.nullDereferenced then s
  else
    let s := s.close
    { s with events := s.events ++ s.container.toList.flatMap SocketMembers.destruct }

end SocketClientImpl

/-! ### What is held -/

namespace SocketMembers

def handles (m : SocketMembers) : Set ClientHandle :=
  { h | match h with
        | .descriptor fd => m.socket = fd ∧ 0 ≤ fd
        | .context address => m.context = some address
        | .ssl address => m.ssl = some address }

def vacant (m : SocketMembers) : Bool := m.socket < 0 && m.context.isNone && m.ssl.isNone

/-- The ledger of a client that holds what is in its members.  A negative number is no handle. -/
structure Ledgered (m : SocketMembers) (events : List (Event ClientHandle)) : Prop where
  accounted : Accounted events m.handles
  negative : ∀ fd < 0, tally (.descriptor fd) events = []

/-- After `events`, `more` leads from the members `m` to the members `m'`, and nothing is lost. -/
def Leads (events : List (Event ClientHandle)) (m : SocketMembers) (more : List (Event ClientHandle))
    (m' : SocketMembers) : Prop :=
  m.Ledgered events → m'.Ledgered (events ++ more) ∧
    lost (events ++ more) m'.handles = lost events m.handles

def Keeps (m : SocketMembers) (more : List (Event ClientHandle)) (m' : SocketMembers) : Prop :=
  ∀ events, Leads events m more m'

variable {m m' m'' : SocketMembers} {events more : List (Event ClientHandle)}

theorem handles_eq_empty : m.handles = ∅ ↔ m.vacant = true := by
  simp only [Set.eq_empty_iff_forall_notMem, vacant, Bool.and_eq_true, decide_eq_true_eq,
    Option.isNone_iff_eq_none]
  constructor
  · intro hnone
    refine ⟨⟨?_, ?_⟩, ?_⟩
    · by_contra hnonneg
      exact hnone (.descriptor m.socket) ⟨rfl, not_lt.mp hnonneg⟩
    · exact Option.eq_none_iff_forall_ne_some.mpr fun a ha => hnone (.context a) ha
    · exact Option.eq_none_iff_forall_ne_some.mpr fun a ha => hnone (.ssl a) ha
  · rintro ⟨⟨hneg, hcontext⟩, hssl⟩ h hh
    cases h with
    | descriptor fd =>
      obtain ⟨rfl, hnonneg⟩ := hh
      omega
    | context a => cases hcontext.symm.trans hh
    | ssl a => cases hssl.symm.trans hh

def nothing : SocketMembers := { tls := false, socket := -1 }

theorem handles_nothing : nothing.handles = ∅ := handles_eq_empty.mpr rfl

theorem Leads.trans {more' : List (Event ClientHandle)} (h : Leads events m more m')
    (h' : Leads (events ++ more) m' more' m'') : Leads events m (more ++ more') m'' := by
  intro hledgered
  obtain ⟨hmid, hlost⟩ := h hledgered
  obtain ⟨hend, hlost'⟩ := h' hmid
  rw [← List.append_assoc]
  exact ⟨hend, hlost'.trans hlost⟩

theorem Keeps.refl (m : SocketMembers) : Keeps m [] m := by
  intro events h
  rw [List.append_nil]
  exact ⟨h, rfl⟩

theorem Keeps.trans {more' : List (Event ClientHandle)} (h : Keeps m more m')
    (h' : Keeps m' more' m'') : Keeps m (more ++ more') m'' :=
  fun events => (h events).trans (h' _)

theorem leads_acquire {h : ClientHandle} (hfree : live h events = false)
    (hnonneg : ∀ fd, h = .descriptor fd → 0 ≤ fd) (hhandles : m'.handles = insert h m.handles) :
    Leads events m [.acquire h] m' := by
  intro hledgered
  obtain ⟨haccounted, hlost⟩ := hledgered.accounted.acquire hfree
  rw [← hhandles] at haccounted hlost
  refine ⟨⟨haccounted, fun fd hfd => ?_⟩, hlost⟩
  have hne : h ≠ .descriptor fd := fun heq => absurd (hnonneg fd heq) (by omega)
  simp [count, hne, hledgered.negative fd hfd]

theorem keeps_use {h : ClientHandle} (hh : h ∈ m.handles ∨ ∃ fd < 0, h = .descriptor fd) :
    Keeps m [.use h] m := by
  intro events hledgered
  have hheld : h ∈ m.handles ∨ tally h events = [] := by
    rcases hh with hh | ⟨fd, hfd, rfl⟩
    · exact .inl hh
    · exact .inr (hledgered.negative fd hfd)
  obtain ⟨haccounted, hlost⟩ := hledgered.accounted.use hheld
  exact ⟨⟨haccounted, fun fd hfd => by simp [count, hledgered.negative fd hfd]⟩, hlost⟩

theorem keeps_release {h : ClientHandle} (hh : h ∈ m.handles)
    (hhandles : m'.handles = m.handles \ {h}) : Keeps m [.release h] m' := by
  intro events hledgered
  obtain ⟨haccounted, hlost⟩ := hledgered.accounted.release hh
  rw [← hhandles] at haccounted hlost
  refine ⟨⟨haccounted, fun fd hfd => ?_⟩, hlost⟩
  simp [count, hledgered.negative fd hfd]

theorem keeps_useDescriptor (m : SocketMembers) : Keeps m m.useDescriptor m := by
  apply keeps_use
  by_cases hneg : m.socket < 0
  · exact .inr ⟨m.socket, hneg, rfl⟩
  · exact .inl ⟨rfl, not_lt.mp hneg⟩

theorem keeps_useSsl (m : SocketMembers) : Keeps m m.useSsl m := by
  unfold useSsl
  cases hssl : m.ssl with
  | none => exact Keeps.refl m
  | some ssl => exact keeps_use (.inl hssl)

theorem keeps_free {pointer : Option Nat} {handle : Nat → ClientHandle}
    (hnull : pointer = none → m' = m) (hheld : ∀ address, pointer = some address →
      handle address ∈ m.handles ∧ m'.handles = m.handles \ {handle address}) :
    Keeps m (pointer.toList.map fun address => .release (handle address)) m' := by
  cases pointer with
  | none =>
    rw [hnull rfl]
    exact Keeps.refl m
  | some address =>
    obtain ⟨hmem, hhandles⟩ := hheld address rfl
    exact keeps_release hmem hhandles

theorem keeps_freeSsl (m : SocketMembers) : Keeps m m.freeSsl.2 m.freeSsl.1 := by
  refine keeps_free (fun hnull => ?_) fun ssl hssl => ⟨hssl, ?_⟩
  · rw [freeSsl, ← hnull]
  · ext h
    cases h <;> simp [freeSsl, handles, hssl, eq_comm]

theorem keeps_freeContext (m : SocketMembers) : Keeps m m.freeContext.2 m.freeContext.1 := by
  refine keeps_free (fun hnull => ?_) fun context hcontext => ⟨hcontext, ?_⟩
  · rw [freeContext, ← hnull]
  · ext h
    cases h <;> simp [freeContext, handles, hcontext, eq_comm]

theorem keeps_closeDescriptor (m : SocketMembers) :
    Keeps m [.release (.descriptor m.socket)] { m with socket := -1 } := by
  by_cases hneg : m.socket < 0
  · have hhandles : ({ m with socket := -1 } : SocketMembers).handles = m.handles := by
      ext h
      cases h <;> simp [handles]
      omega
    intro events hledgered
    obtain ⟨haccounted, hlost⟩ := hledgered.accounted.release_none (hledgered.negative _ hneg)
    rw [← hhandles] at haccounted
    refine ⟨⟨haccounted, fun fd hfd => ?_⟩, by rw [hhandles, hlost]⟩
    simp [count, hledgered.negative fd hfd]
  · have hmem : .descriptor m.socket ∈ m.handles := ⟨rfl, not_lt.mp hneg⟩
    refine keeps_release hmem ?_
    ext h
    cases h <;> simp [handles]
    omega

theorem keeps_disconnect (m : SocketMembers) : Keeps m m.disconnect.2 m.disconnect.1 :=
  ((keeps_useSsl m).trans (keeps_freeSsl m)).trans (keeps_useDescriptor m.freeSsl.1)

theorem keeps_close (m : SocketMembers) : Keeps m m.close.2 m.close.1 :=
  ((keeps_freeSsl m).trans (keeps_freeContext m.freeSsl.1)).trans
    (keeps_closeDescriptor m.freeSsl.1.freeContext.1)

theorem vacant_close (m : SocketMembers) : m.close.1.vacant = true := rfl

theorem keeps_flatMap {α : Type} {f : α → List (Event ClientHandle)} (h : ∀ a, Keeps m (f a) m)
    (as : List α) : Keeps m (as.flatMap f) m := by
  induction as with
  | nil => exact Keeps.refl m
  | cons a as ih => exact (h a).trans ih

theorem keeps_usedByRound (m : SocketMembers) (transports : Bool) :
    Keeps m (m.usedByRound transports) m := by
  refine (keeps_useDescriptor m).trans ?_
  split
  · exact Keeps.refl m
  · split
    · exact keeps_useSsl m
    · exact keeps_useDescriptor m

theorem keeps_usedByConnect (m : SocketMembers) (call : ConnectCall) :
    Keeps m (m.usedByConnect call) m := by
  cases call with
  | connect r => exact keeps_useDescriptor m
  | poll ret => exact keeps_useDescriptor m
  | handshake r =>
    cases r with
    | plain => exact Keeps.refl m
    | setFdFailed => exact keeps_useSsl m
    | tls ret failure => exact keeps_useSsl m
  | probe r =>
    cases r with
    | plain => exact Keeps.refl m
    | notTls13 => exact keeps_useSsl m
    | peek ret failure =>
      exact (((keeps_useSsl m).trans (keeps_useDescriptor m)).trans (keeps_useSsl m)).trans
        (keeps_useDescriptor m)

theorem keeps_usedBy (m : SocketMembers) (call : ClientCall) : Keeps m (m.usedBy call) m := by
  cases call with
  | connect calls => exact keeps_flatMap (keeps_usedByConnect m) calls
  | read size rounds => exact keeps_flatMap (fun _ => keeps_usedByRound m _) rounds
  | write size rounds => exact keeps_flatMap (fun _ => keeps_usedByRound m _) rounds
  | isConnected => exact keeps_useDescriptor m
  | open_ a => exact Keeps.refl m
  | close => exact Keeps.refl m

/-! ### What `open` acquires -/

theorem live_append_of_other {h : ClientHandle} (hmore : ∀ e ∈ more, ∀ counts, count h counts e = counts) :
    live h (events ++ more) = live h events := by
  simp only [live, tally_eq_of_forall hmore]

theorem live_acquiredSocket (fd : Int) {h : ClientHandle} (hother : ∀ fd, h ≠ .descriptor fd) :
    live h (events ++ acquiredSocket fd) = live h events := by
  apply live_append_of_other
  unfold acquiredSocket
  split
  · simp
  · simp [count, Ne.symm (hother fd)]

theorem live_acquiredContext (address : Nat) (calls : List ContextCall) {h : ClientHandle}
    (hother : h ≠ .context address) :
    live h (events ++ acquiredContext address calls) = live h events := by
  apply live_append_of_other
  intro e he counts
  simp only [acquiredContext, List.mem_cons, List.mem_append, List.mem_map, List.not_mem_nil,
    or_false] at he
  rcases he with rfl | ⟨_, _, rfl⟩ | rfl
  · simp [count, Ne.symm hother]
  · rfl
  · rfl

theorem leads_socket (hvacant : m.vacant = true) (tls : Bool) {fd : Int}
    (hfree : 0 ≤ fd → live (.descriptor fd) events = false) :
    Leads events m (acquiredSocket fd) { tls := tls, socket := fd } := by
  have hempty : m.handles = ∅ := handles_eq_empty.mpr hvacant
  unfold acquiredSocket
  split
  · rename_i hneg
    have hmade : ({ tls := tls, socket := fd } : SocketMembers).handles = m.handles := by
      rw [hempty]
      exact handles_eq_empty.mpr (by simp [vacant, hneg])
    intro hledgered
    rw [List.append_nil, hmade]
    exact ⟨⟨hmade ▸ hledgered.accounted, hledgered.negative⟩, rfl⟩
  · rename_i hneg
    refine leads_acquire (hfree (not_lt.mp hneg)) ?_ ?_
    · rintro fd' ⟨⟩
      exact not_lt.mp hneg
    · rw [hempty]
      ext h
      cases h <;> simp [handles]
      omega

theorem leads_context (hcontext : m.context = none) {address : Nat}
    (hfree : live (.context address) events = false) (calls : List ContextCall) :
    Leads events m (acquiredContext address calls) { m with context := some address } := by
  have hacquire : Leads events m [.acquire (.context address)] { m with context := some address } := by
    refine leads_acquire hfree (by rintro fd ⟨⟩) ?_
    ext h
    cases h <;> simp [handles, hcontext, eq_comm]
  have huse : Keeps { m with context := some address } [.use (.context address)]
      { m with context := some address } := keeps_use (.inl rfl)
  refine hacquire.trans (Keeps.trans ?_ huse _)
  rw [List.map_eq_flatMap]
  exact keeps_flatMap (fun _ => huse) calls

theorem leads_ssl (hssl : m.ssl = none) {context address : Nat} (hcontext : m.context = some context)
    (hfree : live (.ssl address) events = false) (tracked : Bool) :
    Leads events m (acquiredSsl context address tracked) { m with ssl := some address } := by
  have hacquire : Leads events m [.acquire (.ssl address)] { m with ssl := some address } := by
    refine leads_acquire hfree (by rintro fd ⟨⟩) ?_
    ext h
    cases h <;> simp [handles, hssl, eq_comm]
  apply hacquire.trans
  cases tracked with
  | false => exact Keeps.refl _ _
  | true => exact Keeps.trans (keeps_use (.inl rfl)) (keeps_use (.inl hcontext)) _

theorem mem_acquiredSocket {fd : Int} (hnonneg : 0 ≤ fd) :
    .acquire (.descriptor fd) ∈ acquiredSocket fd := by
  simp [acquiredSocket, not_lt.mpr hnonneg]

theorem leads_socketContext (hvacant : m.vacant = true) (calls : List ContextCall) {fd : Int}
    {address : Nat} (hfd : 0 ≤ fd → live (.descriptor fd) events = false)
    (haddress : live (.context address) events = false) :
    Leads events m (acquiredSocket fd ++ acquiredContext address calls)
      { tls := true, socket := fd, context := some address } := by
  apply (leads_socket hvacant true hfd).trans
  apply leads_context rfl
  rwa [live_acquiredSocket fd (by simp)]

/-- **Opening.**  The socket that is made holds what was acquired, and nothing is lost. -/
theorem leads_make {c : SocketTLSClientConfiguration} {tracked : Bool} {a : ClientOpenAnswer}
    (hvacant : m.vacant = true)
    (hfits : ∀ h, .acquire h ∈ (make c tracked a).2 → live h events = false) :
    Leads events m (make c tracked a).2 (make c tracked a).1 := by
  revert hfits
  unfold make
  split
  · intro hfits
    exact leads_socket hvacant c.valid fun hnonneg => hfits _ (mem_acquiredSocket hnonneg)
  · split
    · intro hfits
      simp only [List.mem_append] at hfits
      have hcontext := leads_socketContext hvacant c.contextCalls
        (fun hnonneg => hfits _ (.inl (mem_acquiredSocket hnonneg)))
        (hfits (.context a.contextAddress) (by simp [acquiredContext]))
      have hfree : live (.ssl a.sslAddress) (events ++ (acquiredSocket a.socket ++
          acquiredContext a.contextAddress c.contextCalls)) = false := by
        rw [← List.append_assoc, live_acquiredContext _ _ (by simp), live_acquiredSocket _ (by simp)]
        exact hfits (.ssl a.sslAddress) (by simp [acquiredSsl])
      rw [← List.append_assoc]
      exact hcontext.trans (leads_ssl rfl rfl hfree tracked)
    · intro hfits
      simp only [List.mem_append] at hfits
      have hcontext := leads_socketContext hvacant c.contextCalls
        (fun hnonneg => hfits _ (.inl (mem_acquiredSocket hnonneg)))
        (hfits (.context a.contextAddress) (by simp [acquiredContext]))
      rw [← List.append_assoc]
      exact hcontext.trans (keeps_freeContext _ _)

end SocketMembers

/-! ### Runs -/

namespace SocketClientImpl

open SocketMembers

variable {c : SocketTLSClientConfiguration} {tracked : Bool} {maxRetries : Nat}
  {s s' : SocketClientImpl} {m : SocketMembers} {calls : List ClientCall}

/-- The client has a socket with members `m`, and a ledger that goes with them. -/
structure Holding (s : SocketClientImpl) (m : SocketMembers) : Prop where
  container : s.container = some m
  pointed : s.pointed = true
  intact : s.nullDereferenced = false
  ledgered : m.Ledgered s.events

/-- No null pointer is dereferenced, and no handle is used once it is released. -/
structure Sound (s : SocketClientImpl) : Prop where
  intact : s.nullDereferenced = false
  safe : Safe s.events

/-- Everything the client has acquired and not released is in its container. -/
def Unlost (s : SocketClientImpl) : Prop :=
  ∀ m, s.container = some m → lost s.events m.handles = ∅

def vacant (s : SocketClientImpl) : Bool :=
  match s.container with
  | none => true
  | some m => m.vacant

theorem Holding.socket (h : Holding s m) : s.socket = some m := by
  rw [SocketClientImpl.socket, if_pos h.pointed, h.container]

theorem acquired_of_fits {a : ClientOpenAnswer} (hfits : s.fits c tracked a = true) :
    ∀ h, .acquire h ∈ (make c tracked a).2 → live h s.events = false := by
  intro h hmem
  simpa using List.all_eq_true.mp hfits _ hmem

theorem holding_open {a : ClientOpenAnswer} (hvacant : m.vacant = true)
    (hledgered : m.Ledgered s.events) (hintact : s.nullDereferenced = false)
    (hfits : s.fits c tracked a = true) :
    Holding (s.open_ c tracked a) (make c tracked a).1 ∧
      lost (s.open_ c tracked a).events (make c tracked a).1.handles = lost s.events m.handles := by
  obtain ⟨hmade, hlost⟩ := leads_make hvacant (acquired_of_fits hfits) hledgered
  have hevents : (s.open_ c tracked a).events = s.events ++ (make c tracked a).2 := by
    simp [open_, destruct]
  exact ⟨⟨rfl, rfl, hintact, hevents ▸ hmade⟩, hevents ▸ hlost⟩

theorem Holding.open_ {a : ClientOpenAnswer} (h : Holding s m) (hfits : s.fits c tracked a = true) :
    Holding (s.open_ c tracked a) (make c tracked a).1 ∧
      (lost (s.open_ c tracked a).events (make c tracked a).1.handles = ∅ ↔
        lost s.events m.handles = ∅ ∧ m.vacant = true) := by
  obtain ⟨haccounted, hlost⟩ := h.ledgered.accounted.forget (Set.empty_subset m.handles)
  obtain ⟨hopened, hsame⟩ := holding_open (m := nothing) rfl
    ⟨handles_nothing ▸ haccounted, h.ledgered.negative⟩ h.intact hfits
  refine ⟨hopened, ?_⟩
  rw [hsame, handles_nothing, hlost, Set.subset_empty_iff, handles_eq_empty]

theorem Holding.leads (h : Holding s m) {m' : SocketMembers} {more : List (Event ClientHandle)}
    (hleads : Leads s.events m more m') :
    Holding { s with container := some m', events := s.events ++ more } m' ∧
      lost (s.events ++ more) m'.handles = lost s.events m.handles := by
  obtain ⟨hafter, hlost⟩ := hleads h.ledgered
  exact ⟨⟨rfl, h.pointed, h.intact, hafter⟩, hlost⟩

theorem Holding.close (h : Holding s m) : Holding s.close m.disconnect.1.close.1 ∧
    lost s.close.events m.disconnect.1.close.1.handles = lost s.events m.handles := by
  have hclose : s.close = { s with
      container := some m.disconnect.1.close.1
      events := s.events ++ (m.disconnect.2 ++ m.disconnect.1.close.2) } := by
    simp [SocketClientImpl.close, h.socket]
  rw [hclose]
  exact h.leads ((keeps_disconnect m).trans (keeps_close _) s.events)

/-- **One call.**  A client that has a socket keeps having one, and loses nothing exactly if a call
    of `open` finds nothing held. -/
theorem Holding.step (h : Holding s m) {call : ClientCall}
    (hstep : step c tracked maxRetries s call = some s') :
    ∃ m', Holding s' m' ∧ (lost s'.events m'.handles = ∅ ↔
      lost s.events m.handles = ∅ ∧ (call.isOpen = true → m.vacant = true)) := by
  unfold SocketClientImpl.step at hstep
  rw [if_neg (by simp [h.intact])] at hstep
  cases call with
  | open_ a =>
    simp only at hstep
    split at hstep
    · rename_i hfits
      cases hstep
      simpa [ClientCall.isOpen] using ⟨_, h.open_ hfits⟩
    · cases hstep
  | close =>
    cases hstep
    obtain ⟨hclosed, hlost⟩ := h.close
    exact ⟨_, hclosed, by simp [hlost, ClientCall.isOpen]⟩
  | connect | read | write | isConnected =>
    simp only [h.socket] at hstep
    split at hstep
    · cases hstep
      obtain ⟨hused, hlost⟩ := h.leads (keeps_usedBy m _ s.events)
      rw [← h.container] at hused
      exact ⟨m, hused, by simp [hlost, ClientCall.isOpen]⟩
    · cases hstep

theorem Holding.destroy (h : Holding s m) : s.destroy.Sound ∧
    Accounted s.destroy.events ∅ ∧ lost s.destroy.events ∅ = lost s.events m.handles := by
  obtain ⟨hclosed, hlost⟩ := h.close
  have hempty : m.disconnect.1.close.1.handles = ∅ :=
    handles_eq_empty.mpr (vacant_close m.disconnect.1)
  have hevents : s.destroy.events = s.close.events := by
    simp [SocketClientImpl.destroy, h.intact, hclosed.container, destruct]
  have hintact : s.destroy.nullDereferenced = false := by
    simp [SocketClientImpl.destroy, h.intact, hclosed.intact]
  have haccounted := hclosed.ledgered.accounted
  rw [hempty, ← hevents] at haccounted
  rw [hempty, ← hevents] at hlost
  exact ⟨⟨hintact, haccounted.safe⟩, haccounted, hlost⟩

theorem ledgered_nil : nothing.Ledgered [] :=
  ⟨handles_nothing ▸ accounted_nil, fun _ _ => rfl⟩

theorem holding_of_exec {a : ClientOpenAnswer}
    (hexec : exec (step c tracked maxRetries) {} (.open_ a :: calls) = some s) :
    ∃ s₀ m₀ m, step c tracked maxRetries {} (.open_ a) = some s₀ ∧ Holding s₀ m₀ ∧ s₀.Unlost ∧
      exec (step c tracked maxRetries) s₀ calls = some s ∧ Holding s m := by
  obtain ⟨s₀, hopen, hrest⟩ := exec_cons_eq_some.mp hexec
  have hopen' := hopen
  simp only [step, Bool.false_eq_true, if_false] at hopen'
  split at hopen'
  · rename_i hfits
    cases hopen'
    obtain ⟨hholding, hlost⟩ := holding_open rfl ledgered_nil rfl hfits
    have hkept := exec_invariant (I := fun s => ∃ m, Holding s m) (fun s call s' ⟨m, h⟩ hstep => by
      obtain ⟨m', hm', -⟩ := h.step hstep
      exact ⟨m', hm'⟩) hrest ⟨_, hholding⟩
    obtain ⟨m, hm⟩ := hkept
    refine ⟨_, _, m, hopen, hholding, ?_, hrest, hm⟩
    intro m' hm'
    obtain rfl := Option.some.inj (hholding.container.symm.trans hm')
    rw [hlost, handles_nothing]
    exact lost_nil
  · cases hopen'

theorem nullDereferenced_of_exec (h : s.nullDereferenced = true)
    (hexec : exec (step c tracked maxRetries) s calls = some s') : s'.nullDereferenced = true :=
  exec_invariant (I := fun s => s.nullDereferenced = true)
    (fun s call s' h hstep => by
      simp only [step, h, if_true] at hstep
      cases hstep
      exact h) hexec h

/-- **Any order of calls.**  A client and its destructor never dereference a null `_socket`, nor call
    OpenSSL with what was released, exactly if the first call is `open`. -/
theorem sound_iff_opened (hexec : exec (step c tracked maxRetries) {} calls = some s) :
    s.destroy.Sound ↔ ∃ a rest, calls = .open_ a :: rest := by
  constructor
  · intro hsound
    cases calls with
    | nil =>
      cases hexec
      cases hsound.intact
    | cons call calls =>
      obtain ⟨s₀, hcall, hrest⟩ := exec_cons_eq_some.mp hexec
      cases call with
      | open_ a => exact ⟨a, calls, rfl⟩
      | connect | read | write | isConnected | close =>
        cases hcall
        have hnull := nullDereferenced_of_exec rfl hrest
        have hintact := hsound.intact
        simp [SocketClientImpl.destroy, hnull] at hintact
  · rintro ⟨a, rest, rfl⟩
    obtain ⟨_, _, m, _, _, _, _, hm⟩ := holding_of_exec hexec
    exact hm.destroy.1

def tlsClient : SocketTLSClientConfiguration := .make { supportVersions := [.tls1_3] }

def closedTooEarly : List ClientCall :=
  [.open_ { socket := 3, succeeds := fun _ => true },
   .connect [.connect .ok, .handshake (.tls 1 wantsRead), .probe (.peek 1 wantsRead)],
   .close, .read 1 [⟨.timeout, .plain .closed⟩]]

theorem closedTooEarly_sound : ∃ s, exec (step tlsClient false 1) {} closedTooEarly = some s ∧
    s.destroy.Sound := by
  have hruns : (exec (step tlsClient false 1) {} closedTooEarly).isSome = true := by decide
  obtain ⟨s, hs⟩ := Option.isSome_iff_exists.mp hruns
  exact ⟨s, hs, (sound_iff_opened hs).mpr ⟨_, _, rfl⟩⟩

/-- A client that is constructed and destructed. -/
theorem unopened_unsound : exec (step tlsClient false 1) {} [] = some {} ∧
    ¬ ({} : SocketClientImpl).destroy.Sound := by
  refine ⟨rfl, fun h => ?_⟩
  cases h.intact

/-! ### Releasing -/

/-- What a run acquires is released exactly once by the time the client is destructed, and what
    `open` leaves in the container has not been released by a copy. -/
structure ReleasedOnce (c : SocketTLSClientConfiguration) (tracked : Bool) (maxRetries : Nat)
    (calls : List ClientCall) : Prop where
  once : ∀ s, exec (step c tracked maxRetries) {} calls = some s → ExactlyOnce s.destroy.events
  copied : ∀ before a after s m, calls = before ++ .open_ a :: after →
    exec (step c tracked maxRetries) {} (before ++ [.open_ a]) = some s → s.container = some m →
      ∀ h ∈ m.handles, live h s.events = true

theorem Holding.exactlyOnce_iff (h : Holding s m) : ExactlyOnce s.destroy.events ↔ s.Unlost := by
  obtain ⟨-, haccounted, hlost⟩ := h.destroy
  rw [haccounted.exactlyOnce_iff, hlost]
  constructor
  · intro hnone m' hm'
    rwa [← Option.some.inj (h.container.symm.trans hm')]
  · exact fun hunlost => hunlost m h.container

/-- **Opened again.**  A run that begins with `open` releases each resource exactly once, exactly if
    no `open` finds a descriptor, an `SSL` or an `SSL_CTX` in the container. -/
theorem releasedOnce_iff {a : ClientOpenAnswer}
    (hexec : exec (step c tracked maxRetries) {} (.open_ a :: calls) = some s) :
    ReleasedOnce c tracked maxRetries (.open_ a :: calls) ↔ Meets (step c tracked maxRetries)
      (fun s call => call.isOpen = true → s.vacant = true) {} (.open_ a :: calls) := by
  obtain ⟨s₀, m₀, m, hopen, hm₀, hunlost₀, hrest, hm⟩ := holding_of_exec hexec
  have hunlost : s.Unlost ↔ s₀.Unlost ∧ Meets (step c tracked maxRetries)
      (fun s call => call.isOpen = true → s.vacant = true) s₀ calls := by
    refine exec_iff_meets (I := fun s => ∃ m, Holding s m) ?_ ?_ hrest ⟨m₀, hm₀⟩
    · rintro s call s' ⟨m, h⟩ hstep
      obtain ⟨m', hm', -⟩ := h.step hstep
      exact ⟨m', hm'⟩
    · rintro s call s' ⟨m, h⟩ hstep
      obtain ⟨m', hm', hiff⟩ := h.step hstep
      simpa [Unlost, vacant, h.container, hm'.container] using hiff
  have hmeets : Meets (step c tracked maxRetries)
      (fun s call => call.isOpen = true → s.vacant = true) {} (.open_ a :: calls) ↔ s.Unlost := by
    rw [hunlost]
    simp only [Meets, hopen, Option.some.injEq, forall_eq']
    exact ⟨fun h => ⟨hunlost₀, h.2⟩, fun h => ⟨fun _ => rfl, h.2⟩⟩
  rw [hmeets]
  constructor
  · intro h
    exact hm.exactlyOnce_iff.mp (h.once s hexec)
  · intro h
    refine ⟨fun s' hs' => ?_, ?_⟩
    · obtain rfl := Option.some.inj (hexec.symm.trans hs')
      exact hm.exactlyOnce_iff.mpr h
    · intro before a' after s' m' hsplit hexec' hm'
      have hfirst : ∃ a'' rest, before ++ [.open_ a'] = .open_ a'' :: rest := by
        cases before with
        | nil => exact ⟨a', [], rfl⟩
        | cons call before =>
          obtain ⟨rfl, -⟩ := List.cons.inj hsplit
          exact ⟨a, before ++ [.open_ a'], rfl⟩
      obtain ⟨a'', rest, hfirst⟩ := hfirst
      rw [hfirst] at hexec'
      obtain ⟨_, _, m'', _, _, _, _, hm''⟩ := holding_of_exec hexec'
      obtain rfl := Option.some.inj (hm''.container.symm.trans hm')
      exact hm''.ledgered.accounted.held

def reopened : List ClientCall :=
  [.open_ { socket := 3, succeeds := fun _ => true }, .close,
   .open_ { socket := 3, succeeds := fun _ => true }]

theorem reopened_releasedOnce : ReleasedOnce tlsClient false 1 reopened := by
  have hruns : (exec (step tlsClient false 1) {} reopened).isSome = true := by decide
  obtain ⟨s, hs⟩ := Option.isSome_iff_exists.mp hruns
  exact (releasedOnce_iff hs).mpr (by decide)

/-- Opened again without a `close`, a client loses its first descriptor. -/
theorem openedTwice_unreleased :
    (exec (step (.make {}) false 1) {} [.open_ { socket := 3, succeeds := fun _ => true },
      .open_ { socket := 4, succeeds := fun _ => true }]).isSome ∧
    ¬ ReleasedOnce (.make {}) false 1 [.open_ { socket := 3, succeeds := fun _ => true },
      .open_ { socket := 4, succeeds := fun _ => true }] := by
  refine ⟨rfl, fun h => ?_⟩
  have hleaked := h.once _ rfl (.descriptor 3) 0 (by decide)
  cases hleaked

end SocketClientImpl

end SecuritySocket.SocketClient
