import SecuritySocket.SocketEvent
import Mathlib.Logic.Function.Basic

/-!
# The listeners of the two systems (`SocketEvent_Linux.cpp`, `SocketEvent_Windows.cpp`)

Each system has its own copy of the two listeners.  What is common to the copies is their
interface: the operations on the vectors, and a `wait` that writes event types to the contexts
in memory.  A step of either is an operation with what poll returns, where an error number
stands for the same condition on both systems.
-/

namespace SecuritySocket

abbrev ContextMemory (P : Type) := P → SocketEventContext

structure SocketEventResult (P : Type) where
  result : SocketResult := {}
  contexts : List P := []
deriving DecidableEq, Repr

def ContextMemory.setType {P : Type} [DecidableEq P] (memory : ContextMemory P) (p : P)
    (type : SocketEventType) : ContextMemory P :=
  Function.update memory p { memory p with type := type }

structure SocketEventListener where
  handle : PollFd
deriving DecidableEq, Repr

/-- `open`; a type without a case leaves the flags of the last `open`. -/
def SocketEventListener.open_ (l : SocketEventListener) (fd : Int) :
    SocketEventType → SocketEventListener
  | .undefined | .disconnected => { handle := { l.handle with fd := fd } }
  | type => { handle := ⟨fd, type.events⟩ }

namespace SocketMultiEventListener

variable {P : Type} [DecidableEq P]

/-- What `wait` writes for a reported entry. -/
def store (serverSocket : Int) (memory : ContextMemory P) (e : Reported P) : ContextMemory P :=
  memory.setType e.context (eventType serverSocket e.fd e.revents (memory e.context).type)

def wait (l : SocketMultiEventListener P) (memory : ContextMemory P) :
    MultiPollReturn → Option (SocketEventResult P × ContextMemory P)
  | .timeout => some ({ result := { code := .socketTimeout } }, memory)
  | .error => some ({ result := { code := .socketEventError } }, memory)
  | .ready revents =>
    (collect (fun p => (memory p).fd) l.contexts (l.handle.zip revents)).map fun reported =>
      ({ contexts := reported.map (·.context) }, reported.foldl (store l.serverSocket) memory)

end SocketMultiEventListener

/-! ### Windows -/

namespace Windows

structure SocketEventListener where
  handle : PollFd
deriving DecidableEq, Repr

namespace SocketEventListener

def open_ (l : SocketEventListener) (fd : Int) : SocketEventType → SocketEventListener
  | .accept => { handle := { fd := fd, events := { pollin := true } } }
  | .connect => { handle := { fd := fd, events := { pollin := true, pollout := true } } }
  | .read => { handle := { fd := fd, events := { pollin := true } } }
  | .write => { handle := { fd := fd, events := { pollout := true } } }
  | .readWrite => { handle := { fd := fd, events := { pollin := true, pollout := true } } }
  | .undefined | .disconnected => { handle := { l.handle with fd := fd } }

/-- `wait`.  Whatever error is pending, it is reported as an unknown one. -/
def wait : PollReturn → SocketResult
  | .timeout => { code := .socketTimeout }
  | .error => { code := .socketEventError }
  | .ready revents soError =>
    if revents.pollerr then
      if soError.isNone then { code := .success } else { code := .unknownError }
    else if revents.pollhup then { code := .socketClosed }
    else { code := .success }

end SocketEventListener

structure SocketMultiEventListener (P : Type) where
  serverSocket : Int := 0
  contexts : List P := []
  handle : List PollFd := []
deriving DecidableEq, Repr

namespace SocketMultiEventListener

variable {P : Type} [DecidableEq P]

def addEvent (l : SocketMultiEventListener P) (context : P) (fd : Int) (eventType : SocketEventType) :
    SocketMultiEventListener P :=
  let l := { l with contexts := l.contexts ++ [context] }
  match eventType with
  | .accept => { l with serverSocket := fd, handle := l.handle ++ [⟨fd, { pollin := true }⟩] }
  | .connect => { l with handle := l.handle ++ [⟨fd, { pollin := true, pollout := true }⟩] }
  | .read => { l with handle := l.handle ++ [⟨fd, { pollin := true }⟩] }
  | .write => { l with handle := l.handle ++ [⟨fd, { pollout := true }⟩] }
  | .readWrite => { l with handle := l.handle ++ [⟨fd, { pollin := true, pollout := true }⟩] }
  | .undefined | .disconnected => { l with handle := l.handle ++ [⟨fd, {}⟩] }

/-- `removeEvent`: `find_if` and `erase` on the one vector, `find` and `erase` on the other. -/
def removeEvent (l : SocketMultiEventListener P) (context : P) (fd : Int) :
    SocketMultiEventListener P :=
  { l with
    handle := match l.handle.findIdx? (·.fd == fd) with
      | some i => l.handle.eraseIdx i
      | none => l.handle
    contexts := match l.contexts.findIdx? (· == context) with
      | some i => l.contexts.eraseIdx i
      | none => l.contexts }

def modifyEvent (l : SocketMultiEventListener P) (context : P) (fd : Int)
    (eventType : SocketEventType) : SocketMultiEventListener P :=
  (l.removeEvent context fd).addEvent context fd eventType

/-- The loop of `wait`: `none` where it dereferences a null `context`. -/
def waitLoop (serverSocket : Int) (contexts : List P) :
    List (PollFd × Revents) → ContextMemory P → List P → Option (List P × ContextMemory P)
  | [], memory, found => some (found, memory)
  | (event, revents) :: rest, memory, found =>
    if revents.isZero then waitLoop serverSocket contexts rest memory found
    else
      match contexts.find? fun context => (memory context).fd == event.fd with
      | none => none
      | some context =>
        let memory :=
          if revents.pollerr || revents.pollhup || revents.pollnval then
            memory.setType context .disconnected
          else if serverSocket == event.fd && revents.pollin then memory.setType context .accept
          else if revents.pollin then memory.setType context .read
          else if revents.pollout then memory.setType context .write
          else memory
        waitLoop serverSocket contexts rest memory (found ++ [context])

def wait (l : SocketMultiEventListener P) (memory : ContextMemory P) :
    MultiPollReturn → Option (SocketEventResult P × ContextMemory P)
  | .timeout => some ({ result := { code := .socketTimeout } }, memory)
  | .error => some ({ result := { code := .socketEventError } }, memory)
  | .ready revents =>
    (waitLoop l.serverSocket l.contexts (l.handle.zip revents) memory []).map fun (found, memory) =>
      ({ contexts := found }, memory)

end SocketMultiEventListener

end Windows

/-! ### The interface -/

structure ListenerInterface (P L : Type) where
  addEvent : L → P → Int → SocketEventType → L
  modifyEvent : L → P → Int → SocketEventType → L
  removeEvent : L → P → Int → L
  wait : L → ContextMemory P → MultiPollReturn → Option (SocketEventResult P × ContextMemory P)

/-- The calls a listener gets; its owner may also give a context another descriptor. -/
inductive MultiCall (P : Type) where
  | addEvent (context : P) (eventType : SocketEventType)
  | modifyEvent (context : P) (eventType : SocketEventType)
  | removeEvent (context : P)
  | wait (ret : MultiPollReturn)
  | setFd (context : P) (fd : Int)
deriving DecidableEq, Repr

/-- What a call returns, with the event types then found in the contexts it returns. -/
structure MultiOutcome (P : Type) where
  code : SocketCode := .success
  events : List (P × SocketEventType) := []
deriving DecidableEq, Repr

namespace ListenerInterface

variable {P L L' : Type} [DecidableEq P]

/-- One call; `none` when a null pointer is dereferenced. -/
def step (I : ListenerInterface P L) (l : L) (memory : ContextMemory P) :
    MultiCall P → Option (L × ContextMemory P × MultiOutcome P)
  | .addEvent context eventType =>
    some (I.addEvent l context (memory context).fd eventType, memory, {})
  | .modifyEvent context eventType =>
    some (I.modifyEvent l context (memory context).fd eventType, memory, {})
  | .removeEvent context => some (I.removeEvent l context (memory context).fd, memory, {})
  | .wait ret => (I.wait l memory ret).map fun (r, memory) =>
    (l, memory, ⟨r.result.code, r.contexts.map fun p => (p, (memory p).type)⟩)
  | .setFd context fd =>
    some (l, Function.update memory context { memory context with fd := fd }, {})

def run (I : ListenerInterface P L) : L → ContextMemory P → List (MultiCall P) →
    Option (List (MultiOutcome P))
  | _, _, [] => some []
  | l, memory, call :: calls =>
    match I.step l memory call with
    | none => none
    | some (l, memory, outcome) => (I.run l memory calls).map (outcome :: ·)

/-- `f` translates the listeners of one interface into those of the other. -/
structure Simulates (I : ListenerInterface P L) (I' : ListenerInterface P L') (f : L → L') :
    Prop where
  addEvent : ∀ l p fd type, I'.addEvent (f l) p fd type = f (I.addEvent l p fd type)
  modifyEvent : ∀ l p fd type, I'.modifyEvent (f l) p fd type = f (I.modifyEvent l p fd type)
  removeEvent : ∀ l p fd, I'.removeEvent (f l) p fd = f (I.removeEvent l p fd)
  wait : ∀ l memory ret, I'.wait (f l) memory ret = I.wait l memory ret

theorem Simulates.step {I : ListenerInterface P L} {I' : ListenerInterface P L'} {f : L → L'}
    (h : Simulates I I' f) (l : L) (memory : ContextMemory P) (call : MultiCall P) :
    I'.step (f l) memory call =
      (I.step l memory call).map fun (l, memory, outcome) => (f l, memory, outcome) := by
  cases call with
  | addEvent context eventType => simp [ListenerInterface.step, h.addEvent]
  | modifyEvent context eventType => simp [ListenerInterface.step, h.modifyEvent]
  | removeEvent context => simp [ListenerInterface.step, h.removeEvent]
  | wait ret =>
    simp only [ListenerInterface.step, h.wait, Option.map_map]
    rfl
  | setFd context fd => rfl

/-- **Simulation.**  Listeners that stay translations of each other return the same. -/
theorem Simulates.run {I : ListenerInterface P L} {I' : ListenerInterface P L'} {f : L → L'}
    (h : Simulates I I' f) (l : L) (memory : ContextMemory P) (calls : List (MultiCall P)) :
    I'.run (f l) memory calls = I.run l memory calls := by
  induction calls generalizing l memory with
  | nil => rfl
  | cons call calls ih =>
    rw [ListenerInterface.run, ListenerInterface.run, h.step]
    cases hstep : I.step l memory call with
    | none => rfl
    | some next =>
      obtain ⟨l', memory', outcome⟩ := next
      simp only [Option.map_some, ih]

end ListenerInterface

variable {P : Type} [DecidableEq P]

def SocketMultiEventListener.interface : ListenerInterface P (SocketMultiEventListener P) :=
  ⟨addEvent, modifyEvent, removeEvent, wait⟩

namespace Windows

namespace SocketMultiEventListener

def interface : ListenerInterface P (SocketMultiEventListener P) :=
  ⟨addEvent, modifyEvent, removeEvent, wait⟩

def ofLinux (l : SecuritySocket.SocketMultiEventListener P) : SocketMultiEventListener P :=
  ⟨l.serverSocket, l.contexts, l.handle⟩

omit [DecidableEq P] in
theorem addEvent_ofLinux (l : SecuritySocket.SocketMultiEventListener P) (p : P) (fd : Int)
    (type : SocketEventType) : (ofLinux l).addEvent p fd type = ofLinux (l.addEvent p fd type) := by
  cases type <;> rfl

theorem removeEvent_ofLinux (l : SecuritySocket.SocketMultiEventListener P) (p : P) (fd : Int) :
    (ofLinux l).removeEvent p fd = ofLinux (l.removeEvent p fd) := by
  have hcontexts : l.contexts.erase p = match l.contexts.findIdx? (· == p) with
      | none => l.contexts
      | some i => l.contexts.eraseIdx i := by
    rw [List.erase_eq_eraseP', List.eraseP_eq_eraseIdx]
    rfl
  simp only [ofLinux, removeEvent, SecuritySocket.SocketMultiEventListener.removeEvent,
    List.eraseP_eq_eraseIdx, hcontexts]
  congr 1
  · cases l.contexts.findIdx? (· == p) <;> rfl
  · cases l.handle.findIdx? (·.fd == fd) <;> rfl

theorem setType_fd (memory : ContextMemory P) (p q : P) (type : SocketEventType) :
    (memory.setType p type q).fd = (memory q).fd := by
  unfold ContextMemory.setType
  by_cases hq : q = p
  · subst hq
    simp
  · simp [hq]

theorem store_eq (serverSocket fd : Int) (memory : ContextMemory P) (p : P) (r : Revents) :
    SecuritySocket.SocketMultiEventListener.store serverSocket memory ⟨p, fd, r⟩ =
      if r.pollerr || r.pollhup || r.pollnval then memory.setType p .disconnected
      else if serverSocket == fd && r.pollin then memory.setType p .accept
      else if r.pollin then memory.setType p .read
      else if r.pollout then memory.setType p .write
      else memory := by
  have hkeep : memory.setType p (memory p).type = memory := Function.update_eq_self p memory
  unfold SecuritySocket.SocketMultiEventListener.store
    SecuritySocket.SocketMultiEventListener.eventType
  split
  · rfl
  · split
    · rfl
    · split
      · rfl
      · split
        · rfl
        · exact hkeep

theorem waitLoop_eq_collect (serverSocket : Int) (contexts : List P)
    (polled : List (PollFd × Revents)) (memory : ContextMemory P) (found : List P) :
    waitLoop serverSocket contexts polled memory found =
      (SecuritySocket.SocketMultiEventListener.collect (fun p => (memory p).fd) contexts polled).map
        fun reported => (found ++ reported.map (·.context),
          reported.foldl (SecuritySocket.SocketMultiEventListener.store serverSocket) memory) := by
  induction polled generalizing memory found with
  | nil => simp [waitLoop, SecuritySocket.SocketMultiEventListener.collect]
  | cons entry rest ih =>
    obtain ⟨event, revents⟩ := entry
    rw [waitLoop, SecuritySocket.SocketMultiEventListener.collect]
    split
    · exact ih memory found
    · cases contexts.find? fun context => (memory context).fd == event.fd with
      | none => rfl
      | some context =>
        simp only [← store_eq serverSocket event.fd memory context revents, ih]
        have hfds : (fun p => (SecuritySocket.SocketMultiEventListener.store serverSocket memory
            ⟨context, event.fd, revents⟩ p).fd) = fun p => (memory p).fd :=
          funext fun p => setType_fd memory context p _
        simp only [hfds, Option.map_map]
        congr 1
        funext reported
        simp

theorem simulates : ListenerInterface.Simulates (SecuritySocket.SocketMultiEventListener.interface (P := P))
    interface ofLinux where
  addEvent := addEvent_ofLinux
  removeEvent := removeEvent_ofLinux
  modifyEvent l p fd type := by
    show ((ofLinux l).removeEvent p fd).addEvent p fd type = _
    rw [removeEvent_ofLinux, addEvent_ofLinux]
    rfl
  wait l memory ret := by
    cases ret with
    | timeout => rfl
    | error => rfl
    | ready revents =>
      show (waitLoop l.serverSocket l.contexts (l.handle.zip revents) memory []).map _ =
        (SecuritySocket.SocketMultiEventListener.collect _ _ _).map _
      rw [waitLoop_eq_collect, Option.map_map]
      rfl

end SocketMultiEventListener

end Windows

/-! ### The single listeners -/

/-- The calls a `SocketEventListener` gets. -/
inductive ListenerCall where
  | open_ (fd : Int) (eventType : SocketEventType)
  | wait (ret : PollReturn)
deriving DecidableEq, Repr

def SocketEventListener.codes : SocketEventListener → List ListenerCall → List SocketCode
  | _, [] => []
  | l, .open_ fd eventType :: calls => codes (l.open_ fd eventType) calls
  | l, .wait ret :: calls => (wait ret).code :: codes l calls

def Windows.SocketEventListener.codes : SocketEventListener → List ListenerCall → List SocketCode
  | _, [] => []
  | l, .open_ fd eventType :: calls => codes (l.open_ fd eventType) calls
  | l, .wait ret :: calls => (wait ret).code :: codes l calls

/-- POLLERR is reported with a pending error that `createResultFromSocketError` names. -/
def PollReturn.namesError : PollReturn → Bool
  | .timeout | .error | .ready _ none => false
  | .ready revents (some errno) =>
    revents.pollerr && (createResultFromSocketError errno).code != .unknownError

theorem Windows.SocketEventListener.wait_code_eq (ret : PollReturn) :
    (SecuritySocket.SocketEventListener.wait ret).code = (wait ret).code ↔
      ret.namesError = false := by
  cases ret with
  | timeout => simp [SecuritySocket.SocketEventListener.wait, wait, PollReturn.namesError]
  | error => simp [SecuritySocket.SocketEventListener.wait, wait, PollReturn.namesError]
  | ready revents soError =>
    cases herr : revents.pollerr with
    | false =>
      cases soError <;>
        simp [SecuritySocket.SocketEventListener.wait, wait, PollReturn.namesError, herr]
    | true =>
      cases soError <;>
        simp [SecuritySocket.SocketEventListener.wait, wait, PollReturn.namesError, herr]

theorem Windows.SocketEventListener.codes_eq (l : SecuritySocket.SocketEventListener)
    (l' : SocketEventListener) (calls : List ListenerCall) :
    l.codes calls = codes l' calls ↔ ∀ ret, .wait ret ∈ calls → ret.namesError = false := by
  induction calls generalizing l l' with
  | nil => simp [codes, SecuritySocket.SocketEventListener.codes]
  | cons call calls ih =>
    cases call with
    | open_ fd eventType =>
      rw [codes, SecuritySocket.SocketEventListener.codes, ih]
      simp
    | wait ret =>
      rw [codes, SecuritySocket.SocketEventListener.codes, List.cons.injEq, ih,
        wait_code_eq]
      simp

/-- **Two copies.**  Whatever calls they get and whatever poll returns, the two listeners of many
    descriptors return the same codes, contexts and event types; those of one descriptor return
    the same codes exactly if no poll reports POLLERR with a pending error that has a name. -/
theorem listeners_agree_iff :
    (∀ (memory : ContextMemory P) (calls : List (MultiCall P)),
      SocketMultiEventListener.interface.run {} memory calls =
        Windows.SocketMultiEventListener.interface.run {} memory calls) ∧
    ∀ (handle : PollFd) (calls : List ListenerCall),
      SocketEventListener.codes ⟨handle⟩ calls = Windows.SocketEventListener.codes ⟨handle⟩ calls ↔
        ∀ ret, .wait ret ∈ calls → ret.namesError = false := by
  refine ⟨fun memory calls => ?_, fun handle calls => ?_⟩
  · exact (Windows.SocketMultiEventListener.simulates.run {} memory calls).symm
  · exact Windows.SocketEventListener.codes_eq ⟨handle⟩ ⟨handle⟩ calls

def refusedPoll : List ListenerCall :=
  [.open_ 3 .connect, .wait (.ready { pollout := true, pollerr := true, pollhup := true }
    (some .econnrefused))]

theorem refusedPoll_disagrees :
    SocketEventListener.codes ⟨⟨0, {}⟩⟩ refusedPoll = [.socketConnectionRefused] ∧
      Windows.SocketEventListener.codes ⟨⟨0, {}⟩⟩ refusedPoll = [.unknownError] ∧
      SocketEventListener.codes ⟨⟨0, {}⟩⟩ refusedPoll ≠
        Windows.SocketEventListener.codes ⟨⟨0, {}⟩⟩ refusedPoll :=
  ⟨rfl, rfl, by decide⟩

end SecuritySocket
