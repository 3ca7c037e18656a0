import SecuritySocket.SocketBroadcastServer

/-!
# Custody of clients

An abstract view of the broadcast server: which clients exist, which of them are on the
active list, and what each party still has to do for the ones it took off it.  Listener,
batches and everything else about how the parties come to act are left out; a party may
take any step whose client it holds.

The invariant gives every client a `Place`.  That a client has one place at a time is what
makes it leave once: only the party that took it off the list can close its socket and
report it.
-/

namespace SecuritySocket

/-- What a party still has to do: the client it has accepted and not yet put on the list,
    those it has taken off and not yet closed, those whose handler has not been told, the
    descriptor it has loaded to close, and the client whose descriptor it has closed and not
    yet overwritten. -/
structure Duty where
  accepting : Option Nat := none
  unclosed : List Nat := []
  untold : List Nat := []
  loaded : Option (Nat × Int) := none
  storing : Option Nat := none
deriving DecidableEq, Repr

/-- The duty of a party that closes the clients `todo`, the first of them being at `stage`. -/
def CloseStage.duty : CloseStage → List Nat → Duty
  | .load, todo => { unclosed := todo, untold := todo }
  | .call fd, todo => { unclosed := todo, untold := todo, loaded := todo.head?.map (·, fd) }
  | .store, todo => { unclosed := todo.tail, untold := todo, storing := todo.head? }

@[ext] structure Custody where
  kernel : Kernel
  listening : Option Int
  socket : Nat → Int
  contextFd : Nat → Int
  active : List Nat
  mutex : Option Party
  duty : Party → Duty
  events : List BroadcastEvent

namespace Custody

/-! ### Steps -/

def assign (c : Custody) (by_ : Party) (duty : Duty) : Custody :=
  { c with duty := Function.update c.duty by_ duty }

def accept (c : Custody) (r : AcceptReturn) : Custody :=
  { c with
    kernel := c.kernel.accept r
    events := c.events ++ BroadcastEvent.ofAccept c.kernel r }

/-- Everything that can happen to clients. -/
inductive Step (c : Custody) : Custody → Prop where
  | refused {r : AcceptReturn} (hfits : r.fits c.kernel) (hdescriptor : ¬ 0 < r.descriptor) :
      Step c (c.accept r)
  | accepted {r : AcceptReturn} (hfits : r.fits c.kernel) (hdescriptor : 0 < r.descriptor)
      (hduty : c.duty .monitor = {}) :
      Step c ({ c.accept r with
        socket := Function.update c.socket c.kernel.nextConnection r.descriptor
        contextFd := Function.update c.contextFd c.kernel.nextConnection r.descriptor }.assign
          .monitor { accepting := some c.kernel.nextConnection })
  | shared {id : Nat} (hduty : c.duty .monitor = { accepting := some id })
      (hfree : c.mutex = none) :
      Step c ({ c with active := c.active ++ [id] }.assign .monitor {})
  | announced (id : Nat) : Step c { c with events := c.events ++ [BroadcastEvent.connected id] }
  | taken {id : Nat} (hduty : c.duty .monitor = {}) (hfree : c.mutex = none)
      (hactive : id ∈ c.active) :
      Step c ({ c with
        active := c.active.erase id
        events := c.events ++ [BroadcastEvent.removed id .monitor] }.assign .monitor
          (CloseStage.duty .load [id]))
  | takenAll {call : Nat} (hduty : c.duty (.dropAll call) = {}) (hfree : c.mutex = none) :
      Step c ({ c with
        active := []
        mutex := some (.dropAll call)
        events := c.events ++
          c.active.map fun id => BroadcastEvent.removed id (.dropAll call) }.assign
          (.dropAll call) (CloseStage.duty .load c.active))
  | released {call : Nat} (hmutex : c.mutex = some (.dropAll call)) :
      Step c { c with mutex := none }
  | loaded {by_ : Party} {id : Nat} {todo : List Nat}
      (hduty : c.duty by_ = CloseStage.duty .load (id :: todo)) :
      Step c (c.assign by_ (CloseStage.duty (.call (c.socket id)) (id :: todo)))
  | closed {by_ : Party} {id : Nat} {fd : Int} {todo : List Nat}
      (hduty : c.duty by_ = CloseStage.duty (.call fd) (id :: todo)) :
      Step c ({ c with
        kernel := c.kernel.close fd
        events := c.events ++ [BroadcastEvent.closed id by_ (c.kernel.fdTable fd)] }.assign by_
          (CloseStage.duty .store (id :: todo)))
  | stored {by_ : Party} {id : Nat} {todo : List Nat} (hby : by_ ≠ .close)
      (hduty : c.duty by_ = CloseStage.duty .store (id :: todo)) :
      Step c ({ c with socket := Function.update c.socket id (-1) }.assign by_
        { unclosed := todo, untold := id :: todo })
  | told {by_ : Party} {id : Nat} {todo : List Nat} (hby : by_ ≠ .close)
      (hduty : c.duty by_ = { unclosed := todo, untold := id :: todo }) :
      Step c ({ c with events := c.events ++ [BroadcastEvent.disconnected id by_] }.assign by_
        (CloseStage.duty .load todo))
  | locked (hduty : c.duty .close = {}) (hfree : c.mutex = none) :
      Step c ({ c with mutex := some .close }.assign .close (CloseStage.duty .load c.active))
  | storedByClose {id : Nat} {todo : List Nat}
      (hduty : c.duty .close = CloseStage.duty .store (id :: todo)) :
      Step c ({ c with socket := Function.update c.socket id (-1) }.assign .close
        (CloseStage.duty .load todo))
  | drained (hduty : c.duty .close = {}) (hmutex : c.mutex = some .close) :
      Step c { c with
        active := []
        mutex := none
        events := c.events ++ c.active.map fun id => BroadcastEvent.removed id .close }
  | finished {fd : Int} (hlistening : c.listening = some fd) :
      Step c { c with kernel := c.kernel.close fd, listening := none }

/-! ### Places -/

/-- Where a client is.  `drained` is a client `close` has closed but not yet taken off the
    list, `held` one a party has taken off but not yet closed. -/
inductive Place where
  | absent
  | accepting
  | active
  | drained
  | held (by_ : Party)
  | closed (by_ : Party)
deriving DecidableEq, Repr

def Place.isOpen : Place → Bool
  | .accepting | .active | .held _ => true
  | .absent | .drained | .closed _ => false

/-- Where the clients are that a party still has to close. -/
def Place.before (by_ : Party) : Place := if by_ = .close then .active else .held by_

/-- Where they are once it has closed them. -/
def Place.after (by_ : Party) : Place := if by_ = .close then .drained else .closed by_

/-- The lists of the parties, against `place`. -/
structure Placed (c : Custody) (place : Nat → Place) : Prop where
  absent : ∀ id, c.kernel.nextConnection ≤ id → place id = .absent
  accepting : ∀ id, (c.duty .monitor).accepting = some id ↔ place id = .accepting
  active : ∀ id, id ∈ c.active ↔ place id = .active ∨ place id = .drained
  held : ∀ by_ id, by_ ≠ .close → (id ∈ (c.duty by_).unclosed ↔ place id = .held by_)
  notByClose : ∀ id, place id ≠ .held .close
  draining : c.mutex = some .close → ∀ id, id ∈ (c.duty .close).unclosed ↔ place id = .active
  idle : c.mutex ≠ some .close → c.duty .close = {}
  undrained : c.mutex ≠ some .close → ∀ id, place id ≠ .drained
  nodup : c.active.Nodup
  nodupUnclosed : ∀ by_, (c.duty by_).unclosed.Nodup

variable {c c' : Custody} {place : Nat → Place}

theorem Placed.head (h : Placed c place) {by_ : Party} {id : Nat} {todo : List Nat}
    (hduty : (c.duty by_).unclosed = id :: todo) :
    place id = .before by_ := by
  have hmem : id ∈ (c.duty by_).unclosed := by simp [hduty]
  by_cases hby : by_ = .close
  · subst hby
    have hmutex : c.mutex = some .close := by
      by_contra hne
      simp [h.idle hne] at hmem
    exact (h.draining hmutex id).mp hmem
  · rw [(h.held by_ id hby).mp hmem, Place.before, if_neg hby]

theorem Placed.refused (h : Placed c place) (r : AcceptReturn) :
    Placed (c.accept r) place := by
  have hnext : c.kernel.nextConnection ≤ (c.kernel.accept r).nextConnection := by
    unfold Kernel.accept
    split <;> simp
  exact { h with absent := fun id hid => h.absent id (Nat.le_trans hnext hid) }

theorem Placed.accepted (h : Placed c place) {r : AcceptReturn} (hdescriptor : 0 < r.descriptor)
    (hduty : c.duty .monitor = {}) :
    Placed ({ c.accept r with
        socket := Function.update c.socket c.kernel.nextConnection r.descriptor
        contextFd := Function.update c.contextFd c.kernel.nextConnection r.descriptor }.assign
          .monitor { accepting := some c.kernel.nextConnection })
      (Function.update place c.kernel.nextConnection .accepting) := by
  have hnext : (c.kernel.accept r).nextConnection = c.kernel.nextConnection + 1 := by
    rw [Kernel.accept_of_nonneg (Int.le_of_lt hdescriptor)]
  have hnew := h.absent _ (Nat.le_refl _)
  rw [Custody.assign, accept]
  constructor <;> cases h <;> grind

theorem Placed.shared (h : Placed c place) {id : Nat}
    (hduty : c.duty .monitor = { accepting := some id }) (hfree : c.mutex = none) :
    Placed ({ c with active := c.active ++ [id] }.assign .monitor {})
      (Function.update place id .active) := by
  have hid : place id = .accepting := (h.accepting id).mp (by rw [hduty])
  rw [Custody.assign]
  constructor <;> cases h <;> grind

theorem Placed.taken (h : Placed c place) {id : Nat} (hduty : c.duty .monitor = {})
    (hfree : c.mutex = none) (hactive : id ∈ c.active) :
    Placed ({ c with
        active := c.active.erase id
        events := c.events ++ [BroadcastEvent.removed id .monitor] }.assign .monitor
          (CloseStage.duty .load [id]))
      (Function.update place id (.held .monitor)) := by
  have hid : place id = .active := by
    rcases (h.active id).mp hactive with hid | hid
    · exact hid
    · exact absurd hid (h.undrained (by simp [hfree]) id)
  rw [Custody.assign]
  constructor <;> cases h <;> grind [CloseStage.duty]

theorem Placed.takenAll (h : Placed c place) {call : Nat} (hduty : c.duty (.dropAll call) = {})
    (hfree : c.mutex = none) :
    Placed ({ c with
        active := []
        mutex := some (.dropAll call)
        events := c.events ++
          c.active.map fun id => BroadcastEvent.removed id (.dropAll call) }.assign
          (.dropAll call) (CloseStage.duty .load c.active))
      (fun id => if place id = .active then .held (.dropAll call) else place id) := by
  have hnone : ∀ id, place id ≠ .held (.dropAll call) := by
    intro id hid
    have hmem := (h.held (.dropAll call) id (by simp)).mpr hid
    simp [hduty] at hmem
  rw [Custody.assign]
  constructor <;> cases h <;> grind [CloseStage.duty]

theorem Placed.released (h : Placed c place) {call : Nat}
    (hmutex : c.mutex = some (.dropAll call)) : Placed { c with mutex := none } place := by
  have hne : c.mutex ≠ some .close := by simp [hmutex]
  exact { h with
    draining := by simp
    idle := fun _ => h.idle hne
    undrained := fun _ => h.undrained hne }

theorem Placed.assign (h : Placed c place) {by_ : Party} {duty : Duty}
    (hnonempty : c.duty by_ ≠ {}) (haccepting : duty.accepting = (c.duty by_).accepting)
    (hunclosed : duty.unclosed = (c.duty by_).unclosed) : Placed (c.assign by_ duty) place := by
  rw [Custody.assign]
  constructor <;> cases h <;> grind

theorem Placed.closed (h : Placed c place) {by_ : Party} {id : Nat} {fd : Int} {todo : List Nat}
    (hduty : c.duty by_ = CloseStage.duty (.call fd) (id :: todo)) :
    Placed ({ c with
        kernel := c.kernel.close fd
        events := c.events ++ [BroadcastEvent.closed id by_ (c.kernel.fdTable fd)] }.assign by_
          (CloseStage.duty .store (id :: todo)))
      (Function.update place id (.after by_)) := by
  have hhead : (c.duty by_).unclosed = id :: todo := by rw [hduty]; rfl
  have hid := h.head hhead
  have hnext : (c.kernel.close fd).nextConnection = c.kernel.nextConnection := rfl
  rw [Custody.assign]
  constructor <;> cases h <;> grind [CloseStage.duty, Place.before, Place.after]

theorem Placed.locked (h : Placed c place) (hfree : c.mutex = none) :
    Placed ({ c with mutex := some .close }.assign .close (CloseStage.duty .load c.active))
      place := by
  rw [Custody.assign]
  constructor <;> cases h <;> grind [CloseStage.duty]

theorem Placed.drained (h : Placed c place) (hduty : c.duty .close = {})
    (hmutex : c.mutex = some .close) :
    Placed { c with
        active := []
        mutex := none
        events := c.events ++ c.active.map fun id => BroadcastEvent.removed id .close }
      (fun id => if place id = .drained then .closed .close else place id) := by
  have hnone : ∀ id, place id ≠ .active := by
    intro id hid
    have hmem := (h.draining hmutex id).mpr hid
    simp [hduty] at hmem
  constructor <;> cases h <;> grind

end Custody

end SecuritySocket
