import SecuritySocket.Custody

/-!
# The ledger of clients

The second half of the ownership invariant: what the descriptors of the clients refer to,
and what has been done about each of them so far, both read off its place.  `Step.ledger`
carries the places, the descriptors and the events through one step together.
-/

namespace SecuritySocket

/-! ### What has happened to a client -/

/-- Who has taken the client off the list, in order. -/
def removals (events : List BroadcastEvent) (id : Nat) : List Party :=
  events.filterMap fun
    | .removed id' by_ => if id' = id then some by_ else none
    | _ => none

def closes (events : List BroadcastEvent) (id : Nat) : List Party :=
  events.filterMap fun
    | .closed id' by_ _ => if id' = id then some by_ else none
    | _ => none

def disconnections (events : List BroadcastEvent) (id : Nat) : Nat :=
  events.countP fun
    | .disconnected id' _ => id' == id
    | _ => false

section Events

variable (events : List BroadcastEvent) (id : Nat)

@[simp] theorem removals_append (more : List BroadcastEvent) :
    removals (events ++ more) id = removals events id ++ removals more id :=
  List.filterMap_append

@[simp] theorem closes_append (more : List BroadcastEvent) :
    closes (events ++ more) id = closes events id ++ closes more id :=
  List.filterMap_append

@[simp] theorem disconnections_append (more : List BroadcastEvent) :
    disconnections (events ++ more) id = disconnections events id + disconnections more id :=
  List.countP_append

theorem removals_map_removed {ids : List Nat} (hnodup : ids.Nodup) (by_ : Party) :
    removals (ids.map fun id => BroadcastEvent.removed id by_) id =
      if id ∈ ids then [by_] else [] := by
  induction ids with
  | nil => rfl
  | cons id' ids ih =>
    obtain ⟨hnew, hrest⟩ := List.nodup_cons.mp hnodup
    have hrest := ih hrest
    by_cases hid : id' = id
    · subst hid
      rw [if_neg hnew] at hrest
      simpa [removals] using hrest
    · have hmem : id ∈ id' :: ids ↔ id ∈ ids := by simp [Ne.symm hid]
      simp only [hmem]
      rw [← hrest]
      simp [removals, hid]

theorem closes_map_removed (ids : List Nat) (by_ : Party) :
    closes (ids.map fun id => BroadcastEvent.removed id by_) id = [] := by
  simp [closes, List.filterMap_map]

theorem disconnections_map_removed (ids : List Nat) (by_ : Party) :
    disconnections (ids.map fun id => BroadcastEvent.removed id by_) id = 0 := by
  simp [disconnections, List.countP_map, Function.comp_def]

end Events

namespace Custody

variable {c c' : Custody} {place : Nat → Place}

theorem Place.before_isOpen (by_ : Party) : (Place.before by_).isOpen = true := by
  rw [Place.before]
  split <;> rfl

theorem Place.after_isOpen (by_ : Party) : (Place.after by_).isOpen = false := by
  rw [Place.after]
  split <;> rfl

theorem Place.before_inj {by_ by' : Party} (h : Place.before by_ = .before by') : by_ = by' := by
  grind [Place.before]

/-! ### Descriptors -/

/-- What the descriptors of the clients refer to, against `place`. -/
structure Referring (c : Custody) (place : Nat → Place) : Prop where
  kernel : c.kernel.WellFormed
  opened : ∀ id, (place id).isOpen → c.kernel.connectionAt (c.socket id) = some id
  positive : ∀ id, (place id).isOpen → 0 < c.socket id
  contextFd : ∀ id, (place id).isOpen → c.contextFd id = c.socket id
  connections : ∀ fd id, c.kernel.connectionAt fd = some id → fd = 0 ∨ (place id).isOpen
  loaded : ∀ by_ id fd, (c.duty by_).loaded = some (id, fd) →
    fd = c.socket id ∧ place id = .before by_
  storing : ∀ by_ id, (c.duty by_).storing = some id → place id = .after by_
  listening : ∀ fd, c.listening = some fd → c.kernel.fdTable fd = some .listening

/-- A step of a party that leaves the descriptors alone and holds none afterwards, and the
    clients the other parties are closing in their places. -/
theorem Referring.frame (h : Referring c place) {place' : Nat → Place} {by_ : Party}
    {duty : Duty} (hkernel : c'.kernel = c.kernel) (hlistening : c'.listening = c.listening)
    (hsocket : c'.socket = c.socket) (hcontext : c'.contextFd = c.contextFd)
    (hduty : c'.duty = Function.update c.duty by_ duty) (hloaded : duty.loaded = none)
    (hstoring : duty.storing = none) (hopen : ∀ id, (place' id).isOpen = (place id).isOpen)
    (hsame : ∀ p id, p ≠ by_ → c.duty p ≠ {} → place id = .before p ∨ place id = .after p →
      place' id = place id) : Referring c' place' where
  kernel := hkernel ▸ h.kernel
  opened id hid := by rw [hkernel, hsocket]; exact h.opened id (hopen id ▸ hid)
  positive id hid := by rw [hsocket]; exact h.positive id (hopen id ▸ hid)
  contextFd id hid := by rw [hsocket, hcontext]; exact h.contextFd id (hopen id ▸ hid)
  connections fd id hid := by rw [hopen]; exact h.connections fd id (hkernel ▸ hid)
  loaded p id fd hid := by
    by_cases hp : p = by_
    · subst hp
      simp [hduty, hloaded] at hid
    · rw [hduty, Function.update_of_ne hp] at hid
      obtain ⟨hfd, hplace⟩ := h.loaded p id fd hid
      rw [hsocket, hsame p id hp (fun hnil => by simp [hnil] at hid) (.inl hplace)]
      exact ⟨hfd, hplace⟩
  storing p id hid := by
    by_cases hp : p = by_
    · subst hp
      simp [hduty, hstoring] at hid
    · rw [hduty, Function.update_of_ne hp] at hid
      have hplace := h.storing p id hid
      rw [hsame p id hp (fun hnil => by simp [hnil] at hid) (.inr hplace)]
      exact hplace
  listening := hlistening ▸ hkernel ▸ h.listening

theorem Referring.refused (h : Referring c place) {r : AcceptReturn} (hfits : r.fits c.kernel)
    (hdescriptor : ¬ 0 < r.descriptor) : Referring (c.accept r) place where
  kernel := h.kernel.accept
  opened id hid := Kernel.connectionAt_accept_of_some hfits (h.opened id hid)
  positive := h.positive
  contextFd := h.contextFd
  connections fd id hid := by
    rcases Kernel.connectionAt_accept hid with hold | ⟨hnonneg, rfl, _⟩
    · exact h.connections fd id hold
    · exact .inl (by omega)
  loaded := h.loaded
  storing := h.storing
  listening fd hfd := Kernel.accept_fdTable_of_open hfits (h.listening fd hfd)

theorem Referring.accepted (h : Referring c place) (hplaced : Placed c place) {r : AcceptReturn}
    (hfits : r.fits c.kernel) (hdescriptor : 0 < r.descriptor) :
    Referring ({ c.accept r with
        socket := Function.update c.socket c.kernel.nextConnection r.descriptor
        contextFd := Function.update c.contextFd c.kernel.nextConnection r.descriptor }.assign
          .monitor { accepting := some c.kernel.nextConnection })
      (Function.update place c.kernel.nextConnection .accepting) := by
  have hnew := hplaced.absent _ (Nat.le_refl _)
  have hold : ∀ id, place id ≠ .absent → id ≠ c.kernel.nextConnection := by
    rintro id hid rfl
    exact hid hnew
  rw [Custody.assign, Custody.accept]
  refine ⟨h.kernel.accept, fun id hid => ?_, fun id hid => ?_, fun id hid => ?_,
    fun fd id hid => ?_, fun by_ id fd hduty => ?_, fun by_ id hduty => ?_,
    fun fd hfd => Kernel.accept_fdTable_of_open hfits (h.listening fd hfd)⟩
  all_goals dsimp only at *
  · by_cases hid' : id = c.kernel.nextConnection
    · subst hid'
      simpa using c.kernel.connectionAt_accept_self (Int.le_of_lt hdescriptor)
    · rw [Function.update_of_ne hid'] at hid ⊢
      exact Kernel.connectionAt_accept_of_some hfits (h.opened id hid)
  · by_cases hid' : id = c.kernel.nextConnection
    · subst hid'
      simpa using hdescriptor
    · rw [Function.update_of_ne hid'] at hid ⊢
      exact h.positive id hid
  · by_cases hid' : id = c.kernel.nextConnection
    · subst hid'
      simp
    · rw [Function.update_of_ne hid'] at hid ⊢
      rw [Function.update_of_ne hid']
      exact h.contextFd id hid
  · rcases Kernel.connectionAt_accept hid with hid | ⟨_, _, rfl⟩
    · rcases h.connections fd id hid with hzero | hopen
      · exact .inl hzero
      · rw [Function.update_of_ne (hold id fun habsent => by simp [habsent, Place.isOpen] at hopen)]
        exact .inr hopen
    · exact .inr (by simp [Place.isOpen])
  · by_cases hby : by_ = .monitor
    · subst hby
      simp at hduty
    · rw [Function.update_of_ne hby] at hduty
      obtain ⟨hfd, hid⟩ := h.loaded by_ id fd hduty
      have hne := hold id (by rw [hid, Place.before]; split <;> simp)
      rw [Function.update_of_ne hne, Function.update_of_ne hne]
      exact ⟨hfd, hid⟩
  · by_cases hby : by_ = .monitor
    · subst hby
      simp at hduty
    · rw [Function.update_of_ne hby] at hduty
      have hid := h.storing by_ id hduty
      rw [Function.update_of_ne (hold id (by rw [hid, Place.after]; split <;> simp))]
      exact hid

theorem isOpen_of_closed {by_ : Party} {id id' : Nat}
    (hid' : (Function.update place id (.after by_) id').isOpen) :
    id' ≠ id ∧ (place id').isOpen := by
  have hne : id' ≠ id := by
    rintro rfl
    simp [Place.after_isOpen] at hid'
  exact ⟨hne, by rwa [Function.update_of_ne hne] at hid'⟩

theorem Referring.socket_inj (h : Referring c place) {id id' : Nat} (hopen : (place id).isOpen)
    (hopen' : (place id').isOpen) (heq : c.socket id' = c.socket id) : id' = id := by
  have hsame := (h.opened id' hopen').symm.trans (heq ▸ h.opened id hopen)
  exact Option.some.inj hsame

theorem Referring.connections_closed (h : Referring c place) {by_ : Party} {id : Nat}
    (hopen : (place id).isOpen) {fd : Int} {id' : Nat}
    (hconnection : (c.kernel.close (c.socket id)).connectionAt fd = some id') :
    fd = 0 ∨ (Function.update place id (.after by_) id').isOpen := by
  obtain ⟨hfd, hold⟩ := Kernel.connectionAt_close.mp hconnection
  refine (h.connections fd id' hold).imp (fun h => h) fun hopen' => ?_
  rw [Function.update_of_ne]
  · exact hopen'
  · rintro rfl
    have hsame := Kernel.connectionAt_eq_some.mp hold
    exact hfd (h.kernel.inj _ _ _ hsame (Kernel.connectionAt_eq_some.mp (h.opened id' hopen)))

theorem Referring.listening_closed (h : Referring c place) {id : Nat} (hopen : (place id).isOpen)
    {fd : Int} (hfd : c.listening = some fd) :
    (c.kernel.close (c.socket id)).fdTable fd = some .listening := by
  rw [Kernel.close_fdTable_ne]
  · exact h.listening fd hfd
  · rintro rfl
    have hsame := (h.listening _ hfd).symm.trans (Kernel.connectionAt_eq_some.mp (h.opened id hopen))
    cases hsame

/-- No other party has the client in hand. -/
theorem Referring.loaded_closed (h : Referring c place) {by_ p : Party} {id id' : Nat} {fd : Int}
    (hid : place id = .before by_) (hne : p ≠ by_)
    (hloaded : (c.duty p).loaded = some (id', fd)) :
    fd = c.socket id' ∧ Function.update place id (.after by_) id' = .before p := by
  obtain ⟨hfd, hplace⟩ := h.loaded p id' fd hloaded
  refine ⟨hfd, ?_⟩
  rw [Function.update_of_ne, hplace]
  rintro rfl
  exact hne (Place.before_inj (hplace.symm.trans hid))

theorem Referring.storing_closed (h : Referring c place) {by_ p : Party} {id id' : Nat}
    (hopen : (place id).isOpen) (hstoring : (c.duty p).storing = some id') :
    Function.update place id (.after by_) id' = .after p := by
  have hplace := h.storing p id' hstoring
  rw [Function.update_of_ne, hplace]
  rintro rfl
  rw [hplace, Place.after_isOpen] at hopen
  cases hopen

theorem Referring.closed (h : Referring c place) {by_ : Party} {id : Nat} {fd : Int} {todo : List Nat}
    (hduty : c.duty by_ = CloseStage.duty (.call fd) (id :: todo)) :
    Referring ({ c with
        kernel := c.kernel.close fd
        events := c.events ++ [BroadcastEvent.closed id by_ (c.kernel.fdTable fd)] }.assign by_
          (CloseStage.duty .store (id :: todo)))
      (Function.update place id (.after by_)) := by
  obtain ⟨rfl, hid⟩ := h.loaded by_ id fd (by rw [hduty]; rfl)
  have hopen : (place id).isOpen := by rw [hid, Place.before_isOpen]
  rw [Custody.assign]
  refine ⟨h.kernel.close _, fun id' hid' => ?_, fun id' hid' => ?_, fun id' hid' => ?_,
    fun fd id' hid' => h.connections_closed hopen hid', fun p id' fd hp => ?_,
    fun p id' hp => ?_, fun fd hfd => h.listening_closed hopen hfd⟩
  all_goals dsimp only at *
  · obtain ⟨hne, hopen'⟩ := isOpen_of_closed hid'
    exact Kernel.connectionAt_close.mpr
      ⟨fun heq => hne (h.socket_inj hopen hopen' heq), h.opened id' hopen'⟩
  · exact h.positive id' (isOpen_of_closed hid').2
  · exact h.contextFd id' (isOpen_of_closed hid').2
  · by_cases hby : p = by_
    · subst hby
      simp [CloseStage.duty] at hp
    · rw [Function.update_of_ne hby] at hp
      exact h.loaded_closed hid hby hp
  · by_cases hby : p = by_
    · subst hby
      simp only [Function.update_self, CloseStage.duty, List.head?_cons, Option.some.injEq] at hp
      subst hp
      simp
    · rw [Function.update_of_ne hby] at hp
      exact h.storing_closed hopen hp

theorem Referring.stored (h : Referring c place) {by_ : Party}
    {id : Nat} {todo : List Nat} {duty : Duty}
    (hduty : c.duty by_ = CloseStage.duty .store (id :: todo)) (hloaded : duty.loaded = none)
    (hstoring : duty.storing = none) :
    Referring ({ c with socket := Function.update c.socket id (-1) }.assign by_ duty) place := by
  have hid := h.storing by_ id (by rw [hduty]; rfl)
  have hne : ∀ id', (place id').isOpen → id' ≠ id := by
    rintro id' hopen rfl
    rw [hid, Place.after_isOpen] at hopen
    cases hopen
  rw [Custody.assign]
  refine ⟨h.kernel, fun id' hid' => ?_, fun id' hid' => ?_, fun id' hid' => ?_, h.connections,
    fun p id' fd hp => ?_, fun p id' hp => ?_, h.listening⟩
  all_goals dsimp only at *
  · rw [Function.update_of_ne (hne id' hid')]
    exact h.opened id' hid'
  · rw [Function.update_of_ne (hne id' hid')]
    exact h.positive id' hid'
  · rw [Function.update_of_ne (hne id' hid')]
    exact h.contextFd id' hid'
  · by_cases hby : p = by_
    · subst hby
      simp [hloaded] at hp
    · rw [Function.update_of_ne hby] at hp
      obtain ⟨hfd, hplace⟩ := h.loaded p id' fd hp
      have hopen : (place id').isOpen := by rw [hplace, Place.before_isOpen]
      rw [Function.update_of_ne (hne id' hopen)]
      exact ⟨hfd, hplace⟩
  · by_cases hby : p = by_
    · subst hby
      simp [hstoring] at hp
    · rw [Function.update_of_ne hby] at hp
      exact h.storing p id' hp

theorem Referring.finished (h : Referring c place) {fd : Int} (hlistening : c.listening = some fd) :
    Referring { c with kernel := c.kernel.close fd, listening := none } place := by
  have hne : ∀ fd' id, c.kernel.connectionAt fd' = some id → fd' ≠ fd := by
    rintro fd' id hid rfl
    cases (h.listening fd' hlistening).symm.trans (Kernel.connectionAt_eq_some.mp hid)
  exact { h with
    kernel := h.kernel.close fd
    opened := fun id hid =>
      Kernel.connectionAt_close.mpr ⟨hne _ id (h.opened id hid), h.opened id hid⟩
    connections := fun fd' id hid => h.connections fd' id (Kernel.connectionAt_close.mp hid).2
    listening := by simp }

/-! ### Events -/

def Place.removals : Place → List Party
  | .absent | .accepting | .active | .drained => []
  | .held by_ | .closed by_ => [by_]

def Place.closes : Place → List Party
  | .absent | .accepting | .active | .held _ => []
  | .drained => [.close]
  | .closed by_ => [by_]

/-- What has happened to the clients, against `place`. -/
structure Logged (c : Custody) (place : Nat → Place) : Prop where
  removals : ∀ id, removals c.events id = (place id).removals
  closes : ∀ id, closes c.events id = (place id).closes
  endpoint : ∀ id by_ endpoint, BroadcastEvent.closed id by_ endpoint ∈ c.events →
    endpoint = some (.connection id)
  untold : ∀ by_ id, by_ ≠ .close → id ∈ (c.duty by_).untold →
    disconnections c.events id = 0 ∧ (place id = .held by_ ∨ place id = .closed by_)
  nodupUntold : ∀ by_, (c.duty by_).untold.Nodup
  notTold : ∀ id, (∀ by_, place id ≠ .closed by_) → disconnections c.events id = 0
  once : ∀ id, disconnections c.events id ≤ 1
  numbered : ∀ id fd, BroadcastEvent.accepted id fd ∈ c.events →
    id < c.kernel.nextConnection ∧ (0 < fd → place id ≠ .absent)

theorem events_ofAccept (kernel : Kernel) (r : AcceptReturn) (id : Nat) :
    SecuritySocket.removals (BroadcastEvent.ofAccept kernel r) id = [] ∧
      SecuritySocket.closes (BroadcastEvent.ofAccept kernel r) id = [] ∧
      disconnections (BroadcastEvent.ofAccept kernel r) id = 0 := by
  unfold BroadcastEvent.ofAccept
  split <;> simp [SecuritySocket.removals, SecuritySocket.closes, disconnections]

theorem Logged.refused (h : Logged c place) {r : AcceptReturn} (hdescriptor : ¬ 0 < r.descriptor) :
    Logged (c.accept r) place := by
  have hevents := events_ofAccept c.kernel r
  rw [Custody.accept]
  constructor <;> cases h <;>
    grind [BroadcastEvent.ofAccept, removals_append, closes_append, disconnections_append, Kernel.accept]

theorem Logged.accepted (h : Logged c place) (hplaced : Placed c place) {r : AcceptReturn}
    (hdescriptor : 0 < r.descriptor) :
    Logged ({ c.accept r with
        socket := Function.update c.socket c.kernel.nextConnection r.descriptor
        contextFd := Function.update c.contextFd c.kernel.nextConnection r.descriptor }.assign
          .monitor { accepting := some c.kernel.nextConnection })
      (Function.update place c.kernel.nextConnection .accepting) := by
  have hevents := events_ofAccept c.kernel r
  have hnew := hplaced.absent _ (Nat.le_refl _)
  rw [Custody.assign, Custody.accept]
  constructor <;> cases h <;>
    grind [BroadcastEvent.ofAccept, removals_append, closes_append, disconnections_append, Kernel.accept,
      Place.removals, Place.closes]

theorem Logged.assign (h : Logged c place) {by_ : Party} {duty : Duty}
    (huntold : duty.untold = (c.duty by_).untold) : Logged (c.assign by_ duty) place := by
  rw [Custody.assign]
  constructor <;> cases h <;> grind

theorem Logged.shared (h : Logged c place) {id : Nat} (hid : place id = .accepting) :
    Logged ({ c with active := c.active ++ [id] }.assign .monitor {})
      (Function.update place id .active) := by
  rw [Custody.assign]
  constructor <;> cases h <;> grind [Place.removals, Place.closes]

theorem Logged.announced (h : Logged c place) (id : Nat) :
    Logged { c with events := c.events ++ [BroadcastEvent.connected id] } place := by
  have hevents : ∀ id', SecuritySocket.removals [BroadcastEvent.connected id] id' = [] ∧
      SecuritySocket.closes [BroadcastEvent.connected id] id' = [] ∧
      disconnections [BroadcastEvent.connected id] id' = 0 := by
    simp [SecuritySocket.removals, SecuritySocket.closes, disconnections]
  constructor <;> cases h <;> grind [removals_append, closes_append, disconnections_append]

theorem Logged.taken (h : Logged c place) (by_ : Party) (ids active : List Nat)
    (mutex : Option Party) {duty : Duty} (hactive : ∀ id ∈ ids, place id = .active)
    (hnodup : ids.Nodup) (huntold : duty.untold = ids) :
    Logged ({ c with
        active := active
        mutex := mutex
        events := c.events ++ ids.map fun id => BroadcastEvent.removed id by_ }.assign by_ duty)
      (fun id => if id ∈ ids then .held by_ else place id) := by
  have hremovals := fun id => removals_map_removed id hnodup by_
  have hcloses := fun id => closes_map_removed id ids by_
  have hcallbacks := fun id => disconnections_map_removed id ids by_
  rw [Custody.assign]
  constructor <;> cases h <;>
    grind [removals_append, closes_append, disconnections_append, Place.removals, Place.closes]

theorem Logged.closed (h : Logged c place) (href : Referring c place) {by_ : Party}
    {id : Nat} {fd : Int} {todo : List Nat}
    (hduty : c.duty by_ = CloseStage.duty (.call fd) (id :: todo)) :
    Logged ({ c with
        kernel := c.kernel.close fd
        events := c.events ++ [BroadcastEvent.closed id by_ (c.kernel.fdTable fd)] }.assign by_
          (CloseStage.duty .store (id :: todo)))
      (Function.update place id (.after by_)) := by
  obtain ⟨rfl, hid⟩ := href.loaded by_ id fd (by rw [hduty]; rfl)
  have hendpoint := href.opened id (by rw [hid, Place.before_isOpen])
  rw [Kernel.connectionAt_eq_some] at hendpoint
  have hevents : ∀ id', SecuritySocket.removals
        [BroadcastEvent.closed id by_ (some (.connection id))] id' = [] ∧
      SecuritySocket.closes [BroadcastEvent.closed id by_ (some (.connection id))] id' =
        (if id = id' then [by_] else []) ∧
      disconnections [BroadcastEvent.closed id by_ (some (.connection id))] id' = 0 := by
    intro id'
    simp only [SecuritySocket.removals, SecuritySocket.closes, disconnections]
    split <;> simp_all
  have hnext : (c.kernel.close (c.socket id)).nextConnection = c.kernel.nextConnection := rfl
  rw [Custody.assign, hendpoint]
  constructor <;> cases h <;>
    grind [removals_append, closes_append, disconnections_append, Place.removals, Place.closes,
      Place.before, Place.after, CloseStage.duty]

theorem Logged.told (h : Logged c place) (hplaced : Placed c place) {by_ : Party} {id : Nat}
    {todo : List Nat} (hby : by_ ≠ .close)
    (hduty : c.duty by_ = { unclosed := todo, untold := id :: todo }) :
    Logged ({ c with events := c.events ++ [BroadcastEvent.disconnected id by_] }.assign by_
        (CloseStage.duty .load todo)) place := by
  have hnodup := h.nodupUntold by_
  rw [hduty] at hnodup
  obtain ⟨hnew, hrest⟩ := List.nodup_cons.mp hnodup
  have hid : place id = .closed by_ := by
    refine (h.untold by_ id hby (by simp [hduty])).2.resolve_left fun hheld => hnew ?_
    have hmem := (hplaced.held by_ id hby).mpr hheld
    rwa [hduty] at hmem
  have hevents : ∀ id', SecuritySocket.removals [BroadcastEvent.disconnected id by_] id' = [] ∧
      SecuritySocket.closes [BroadcastEvent.disconnected id by_] id' = [] ∧
      disconnections [BroadcastEvent.disconnected id by_] id' = if id = id' then 1 else 0 := by
    simp [SecuritySocket.removals, SecuritySocket.closes, disconnections]
  rw [Custody.assign]
  constructor <;> cases h <;>
    grind [removals_append, closes_append, disconnections_append, CloseStage.duty]

theorem Logged.byClose (h : Logged c place) {mutex : Option Party} {socket : Nat → Int}
    {duty : Duty} (hnodup : duty.untold.Nodup) :
    Logged ({ c with mutex := mutex, socket := socket }.assign .close duty) place := by
  rw [Custody.assign]
  constructor <;> cases h <;> grind

theorem Logged.drained (h : Logged c place) (hplaced : Placed c place)
    (hnone : ∀ id, place id ≠ .active) :
    Logged { c with
        active := []
        mutex := none
        events := c.events ++ c.active.map fun id => BroadcastEvent.removed id .close }
      (fun id => if place id = .drained then .closed .close else place id) := by
  have hmem : ∀ id, id ∈ c.active ↔ place id = .drained := by
    intro id
    rw [hplaced.active]
    exact or_iff_right (hnone id)
  have hremovals := fun id => removals_map_removed id hplaced.nodup .close
  have hcloses := fun id => closes_map_removed id c.active .close
  have hcallbacks := fun id => disconnections_map_removed id c.active .close
  constructor <;> cases h <;>
    grind [removals_append, closes_append, disconnections_append, Place.removals, Place.closes]

/-! ### The whole ledger -/

structure Ledger (c : Custody) (place : Nat → Place) : Prop where
  placed : Placed c place
  referring : Referring c place
  logged : Logged c place

theorem Referring.load (h : Referring c place) {by_ : Party} {id : Nat} {todo : List Nat}
    (hid : place id = .before by_) :
    Referring (c.assign by_ (CloseStage.duty (.call (c.socket id)) (id :: todo))) place := by
  rw [Custody.assign]
  constructor <;> cases h <;> grind [CloseStage.duty]

theorem Ledger.refused (h : Ledger c place) {r : AcceptReturn} (hfits : r.fits c.kernel)
    (hdescriptor : ¬ 0 < r.descriptor) : Ledger (c.accept r) place :=
  ⟨h.placed.refused _, h.referring.refused hfits hdescriptor, h.logged.refused hdescriptor⟩

theorem Ledger.accepted (h : Ledger c place) {r : AcceptReturn} (hfits : r.fits c.kernel)
    (hdescriptor : 0 < r.descriptor) (hduty : c.duty .monitor = {}) :
    Ledger ({ c.accept r with
        socket := Function.update c.socket c.kernel.nextConnection r.descriptor
        contextFd := Function.update c.contextFd c.kernel.nextConnection r.descriptor }.assign
          .monitor { accepting := some c.kernel.nextConnection })
      (Function.update place c.kernel.nextConnection .accepting) :=
  ⟨h.placed.accepted hdescriptor hduty, h.referring.accepted h.placed hfits hdescriptor,
    h.logged.accepted h.placed hdescriptor⟩

theorem Ledger.shared (h : Ledger c place) {id : Nat}
    (hduty : c.duty .monitor = { accepting := some id }) (hfree : c.mutex = none) :
    Ledger ({ c with active := c.active ++ [id] }.assign .monitor {})
      (Function.update place id .active) := by
  have hid : place id = .accepting := (h.placed.accepting id).mp (by rw [hduty])
  refine ⟨h.placed.shared hduty hfree, ?_, h.logged.shared hid⟩
  refine h.referring.frame rfl rfl rfl rfl rfl rfl rfl ?_ ?_ <;>
    grind [Place.isOpen, Place.before, Place.after]

theorem Ledger.announced (h : Ledger c place) (id : Nat) :
    Ledger { c with events := c.events ++ [BroadcastEvent.connected id] } place :=
  ⟨{ h.placed with }, { h.referring with }, h.logged.announced id⟩

/-- While nobody holds the lock, the active clients are those on the list. -/
theorem Ledger.active (h : Ledger c place) (hfree : c.mutex = none) (id : Nat) :
    id ∈ c.active ↔ place id = .active := by
  rw [h.placed.active]
  exact or_iff_left (h.placed.undrained (by simp [hfree]) id)

theorem Ledger.taken (h : Ledger c place) {id : Nat} (hduty : c.duty .monitor = {})
    (hfree : c.mutex = none) (hactive : id ∈ c.active) :
    Ledger ({ c with
        active := c.active.erase id
        events := c.events ++ [BroadcastEvent.removed id .monitor] }.assign .monitor
          (CloseStage.duty .load [id]))
      (Function.update place id (.held .monitor)) := by
  have hid := (h.active hfree id).mp hactive
  have hidle := h.placed.idle (by simp [hfree])
  refine ⟨h.placed.taken hduty hfree hactive, ?_, ?_⟩
  · refine h.referring.frame rfl rfl rfl rfl rfl rfl rfl ?_ ?_ <;>
      grind [Place.isOpen, Place.before, Place.after]
  · have hplace : (fun id' => if id' ∈ [id] then Place.held .monitor else place id') =
        Function.update place id (.held .monitor) := by
      funext id'
      simp [Function.update_apply]
    rw [← hplace]
    exact h.logged.taken .monitor [id] _ _ (by simpa using hid) (by simp) rfl

theorem Ledger.takenAll (h : Ledger c place) {call : Nat} (hduty : c.duty (.dropAll call) = {})
    (hfree : c.mutex = none) :
    Ledger ({ c with
        active := []
        mutex := some (.dropAll call)
        events := c.events ++
          c.active.map fun id => BroadcastEvent.removed id (.dropAll call) }.assign
          (.dropAll call) (CloseStage.duty .load c.active))
      (fun id => if place id = .active then .held (.dropAll call) else place id) := by
  have hactive := h.active hfree
  have hidle := h.placed.idle (by simp [hfree])
  refine ⟨h.placed.takenAll hduty hfree, ?_, ?_⟩
  · refine h.referring.frame rfl rfl rfl rfl rfl rfl rfl ?_ ?_ <;>
      grind [Place.isOpen, Place.before, Place.after]
  · simp only [← hactive]
    exact h.logged.taken _ _ _ _ (fun id => (hactive id).mp) h.placed.nodup rfl

theorem Ledger.loaded (h : Ledger c place) {by_ : Party} {id : Nat} {todo : List Nat}
    (hduty : c.duty by_ = CloseStage.duty .load (id :: todo)) :
    Ledger (c.assign by_ (CloseStage.duty (.call (c.socket id)) (id :: todo))) place :=
  ⟨h.placed.assign (by simp [hduty, CloseStage.duty]) (by rw [hduty]; rfl) (by rw [hduty]; rfl),
    h.referring.load (h.placed.head (by rw [hduty]; rfl)), h.logged.assign (by rw [hduty]; rfl)⟩

theorem Placed.stored (h : Placed c place) {by_ : Party} {id : Nat} {todo : List Nat}
    {duty : Duty} (hduty : c.duty by_ = CloseStage.duty .store (id :: todo))
    (haccepting : duty.accepting = none) (hunclosed : duty.unclosed = todo) :
    Placed ({ c with socket := Function.update c.socket id (-1) }.assign by_ duty) place := by
  have hplaced : Placed { c with socket := Function.update c.socket id (-1) } place := { h with }
  exact hplaced.assign (by simp [hduty, CloseStage.duty]) (by rw [hduty, haccepting]; rfl)
    (by rw [hduty, hunclosed]; rfl)

theorem Ledger.stored (h : Ledger c place) {by_ : Party} {id : Nat} {todo : List Nat}
    (hduty : c.duty by_ = CloseStage.duty .store (id :: todo)) :
    Ledger ({ c with socket := Function.update c.socket id (-1) }.assign by_
      { unclosed := todo, untold := id :: todo }) place := by
  have hlogged : Logged { c with socket := Function.update c.socket id (-1) } place :=
    { h.logged with }
  exact ⟨h.placed.stored hduty rfl rfl, h.referring.stored hduty rfl rfl,
    hlogged.assign (by rw [hduty]; rfl)⟩

theorem Ledger.told (h : Ledger c place) {by_ : Party} {id : Nat} {todo : List Nat}
    (hby : by_ ≠ .close) (hduty : c.duty by_ = { unclosed := todo, untold := id :: todo }) :
    Ledger ({ c with events := c.events ++ [BroadcastEvent.disconnected id by_] }.assign by_
      (CloseStage.duty .load todo)) place := by
  have hplaced : Placed { c with
      events := c.events ++ [BroadcastEvent.disconnected id by_] } place := { h.placed with }
  exact ⟨hplaced.assign (by simp [hduty]) (by rw [hduty]; rfl) (by rw [hduty]; rfl),
    h.referring.frame rfl rfl rfl rfl rfl rfl rfl (fun _ => rfl) fun _ _ _ _ _ => rfl,
    h.logged.told h.placed hby hduty⟩

theorem Ledger.locked (h : Ledger c place) (hfree : c.mutex = none) :
    Ledger ({ c with mutex := some .close }.assign .close (CloseStage.duty .load c.active))
      place :=
  ⟨h.placed.locked hfree,
    h.referring.frame rfl rfl rfl rfl rfl rfl rfl (fun _ => rfl) fun _ _ _ _ _ => rfl,
    h.logged.byClose h.placed.nodup⟩

theorem Ledger.storedByClose (h : Ledger c place) {id : Nat} {todo : List Nat}
    (hduty : c.duty .close = CloseStage.duty .store (id :: todo)) :
    Ledger ({ c with socket := Function.update c.socket id (-1) }.assign .close
      (CloseStage.duty .load todo)) place := by
  have hnodup := h.logged.nodupUntold .close
  rw [hduty] at hnodup
  exact ⟨h.placed.stored hduty rfl rfl, h.referring.stored hduty rfl rfl,
    h.logged.byClose hnodup.of_cons⟩

theorem Ledger.drained (h : Ledger c place) (hduty : c.duty .close = {})
    (hmutex : c.mutex = some .close) :
    Ledger { c with
        active := []
        mutex := none
        events := c.events ++ c.active.map fun id => BroadcastEvent.removed id .close }
      (fun id => if place id = .drained then .closed .close else place id) := by
  have hnone : ∀ id, place id ≠ .active := by
    intro id hid
    have hmem := (h.placed.draining hmutex id).mpr hid
    simp [hduty] at hmem
  have hself : c.duty = Function.update c.duty .close {} := by
    rw [← hduty, Function.update_eq_self]
  refine ⟨h.placed.drained hduty hmutex, ?_, h.logged.drained h.placed hnone⟩
  refine h.referring.frame rfl rfl rfl rfl hself rfl rfl ?_ ?_ <;>
    grind [Place.isOpen, Place.before, Place.after]

/-- **The ledger is kept.** -/
theorem Step.ledger (h : Ledger c place) (hstep : Step c c') : ∃ place', Ledger c' place' := by
  cases hstep with
  | refused hfits hdescriptor => exact ⟨_, h.refused hfits hdescriptor⟩
  | accepted hfits hdescriptor hduty => exact ⟨_, h.accepted hfits hdescriptor hduty⟩
  | shared hduty hfree => exact ⟨_, h.shared hduty hfree⟩
  | announced id => exact ⟨_, h.announced id⟩
  | taken hduty hfree hactive => exact ⟨_, h.taken hduty hfree hactive⟩
  | takenAll hduty hfree => exact ⟨_, h.takenAll hduty hfree⟩
  | released hmutex =>
    exact ⟨_, h.placed.released hmutex, { h.referring with }, { h.logged with }⟩
  | loaded hduty => exact ⟨_, h.loaded hduty⟩
  | closed hduty =>
    exact ⟨_, h.placed.closed hduty, h.referring.closed hduty, h.logged.closed h.referring hduty⟩
  | stored hby hduty => exact ⟨_, h.stored hduty⟩
  | told hby hduty => exact ⟨_, h.told hby hduty⟩
  | locked hduty hfree => exact ⟨_, h.locked hfree⟩
  | storedByClose hduty => exact ⟨_, h.storedByClose hduty⟩
  | drained hduty hmutex => exact ⟨_, h.drained hduty hmutex⟩
  | finished hlistening =>
    exact ⟨_, { h.placed with }, h.referring.finished hlistening, { h.logged with }⟩

end Custody

end SecuritySocket
