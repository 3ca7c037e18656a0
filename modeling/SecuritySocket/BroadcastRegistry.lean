import SecuritySocket.BroadcastCustody

/-!
# What the broadcast server polls

Which contexts are registered with the listener, and for which clients.  By address the
registry is always right: a registered client is active, about to be, or still to be
unregistered by the `dropAll` call that took it.  The descriptors in the other vector are
always among those of the registered contexts; that none is missing needs a side condition,
since a context that is no longer registered is still unregistered by its descriptor.
-/

namespace SecuritySocket

/-- The client that is registered and not yet on the list. -/
def MonitorPc.pushing? : MonitorPc → Option Nat
  | .pushing id _ => some id
  | _ => none

/-- The client that is no longer registered and not yet looked up on the list. -/
def MonitorPc.erasing? : MonitorPc → Option Nat
  | .erasing id _ => some id
  | _ => none

/-- The clients a `dropAll` call still has to unregister. -/
def DropPc.todo : DropPc → List Nat
  | .removing _ todo => todo
  | _ => []

def DropPc.taken : DropPc → List Nat
  | .removing dropped _ => dropped
  | _ => []

namespace BroadcastServer

open Transition SocketMultiEventListener

variable {s s' : BroadcastServer} {place : Nat → Custody.Place}

/-- `close` has not yet seen the monitor return. -/
def Running (s : BroadcastServer) : Prop := s.closer = .idle ∨ s.closer = .joining

/-! ### Places of the clients -/

theorem Running.mutex (h : Running s) (hcontrol : Control s) : s.clientsMtx ≠ some .close := by
  intro hmutex
  have hlock := hcontrol.closing.mp hmutex
  rcases h with h | h <;> simp [h, ClosePc.holdsLock] at hlock

theorem Control.running (h : Control s) (hmonitor : s.monitor ≠ .exited) : Running s := by
  by_contra hnot
  exact hmonitor (h.joined (fun hidle => hnot (.inl hidle)) fun hjoining => hnot (.inr hjoining))

/-- Where the clients are that the program counters and lists name. -/
structure Whereabouts (s : BroadcastServer) (place : Nat → Custody.Place) : Prop where
  active : ∀ id, id ∈ s.activeClients ↔ place id = .active
  accepting : ∀ id, s.monitor.duty.accepting = some id ↔ place id = .accepting
  taken : ∀ call, ∀ id ∈ (s.drops call).taken, place id = .held (.dropAll call)
  next : place s.kernel.nextConnection = .absent
  nodup : s.activeClients.Nodup
  nodupTaken : ∀ call, (s.drops call).taken.Nodup

theorem whereabouts (hledger : Custody.Ledger s.custody place) (hcontrol : Control s)
    (hrunning : Running s) : Whereabouts s place where
  active id := by
    have hfree := hrunning.mutex hcontrol
    have hactive := hledger.placed.active id
    rw [or_iff_left (hledger.placed.undrained hfree id)] at hactive
    exact hactive
  accepting := hledger.placed.accepting
  taken call id hid := by
    cases hdrop : s.drops call with
    | removing dropped todo =>
      refine (hledger.placed.held (.dropAll call) id (by simp)).mp ?_
      simpa [custody, duties, hdrop, DropPc.duty, CloseStage.duty, DropPc.taken] using hid
    | _ => simp [hdrop, DropPc.taken] at hid
  next := hledger.placed.absent _ (Nat.le_refl _)
  nodup := hledger.placed.nodup
  nodupTaken call := by
    cases hdrop : s.drops call with
    | removing dropped todo =>
      have hnodup := hledger.placed.nodupUnclosed (.dropAll call)
      simpa [custody, duties, hdrop, DropPc.duty, CloseStage.duty, DropPc.taken] using hnodup
    | _ => simp [DropPc.taken]

/-! ### The registered contexts -/

def Unregistering (drops : Nat → DropPc) (id : Nat) : Prop := ∃ call, id ∈ (drops call).todo

/-- Which clients are registered, by address. -/
structure Registry (s : BroadcastServer) : Prop where
  nodup : s.listener.contexts.Nodup
  server : .server ∈ s.listener.contexts
  registered : ∀ id, .peer id ∈ s.listener.contexts →
    id ∈ s.activeClients ∨ s.monitor.pushing? = some id ∨ Unregistering s.drops id
  active : ∀ id ∈ s.activeClients, .peer id ∈ s.listener.contexts ∨ s.monitor.erasing? = some id
  pushing : ∀ id, s.monitor.pushing? = some id → .peer id ∈ s.listener.contexts
  erasing : ∀ id, s.monitor.erasing? = some id → .peer id ∉ s.listener.contexts
  todo : ∀ call, ∀ id ∈ (s.drops call).todo, id ∈ (s.drops call).taken
  nodupTodo : ∀ call, (s.drops call).todo.Nodup

theorem registry_opened (fd : Int) : Registry (opened fd) := by
  constructor <;>
    simp [opened, addEvent, Unregistering, DropPc.todo, DropPc.taken, MonitorPc.pushing?, MonitorPc.erasing?]

theorem Registry.monitor (h : Registry s) {monitor : MonitorPc}
    (hlistener : s'.listener = s.listener) (hactive : s'.activeClients = s.activeClients)
    (hdrops : s'.drops = s.drops) (hmonitor : s'.monitor = monitor)
    (hpushing : monitor.pushing? = none) (herasing : monitor.erasing? = none)
    (hpushing' : s.monitor.pushing? = none)
    (herasing' : ∀ id, s.monitor.erasing? = some id → id ∉ s.activeClients) : Registry s' := by
  cases h
  constructor <;> simp only [hlistener, hactive, hdrops, hmonitor] <;> grind

theorem Registry.monitorMove (h : Registry s) (hplace : Whereabouts s place) {a : MonitorAnswer}
    (hmove : MonitorMove s a s') : Registry s' := by
  cases hmove with
  | tested hpc =>
    refine h.monitor rfl rfl rfl rfl ?_ ?_ ?_ ?_ <;> grind [MonitorPc.pushing?, MonitorPc.erasing?]
  | @unregistered id batch hpc htype =>
    cases h
    constructor <;> grind [MonitorPc.pushing?, MonitorPc.erasing?, removeEvent]
  | @registered id batch hpc =>
    have haccepting := (hplace.accepting id).mp (by rw [hpc]; rfl)
    have hnew : .peer id ∉ s.listener.contexts := by
      intro hmem
      rcases h.registered id hmem with hactive | hpushing | ⟨call, htodo⟩
      · grind [hplace.active id]
      · simp [hpc, MonitorPc.pushing?] at hpushing
      · grind [hplace.taken call id (h.todo call id htodo)]
    cases h
    constructor <;> grind [MonitorPc.pushing?, MonitorPc.erasing?, addEvent]
  | pushed hpc hfree =>
    cases h
    constructor <;> grind [MonitorPc.pushing?, MonitorPc.erasing?]
  | erased hpc hfree hactive =>
    have hnodup := hplace.nodup
    cases h
    constructor <;> grind [MonitorPc.pushing?, MonitorPc.erasing?]
  | @stale id batch hpc hfree hactive =>
    refine h.monitor rfl rfl rfl rfl rfl rfl ?_ ?_ <;>
      simp [hpc, MonitorPc.pushing?, MonitorPc.erasing?, hactive]
  | cleared hpc | copied hpc | timedOut hpc | failed hpc | unmatched hpc | reported hpc
  | batchDone hpc | refused hpc | accepted hpc | miscast hpc | skipped hpc | announced hpc
  | loaded hpc | closed hpc | stored hpc | told hpc =>
    refine h.monitor rfl rfl rfl rfl rfl rfl ?_ ?_ <;>
      simp [hpc, MonitorPc.pushing?, MonitorPc.erasing?]

theorem Registry.drop (h : Registry s) {call : Nat} {pc : DropPc}
    (hlistener : s'.listener = s.listener) (hactive : s'.activeClients = s.activeClients)
    (hmonitor : s'.monitor = s.monitor) (hdrops : s'.drops = Function.update s.drops call pc)
    (htodo : pc.todo = []) (hbefore : (s.drops call).todo = []) : Registry s' := by
  have hnone : ∀ other id, id ∈ (s'.drops other).todo ↔ id ∈ (s.drops other).todo := by
    intro other id
    rw [hdrops]
    by_cases hother : other = call
    · subst hother
      simp [htodo, hbefore]
    · rw [Function.update_of_ne hother]
  have hsame : ∀ id, Unregistering s'.drops id ↔ Unregistering s.drops id :=
    fun id => exists_congr fun other => hnone other id
  refine ⟨hlistener ▸ h.nodup, hlistener ▸ h.server, ?_, ?_, ?_, ?_, ?_, ?_⟩
  · rw [hlistener, hactive, hmonitor]
    exact fun id hid => (h.registered id hid).imp_right fun hrest =>
      hrest.imp_right (hsame id).mpr
  · rw [hlistener, hactive, hmonitor]
    exact h.active
  · rw [hlistener, hmonitor]
    exact h.pushing
  · rw [hlistener, hmonitor]
    exact h.erasing
  · intro other id hid
    have hne : other ≠ call := by
      rintro rfl
      simp [hdrops, htodo] at hid
    rw [hdrops, Function.update_of_ne hne] at hid ⊢
    exact h.todo other id hid
  · intro other
    rw [hdrops]
    by_cases hother : other = call
    · subst hother
      simp [htodo]
    · rw [Function.update_of_ne hother]
      exact h.nodupTodo other

theorem Registry.dropMove (h : Registry s) (hplace : Whereabouts s place) {call : Nat}
    (hmove : DropMove s call s') : Registry s' := by
  cases hmove with
  | started hpc hfree =>
    have hsome : ∀ id, id ∈ s.activeClients ∨ Unregistering s.drops id →
        Unregistering (Function.update s.drops call
          (.removing s.activeClients s.activeClients)) id := by
      rintro id (hid | ⟨other, hid⟩)
      · exact ⟨call, by simpa [DropPc.todo] using hid⟩
      · refine ⟨other, ?_⟩
        rw [Function.update_of_ne]
        · exact hid
        · rintro rfl
          simp [hpc, DropPc.todo] at hid
    have hnodup := hplace.nodup
    cases h
    constructor <;> grind [DropPc.todo, DropPc.taken]
  | @unregistered id dropped todo hpc =>
    have htodo : (s.drops call).todo = id :: todo := by rw [hpc]; rfl
    have htaken : (s.drops call).taken = dropped := by rw [hpc]; rfl
    have hheld := hplace.taken call id (h.todo call id (by rw [htodo]; simp))
    have hsome : ∀ other, other ≠ id → Unregistering s.drops other →
        Unregistering (Function.update s.drops call (.removing dropped todo)) other := by
      rintro other hne ⟨call', hother⟩
      refine ⟨call', ?_⟩
      by_cases hcall : call' = call
      · subst hcall
        rw [htodo] at hother
        simpa [hne, DropPc.todo] using hother
      · rwa [Function.update_of_ne hcall]
    have hactive : id ∉ s.activeClients := by
      rw [hplace.active, hheld]
      simp
    have hpushing : s.monitor.pushing? ≠ some id := by
      intro hpushing
      have haccepting : place id = .accepting := by
        refine (hplace.accepting id).mp ?_
        cases hmonitor : s.monitor <;> simp_all [MonitorPc.pushing?, MonitorPc.duty]
      simp [hheld] at haccepting
    cases h
    constructor <;> grind [DropPc.todo, DropPc.taken, removeEvent]
  | handedOver hpc | loaded hpc | closed hpc | stored hpc | told hpc | returned hpc =>
    exact h.drop rfl rfl rfl rfl rfl (by rw [hpc]; rfl)

theorem Registry.step (h : Registry s) (hplace : Whereabouts s place)
    (hrunning : Running s) {label : Label} (hstep : s.step label = some s') : Registry s' := by
  rcases step_cases hstep with ⟨a, _, hmove⟩ | ⟨call, _, hmove⟩ | ⟨_, hmove⟩
  · exact h.monitorMove hplace hmove
  · exact h.dropMove hplace hmove
  · cases hmove with
    | stopped hpc | joined hpc hexited => exact { h with }
    | _ => simp_all [Running]

/-! ### The polled descriptors -/

/-- The descriptor of a context is open and its own. -/
def Openly (place : Nat → Custody.Place) : ContextPtr → Prop
  | .server => True
  | .peer id => (place id).isOpen

theorem Registry.openly (h : Registry s) (hplace : Whereabouts s place) {p : ContextPtr}
    (hp : p ∈ s.listener.contexts) : Openly place p := by
  cases p with
  | server => trivial
  | peer id =>
    rw [Openly]
    rcases h.registered id hp with hactive | hpushing | ⟨call, htodo⟩
    · rw [(hplace.active id).mp hactive]
      rfl
    · have haccepting : place id = .accepting := by
        refine (hplace.accepting id).mp ?_
        cases hmonitor : s.monitor <;> simp_all [MonitorPc.pushing?, MonitorPc.duty]
      rw [haccepting]
      rfl
    · rw [hplace.taken call id (h.todo call id htodo)]
      rfl

theorem fdOf_injective (hledger : Custody.Ledger s.custody place) (hrunning : Running s)
    {p q : ContextPtr} (hp : Openly place p) (hq : Openly place q) (heq : s.fdOf p = s.fdOf q) :
    p = q := by
  have hserver : s.kernel.fdTable (s.fdOf .server) = some .listening :=
    hledger.referring.listening _ (if_neg (by rcases hrunning with h | h <;> simp [h]))
  have hpeer : ∀ id, (place id).isOpen →
      s.kernel.fdTable (s.fdOf (.peer id)) = some (.connection id) := by
    intro id hopen
    have hfd : s.fdOf (.peer id) = (s.clients id).socket.socket :=
      hledger.referring.contextFd id hopen
    rw [hfd]
    exact Kernel.connectionAt_eq_some.mp (hledger.referring.opened id hopen)
  cases p with
  | server =>
    cases q with
    | server => rfl
    | peer id' =>
      have hsame := (heq ▸ hserver).symm.trans (hpeer id' hq)
      cases hsame
  | peer id =>
    have hid := hpeer id hp
    rw [heq] at hid
    cases q with
    | server => cases hserver.symm.trans hid
    | peer id' => cases (hpeer id' hq).symm.trans hid; rfl

theorem Registry.nodup_contextFds (h : Registry s) (hledger : Custody.Ledger s.custody place)
    (hplace : Whereabouts s place) (hrunning : Running s) :
    (s.listener.contextFds s.fdOf).Nodup :=
  (List.nodup_map_iff_inj_on h.nodup).mpr fun _ hp _ hq heq =>
    fdOf_injective hledger hrunning (h.openly hplace hp) (h.openly hplace hq) heq

/-- How a step changes the listener, and that it changes no descriptor of a context in use. -/
structure ListenerStep (s : BroadcastServer) (label : Label) (s' : BroadcastServer) : Prop where
  listener : s'.listener = s.listener ∨
    (∃ id, s.monitor.duty.accepting = some id ∧
      s'.listener = s.listener.addEvent (.peer id) (s.fdOf (.peer id)) .read) ∨
    ∃ id, s'.listener = s.listener.removeEvent (.peer id) (s.fdOf (.peer id)) ∧
      (Unregistering s.drops id ∨ ∃ a batch, label = .monitor a ∧
        s.monitor = .dispatching (.peer id :: batch) ∧
        (s.context (.peer id)).type = .disconnected)
  fdOf : ∀ p, p ≠ .peer s.kernel.nextConnection → s'.fdOf p = s.fdOf p

theorem DropMove.fdOf {call : Nat} (hmove : DropMove s call s') (p : ContextPtr) :
    s'.fdOf p = s.fdOf p := by
  cases hmove with
  | @stored id dropped todo hpc =>
    cases p with
    | server => rfl
    | peer id' => exact congrFun (custody_closedClient s.clients id).2 id'
  | _ => rfl

theorem CloseMove.fdOf (hmove : CloseMove s s') (p : ContextPtr) : s'.fdOf p = s.fdOf p := by
  cases hmove with
  | @stored id todo hpc =>
    cases p with
    | server => rfl
    | peer id' => exact congrFun (custody_closedClient s.clients id).2 id'
  | _ => rfl

theorem step_listener {label : Label} (hstep : s.step label = some s') :
    ListenerStep s label s' := by
  rcases step_cases hstep with ⟨a, hlabel, hmove⟩ | ⟨call, _, hmove⟩ | ⟨_, hmove⟩
  · cases hmove with
    | reported hpc hret hcollect hretyped hstore =>
      refine ⟨.inl rfl, fun p _ => ?_⟩
      cases p with
      | server => exact hretyped.serverFd
      | peer id => exact hretyped.fd id
    | accepted hpc htype hfits hdescriptor =>
      refine ⟨.inl rfl, fun p hp => ?_⟩
      cases p with
      | server => rfl
      | peer id =>
        have hne : id ≠ s.kernel.nextConnection := fun h => hp (h ▸ rfl)
        simp [fdOf, context, hne]
    | @unregistered id batch hpc htype =>
      exact ⟨.inr (.inr ⟨id, rfl, .inr ⟨a, batch, hlabel, hpc, htype⟩⟩), fun _ _ => rfl⟩
    | @registered id batch hpc =>
      exact ⟨.inr (.inl ⟨id, by rw [hpc]; rfl, rfl⟩), fun _ _ => rfl⟩
    | @stored id batch hpc =>
      refine ⟨.inl rfl, fun p _ => ?_⟩
      cases p with
      | server => rfl
      | peer id' => exact congrFun (custody_closedClient s.clients id).2 id'
    | _ => exact ⟨.inl rfl, fun _ _ => rfl⟩
  · refine ⟨?_, fun p _ => hmove.fdOf p⟩
    cases hmove with
    | @unregistered id dropped todo hpc =>
      exact .inr (.inr ⟨id, rfl, .inl ⟨call, by simp [hpc, DropPc.todo]⟩⟩)
    | _ => exact .inl rfl
  · refine ⟨?_, fun p _ => hmove.fdOf p⟩
    cases hmove <;> exact .inl rfl

theorem ListenerStep.contextFds {label : Label} (h : ListenerStep s label s') (hplace : Whereabouts s place)
    {l : SocketMultiEventListener ContextPtr} (hopen : ∀ p ∈ l.contexts, Openly place p) :
    l.contextFds s'.fdOf = l.contextFds s.fdOf := by
  refine List.map_congr_left fun p hp => h.fdOf p ?_
  rintro rfl
  have hnext := hopen _ hp
  simp [Openly, hplace.next, Custody.Place.isOpen] at hnext

/-- The polled descriptors are among those of the registered contexts, in their order. -/
def Covered (s : BroadcastServer) : Prop :=
  s.listener.fds.Sublist (s.listener.contextFds s.fdOf)

/-- The two vectors agree entry by entry. -/
def Paired (s : BroadcastServer) : Prop := s.listener.fds = s.listener.contextFds s.fdOf

def unregisters (s : BroadcastServer) : Option Nat :=
  match s.monitor with
  | .dispatching (.peer id :: _) =>
    if (s.context (.peer id)).type = .disconnected then some id else none
  | _ => none

/-- When the monitor unregisters a client, no other registered context has its descriptor. -/
def Unshared (s : BroadcastServer) : Label → Prop
  | .monitor _ =>
    ∀ id ∈ s.unregisters, ∀ q ∈ s.listener.contexts, s.fdOf q = s.fdOf (.peer id) → q = .peer id
  | .dropAll _ | .close => True

instance (s : BroadcastServer) (label : Label) : Decidable (Unshared s label) :=
  match label with
  | .monitor _ => inferInstanceAs (Decidable (∀ id ∈ s.unregisters, ∀ q ∈ s.listener.contexts,
      s.fdOf q = s.fdOf (.peer id) → q = .peer id))
  | .dropAll _ => inferInstanceAs (Decidable True)
  | .close => inferInstanceAs (Decidable True)

section Polled

variable (h : Registry s) (hledger : Custody.Ledger s.custody place) (hplace : Whereabouts s place)
  (hrunning : Running s) {label : Label} (hstep : s.step label = some s')

include h hledger hplace hrunning hstep

theorem Covered.step (hcovered : Covered s) : Covered s' := by
  have hlistener := step_listener hstep
  have hsame := fun l => hlistener.contextFds hplace (l := l)
  have hopen := fun p hp => h.openly hplace (p := p) hp
  rw [Covered] at *
  rcases hlistener.listener with heq | ⟨id, haccepting, heq⟩ | ⟨id, heq, hcause⟩
  · rw [heq, hsame _ hopen]
    exact hcovered
  · have hid : Openly place (.peer id) := by
      rw [Openly, (hplace.accepting id).mp haccepting]
      rfl
    rw [heq, hsame _ fun p hp => ?_, fds_addEvent, contextFds_addEvent]
    · exact hcovered.append (List.Sublist.refl _)
    · rcases List.mem_append.mp hp with hp | hp
      · exact hopen p hp
      · rw [List.mem_singleton.mp hp]
        exact hid
  · rw [heq, hsame _ fun p hp => hopen p (List.mem_of_mem_erase hp), fds_removeEvent]
    by_cases hunique : ∀ q ∈ s.listener.contexts, s.fdOf q = s.fdOf (.peer id) → q = .peer id
    · rw [contextFds_removeEvent hunique]
      exact hcovered.erase _
    · have hnot : .peer id ∉ s.listener.contexts := by
        intro hmem
        exact hunique fun q hq hfd =>
          fdOf_injective hledger hrunning (hopen q hq) (hopen _ hmem) hfd
      have hcontexts : (s.listener.removeEvent (.peer id) (s.fdOf (.peer id))).contextFds s.fdOf =
          s.listener.contextFds s.fdOf := by
        rw [SocketMultiEventListener.contextFds, removeEvent, List.erase_of_not_mem hnot]
        rfl
      rw [hcontexts]
      exact List.erase_sublist.trans hcovered

theorem Paired.step (hpaired : Paired s) (hunshared : Unshared s label) : Paired s' := by
  have hlistener := step_listener hstep
  have hsame := fun l => hlistener.contextFds hplace (l := l)
  have hopen := fun p hp => h.openly hplace (p := p) hp
  rw [Paired] at *
  rcases hlistener.listener with heq | ⟨id, haccepting, heq⟩ | ⟨id, heq, hcause⟩
  · rw [heq, hsame _ hopen]
    exact hpaired
  · have hid : Openly place (.peer id) := by
      rw [Openly, (hplace.accepting id).mp haccepting]
      rfl
    rw [heq, hsame _ fun p hp => ?_, fds_addEvent, contextFds_addEvent, hpaired]
    rcases List.mem_append.mp hp with hp | hp
    · exact hopen p hp
    · rw [List.mem_singleton.mp hp]
      exact hid
  · have hunique : ∀ q ∈ s.listener.contexts, s.fdOf q = s.fdOf (.peer id) → q = .peer id := by
      rcases hcause with ⟨call, htodo⟩ | ⟨a, batch, rfl, hpc, htype⟩
      · intro q hq hfd
        refine fdOf_injective hledger hrunning (hopen q hq) ?_ hfd
        rw [Openly, hplace.taken call id (h.todo call id htodo)]
        rfl
      · exact hunshared id (by simp [unregisters, hpc, htype])
    rw [heq, hsame _ fun p hp => hopen p (List.mem_of_mem_erase hp), fds_removeEvent,
      contextFds_removeEvent hunique, hpaired]

end Polled

end BroadcastServer

end SecuritySocket
