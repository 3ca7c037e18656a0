import SecuritySocket.BroadcastCustody

/-!
# The order of the broadcast callbacks

The monitor puts a client on the list before it calls `onClientConnected` for it, and
`dropAll` on another thread may find it there in between.  The theorem here says that
`onClientDisconnected` comes too early in a run exactly when some `dropAll` calls it for
the client the monitor is just about to announce.
-/

namespace SecuritySocket

def MonitorPc.announcing? : MonitorPc → Option Nat
  | .announcing id _ => some id
  | _ => none

def MonitorPc.coming? : MonitorPc → Option Nat
  | .registering id _ | .pushing id _ | .announcing id _ => some id
  | _ => none

def MonitorPc.leaving? : MonitorPc → Option Nat
  | .closing id _ _ | .telling id _ => some id
  | _ => none

@[simp] theorem CloseStage.duty_untold (stage : CloseStage) (todo : List Nat) :
    (stage.duty todo).untold = todo := by
  cases stage <;> rfl

namespace BroadcastServer

open Transition

variable {s s' : BroadcastServer}

/-- Every `onClientDisconnected` comes after the `onClientConnected` of its client. -/
def Ordered (events : List BroadcastEvent) : Prop :=
  ∀ before after id by_, events = before ++ .disconnected id by_ :: after → .connected id ∈ before

/-- A `dropAll` tells of the client the monitor is about to announce. -/
def tellsEarly (s : BroadcastServer) : Label → Bool
  | .dropAll call =>
    match s.drops call with
    | .telling id _ _ => s.monitor.announcing? == some id
    | _ => false
  | .monitor _ | .close => false

/-! ### Events in order -/

theorem ordered_nil : Ordered [] := by
  intro before after id by_ h
  simp at h

/-- A disconnection in a list that was appended to is one of the old events or of the new. -/
theorem mem_of_append_eq {events more before after : List BroadcastEvent} {e : BroadcastEvent}
    (h : events ++ more = before ++ e :: after) :
    (∃ rest, events = before ++ e :: rest) ∨ ∃ new, before = events ++ new ∧ e ∈ more := by
  rcases List.append_eq_append_iff.mp h with ⟨new, hbefore, hmore⟩ | ⟨rest, hevents, hafter⟩
  · exact .inr ⟨new, hbefore, by simp [hmore]⟩
  · cases rest with
    | nil =>
      refine .inr ⟨[], by simpa using hevents.symm, ?_⟩
      rw [List.nil_append] at hafter
      simp [← hafter]
    | cons e' rest =>
      obtain ⟨rfl, -⟩ := List.cons.inj hafter
      exact .inl ⟨rest, hevents⟩

theorem Ordered.append_of_not {events more : List BroadcastEvent} (h : Ordered events)
    (hmore : ∀ id by_, .disconnected id by_ ∉ more) : Ordered (events ++ more) := by
  intro before after id by_ heq
  rcases mem_of_append_eq heq with ⟨rest, hevents⟩ | ⟨new, _, hin⟩
  · exact h before rest id by_ hevents
  · exact absurd hin (hmore id by_)

theorem Ordered.of_append {events more : List BroadcastEvent} (h : Ordered (events ++ more)) :
    Ordered events := by
  intro before after id by_ heq
  exact h before (after ++ more) id by_ (by rw [heq]; simp)

theorem Ordered.append_disconnected {events : List BroadcastEvent} {id : Nat} {by_ : Party}
    (h : Ordered events) (hconnected : .connected id ∈ events) :
    Ordered (events ++ [.disconnected id by_]) := by
  intro before after id' by_' heq
  rcases mem_of_append_eq heq with ⟨rest, hevents⟩ | ⟨new, hbefore, hin⟩
  · exact h before rest id' by_' hevents
  · cases List.mem_singleton.mp hin
    exact hbefore ▸ List.mem_append_left _ hconnected

theorem not_ordered_of_disconnected {events : List BroadcastEvent} {id : Nat} {by_ : Party}
    (hnot : .connected id ∉ events) : ¬ Ordered (events ++ [.disconnected id by_]) :=
  fun h => hnot (h events [] id by_ rfl)

/-! ### Who has been announced -/

/-- `onClientConnected` has been called for the client, or is about to be. -/
def Announced (s : BroadcastServer) (id : Nat) : Prop :=
  .connected id ∈ s.events ∨ s.monitor.announcing? = some id

structure Callbacks (s : BroadcastServer) : Prop where
  active : ∀ id ∈ s.activeClients, Announced s id
  leaving : ∀ id, s.monitor.leaving? = some id → .connected id ∈ s.events
  untold : ∀ call, ∀ id ∈ (s.drops call).duty.untold, Announced s id
  known : ∀ id, .connected id ∈ s.events → id < s.kernel.nextConnection
  coming : ∀ id, s.monitor.coming? = some id →
    id < s.kernel.nextConnection ∧ .connected id ∉ s.events

theorem not_mem_ofAccept (kernel : Kernel) (r : AcceptReturn) (id : Nat) :
    .connected id ∉ BroadcastEvent.ofAccept kernel r := by
  unfold BroadcastEvent.ofAccept
  split <;> simp

theorem callbacks_opened (fd : Int) : Callbacks (opened fd) := by
  constructor <;>
    simp [opened, MonitorPc.leaving?, MonitorPc.coming?, DropPc.duty]

theorem Callbacks.monitorMove (h : Callbacks s) {a : MonitorAnswer} (hmove : MonitorMove s a s') :
    Callbacks s' := by
  obtain ⟨hactive, hleaving, huntold, hknown, hcoming⟩ := h
  cases hmove with
  | tested hpc =>
    constructor <;> dsimp only <;>
      grind [Announced, MonitorPc.announcing?, MonitorPc.leaving?, MonitorPc.coming?]
  | refused hpc | accepted hpc =>
    have hnone := not_mem_ofAccept s.kernel a.accept
    have hnext := Kernel.accept_nextConnection s.kernel a.accept
    constructor <;>
      grind [Announced, MonitorPc.announcing?, MonitorPc.leaving?, MonitorPc.coming?]
  | _ =>
    constructor <;>
      grind [Announced, MonitorPc.announcing?, MonitorPc.leaving?, MonitorPc.coming?, Kernel.close]

theorem Callbacks.other (h : Callbacks s) {more : List BroadcastEvent}
    (hmonitor : s'.monitor = s.monitor) (hevents : s'.events = s.events ++ more)
    (hmore : ∀ id, .connected id ∉ more)
    (hnext : s'.kernel.nextConnection = s.kernel.nextConnection)
    (hactive : s'.activeClients ⊆ s.activeClients)
    (huntold : ∀ call, ∀ id ∈ (s'.drops call).duty.untold, Announced s id) : Callbacks s' := by
  have hconnected : ∀ id, .connected id ∈ s'.events ↔ .connected id ∈ s.events := by
    intro id
    simp [hevents, hmore id]
  have hannounced : ∀ id, Announced s id → Announced s' id := by
    intro id hid
    rw [Announced, hconnected, hmonitor]
    exact hid
  constructor
  · exact fun id hid => hannounced id (h.active id (hactive hid))
  · intro id hid
    rw [hmonitor] at hid
    exact (hconnected id).mpr (h.leaving id hid)
  · exact fun call id hid => hannounced id (huntold call id hid)
  · intro id hid
    rw [hnext]
    exact h.known id ((hconnected id).mp hid)
  · intro id hid
    rw [hmonitor] at hid
    rw [hnext, hconnected]
    exact h.coming id hid

theorem Callbacks.dropMove (h : Callbacks s) {call : Nat} (hmove : DropMove s call s') :
    Callbacks s' := by
  have huntold : ∀ {pc : DropPc}, (∀ id ∈ pc.duty.untold, Announced s id) → ∀ c,
      ∀ id ∈ (Function.update s.drops call pc c).duty.untold, Announced s id := by
    intro pc hpc c id hid
    by_cases hcall : c = call
    · subst hcall
      exact hpc id (by simpa using hid)
    · exact h.untold c id (by simpa [hcall] using hid)
  have hcall := h.untold call
  cases hmove with
  | started hpc =>
    exact h.other rfl rfl (by simp) rfl (List.nil_subset _)
      (huntold (by simpa [DropPc.duty] using h.active))
  | told hpc =>
    refine h.other rfl rfl (by simp) rfl (List.Subset.refl _) (huntold fun id hid => hcall id ?_)
    simp only [DropPc.duty, CloseStage.duty_untold] at hid
    simp [hpc, DropPc.duty, hid]
  | closed hpc =>
    refine h.other rfl rfl (by simp) rfl (List.Subset.refl _) (huntold ?_)
    simpa [hpc, DropPc.duty] using hcall
  | returned hpc =>
    exact h.other rfl (List.append_nil _).symm (by simp) rfl (List.Subset.refl _)
      (huntold (by simp [DropPc.duty]))
  | unregistered hpc | handedOver hpc | loaded hpc | stored hpc =>
    refine h.other rfl (List.append_nil _).symm (by simp) rfl (List.Subset.refl _) (huntold ?_)
    simpa [hpc, DropPc.duty] using hcall

theorem Callbacks.closeMove (h : Callbacks s) (hmove : CloseMove s s') : Callbacks s' := by
  cases hmove with
  | drained hpc => exact h.other rfl rfl (by simp) rfl (List.nil_subset _) h.untold
  | closed hpc => exact h.other rfl rfl (by simp) rfl (List.Subset.refl _) h.untold
  | _ => exact h.other rfl (List.append_nil _).symm (by simp) rfl (List.Subset.refl _) h.untold

theorem Callbacks.step (h : Callbacks s) {label : Label} (hstep : s.step label = some s') :
    Callbacks s' := by
  rcases step_cases hstep with ⟨a, _, hmove⟩ | ⟨call, _, hmove⟩ | ⟨_, hmove⟩
  · exact h.monitorMove hmove
  · exact h.dropMove hmove
  · exact h.closeMove hmove

/-! ### When the order is broken -/

theorem ordered_monitorMove (h : Callbacks s) (hs : Ordered s.events) {a : MonitorAnswer}
    (hmove : MonitorMove s a s') : Ordered s'.events := by
  cases hmove with
  | told hpc => exact hs.append_disconnected (h.leaving _ (by rw [hpc]; rfl))
  | refused | accepted =>
    refine hs.append_of_not fun id by_ => ?_
    unfold BroadcastEvent.ofAccept
    split <;> simp
  | announced | erased | closed => exact hs.append_of_not (by simp)
  | _ => exact hs

theorem ordered_dropMove (h : Callbacks s) (hs : Ordered s.events) {call : Nat}
    (hmove : DropMove s call s') : Ordered s'.events ↔ s.tellsEarly (.dropAll call) = false := by
  cases hmove with
  | @told id dropped todo hpc =>
    have hannounced := h.untold call id (by simp [hpc, DropPc.duty])
    by_cases hmonitor : s.monitor.announcing? = some id
    · have hcoming : s.monitor.coming? = some id := by
        cases hpc' : s.monitor <;> simp_all [MonitorPc.announcing?, MonitorPc.coming?]
      have hnot : ¬ Ordered (s.events ++ [.disconnected id (.dropAll call)]) :=
        not_ordered_of_disconnected (h.coming id hcoming).2
      simp [tellsEarly, hpc, hmonitor, hnot]
    · have hordered : Ordered (s.events ++ [.disconnected id (.dropAll call)]) :=
        hs.append_disconnected (hannounced.resolve_right hmonitor)
      simp [tellsEarly, hpc, hmonitor, hordered]
  | started hpc | closed hpc =>
    simpa [tellsEarly, hpc] using hs.append_of_not (by simp)
  | _ hpc => simpa [tellsEarly, hpc] using hs

theorem ordered_closeMove (hs : Ordered s.events) (hmove : CloseMove s s') :
    Ordered s'.events := by
  cases hmove with
  | drained | closed => exact hs.append_of_not (by simp)
  | _ => exact hs

/-- A step keeps the order exactly when it does not tell early. -/
theorem ordered_step (h : Callbacks s) (hs : Ordered s.events) {label : Label}
    (hstep : s.step label = some s') : Ordered s'.events ↔ s.tellsEarly label = false := by
  rcases step_cases hstep with ⟨a, rfl, hmove⟩ | ⟨call, rfl, hmove⟩ | ⟨rfl, hmove⟩
  · exact iff_of_true (ordered_monitorMove h hs hmove) rfl
  · exact ordered_dropMove h hs hmove
  · exact iff_of_true (ordered_closeMove hs hmove) rfl

theorem events_step {label : Label} (hstep : s.step label = some s') :
    ∃ more, s'.events = s.events ++ more := by
  rcases step_cases hstep with ⟨a, _, hmove⟩ | ⟨call, _, hmove⟩ | ⟨_, hmove⟩
  · cases hmove <;> first | exact ⟨_, rfl⟩ | exact ⟨[], (List.append_nil _).symm⟩
  · cases hmove <;> first | exact ⟨_, rfl⟩ | exact ⟨[], (List.append_nil _).symm⟩
  · cases hmove <;> first | exact ⟨_, rfl⟩ | exact ⟨[], (List.append_nil _).symm⟩

theorem ordered_of_step {label : Label} (hstep : s.step label = some s')
    (h : Ordered s'.events) : Ordered s.events := by
  obtain ⟨more, hmore⟩ := events_step hstep
  rw [hmore] at h
  exact h.of_append

/-- **Callback order.**  In a run every `onClientDisconnected` comes after its client's
    `onClientConnected` exactly when no `dropAll` tells of the client the monitor has put on
    the list and not yet announced. -/
theorem ordered_iff {fd : Int} {labels : List Label}
    (hexec : exec step (opened fd) labels = some s) :
    Ordered s.events ↔ Meets step (fun s label => s.tellsEarly label = false) (opened fd) labels := by
  have hstep : ∀ s label s', Callbacks s → step s label = some s' →
      (Ordered s'.events ↔ Ordered s.events ∧ s.tellsEarly label = false) := by
    intro s label s' h hstep
    constructor
    · intro hs'
      have hs := ordered_of_step hstep hs'
      exact ⟨hs, (ordered_step h hs hstep).mp hs'⟩
    · rintro ⟨hs, hquiet⟩
      exact (ordered_step h hs hstep).mpr hquiet
  have hiff := exec_iff_meets (fun _ _ _ h hstep => h.step hstep) hstep hexec
    (callbacks_opened fd)
  have hopened : Ordered (opened fd).events := ordered_nil
  rw [hiff, and_iff_right hopened]

theorem threeLeave_ordered :
    ∃ s, exec step (opened 3) threeLeave = some s ∧
      disconnections s.events 0 = 1 ∧ disconnections s.events 1 = 1 ∧ Ordered s.events := by
  have hrun : exec step (opened 3) threeLeave =
      some ((exec step (opened 3) threeLeave).getD (opened 3)) := rfl
  exact ⟨_, hrun, rfl, rfl, (ordered_iff hrun).mpr (by decide)⟩

/-- A whole `dropAll` between the push of a client and its announcement. -/
def dropBeforeAnnounced : List Label :=
  monitorRound 7 { poll := .ready [{ pollin := true }], accept := { descriptor := 4 } } ++
    List.replicate 7 (.dropAll 0) ++ monitorRound 1 {}

theorem dropBeforeAnnounced_not_ordered :
    ∃ s, Reachable step (opened 3) s ∧
      s.events.drop 3 = [.disconnected 0 (.dropAll 0), .connected 0] ∧ ¬ Ordered s.events := by
  have hrun : exec step (opened 3) dropBeforeAnnounced =
      some ((exec step (opened 3) dropBeforeAnnounced).getD (opened 3)) := rfl
  refine ⟨_, ⟨_, hrun⟩, rfl, fun h => ?_⟩
  have hconnected := h [.accepted 0 4, .removed 0 (.dropAll 0),
    .closed 0 (.dropAll 0) (some (.connection 0))] [.connected 0] 0 (.dropAll 0) rfl
  revert hconnected
  decide

end BroadcastServer

end SecuritySocket
