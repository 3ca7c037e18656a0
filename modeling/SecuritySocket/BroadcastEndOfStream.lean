import SecuritySocket.BroadcastLifetime

/-!
# End of stream on a broadcast client

A client's context is registered for POLLIN, and the monitor acts on ACCEPT and
DISCONNECTED contexts only.  A peer that has sent its FIN is reported as POLLIN, which
`wait` turns into READ, so the client stays active.  The theorem here compares two loop
tops: an active client is gone at the second if and only if in between a poll reported
POLLERR, POLLHUP or POLLNVAL for its descriptor, or a `dropAll` began.
-/

namespace SecuritySocket

def MonitorPc.batch : MonitorPc → List ContextPtr
  | .dispatching batch | .registering _ batch | .pushing _ batch | .announcing _ batch
  | .erasing _ batch | .closing _ _ batch | .telling _ batch => batch
  | .top | .clearing | .waiting | .polling _ _ | .exited | .faulted => []

namespace BroadcastServer

open Transition SocketMultiEventListener

variable {s s' : BroadcastServer} {id : Nat} {place : Nat → Custody.Place}

/-- The poll the monitor returns from reports a hangup for the descriptor of client `id`. -/
def hangup (s : BroadcastServer) (id : Nat) (a : MonitorAnswer) : Bool :=
  match s.monitor, a.poll with
  | .polling _ handle, .ready revents =>
    (handle.zip revents).any fun entry => entry.1.fd == s.fdOf (.peer id) && entry.2.hangup
  | _, _ => false

/-- The step reports no hangup of client `id`, and no `dropAll` begins with it. -/
def quiet (s : BroadcastServer) (id : Nat) : Label → Bool
  | .monitor a => !s.hangup id a
  | .dropAll call => s.drops call != .idle
  | .close => true

/-! ### The stored event types -/

theorem context_setType (s : BroadcastServer) (p q : ContextPtr) (type : SocketEventType) :
    (s.setType p type).context q =
      if q = p then { s.context q with type := type } else s.context q := by
  cases p with
  | server => cases q <;> simp [setType, context]
  | peer id =>
    cases q with
    | server => simp [setType, context]
    | peer id' =>
      by_cases hid : id' = id
      · subst hid
        simp [setType, context]
      · simp [setType, context, hid]

theorem listener_setType (s : BroadcastServer) (p : ContextPtr) (type : SocketEventType) :
    (s.setType p type).listener = s.listener := by
  cases p <;> rfl

theorem context_storeTypes_of_not_mem {reported : List (Reported ContextPtr)} {p : ContextPtr}
    (h : p ∉ reported.map (·.context)) : (s.storeTypes reported).context p = s.context p := by
  induction reported generalizing s with
  | nil => rfl
  | cons e rest ih =>
    rw [List.map_cons, List.mem_cons, not_or] at h
    obtain ⟨hne, hrest⟩ := h
    rw [storeTypes, ih hrest, context_setType, if_neg hne]

theorem type_storeTypes {reported : List (Reported ContextPtr)}
    (hnodup : (reported.map (·.context)).Nodup) {e : Reported ContextPtr} (he : e ∈ reported) :
    ((s.storeTypes reported).context e.context).type =
      eventType s.listener.serverSocket e.fd e.revents (s.context e.context).type := by
  induction reported generalizing s with
  | nil => cases he
  | cons f rest ih =>
    obtain ⟨hfresh, hrest⟩ := List.nodup_cons.mp hnodup
    rw [storeTypes]
    rcases List.mem_cons.mp he with rfl | he
    · rw [context_storeTypes_of_not_mem hfresh, context_setType, if_pos rfl]
    · have hne : e.context ≠ f.context := fun heq => hfresh (List.mem_map.mpr ⟨e, he, heq⟩)
      rw [ih hrest he, context_setType, if_neg hne, listener_setType]

/-- A polled client is among the reported contexts as disconnected exactly when its entry
    has a hangup. -/
theorem Referenced.reported_hangup (h : Referenced s) {contexts : List ContextPtr}
    {handle : List PollFd} {revents : List Revents} {reported : List (Reported ContextPtr)}
    (hpc : s.monitor = .polling contexts handle) (hpolled : .peer id ∈ contexts)
    (hcollect : collect s.fdOf contexts (handle.zip revents) = some reported) :
    (∃ entry ∈ handle.zip revents, entry.1.fd = s.fdOf (.peer id) ∧ entry.2.hangup = true) ↔
      .peer id ∈ reported.map (·.context) ∧
        ((s.storeTypes reported).context (.peer id)).type = .disconnected := by
  obtain ⟨hsub, hnodup⟩ := h.snapshot contexts handle hpc
  obtain ⟨-, hcontexts⟩ := collect_reports hcollect
  have honce := nodup_collected (hnodup.sublist hsub) hcollect
  constructor
  · rintro ⟨entry, hentry, hfd, hflag⟩
    have hzero : entry.2.isZero = false := by simp [Revents.isZero, hflag]
    obtain ⟨e, he, hefd, herevents⟩ := exists_collected hcollect hentry hzero
    have hcontext : e.context = .peer id := by
      refine List.inj_on_of_nodup_map hnodup (hcontexts e he).1 hpolled ?_
      rw [(hcontexts e he).2, hefd, hfd]
    rw [← hcontext]
    refine ⟨List.mem_map_of_mem he, ?_⟩
    rw [type_storeTypes honce he, eventType_eq_disconnected (herevents ▸ hzero), herevents]
    exact hflag
  · rintro ⟨hin, htype⟩
    obtain ⟨e, he, hcontext⟩ := List.mem_map.mp hin
    obtain ⟨entry, hentry, hzero, hfd, hrevents⟩ := exists_reporting hcollect he
    rw [← hcontext, type_storeTypes honce he, eventType_eq_disconnected (hrevents ▸ hzero)] at htype
    refine ⟨entry, hentry, ?_, hrevents ▸ htype⟩
    rw [hfd, ← (hcontexts e he).2, hcontext]

/-! ### A client that stays, and one that leaves -/

/-- The monitor has returned, or the process has crashed. -/
def Halted (s : BroadcastServer) : Prop := s.monitor = .exited ∨ s.monitor = .faulted

/-- An active client that no poll has reported as disconnected. -/
structure Staying (s : BroadcastServer) (id : Nat) : Prop where
  active : id ∈ s.activeClients
  copied : ∀ contexts handle, s.monitor = .polling contexts handle → .peer id ∈ contexts
  erasing : s.monitor.erasing? ≠ some id
  type : .peer id ∈ s.monitor.batch → (s.context (.peer id)).type ≠ .disconnected

/-- A client that is off the list, or is going to be before the monitor is at its top. -/
structure Leaving (s : BroadcastServer) (id : Nat) : Prop where
  known : id < s.kernel.nextConnection
  notAccepting : s.monitor.duty.accepting ≠ some id
  leaving : id ∉ s.activeClients ∨ s.monitor.erasing? = some id ∨
    .peer id ∈ s.monitor.batch ∧ (s.context (.peer id)).type = .disconnected

theorem MonitorMove.context {a : MonitorAnswer} (hmove : MonitorMove s a s')
    (hpoll : ∀ contexts handle, s.monitor ≠ .polling contexts handle)
    (hid : id < s.kernel.nextConnection) : s'.context (.peer id) = s.context (.peer id) := by
  cases hmove with
  | accepted hpc =>
    have hne : id ≠ s.kernel.nextConnection := Nat.ne_of_lt hid
    simp [BroadcastServer.context, hne]
  | @stored id' batch hpc =>
    by_cases hid' : id = id'
    · subst hid'
      simp [BroadcastServer.context]
    · simp [BroadcastServer.context, hid']
  | timedOut hpc | failed hpc | unmatched hpc | reported hpc => exact absurd hpc (hpoll _ _)
  | _ => rfl

theorem Staying.move (h : Staying s id) (hactive : id ∈ s'.activeClients)
    (hbatch : s'.monitor.batch ⊆ s.monitor.batch)
    (hpolling : ∀ contexts handle, s'.monitor ≠ .polling contexts handle)
    (herasing : s'.monitor.erasing? ≠ some id)
    (hcontext : s'.context (.peer id) = s.context (.peer id)) : Staying s' id where
  active := hactive
  copied contexts handle heq := absurd heq (hpolling contexts handle)
  erasing := herasing
  type hin := by
    rw [hcontext]
    exact h.type (hbatch hin)

theorem Staying.monitorMove (h : Staying s id) (hregistry : Registry s) (href : Referenced s)
    (hid : id < s.kernel.nextConnection) {a : MonitorAnswer} (hquiet : s.hangup id a = false)
    (hmove : MonitorMove s a s') : Halted s' ∨ Staying s' id := by
  have hcontext := fun hpoll => hmove.context hpoll hid
  cases hmove with
  | failed hpc | unmatched hpc | miscast hpc => simp [Halted]
  | tested hpc =>
    cases hmonitoring : s.isMonitoring with
    | false => simp [Halted]
    | true =>
      exact .inr (h.move h.active (by simp [MonitorPc.batch]) (by simp)
        (by simp [MonitorPc.erasing?]) rfl)
  | cleared hpc | timedOut hpc | batchDone hpc =>
    exact .inr (h.move h.active (by simp [MonitorPc.batch]) (by simp)
      (by simp [MonitorPc.erasing?]) rfl)
  | copied hpc =>
    have hregistered := (hregistry.active id h.active).resolve_right h.erasing
    refine .inr ⟨h.active, fun contexts handle heq => ?_, by simp [MonitorPc.erasing?],
      by simp [MonitorPc.batch]⟩
    cases heq
    exact hregistered
  | @reported contexts handle revents reported serverContext clients hpc hret hcollect hretyped
      hstore =>
    refine .inr ⟨h.active, by simp, by simp [MonitorPc.erasing?], fun hin htype => ?_⟩
    have hnot : ¬ ∃ entry ∈ handle.zip revents,
        entry.1.fd = s.fdOf (.peer id) ∧ entry.2.hangup = true := by
      simpa [hangup, hpc, hret] using hquiet
    refine hnot ((href.reported_hangup hpc (h.copied _ _ hpc) hcollect).mpr ⟨hin, ?_⟩)
    rw [hstore]
    exact htype
  | refused hpc | accepted hpc | skipped hpc =>
    refine .inr (h.move h.active ?_ (by simp) (by simp [MonitorPc.erasing?])
      (hcontext (by simp [hpc])))
    simp [hpc, MonitorPc.batch]
  | @unregistered id' batch hpc htype =>
    refine .inr (h.move h.active ?_ (by simp) ?_ (hcontext (by simp [hpc])))
    · simp [hpc, MonitorPc.batch]
    · rintro heq
      cases heq
      exact h.type (by simp [hpc, MonitorPc.batch]) htype
  | registered hpc | announced hpc | stale hpc | loaded hpc | closed hpc | stored hpc | told hpc =>
    refine .inr (h.move h.active ?_ (by simp) (by simp [MonitorPc.erasing?])
      (hcontext (by simp [hpc])))
    simp [hpc, MonitorPc.batch]
  | pushed hpc =>
    refine .inr (h.move (List.mem_append_left _ h.active) ?_ (by simp)
      (by simp [MonitorPc.erasing?]) (hcontext (by simp [hpc])))
    simp [hpc, MonitorPc.batch]
  | @erased id' batch hpc hfree hactive =>
    have hne : id ≠ id' := by
      rintro rfl
      exact h.erasing (by rw [hpc]; rfl)
    refine .inr (h.move ((List.mem_erase_of_ne hne).mpr h.active) ?_ (by simp)
      (by simp [MonitorPc.erasing?]) (hcontext (by simp [hpc])))
    simp [hpc, MonitorPc.batch]

theorem Staying.hangup (h : Staying s id) (href : Referenced s)
    (hid : id < s.kernel.nextConnection) {a : MonitorAnswer} (hhangup : s.hangup id a = true)
    (hmove : MonitorMove s a s') : Halted s' ∨ Leaving s' id := by
  cases hmove with
  | @reported contexts handle revents reported serverContext clients hpc hret hcollect hretyped
      hstore =>
    have hentry : ∃ entry ∈ handle.zip revents,
        entry.1.fd = s.fdOf (.peer id) ∧ entry.2.hangup = true := by
      simpa [BroadcastServer.hangup, hpc, hret] using hhangup
    have hreported := (href.reported_hangup hpc (h.copied _ _ hpc) hcollect).mp hentry
    rw [hstore] at hreported
    exact .inr ⟨hid, by simp [MonitorPc.duty], .inr (.inr hreported)⟩
  | unmatched hpc => exact .inl (.inr rfl)
  | failed hpc => exact .inl (.inl rfl)
  | timedOut hpc hret => simp [BroadcastServer.hangup, hpc, hret] at hhangup
  | _ hpc => simp [BroadcastServer.hangup, hpc] at hhangup

theorem Leaving.move (h : Leaving s id) (hnext : s.kernel.nextConnection ≤ s'.kernel.nextConnection)
    (haccepting : s'.monitor.duty.accepting ≠ some id)
    (hleaving : id ∉ s'.activeClients ∨ s'.monitor.erasing? = some id ∨
      .peer id ∈ s'.monitor.batch ∧ (s'.context (.peer id)).type = .disconnected) :
    Leaving s' id :=
  ⟨Nat.lt_of_lt_of_le h.known hnext, haccepting, hleaving⟩

theorem Leaving.monitorMove (h : Leaving s id) (hnodup : s.activeClients.Nodup) {a : MonitorAnswer}
    (hmove : MonitorMove s a s') : Halted s' ∨ Leaving s' id := by
  have hcontext := fun hpoll => hmove.context hpoll h.known
  have hleaving := h.leaving
  have haccepting := h.notAccepting
  cases hmove with
  | failed hpc | unmatched hpc | miscast hpc => simp [Halted]
  | tested hpc =>
    cases hmonitoring : s.isMonitoring with
    | false => simp [Halted]
    | true =>
      exact .inr ⟨h.known, by simp [MonitorPc.duty],
        .inl (by simpa [hpc, MonitorPc.erasing?, MonitorPc.batch] using hleaving)⟩
  | cleared hpc | copied hpc | timedOut hpc | reported hpc | batchDone hpc =>
    exact .inr ⟨h.known, by simp [MonitorPc.duty],
      .inl (by simpa [hpc, MonitorPc.erasing?, MonitorPc.batch] using hleaving)⟩
  | refused hpc htype =>
    refine .inr (h.move (Kernel.nextConnection_le_accept _ _) (by simp [MonitorPc.duty]) ?_)
    rw [hcontext (by simp [hpc])]
    grind [MonitorPc.batch, MonitorPc.erasing?]
  | accepted hpc htype =>
    refine .inr (h.move (Kernel.nextConnection_le_accept _ _) ?_ ?_)
    · simpa [MonitorPc.duty] using (Nat.ne_of_lt h.known).symm
    · rw [hcontext (by simp [hpc])]
      grind [MonitorPc.batch, MonitorPc.erasing?]
  | unregistered hpc htype | skipped hpc htype =>
    refine .inr (h.move (Nat.le_refl _) (by simp [MonitorPc.duty]) ?_)
    rw [hcontext (by simp [hpc])]
    grind [MonitorPc.batch, MonitorPc.erasing?]
  | registered hpc =>
    refine .inr (h.move (Nat.le_refl _) (by simpa [hpc, MonitorPc.duty] using haccepting) ?_)
    rw [hcontext (by simp [hpc])]
    grind [MonitorPc.batch, MonitorPc.erasing?]
  | announced hpc | stale hpc | loaded hpc | closed hpc | stored hpc | told hpc =>
    refine .inr (h.move (Nat.le_refl _) (by simp [MonitorPc.duty]) ?_)
    rw [hcontext (by simp [hpc])]
    grind [MonitorPc.batch, MonitorPc.erasing?]
  | @pushed id' batch hpc =>
    have hne : id ≠ id' := by
      rintro rfl
      exact haccepting (by rw [hpc]; rfl)
    refine .inr (h.move (Nat.le_refl _) (by simp [MonitorPc.duty]) ?_)
    rw [hcontext (by simp [hpc])]
    grind [MonitorPc.batch, MonitorPc.erasing?]
  | @erased id' batch hpc hfree hactive =>
    have hgone := hnodup.mem_erase_iff (a := id) (b := id')
    refine .inr (h.move (Nat.le_refl _) (by simp [MonitorPc.duty]) ?_)
    rw [hcontext (by simp [hpc])]
    grind [MonitorPc.batch, MonitorPc.erasing?]

theorem Leaving.other (h : Leaving s id) (hactive : s'.activeClients ⊆ s.activeClients)
    (hmonitor : s'.monitor = s.monitor) (hnext : s'.kernel.nextConnection = s.kernel.nextConnection)
    (hcontext : s'.context (.peer id) = s.context (.peer id)) : Leaving s' id where
  known := hnext ▸ h.known
  notAccepting := hmonitor ▸ h.notAccepting
  leaving := by
    rw [hmonitor, hcontext]
    exact h.leaving.imp_left fun hnot hin => hnot (hactive hin)

theorem Staying.other (h : Staying s id) (hactive : s'.activeClients = s.activeClients)
    (hmonitor : s'.monitor = s.monitor)
    (hcontext : s'.context (.peer id) = s.context (.peer id)) : Staying s' id where
  active := hactive ▸ h.active
  copied := hmonitor ▸ h.copied
  erasing := hmonitor ▸ h.erasing
  type := by
    rw [hmonitor, hcontext]
    exact h.type

theorem context_closed (s : BroadcastServer) (id' : Nat) :
    (Function.update s.clients id'
      { s.clients id' with socket := (s.clients id').socket.closed } id).context =
      (s.clients id).context := by
  by_cases hid : id = id'
  · subst hid
    simp
  · simp [hid]

theorem DropMove.context {call : Nat} (hmove : DropMove s call s') :
    s'.context (.peer id) = s.context (.peer id) := by
  cases hmove with
  | stored hpc => exact context_closed s _
  | _ => rfl

theorem CloseMove.context (hmove : CloseMove s s') :
    s'.context (.peer id) = s.context (.peer id) := by
  cases hmove with
  | stored hpc => exact context_closed s _
  | _ => rfl

theorem Leaving.step (h : Leaving s id) (hnodup : s.activeClients.Nodup) {label : Label}
    (hstep : s.step label = some s') : Halted s' ∨ Leaving s' id := by
  rcases step_cases hstep with ⟨a, _, hmove⟩ | ⟨call, _, hmove⟩ | ⟨_, hmove⟩
  · exact h.monitorMove hnodup hmove
  · have hcontext : s'.context (.peer id) = s.context (.peer id) := hmove.context
    right
    cases hmove with
    | started => exact h.other (List.nil_subset _) rfl rfl hcontext
    | _ => exact h.other (List.Subset.refl _) rfl rfl hcontext
  · have hcontext : s'.context (.peer id) = s.context (.peer id) := hmove.context
    right
    cases hmove with
    | drained => exact h.other (List.nil_subset _) rfl rfl hcontext
    | _ => exact h.other (List.Subset.refl _) rfl rfl hcontext

theorem Staying.step (h : Staying s id) (hregistry : Registry s) (href : Referenced s)
    (hplace : Whereabouts s place) (hrunning : Running s) (hid : id < s.kernel.nextConnection)
    {label : Label} (hstep : s.step label = some s') :
    Halted s' ∨ (if s.quiet id label then Staying s' id else Leaving s' id) := by
  rcases step_cases hstep with ⟨a, rfl, hmove⟩ | ⟨call, rfl, hmove⟩ | ⟨rfl, hmove⟩
  · cases hhangup : s.hangup id a with
    | false =>
      rw [if_pos (by simp [quiet, hhangup])]
      exact h.monitorMove hregistry href hid hhangup hmove
    | true =>
      rw [if_neg (by simp [quiet, hhangup])]
      exact h.hangup href hid hhangup hmove
  · have hcontext : s'.context (.peer id) = s.context (.peer id) := hmove.context
    right
    cases hmove with
    | started hpc =>
      have hactive := (hplace.active id).mp h.active
      rw [if_neg (by simp [quiet, hpc])]
      refine ⟨hid, fun haccepting => ?_, .inl List.not_mem_nil⟩
      rw [(hplace.accepting id).mp haccepting] at hactive
      cases hactive
    | unregistered hpc | handedOver hpc | loaded hpc | closed hpc | stored hpc | told hpc
    | returned hpc =>
      rw [if_pos (by simp [quiet, hpc])]
      exact h.other rfl rfl hcontext
  · have hcontext : s'.context (.peer id) = s.context (.peer id) := hmove.context
    right
    rw [if_pos (by rfl)]
    cases hmove with
    | drained hpc => rcases hrunning with hidle | hjoining <;> simp_all
    | _ => exact h.other rfl rfl hcontext

/-! ### From loop top to loop top -/

theorem Halted.step (h : Halted s) {label : Label} (hstep : s.step label = some s') :
    Halted s' := by
  rcases step_cases hstep with ⟨a, _, hmove⟩ | ⟨call, _, hmove⟩ | ⟨_, hmove⟩
  · rcases h with h | h <;> cases hmove <;> simp_all
  · cases hmove <;> exact h
  · cases hmove <;> exact h

theorem Halted.exec {labels : List Label} (h : Halted s)
    (hexec : exec BroadcastServer.step s labels = some s') : Halted s' :=
  exec_invariant (fun _ _ _ h hstep => h.step hstep) hexec h

theorem Leaving.exec {fd : Int} {labels : List Label} (hreach : Reachable BroadcastServer.step (opened fd) s)
    (h : Leaving s id) (hexec : exec BroadcastServer.step s labels = some s')
    (hrunning : ¬ Halted s') : Leaving s' id := by
  refine ((exec_invariant (I := fun s => Reachable BroadcastServer.step (opened fd) s ∧
    (Halted s ∨ Leaving s id)) ?_ hexec ⟨hreach, .inr h⟩).2).resolve_left hrunning
  rintro s label s' ⟨hreach, hs⟩ hstep
  refine ⟨hreach.tail hstep, ?_⟩
  rcases hs with hhalted | hleaving
  · exact .inl (hhalted.step hstep)
  · by_cases hexited : s.monitor = .exited
    · exact .inl ((show Halted s from .inl hexited).step hstep)
    · have hcontrol := reachable_control hreach
      have hrunning := hcontrol.running hexited
      obtain ⟨place, hledger⟩ := reachable_ledger hreach
      exact hleaving.step (whereabouts hledger hcontrol hrunning).nodup hstep

/-- Over a run that leaves the monitor running, a client stays exactly when every step is
    quiet. -/
theorem Staying.exec {fd : Int} {labels : List Label} (hreach : Reachable BroadcastServer.step (opened fd) s)
    (h : Staying s id) (hid : id < s.kernel.nextConnection)
    (hexec : exec BroadcastServer.step s labels = some s') (hhalted : ¬ Halted s') :
    (Meets BroadcastServer.step (fun s label => s.quiet id label = true) s labels →
      Staying s' id) ∧
    (¬ Meets BroadcastServer.step (fun s label => s.quiet id label = true) s labels →
      Leaving s' id) := by
  induction labels generalizing s with
  | nil =>
    cases hexec
    exact ⟨fun _ => h, fun hnot => absurd trivial hnot⟩
  | cons label labels ih =>
    obtain ⟨m, hm, hrest⟩ := exec_cons_eq_some.mp hexec
    have hcontrol := reachable_control hreach
    have hrunning := hcontrol.running fun hexited =>
      hhalted ((show Halted s from .inl hexited).exec hexec)
    obtain ⟨hregistry, _⟩ := reachable_registry hreach hrunning
    obtain ⟨place, hledger⟩ := reachable_ledger hreach
    have hplace := whereabouts hledger hcontrol hrunning
    have hnext := h.step hregistry (reachable_referenced hreach) hplace hrunning hid hm
    have hnext := hnext.resolve_left fun hm => hhalted (hm.exec hrest)
    have hid' := Nat.lt_of_lt_of_le hid (nextConnection_le_step hm)
    cases hquiet : s.quiet id label with
    | true =>
      rw [if_pos hquiet] at hnext
      obtain ⟨hstays, hleaves⟩ := ih (hreach.tail hm) hnext hid' hrest
      refine ⟨fun hmeets => hstays (hmeets.2 m hm), fun hnot => hleaves fun hmeets => hnot ?_⟩
      refine ⟨hquiet, fun m' hm' => ?_⟩
      cases hm.symm.trans hm'
      exact hmeets
    | false =>
      rw [if_neg (by simp [hquiet])] at hnext
      refine ⟨fun hmeets => ?_, fun _ => hnext.exec (hreach.tail hm) hrest hhalted⟩
      rw [hmeets.1] at hquiet
      cases hquiet

/-- In some step of the run a poll reports a hangup of client `id`, or a `dropAll` begins. -/
def Detached (s : BroadcastServer) (labels : List Label) (id : Nat) : Prop :=
  ¬ Meets step (fun s label => s.quiet id label = true) s labels

instance (labels : List Label) : Decidable (Detached s labels id) :=
  inferInstanceAs (Decidable (¬ _))

theorem Leaving.not_mem (h : Leaving s id) (htop : s.monitor = .top) : id ∉ s.activeClients := by
  simpa [htop, MonitorPc.erasing?, MonitorPc.batch] using h.leaving

/-- **End of stream.**  From one loop top to another, an active client is taken off the list
    exactly when in between a poll reports POLLERR, POLLHUP or POLLNVAL for it or a `dropAll`
    begins; and if no connection is accepted and the server is not closed in between,
    `awaitClose` then succeeds exactly when this is so for every active client. -/
theorem removed_iff_detached {fd : Int} {start next : BroadcastServer} {labels : List Label}
    (hreach : Reachable step (opened fd) start) (htop : start.monitor = .top)
    (hexec : exec step start labels = some next) (hnext : next.monitor = .top) :
    (∀ id ∈ start.activeClients, id ∉ next.activeClients ↔ Detached start labels id) ∧
    (next.isMonitoring = true → next.kernel.nextConnection = start.kernel.nextConnection →
      ((awaitClose next).code = .success ↔
        ∀ id ∈ start.activeClients, Detached start labels id)) := by
  have hhalted : ¬ Halted next := by simp [Halted, hnext]
  have hknown : ∀ {s}, Reachable step (opened fd) s → s.monitor = .top →
      ∀ id ∈ s.activeClients, id < s.kernel.nextConnection := by
    intro s hreach htop id hid
    have hcontrol := reachable_control hreach
    obtain ⟨place, hledger⟩ := reachable_ledger hreach
    have hplace := whereabouts hledger hcontrol (hcontrol.running (by simp [htop]))
    by_contra hge
    have habsent := hledger.placed.absent id (Nat.le_of_not_lt hge)
    rw [(hplace.active id).mp hid] at habsent
    cases habsent
  have hremoved : ∀ id ∈ start.activeClients,
      id ∉ next.activeClients ↔ Detached start labels id := by
    intro id hid
    have hstaying : Staying start id :=
      ⟨hid, by simp [htop], by simp [htop, MonitorPc.erasing?], by simp [htop, MonitorPc.batch]⟩
    obtain ⟨hstays, hleaves⟩ := hstaying.exec hreach (hknown hreach htop id hid) hexec hhalted
    constructor
    · intro hgone hmeets
      exact hgone (hstays hmeets).active
    · intro hdetached
      exact (hleaves hdetached).not_mem hnext
  refine ⟨hremoved, fun hmonitoring haccepted => ?_⟩
  have hold : ∀ id ∈ next.activeClients, id ∈ start.activeClients := by
    intro id hid
    by_contra hnot
    have hlt := haccepted ▸ hknown (hreach.exec hexec) hnext id hid
    have hleaving : Leaving start id :=
      ⟨hlt, by simp [htop, MonitorPc.duty], .inl hnot⟩
    exact (hleaving.exec hreach hexec hhalted).not_mem hnext hid
  have hsuccess : (awaitClose next).code = .success ↔ next.activeClients = [] := by
    cases hactive : next.activeClients <;> simp [awaitClose, hmonitoring, hactive]
  rw [hsuccess]
  constructor
  · intro hempty id hid
    exact (hremoved id hid).mp (by simp [hempty])
  · intro hall
    refine List.eq_nil_iff_forall_not_mem.mpr fun id hid => ?_
    exact (hremoved id (hold id hid)).mpr (hall id (hold id hid)) hid

/-- A client is accepted, and one round of the monitor reports `revents` for it. -/
def reportRound (steps : Nat) (revents : Revents) : List Label :=
  monitorRound steps { poll := .ready [{}, revents] }

theorem reset_detaches :
    ∃ start next, Reachable step (opened 3) start ∧ start.activeClients = [0] ∧
      exec step start (reportRound 11 { pollhup := true }) = some next ∧
      0 ∉ next.activeClients ∧ (awaitClose next).code = .success := by
  let start := (exec step (opened 3) (acceptRound 4 [])).getD (opened 3)
  let next := (exec step start (reportRound 11 { pollhup := true })).getD (opened 3)
  have hreach : Reachable step (opened 3) start := ⟨acceptRound 4 [], rfl⟩
  have hexec : exec step start (reportRound 11 { pollhup := true }) = some next := rfl
  have htop : start.monitor = .top ∧ next.monitor = .top := by decide +kernel
  have hmonitoring : next.isMonitoring = true := by decide +kernel
  have haccepted : next.kernel.nextConnection = start.kernel.nextConnection := by decide +kernel
  have hactive : start.activeClients = [0] := by decide +kernel
  have hdetached : Detached start (reportRound 11 { pollhup := true }) 0 := by decide +kernel
  have hround := removed_iff_detached hreach htop.1 hexec htop.2
  refine ⟨start, next, hreach, hactive, hexec, ?_, ?_⟩
  · exact (hround.1 0 (by simp [hactive])).mpr hdetached
  · refine (hround.2 hmonitoring haccepted).mpr fun id hid => ?_
    rw [hactive, List.mem_singleton] at hid
    rw [hid]
    exact hdetached

/-- A plain FIN is reported as POLLIN: the client stays, and `awaitClose` times out. -/
theorem fin_keeps_client :
    ∃ start next, Reachable step (opened 3) start ∧ start.monitor = .top ∧
      start.activeClients = [0] ∧ exec step start (reportRound 6 { pollin := true }) = some next ∧
      next.monitor = .top ∧ next.isMonitoring = true ∧
      next.kernel.nextConnection = start.kernel.nextConnection ∧
      next.activeClients = [0] ∧ (awaitClose next).code = .socketTimeout := by
  let start := (exec step (opened 3) (acceptRound 4 [])).getD (opened 3)
  have hreach : Reachable step (opened 3) start := ⟨acceptRound 4 [], rfl⟩
  have hexec : exec step start (reportRound 6 { pollin := true }) =
      some ((exec step start (reportRound 6 { pollin := true })).getD (opened 3)) := rfl
  exact ⟨start, _, hreach, rfl, rfl, hexec, by decide +kernel, by decide +kernel,
    by decide +kernel, by decide +kernel, by decide +kernel⟩

end BroadcastServer

end SecuritySocket
