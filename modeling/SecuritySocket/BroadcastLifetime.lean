import SecuritySocket.BroadcastAgreement
import SecuritySocket.BroadcastSystem

/-!
# Pointers and owners

The monitor keeps raw pointers to clients over a whole iteration, from the copy of the
contexts to the last context it dispatches, while other parties take clients off the list.
A client the monitor may still look at is active, or waits in `_pending_destruction`, which
only the monitor itself clears, or is in the vector of a `dropAll` call that is about to
hand it over.
-/

namespace SecuritySocket

/-- The contexts the monitor has yet to look at through pointers it copied. -/
def MonitorPc.references : MonitorPc → List ContextPtr
  | .polling contexts _ => contexts
  | .dispatching batch | .registering _ batch | .pushing _ batch | .announcing _ batch
  | .closing _ _ batch | .telling _ batch => batch
  | .erasing id batch => .peer id :: batch
  | .top | .clearing | .waiting | .exited | .faulted => []

/-- The client a local `shared_ptr` of the monitor owns: `client` until it is moved to the
    list, `erased` after it was taken off. -/
def MonitorPc.owns? : MonitorPc → Option Nat
  | .registering id _ | .pushing id _ | .closing id _ _ | .telling id _ => some id
  | _ => none

def DropPc.dropped : DropPc → List Nat
  | .removing dropped _ | .closing _ dropped _ | .telling _ dropped _ => dropped
  | .idle | .returned => []

def WritePc.snapshot : WritePc → List Nat
  | .waiting snapshot _ _ _ | .loading snapshot _ _ _ | .sending snapshot _ _ _ _ => snapshot
  | .idle | .returned _ => []

namespace BroadcastServer

open Transition SocketMultiEventListener

variable {s s' : BroadcastServer} {place : Nat → Custody.Place}

/-! ### What the monitor refers to -/

/-- The client is on one of the two lists, or a `dropAll` call holding the lock has it. -/
def Kept (s : BroadcastServer) (id : Nat) : Prop :=
  id ∈ s.activeClients ∨ id ∈ s.pendingDestruction ∨ ∃ call, id ∈ (s.drops call).taken

structure Referenced (s : BroadcastServer) : Prop where
  nodup : s.monitor.references.Nodup
  kept : ∀ id, .peer id ∈ s.monitor.references → Kept s id
  known : ∀ id, .peer id ∈ s.monitor.references → id < s.kernel.nextConnection
  snapshot : ∀ contexts handle, s.monitor = .polling contexts handle →
    (handle.map (·.fd)).Sublist (contexts.map s.fdOf) ∧ (contexts.map s.fdOf).Nodup

theorem referenced_opened (fd : Int) : Referenced (opened fd) := by
  constructor <;> simp [opened, MonitorPc.references]

theorem Referenced.monitor (h : Referenced s)
    (hsub : s'.monitor.references.Sublist s.monitor.references)
    (hkept : ∀ id, .peer id ∈ s'.monitor.references → Kept s id → Kept s' id)
    (hnext : s.kernel.nextConnection ≤ s'.kernel.nextConnection)
    (hpc : ∀ contexts handle, s'.monitor ≠ .polling contexts handle) : Referenced s' where
  nodup := h.nodup.sublist hsub
  kept id hid := hkept id hid (h.kept id (hsub.subset hid))
  known id hid := Nat.lt_of_lt_of_le (h.known id (hsub.subset hid)) hnext
  snapshot contexts handle heq := absurd heq (hpc contexts handle)

theorem Referenced.copied (hregistry : Registry s) (hcovered : Covered s)
    (hledger : Custody.Ledger s.custody place) (hplace : Whereabouts s place)
    (hrunning : Running s) (hpc : s.monitor = .waiting) :
    Referenced { s with monitor := .polling s.listener.contexts s.listener.handle } where
  nodup := hregistry.nodup
  kept id hid := by
    rcases hregistry.registered id hid with hactive | hpushing | ⟨call, htodo⟩
    · exact .inl hactive
    · simp [hpc, MonitorPc.pushing?] at hpushing
    · exact .inr (.inr ⟨call, hregistry.todo call id htodo⟩)
  known id hid := by
    by_contra hge
    have hopen := hregistry.openly hplace hid
    have habsent : place id = .absent := hledger.placed.absent id (Nat.le_of_not_lt hge)
    simp [Openly, habsent, Custody.Place.isOpen] at hopen
  snapshot contexts handle heq := by
    cases heq
    exact ⟨hcovered, hregistry.nodup_contextFds hledger hplace hrunning⟩

theorem Referenced.reported (h : Referenced s) {contexts : List ContextPtr}
    {handle : List PollFd} {revents : List Revents} {reported : List (Reported ContextPtr)}
    {serverContext : SocketEventContext} {clients : Nat → BroadcastClient}
    (hpc : s.monitor = .polling contexts handle)
    (hcollect : collect s.fdOf contexts (handle.zip revents) = some reported) :
    Referenced { s with
      serverContext := serverContext
      clients := clients
      monitor := .dispatching (reported.map (·.context)) } := by
  obtain ⟨hsub, hnodup⟩ := h.snapshot contexts handle hpc
  obtain ⟨_, hmem⟩ := collect_reports hcollect
  have hcontext : ∀ id, .peer id ∈ reported.map (·.context) →
      .peer id ∈ s.monitor.references := by
    intro id hid
    obtain ⟨e, he, heq⟩ := List.mem_map.mp hid
    rw [hpc, ← heq]
    exact (hmem e he).1
  exact ⟨nodup_collected (hnodup.sublist hsub) hcollect, fun id hid => h.kept id (hcontext id hid),
    fun id hid => h.known id (hcontext id hid), by simp⟩

theorem Referenced.monitorMove (h : Referenced s) {a : MonitorAnswer}
    (hwaiting : s.monitor = .waiting →
      Referenced { s with monitor := .polling s.listener.contexts s.listener.handle })
    (hmove : MonitorMove s a s') : Referenced s' := by
  cases hmove with
  | tested hpc =>
    refine h.monitor ?_ (fun _ _ hk => hk) (Nat.le_refl _) ?_ <;> dsimp only <;> split <;>
      simp [MonitorPc.references]
  | cleared hpc hfree =>
    exact h.monitor (List.nil_sublist _) (fun id hid => by simp [MonitorPc.references] at hid)
      (Nat.le_refl _) (by simp)
  | copied hpc => exact hwaiting hpc
  | timedOut hpc | failed hpc | unmatched hpc | batchDone hpc | miscast hpc =>
    exact h.monitor (List.nil_sublist _) (fun _ _ hk => hk) (Nat.le_refl _) (by simp)
  | reported hpc hret hcollect hretyped hstore => exact h.reported hpc hcollect
  | refused hpc | accepted hpc =>
    refine h.monitor ?_ (fun _ _ hk => hk) (Kernel.nextConnection_le_accept _ _) (by simp)
    rw [hpc]
    exact List.sublist_cons_self _ _
  | unregistered hpc | registered hpc | announced hpc | loaded hpc | closed hpc | stored hpc
  | told hpc =>
    refine h.monitor ?_ (fun _ _ hk => hk) (Nat.le_refl _) (by simp)
    rw [hpc]
    exact List.Sublist.refl _
  | skipped hpc | stale hpc =>
    refine h.monitor ?_ (fun _ _ hk => hk) (Nat.le_refl _) (by simp)
    rw [hpc]
    exact List.sublist_cons_self _ _
  | pushed hpc hfree =>
    refine h.monitor ?_ (fun id _ hk => hk.imp_left (List.mem_append_left _)) (Nat.le_refl _)
      (by simp)
    rw [hpc]
    exact List.Sublist.refl _
  | @erased id batch hpc hfree hactive =>
    have hnodup := h.nodup
    rw [hpc] at hnodup
    have hnew : .peer id ∉ batch := (List.nodup_cons.mp hnodup).1
    refine h.monitor ?_ (fun id' hid' hk => ?_) (Nat.le_refl _) (by simp)
    · rw [hpc]
      exact List.sublist_cons_self _ _
    · refine hk.imp_left fun hold => (List.mem_erase_of_ne ?_).mpr hold
      rintro rfl
      exact hnew hid'

theorem Referenced.other (h : Referenced s) (hmonitor : s'.monitor = s.monitor)
    (hkept : ∀ id, .peer id ∈ s.monitor.references → Kept s id → Kept s' id)
    (hnext : s'.kernel.nextConnection = s.kernel.nextConnection)
    (hfd : ∀ p, s'.fdOf p = s.fdOf p) : Referenced s' where
  nodup := hmonitor ▸ h.nodup
  kept id hid := hkept id (hmonitor ▸ hid) (h.kept id (hmonitor ▸ hid))
  known id hid := hnext ▸ h.known id (hmonitor ▸ hid)
  snapshot contexts handle heq := by
    rw [funext hfd]
    exact h.snapshot contexts handle (hmonitor ▸ heq)

theorem Referenced.dropMove (h : Referenced s) {call : Nat} (hmove : DropMove s call s') :
    Referenced s' := by
  have hfd := hmove.fdOf
  -- a call that does not hold the lock has nothing in its hands
  have hother : ∀ {pc : DropPc}, (s.drops call).taken = [] → ∀ id,
      (∃ c, id ∈ (s.drops c).taken) → ∃ c, id ∈ (Function.update s.drops call pc c).taken := by
    rintro pc hnil id ⟨c, hc⟩
    refine ⟨c, ?_⟩
    rw [Function.update_of_ne]
    · exact hc
    · rintro rfl
      simp [hnil] at hc
  cases hmove with
  | started hpc hfree =>
    refine h.other rfl (fun id _ hk => ?_) rfl hfd
    rcases hk with hactive | hpending | htaken
    · exact .inr (.inr ⟨call, by simpa [DropPc.taken] using hactive⟩)
    · exact .inr (.inl hpending)
    · exact .inr (.inr (hother (by rw [hpc]; rfl) id htaken))
  | @unregistered id dropped todo hpc =>
    refine h.other rfl (fun id' _ hk => hk.imp_right fun hk => hk.imp_right ?_) rfl hfd
    rintro ⟨c, hc⟩
    refine ⟨c, ?_⟩
    by_cases hcall : c = call
    · subst hcall
      simpa [hpc, DropPc.taken] using hc
    · simpa [hcall] using hc
  | @handedOver dropped hpc =>
    refine h.other rfl (fun id _ hk => hk.imp_right fun hk => ?_) rfl hfd
    rcases hk with hpending | ⟨c, hc⟩
    · exact .inl (List.mem_append_left _ hpending)
    · by_cases hcall : c = call
      · subst hcall
        refine .inl (List.mem_append_right _ ?_)
        simpa [hpc, DropPc.taken] using hc
      · exact .inr ⟨c, by simpa [hcall] using hc⟩
  | loaded hpc | closed hpc | stored hpc | told hpc | returned hpc =>
    exact h.other rfl (fun id _ hk => hk.imp_right fun hk =>
      hk.imp_right (hother (by rw [hpc]; rfl) id)) rfl hfd

theorem Referenced.closeMove (h : Referenced s) (hcontrol : Control s) (hmove : CloseMove s s') :
    Referenced s' := by
  have hfd := hmove.fdOf
  cases hmove with
  | @drained stage hpc =>
    have hexited := hcontrol.joined (by simp [hpc]) (by simp [hpc])
    refine h.other rfl (fun id hid _ => ?_) rfl hfd
    simp [hexited, MonitorPc.references] at hid
  | _ => exact h.other rfl (fun _ _ hk => hk) rfl hfd

/-- In every reachable state the pointers of the monitor point to clients that are kept. -/
theorem reachable_referenced {fd : Int} (h : Reachable step (opened fd) s) : Referenced s := by
  refine (h.invariant (I := fun s => Reachable step (opened fd) s ∧ Referenced s)
    ⟨.refl _, referenced_opened fd⟩ ?_).2
  rintro s label s' ⟨hreach, hs⟩ hstep
  refine ⟨hreach.tail hstep, ?_⟩
  have hcontrol := reachable_control hreach
  rcases step_cases hstep with ⟨a, _, hmove⟩ | ⟨call, _, hmove⟩ | ⟨_, hmove⟩
  · refine hs.monitorMove (fun hpc => ?_) hmove
    have hrunning := hcontrol.running (by simp [hpc])
    obtain ⟨hregistry, hcovered⟩ := reachable_registry hreach hrunning
    obtain ⟨place, hledger⟩ := reachable_ledger hreach
    exact .copied hregistry hcovered hledger (whereabouts hledger hcontrol hrunning) hrunning hpc
  · exact hs.dropMove hmove
  · exact hs.closeMove hcontrol hmove

/-! ### Owners -/

/-- A `shared_ptr` of the server's lists or of a local of the monitor or a `dropAll` call
    owns the client. -/
def Owned (s : BroadcastServer) (id : Nat) : Prop :=
  id ∈ s.activeClients ∨ id ∈ s.pendingDestruction ∨
    (∃ call, id ∈ (s.drops call).dropped) ∨ s.monitor.owns? = some id

theorem Kept.owned {id : Nat} (h : Kept s id) : Owned s id := by
  rcases h with hactive | hpending | ⟨call, htaken⟩
  · exact .inl hactive
  · exact .inr (.inl hpending)
  · refine .inr (.inr (.inl ⟨call, ?_⟩))
    cases hdrop : s.drops call <;> simp_all [DropPc.taken, DropPc.dropped]

theorem Owned.back {id : Nat} (h : Owned s' id)
    (hactive : id ∈ s'.activeClients → Owned s id)
    (hpending : id ∈ s'.pendingDestruction → Owned s id)
    (hdropped : ∀ call, id ∈ (s'.drops call).dropped → Owned s id)
    (howns : s'.monitor.owns? = some id → Owned s id) : Owned s id := by
  rcases h with h | h | ⟨call, h⟩ | h
  · exact hactive h
  · exact hpending h
  · exact hdropped call h
  · exact howns h

theorem Owned.of_monitorMove {a : MonitorAnswer} (hmove : MonitorMove s a s') {id : Nat}
    (h : Owned s' id) :
    Owned s id ∨ id = s.kernel.nextConnection ∧ id < s'.kernel.nextConnection := by
  have hdropped : ∀ call, id ∈ (s.drops call).dropped → Owned s id := fun call hid =>
    .inr (.inr (.inl ⟨call, hid⟩))
  have howned : s.monitor.owns? = some id → Owned s id := fun h => .inr (.inr (.inr h))
  cases hmove with
  | accepted hpc htype hfits hdescriptor =>
    by_cases hnew : id = s.kernel.nextConnection
    · refine .inr ⟨hnew, ?_⟩
      rw [hnew, Kernel.accept, if_pos (Int.le_of_lt hdescriptor)]
      exact Nat.lt_succ_self _
    · refine .inl (h.back .inl (fun h => .inr (.inl h)) hdropped fun h => ?_)
      exact absurd (Option.some.inj h).symm hnew
  | tested hpc =>
    refine .inl (h.back .inl (fun h => .inr (.inl h)) hdropped fun h => ?_)
    dsimp only at h
    split at h <;> cases h
  | cleared hpc hfree =>
    exact .inl (h.back .inl (fun h => absurd h List.not_mem_nil) hdropped fun h => by cases h)
  | pushed hpc hfree =>
    refine .inl (h.back (fun h => ?_) (fun h => .inr (.inl h)) hdropped fun h => by cases h)
    rcases List.mem_append.mp h with h | h
    · exact .inl h
    · rw [List.mem_singleton.mp h] at howned ⊢
      exact howned (by rw [hpc]; rfl)
  | erased hpc hfree hactive =>
    refine .inl (h.back (fun h => .inl (List.mem_of_mem_erase h)) (fun h => .inr (.inl h))
      hdropped fun h => ?_)
    cases h
    exact .inl hactive
  | registered hpc | loaded hpc | closed hpc | stored hpc =>
    exact .inl (h.back .inl (fun h => .inr (.inl h)) hdropped fun h => howned (by rw [hpc]; exact h))
  | _ => exact .inl (h.back .inl (fun h => .inr (.inl h)) hdropped fun h => by cases h)

theorem Owned.of_dropMove {call : Nat} (hmove : DropMove s call s') {id : Nat} (h : Owned s' id) :
    Owned s id := by
  have howned : s.monitor.owns? = some id → Owned s id := fun h => .inr (.inr (.inr h))
  -- the vector of the call that moves holds clients that had an owner
  have hdropped : ∀ {pc : DropPc}, (id ∈ pc.dropped → Owned s id) → ∀ c,
      id ∈ (Function.update s.drops call pc c).dropped → Owned s id := by
    intro pc hpc c hid
    by_cases hcall : c = call
    · subst hcall
      exact hpc (by simpa using hid)
    · exact .inr (.inr (.inl ⟨c, by simpa [hcall] using hid⟩))
  have hcall : id ∈ (s.drops call).dropped → Owned s id := fun h => .inr (.inr (.inl ⟨call, h⟩))
  cases hmove with
  | started hpc hfree =>
    exact h.back nofun (fun h => .inr (.inl h)) (hdropped .inl) howned
  | handedOver hpc =>
    rw [hpc] at hcall
    refine h.back .inl (fun h => ?_) (hdropped hcall) howned
    rcases List.mem_append.mp h with h | h
    · exact .inr (.inl h)
    · exact hcall h
  | unregistered hpc | loaded hpc | closed hpc | stored hpc | told hpc =>
    rw [hpc] at hcall
    exact h.back .inl (fun h => .inr (.inl h)) (hdropped hcall) howned
  | returned hpc =>
    exact h.back .inl (fun h => .inr (.inl h)) (hdropped nofun) howned

theorem Owned.of_closeMove (hmove : CloseMove s s') {id : Nat} (h : Owned s' id) : Owned s id := by
  cases hmove with
  | drained hpc => exact .inr (.inr ((h.resolve_left nofun).resolve_left nofun))
  | _ => exact h

/-- No step gives an owner to a client that has none, save to the one it creates. -/
theorem Owned.of_step {label : Label} (hstep : s.step label = some s') {id : Nat}
    (h : Owned s' id) :
    Owned s id ∨ id = s.kernel.nextConnection ∧ id < s'.kernel.nextConnection := by
  rcases step_cases hstep with ⟨a, _, hmove⟩ | ⟨call, _, hmove⟩ | ⟨_, hmove⟩
  · exact h.of_monitorMove hmove
  · exact .inl (h.of_dropMove hmove)
  · exact .inl (h.of_closeMove hmove)

theorem nextConnection_le_step {label : Label} (hstep : s.step label = some s') :
    s.kernel.nextConnection ≤ s'.kernel.nextConnection := by
  rcases step_cases hstep with ⟨a, _, hmove⟩ | ⟨call, _, hmove⟩ | ⟨_, hmove⟩
  · cases hmove with
    | refused | accepted => exact Kernel.nextConnection_le_accept _ _
    | _ => exact Nat.le_refl _
  · cases hmove <;> exact Nat.le_refl _
  · cases hmove <;> exact Nat.le_refl _

end BroadcastServer

namespace BroadcastSystem

open Transition BroadcastServer

variable {calls : WriteCalls} {s s' : BroadcastSystem}

/-- A `shared_ptr` of the server's side or of the snapshot of a `write` call owns the client. -/
def Owned (s : BroadcastSystem) (id : Nat) : Prop :=
  s.server.Owned id ∨ ∃ call, id ∈ (s.writes call).snapshot

theorem Owned.of_writeMove {call : Nat} {a : WriteAnswer} (hmove : WriteMove calls s call a s')
    {id : Nat} (h : Owned s' id) : Owned s id := by
  have hserver := hmove.server
  rcases h with h | ⟨c, h⟩
  · exact .inl (hserver ▸ h)
  · by_cases hcall : c = call
    · subst hcall
      cases hmove with
      | nobody hpc hfree hsnapshot => simp [setWrite, WritePc.snapshot] at h
      | started hpc hfree hsnapshot =>
        refine .inl (.inl ?_)
        rw [hsnapshot]
        simpa [setWrite, WritePc.snapshot] using h
      | @finished snapshot todo _ loop hpc hover =>
        refine .inr ⟨c, ?_⟩
        cases todo <;> simp_all [setWrite, WritePc.next, WritePc.snapshot]
      | stayed hpc | ready hpc | loaded hpc | sent hpc =>
        exact .inr ⟨c, by simpa [setWrite, WritePc.snapshot, hpc] using h⟩
    · refine .inr ⟨c, ?_⟩
      cases hmove <;> simpa [setWrite, hcall] using h

theorem Owned.of_step {label : Label} (hstep : step calls s label = some s') {id : Nat}
    (h : Owned s' id) :
    Owned s id ∨ id = s.server.kernel.nextConnection ∧ id < s'.server.kernel.nextConnection := by
  rcases step_cases hstep with ⟨l, server, _, hserver, rfl⟩ | ⟨call, a, _, hmove⟩
  · rcases h with h | h
    · exact (h.of_step hserver).imp_left .inl
    · exact .inl (.inr h)
  · exact .inl (h.of_writeMove hmove)

theorem nextConnection_le_step {label : Label} (hstep : step calls s label = some s') :
    s.server.kernel.nextConnection ≤ s'.server.kernel.nextConnection := by
  rcases step_cases hstep with ⟨l, server, _, hserver, rfl⟩ | ⟨call, a, _, hmove⟩
  · exact BroadcastServer.nextConnection_le_step hserver
  · exact Nat.le_of_eq (by rw [hmove.server])

theorem Owned.lt_next {fd : Int} (h : Reachable (step calls) (opened fd) s) {id : Nat}
    (howned : Owned s id) : id < s.server.kernel.nextConnection := by
  refine h.invariant (I := fun s => ∀ id, Owned s id → id < s.server.kernel.nextConnection)
    ?_ ?_ id howned
  · rintro id (howned | ⟨call, hid⟩)
    · simp [opened, BroadcastServer.opened, BroadcastServer.Owned, DropPc.dropped,
        MonitorPc.owns?] at howned
    · simp [opened, WritePc.snapshot] at hid
  · intro s label s' hs hstep id howned
    rcases howned.of_step hstep with hold | ⟨_, hlt⟩
    · exact Nat.lt_of_lt_of_le (hs id hold) (nextConnection_le_step hstep)
    · exact hlt

/-- A client that has lost its last owner never has one again. -/
theorem not_owned_of_reachable {m : BroadcastSystem} {id : Nat}
    (hlt : id < m.server.kernel.nextConnection) (hnot : ¬ Owned m id)
    (h : Reachable (step calls) m s) : ¬ Owned s id := by
  refine (h.invariant (I := fun s => id < s.server.kernel.nextConnection ∧ ¬ Owned s id)
    ⟨hlt, hnot⟩ ?_).2
  rintro s label s' ⟨hlt, hnot⟩ hstep
  refine ⟨Nat.lt_of_lt_of_le hlt (nextConnection_le_step hstep), fun howned => ?_⟩
  rcases howned.of_step hstep with hold | ⟨heq, _⟩
  · exact hnot hold
  · omega

theorem owned_of_references {fd : Int} (h : Reachable (step calls) (opened fd) s) {id : Nat}
    (hid : .peer id ∈ s.server.monitor.references) : Owned s id :=
  .inl ((BroadcastServer.reachable_referenced (reachable_server h)).kept id hid).owned

/-- **Client lifetime.**  Every client in the contexts of a `wait` in flight, or still to be
    dispatched from its result, has an owner; and a client that loses its last owner when
    the monitor clears `_pending_destruction` is never again referred to by the monitor. -/
theorem clients_outlive_pointers {fd : Int} (h : Reachable (step calls) (opened fd) s) :
    (∀ id, .peer id ∈ s.server.monitor.references → Owned s id) ∧
    ∀ answer cleared, s.server.monitor = .clearing →
      step calls s (.server (.monitor answer)) = some cleared →
      ∀ id, Owned s id → ¬ Owned cleared id →
        ∀ t, Reachable (step calls) cleared t → .peer id ∉ t.server.monitor.references := by
  refine ⟨fun id hid => owned_of_references h hid, ?_⟩
  intro answer cleared _ hstep id howned hreleased t ht hid
  have hcleared := h.tail hstep
  have hlt := Nat.lt_of_lt_of_le (howned.lt_next h) (nextConnection_le_step hstep)
  obtain ⟨labels, hexec⟩ := ht
  exact not_owned_of_reachable hlt hreleased ⟨labels, hexec⟩
    (owned_of_references (hcleared.exec hexec) hid)

/-- A client is dropped while the monitor polls it, and reported afterwards. -/
def dropWhilePolled : List BroadcastServer.Label :=
  acceptRound 4 [] ++ monitorRound 3 {} ++ List.replicate 8 (.dropAll 0) ++
    monitorRound 1 { poll := .ready [{}, { pollhup := true }] }

/-- `_pending_destruction` owns the client when it is dispatched, and releases it when the
    monitor is done with it. -/
theorem dropWhilePolled_outlives :
    let step := step { maxRetries := 1, size := fun _ => 1, size_lt := fun _ => by decide }
    ∃ dispatching clearing cleared : BroadcastSystem,
      Reachable step (opened 3) dispatching ∧ Reachable step dispatching clearing ∧
      dispatching.server.monitor = .dispatching [.peer 0] ∧ Owned dispatching 0 ∧
      step clearing (.server (.monitor {})) = some cleared ∧ Owned clearing 0 ∧
      ¬ Owned cleared 0 ∧
      ∀ t, Reachable step cleared t → .peer 0 ∉ t.server.monitor.references := by
  intro step
  let after (labels : List BroadcastServer.Label) : BroadcastServer :=
    (exec BroadcastServer.step (.opened 3) labels).getD (.opened 3)
  have hdispatching : Reachable step (opened 3) { opened 3 with server := after dropWhilePolled } :=
    ⟨dropWhilePolled.map .server, exec_server rfl⟩
  have hclearing : exec step { opened 3 with server := after dropWhilePolled }
      ((monitorRound 4 {}).map .server) =
      some { opened 3 with server := after (dropWhilePolled ++ monitorRound 4 {}) } :=
    exec_server rfl
  have hcleared : exec BroadcastServer.step (.opened 3) (dropWhilePolled ++ monitorRound 5 {}) =
      some (after (dropWhilePolled ++ monitorRound 5 {})) := rfl
  have hnone := noDropAll_of_exec 0 hcleared
    (by simp +contextual [dropWhilePolled, acceptRound, monitorRound]) rfl
  have hpending : Owned { opened 3 with server := after (dropWhilePolled ++ monitorRound 4 {}) } 0 :=
    .inl (.inr (.inl (by decide)))
  have hreleased :
      ¬ Owned { opened 3 with server := after (dropWhilePolled ++ monitorRound 5 {}) } 0 := by
    rintro ((hactive | hpending | ⟨call, hdropped⟩ | howns) | ⟨call, hsnapshot⟩)
    · exact absurd hactive (by decide)
    · exact absurd hpending (by decide)
    · rcases hnone call with hidle | hreturned
      · simp [hidle, DropPc.dropped] at hdropped
      · simp [hreturned, DropPc.dropped] at hdropped
    · exact absurd howns (by decide)
    · simp [opened, WritePc.snapshot] at hsnapshot
  exact ⟨_, _, _, hdispatching, ⟨_, hclearing⟩, rfl,
    (clients_outlive_pointers hdispatching).1 0 (by decide), rfl, hpending, hreleased,
    (clients_outlive_pointers (hdispatching.exec hclearing)).2 {} _ rfl rfl 0 hpending hreleased⟩

end BroadcastSystem

end SecuritySocket
