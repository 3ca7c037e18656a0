import SecuritySocket.BroadcastRegistry

/-!
# The listener and the active list

At the top of the monitor's loop, with no `dropAll` in progress, the listener polls the
accept socket and the active clients and nothing else, provided no stale disconnect has
taken another client's descriptor off it.
-/

namespace SecuritySocket.BroadcastServer

open Transition SocketMultiEventListener

variable {s s' : BroadcastServer}

/-- One context and one `pollfd` for the accept socket and for each active client, in the
    same order, and nothing else. -/
structure Agreed (s : BroadcastServer) : Prop where
  contexts : ∀ p, p ∈ s.listener.contexts ↔ p = .server ∨ ∃ id ∈ s.activeClients, p = .peer id
  nodup : s.listener.contexts.Nodup
  paired : s.listener.fds = s.listener.contextFds s.fdOf
  distinct : s.listener.fds.Nodup

theorem Running.of_step {label : Label} (hstep : s.step label = some s') (h : Running s') :
    Running s := by
  rcases step_cases hstep with ⟨a, _, hmove⟩ | ⟨call, _, hmove⟩ | ⟨_, hmove⟩
  · cases hmove <;> exact h
  · cases hmove <;> exact h
  · cases hmove <;> simp_all [Running]

theorem reachable_registry {fd : Int} (h : Reachable step (opened fd) s) (hrunning : Running s) :
    Registry s ∧ Covered s := by
  refine (h.invariant (I := fun s => Reachable step (opened fd) s ∧
    (Running s → Registry s ∧ Covered s)) ⟨.refl _, fun _ => ?_⟩ ?_).2 hrunning
  · exact ⟨registry_opened fd, List.Sublist.refl _⟩
  rintro s label s' ⟨hreach, hregistry⟩ hstep
  refine ⟨hreach.tail hstep, fun hrunning' => ?_⟩
  have hrunning := hrunning'.of_step hstep
  obtain ⟨hs, hcovered⟩ := hregistry hrunning
  obtain ⟨place, hledger⟩ := reachable_ledger hreach
  have hplace := whereabouts hledger (reachable_control hreach) hrunning
  exact ⟨hs.step hplace hrunning hstep, hcovered.step hs hledger hplace hrunning hstep⟩

/-- **Listener agreement.**  In a run in which the monitor never unregisters a client whose
    descriptor another registered context has, the listener polls exactly the accept socket
    and the active clients whenever the monitor is at the top of its loop and no `dropAll`
    is in progress. -/
theorem agreed_of_unshared {fd : Int} {labels : List Label}
    (hexec : exec step (opened fd) labels = some s)
    (hmeets : Meets step Unshared (opened fd) labels) (htop : s.monitor = .top)
    (hdrops : NoDropAll s) : Agreed s := by
  have hreach : Reachable step (opened fd) s := ⟨labels, hexec⟩
  have hcontrol := reachable_control hreach
  have hrunning := hcontrol.running (by simp [htop])
  have hpaired := (exec_invariant_of_meets (I := fun s => Reachable step (opened fd) s ∧
    (Running s → Paired s)) ?_ hexec hmeets ⟨.refl _, fun _ => rfl⟩).2 hrunning
  · obtain ⟨hregistry, _⟩ := reachable_registry hreach hrunning
    obtain ⟨place, hledger⟩ := reachable_ledger hreach
    have hplace := whereabouts hledger hcontrol hrunning
    have htodo : ∀ id, ¬ Unregistering s.drops id := by
      rintro id ⟨call, hid⟩
      rcases hdrops call with hdrop | hdrop <;> simp [hdrop, DropPc.todo] at hid
    refine ⟨fun p => ⟨fun hp => ?_, ?_⟩, hregistry.nodup, hpaired, ?_⟩
    · cases p with
      | server => exact .inl rfl
      | peer id =>
        rcases hregistry.registered id hp with hactive | hpushing | hunregistering
        · exact .inr ⟨id, hactive, rfl⟩
        · simp [htop, MonitorPc.pushing?] at hpushing
        · exact absurd hunregistering (htodo id)
    · rintro (rfl | ⟨id, hactive, rfl⟩)
      · exact hregistry.server
      · refine (hregistry.active id hactive).resolve_right ?_
        simp [htop, MonitorPc.erasing?]
    · rw [hpaired]
      exact hregistry.nodup_contextFds hledger hplace hrunning
  · rintro s label s' ⟨hreach, hpaired⟩ hunshared hstep
    refine ⟨hreach.tail hstep, fun hrunning' => ?_⟩
    have hrunning := hrunning'.of_step hstep
    obtain ⟨hregistry, _⟩ := reachable_registry hreach hrunning
    obtain ⟨place, hledger⟩ := reachable_ledger hreach
    have hplace := whereabouts hledger (reachable_control hreach) hrunning
    exact (hpaired hrunning).step hregistry hledger hplace hrunning hstep hunshared

/-- A client is dropped, its descriptor goes to the next client, and that one is dropped too. -/
def reuse : List Label :=
  acceptRound 5 [] ++ List.replicate 8 (.dropAll 0) ++ acceptRound 5 [] ++
    monitorRound 11 { poll := .ready [{}, { pollhup := true }] } ++ acceptRound 5 []

theorem reuse_agreed :
    ∃ s, exec step (opened 3) reuse = some s ∧ s.activeClients = [2] ∧ Agreed s := by
  have hrun : exec step (opened 3) reuse =
      some ((exec step (opened 3) reuse).getD (opened 3)) := rfl
  have hdrops := noDropAll_of_exec 0 hrun
    (by simp +contextual [reuse, acceptRound, monitorRound]) rfl
  exact ⟨_, hrun, rfl, agreed_of_unshared hrun (by decide) rfl hdrops⟩

/-- The accept socket and a client are reported together; before the batch is dispatched,
    `dropAll` closes that client, and `accept` then returns its descriptor. -/
def staleDisconnect : List Label :=
  acceptRound 5 [] ++
    monitorRound 4 { poll := .ready [{ pollin := true }, { pollhup := true }] } ++
    List.replicate 8 (.dropAll 0) ++ monitorRound 7 { accept := { descriptor := 5 } }

/-- The new client is active and not polled. -/
theorem staleDisconnect_not_agreed :
    ∃ s, Reachable step (opened 3) s ∧ s.monitor = .top ∧ NoDropAll s ∧ s.activeClients = [1] ∧
      s.listener.fds = [3] ∧ ¬ Agreed s := by
  have hrun : exec step (opened 3) staleDisconnect =
      some ((exec step (opened 3) staleDisconnect).getD (opened 3)) := rfl
  have hdrops := noDropAll_of_exec 0 hrun
    (by simp +contextual [staleDisconnect, acceptRound, monitorRound]) rfl
  refine ⟨_, ⟨staleDisconnect, hrun⟩, rfl, hdrops, rfl, rfl, fun h => ?_⟩
  have hpaired := h.paired
  revert hpaired
  decide

end SecuritySocket.BroadcastServer
