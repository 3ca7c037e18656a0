import SecuritySocket.EventRegistry
import SecuritySocket.SocketBroadcastServer

/-!
# The moves of the broadcast server

`MonitorMove`, `DropMove` and `CloseMove` list what one step of each party does, with the
state it leaves written out.  The invariants of the broadcast server are case analyses over
these three relations.
-/

namespace SecuritySocket.BroadcastServer

open Transition SocketMultiEventListener

variable {s s' : BroadcastServer}

/-- `clients` and `serverContext` differ from those of `s` in stored event types only. -/
structure Retyped (s : BroadcastServer) (serverContext : SocketEventContext)
    (clients : Nat → BroadcastClient) : Prop where
  serverFd : serverContext.fd = s.serverContext.fd
  socket : ∀ id, (clients id).socket = (s.clients id).socket
  fd : ∀ id, (clients id).context.fd = (s.clients id).context.fd

theorem Retyped.refl (s : BroadcastServer) : Retyped s s.serverContext s.clients :=
  ⟨rfl, fun _ => rfl, fun _ => rfl⟩

theorem exists_setType (s : BroadcastServer) (p : ContextPtr) (type : SocketEventType) :
    ∃ serverContext clients, Retyped s serverContext clients ∧
      s.setType p type = { s with serverContext := serverContext, clients := clients } := by
  cases p with
  | server =>
    exact ⟨{ s.serverContext with type := type }, s.clients, ⟨rfl, fun _ => rfl, fun _ => rfl⟩,
      rfl⟩
  | peer id =>
    refine ⟨s.serverContext, _, ⟨rfl, fun id' => ?_, fun id' => ?_⟩, rfl⟩
    · by_cases hid : id' = id
      · subst hid; simp
      · simp [hid]
    · by_cases hid : id' = id
      · subst hid; simp
      · simp [hid]

theorem exists_storeTypes (s : BroadcastServer) (reported : List (Reported ContextPtr)) :
    ∃ serverContext clients, Retyped s serverContext clients ∧
      s.storeTypes reported = { s with serverContext := serverContext, clients := clients } := by
  induction reported generalizing s with
  | nil => exact ⟨_, _, .refl s, rfl⟩
  | cons e rest ih =>
    obtain ⟨serverContext, clients, hretyped, hset⟩ := exists_setType s e.context
      (eventType s.listener.serverSocket e.fd e.revents (s.context e.context).type)
    obtain ⟨serverContext', clients', hretyped', hstore⟩ := ih
      { s with serverContext := serverContext, clients := clients }
    refine ⟨serverContext', clients', ⟨?_, fun id => ?_, fun id => ?_⟩, ?_⟩
    · exact hretyped'.serverFd.trans hretyped.serverFd
    · exact (hretyped'.socket id).trans (hretyped.socket id)
    · exact (hretyped'.fd id).trans (hretyped.fd id)
    · rw [storeTypes]
      simp only [hset]
      exact hstore

def newClient (r : AcceptReturn) : BroadcastClient :=
  { context := { fd := r.descriptor }, socket := ServerActiveSocket.ofAccept r }

/-- Everything a step of the monitor can do. -/
inductive MonitorMove (s : BroadcastServer) (a : MonitorAnswer) : BroadcastServer → Prop where
  | tested (hpc : s.monitor = .top) :
      MonitorMove s a { s with monitor := if s.isMonitoring then .clearing else .exited }
  | cleared (hpc : s.monitor = .clearing) (hfree : s.clientsMtx = none) :
      MonitorMove s a { s with pendingDestruction := [], monitor := .waiting }
  | copied (hpc : s.monitor = .waiting) :
      MonitorMove s a { s with monitor := .polling s.listener.contexts s.listener.handle }
  | timedOut {contexts : List ContextPtr} {handle : List PollFd}
      (hpc : s.monitor = .polling contexts handle) (hret : a.poll = .timeout) :
      MonitorMove s a { s with monitor := .top }
  | failed {contexts : List ContextPtr} {handle : List PollFd}
      (hpc : s.monitor = .polling contexts handle) (hret : a.poll = .error) :
      MonitorMove s a { s with monitor := .exited }
  | unmatched {contexts : List ContextPtr} {handle : List PollFd} {revents : List Revents}
      (hpc : s.monitor = .polling contexts handle) (hret : a.poll = .ready revents)
      (hcollect : collect s.fdOf contexts (handle.zip revents) = none) :
      MonitorMove s a { s with monitor := .faulted }
  | reported {contexts : List ContextPtr} {handle : List PollFd} {revents : List Revents}
      {reported : List (Reported ContextPtr)} {serverContext : SocketEventContext}
      {clients : Nat → BroadcastClient}
      (hpc : s.monitor = .polling contexts handle) (hret : a.poll = .ready revents)
      (hcollect : collect s.fdOf contexts (handle.zip revents) = some reported)
      (hretyped : Retyped s serverContext clients)
      (hstore : s.storeTypes reported =
        { s with serverContext := serverContext, clients := clients }) :
      MonitorMove s a { s with
        serverContext := serverContext
        clients := clients
        monitor := .dispatching (reported.map (·.context)) }
  | batchDone (hpc : s.monitor = .dispatching []) : MonitorMove s a { s with monitor := .top }
  | refused {p : ContextPtr} {batch : List ContextPtr}
      (hpc : s.monitor = .dispatching (p :: batch)) (htype : (s.context p).type = .accept)
      (hfits : a.accept.fits s.kernel) (hdescriptor : ¬ 0 < a.accept.descriptor) :
      MonitorMove s a { s with
        kernel := s.kernel.accept a.accept
        events := s.events ++ BroadcastEvent.ofAccept s.kernel a.accept
        monitor := .dispatching batch }
  | accepted {p : ContextPtr} {batch : List ContextPtr}
      (hpc : s.monitor = .dispatching (p :: batch)) (htype : (s.context p).type = .accept)
      (hfits : a.accept.fits s.kernel) (hdescriptor : 0 < a.accept.descriptor) :
      MonitorMove s a { s with
        kernel := s.kernel.accept a.accept
        events := s.events ++ BroadcastEvent.ofAccept s.kernel a.accept
        clients := Function.update s.clients s.kernel.nextConnection (newClient a.accept)
        monitor := .registering s.kernel.nextConnection batch }
  | miscast {batch : List ContextPtr} (hpc : s.monitor = .dispatching (.server :: batch))
      (htype : (s.context .server).type = .disconnected) :
      MonitorMove s a { s with monitor := .faulted }
  | unregistered {id : Nat} {batch : List ContextPtr}
      (hpc : s.monitor = .dispatching (.peer id :: batch))
      (htype : (s.context (.peer id)).type = .disconnected) :
      MonitorMove s a { s with
        listener := s.listener.removeEvent (.peer id) (s.fdOf (.peer id))
        monitor := .erasing id batch }
  | skipped {p : ContextPtr} {batch : List ContextPtr}
      (hpc : s.monitor = .dispatching (p :: batch))
      (htype : (s.context p).type ≠ .accept ∧ (s.context p).type ≠ .disconnected) :
      MonitorMove s a { s with monitor := .dispatching batch }
  | registered {id : Nat} {batch : List ContextPtr} (hpc : s.monitor = .registering id batch) :
      MonitorMove s a { s with
        listener := s.listener.addEvent (.peer id) (s.fdOf (.peer id)) .read
        monitor := .pushing id batch }
  | pushed {id : Nat} {batch : List ContextPtr} (hpc : s.monitor = .pushing id batch)
      (hfree : s.clientsMtx = none) :
      MonitorMove s a { s with
        activeClients := s.activeClients ++ [id]
        monitor := .announcing id batch }
  | announced {id : Nat} {batch : List ContextPtr} (hpc : s.monitor = .announcing id batch) :
      MonitorMove s a { s with
        events := s.events ++ [.connected id]
        monitor := .dispatching batch }
  | erased {id : Nat} {batch : List ContextPtr} (hpc : s.monitor = .erasing id batch)
      (hfree : s.clientsMtx = none) (hactive : id ∈ s.activeClients) :
      MonitorMove s a { s with
        activeClients := s.activeClients.erase id
        events := s.events ++ [.removed id .monitor]
        monitor := .closing id .load batch }
  | stale {id : Nat} {batch : List ContextPtr} (hpc : s.monitor = .erasing id batch)
      (hfree : s.clientsMtx = none) (hactive : id ∉ s.activeClients) :
      MonitorMove s a { s with monitor := .dispatching batch }
  | loaded {id : Nat} {batch : List ContextPtr} (hpc : s.monitor = .closing id .load batch) :
      MonitorMove s a { s with
        monitor := .closing id (.call (s.clients id).socket.socket) batch }
  | closed {id : Nat} {fd : Int} {batch : List ContextPtr}
      (hpc : s.monitor = .closing id (.call fd) batch) :
      MonitorMove s a { s with
        kernel := s.kernel.close fd
        events := s.events ++ [.closed id .monitor (s.kernel.fdTable fd)]
        monitor := .closing id .store batch }
  | stored {id : Nat} {batch : List ContextPtr} (hpc : s.monitor = .closing id .store batch) :
      MonitorMove s a { s with
        clients := Function.update s.clients id
          { s.clients id with socket := (s.clients id).socket.closed }
        monitor := .telling id batch }
  | told {id : Nat} {batch : List ContextPtr} (hpc : s.monitor = .telling id batch) :
      MonitorMove s a { s with
        events := s.events ++ [.disconnected id .monitor]
        monitor := .dispatching batch }

/-- Everything a step of the `dropAll` call with number `call` can do. -/
inductive DropMove (s : BroadcastServer) (call : Nat) : BroadcastServer → Prop where
  | started (hpc : s.drops call = .idle) (hfree : s.clientsMtx = none) :
      DropMove s call { s with
        activeClients := []
        clientsMtx := some (.dropAll call)
        events := s.events ++ s.activeClients.map fun id => .removed id (.dropAll call)
        drops := Function.update s.drops call (.removing s.activeClients s.activeClients) }
  | unregistered {id : Nat} {dropped todo : List Nat}
      (hpc : s.drops call = .removing dropped (id :: todo)) :
      DropMove s call { s with
        listener := s.listener.removeEvent (.peer id) (s.fdOf (.peer id))
        drops := Function.update s.drops call (.removing dropped todo) }
  | handedOver {dropped : List Nat} (hpc : s.drops call = .removing dropped []) :
      DropMove s call { s with
        pendingDestruction := s.pendingDestruction ++ dropped
        clientsMtx := none
        drops := Function.update s.drops call (.closing .load dropped dropped) }
  | loaded {id : Nat} {dropped todo : List Nat}
      (hpc : s.drops call = .closing .load dropped (id :: todo)) :
      DropMove s call { s with
        drops := Function.update s.drops call
          (.closing (.call (s.clients id).socket.socket) dropped (id :: todo)) }
  | closed {id : Nat} {fd : Int} {dropped todo : List Nat}
      (hpc : s.drops call = .closing (.call fd) dropped (id :: todo)) :
      DropMove s call { s with
        kernel := s.kernel.close fd
        events := s.events ++ [.closed id (.dropAll call) (s.kernel.fdTable fd)]
        drops := Function.update s.drops call (.closing .store dropped (id :: todo)) }
  | stored {id : Nat} {dropped todo : List Nat}
      (hpc : s.drops call = .closing .store dropped (id :: todo)) :
      DropMove s call { s with
        clients := Function.update s.clients id
          { s.clients id with socket := (s.clients id).socket.closed }
        drops := Function.update s.drops call (.telling id dropped todo) }
  | told {id : Nat} {dropped todo : List Nat} (hpc : s.drops call = .telling id dropped todo) :
      DropMove s call { s with
        events := s.events ++ [.disconnected id (.dropAll call)]
        drops := Function.update s.drops call (.closing .load dropped todo) }
  | returned {stage : CloseStage} {dropped : List Nat}
      (hpc : s.drops call = .closing stage dropped []) :
      DropMove s call { s with drops := Function.update s.drops call .returned }

/-- Everything a step of `close` can do. -/
inductive CloseMove (s : BroadcastServer) : BroadcastServer → Prop where
  | stopped (hpc : s.closer = .idle) :
      CloseMove s { s with isMonitoring := false, closer := .joining }
  | joined (hpc : s.closer = .joining) (hexited : s.monitor = .exited) :
      CloseMove s { s with closer := .locking }
  | locked (hpc : s.closer = .locking) (hfree : s.clientsMtx = none) :
      CloseMove s { s with
        clientsMtx := some .close
        closer := .closing .load s.activeClients }
  | loaded {id : Nat} {todo : List Nat} (hpc : s.closer = .closing .load (id :: todo)) :
      CloseMove s { s with
        closer := .closing (.call (s.clients id).socket.socket) (id :: todo) }
  | closed {id : Nat} {fd : Int} {todo : List Nat}
      (hpc : s.closer = .closing (.call fd) (id :: todo)) :
      CloseMove s { s with
        kernel := s.kernel.close fd
        events := s.events ++ [.closed id .close (s.kernel.fdTable fd)]
        closer := .closing .store (id :: todo) }
  | stored {id : Nat} {todo : List Nat} (hpc : s.closer = .closing .store (id :: todo)) :
      CloseMove s { s with
        clients := Function.update s.clients id
          { s.clients id with socket := (s.clients id).socket.closed }
        closer := .closing .load todo }
  | drained {stage : CloseStage} (hpc : s.closer = .closing stage []) :
      CloseMove s { s with
        activeClients := []
        pendingDestruction := []
        clientsMtx := none
        events := s.events ++ s.activeClients.map fun id => .removed id .close
        closer := .finishing }
  | finished (hpc : s.closer = .finishing) :
      CloseMove s { s with kernel := s.kernel.close s.serverContext.fd, closer := .returned }

theorem dispatch_cases {a : MonitorAnswer} {p : ContextPtr} {batch : List ContextPtr}
    (hpc : s.monitor = .dispatching (p :: batch)) (h : s.dispatch a.accept p batch = some s') :
    MonitorMove s a s' := by
  unfold dispatch at h
  cases htype : (s.context p).type with
  | accept =>
    simp only [htype] at h
    split at h
    · rename_i hfits
      cases h
      unfold acceptClient
      dsimp only
      split
      · rename_i hcode
        have hpos := (ServerActiveSocket.ofAccept_result_code _).mp hcode
        simpa [newClient] using MonitorMove.accepted hpc htype hfits hpos
      · rename_i hcode
        rw [ServerActiveSocket.ofAccept_result_code] at hcode
        exact .refused hpc htype hfits hcode
    · cases h
  | disconnected =>
    simp only [htype] at h
    cases p with
    | server => cases h; exact .miscast hpc htype
    | peer id => cases h; exact .unregistered hpc htype
  | undefined => simp only [htype] at h; cases h; exact .skipped hpc (by simp [htype])
  | connect => simp only [htype] at h; cases h; exact .skipped hpc (by simp [htype])
  | read => simp only [htype] at h; cases h; exact .skipped hpc (by simp [htype])
  | write => simp only [htype] at h; cases h; exact .skipped hpc (by simp [htype])
  | readWrite => simp only [htype] at h; cases h; exact .skipped hpc (by simp [htype])

theorem monitorStep_cases {a : MonitorAnswer} (h : s.monitorStep a = some s') :
    MonitorMove s a s' := by
  unfold monitorStep at h
  split at h <;> rename_i hpc
  · cases h; exact .tested hpc
  · split at h <;> cases h; exact .cleared hpc ‹_›
  · cases h; exact .copied hpc
  · split at h
    · cases h
      cases hret : a.poll with
      | timeout => exact .timedOut hpc hret
      | error => exact .failed hpc hret
      | ready revents =>
        rename_i contexts handle _
        cases hcollect : collect s.fdOf contexts (handle.zip revents) with
        | none =>
          simp only [polled, hcollect]
          exact .unmatched hpc hret hcollect
        | some reported =>
          obtain ⟨serverContext, clients, hretyped, hstore⟩ := exists_storeTypes s reported
          simp only [polled, hcollect, hstore]
          exact .reported hpc hret hcollect hretyped hstore
    · cases h
  · cases h; exact .batchDone hpc
  · exact dispatch_cases hpc h
  · cases h; exact .registered hpc
  · split at h <;> cases h; exact .pushed hpc ‹_›
  · cases h; exact .announced hpc
  · split at h
    · split at h <;> cases h
      · exact .erased hpc ‹_› ‹_›
      · exact .stale hpc ‹_› ‹_›
    · cases h
  · rename_i id stage batch
    cases stage with
    | load => cases h; exact .loaded hpc
    | call fd => cases h; exact .closed hpc
    | store => cases h; exact .stored hpc
  · cases h; exact .told hpc
  all_goals cases h

theorem dropStep_cases {call : Nat} (h : s.dropStep call = some s') : DropMove s call s' := by
  unfold dropStep at h
  split at h <;> rename_i hpc
  · split at h <;> cases h; exact .started hpc ‹_›
  · cases h; exact .unregistered hpc
  · cases h; exact .handedOver hpc
  · rename_i stage dropped id todo
    cases stage with
    | load => cases h; exact .loaded hpc
    | call fd => cases h; exact .closed hpc
    | store => cases h; exact .stored hpc
  · cases h; exact .returned hpc
  · cases h; exact .told hpc
  · cases h

theorem closeStep_cases (h : s.closeStep = some s') : CloseMove s s' := by
  unfold closeStep at h
  split at h <;> rename_i hpc
  · cases h; exact .stopped hpc
  · split at h <;> cases h; exact .joined hpc ‹_›
  · split at h <;> cases h; exact .locked hpc ‹_›
  · rename_i stage id todo
    cases stage with
    | load => cases h; exact .loaded hpc
    | call fd => cases h; exact .closed hpc
    | store => cases h; exact .stored hpc
  · cases h; exact .drained hpc
  · cases h; exact .finished hpc
  · cases h

theorem step_cases {label : Label} (h : s.step label = some s') :
    (∃ a, label = .monitor a ∧ MonitorMove s a s') ∨
    (∃ call, label = .dropAll call ∧ DropMove s call s') ∨
    (label = .close ∧ CloseMove s s') := by
  cases label with
  | monitor a => exact .inl ⟨a, rfl, monitorStep_cases h⟩
  | dropAll call => exact .inr (.inl ⟨call, rfl, dropStep_cases h⟩)
  | close => exact .inr (.inr ⟨rfl, closeStep_cases h⟩)

end SecuritySocket.BroadcastServer
