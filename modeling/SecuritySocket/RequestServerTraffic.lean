import SecuritySocket.RequestServerFraming
import SecuritySocket.RequestServerQueues

/-!
# What the steps of the request server add to its logs

A step appends to the logs of its connections and takes nothing back, and what a connection
has consumed is the front of what has arrived on it: `recv` hands out the bytes of the
receive queue in their order.  Both hold across every interleaving of polls, dispatches,
arrivals and closes.
-/

namespace SecuritySocket

open Transition

/-- The later log continues the earlier one. -/
structure ConnectionLog.Extends (log log' : ConnectionLog) : Prop where
  consumed : log.consumed <+: log'.consumed
  calls : log.calls <+: log'.calls
  sent : log.sent <+: log'.sent

namespace ConnectionLog.Extends

theorem refl (log : ConnectionLog) : log.Extends log :=
  ⟨List.prefix_rfl, List.prefix_rfl, List.prefix_rfl⟩

theorem trans {log log' log'' : ConnectionLog} (h : log.Extends log') (h' : log'.Extends log'') :
    log.Extends log'' :=
  ⟨h.consumed.trans h'.consumed, h.calls.trans h'.calls, h.sent.trans h'.sent⟩

end ConnectionLog.Extends

namespace SocketConnection

variable {handler : SocketRequestHandler} {response : HandlerResponse} {c : SocketConnection}
  {log : ConnectionLog}

theorem TaskServed.logged {r : Served} (h : TaskServed response c log r) :
    log.Extends r.log ∧ r.log.consumed = log.consumed := by
  cases h with
  | answered hmode => exact ⟨⟨List.prefix_rfl, List.prefix_append _ _, List.prefix_rfl⟩, rfl⟩
  | deferred hmode => exact ⟨.refl log, rfl⟩
  | silent hmode => exact ⟨⟨List.prefix_rfl, List.prefix_append _ _, List.prefix_rfl⟩, rfl⟩

/-- A READ event consumes what its `recv` delivered, or, of a connection that is writing, nothing. -/
theorem ReadServed.logged {recv : RecvReturn} {r : Served}
    (h : ReadServed handler response c log recv r) :
    log.Extends r.log ∧ (r.log.consumed = log.consumed ∨
      c.reading = true ∧ r.log.consumed = log.consumed ++ recv.bytes) := by
  have htaken : log.Extends { log with consumed := log.consumed ++ recv.bytes } :=
    ⟨List.prefix_append _ _, List.prefix_rfl, List.prefix_rfl⟩
  cases h with
  | ignored hstate => exact ⟨.refl log, .inl rfl⟩
  | failed hstate hneg hnil => exact ⟨.refl log, .inl rfl⟩
  | headerPart hstate hnarrow hlt => exact ⟨htaken, .inr ⟨by simp [reading, hstate], rfl⟩⟩
  | headerFull hstate hnarrow hfull hne => exact ⟨htaken, .inr ⟨by simp [reading, hstate], rfl⟩⟩
  | headerTask hstate hnarrow hfull hzero htask =>
    obtain ⟨hextends, hconsumed⟩ := htask.logged
    exact ⟨htaken.trans hextends, .inr ⟨by simp [reading, hstate], hconsumed⟩⟩
  | payloadPart hstate hnarrow hlt => exact ⟨htaken, .inr ⟨by simp [reading, hstate], rfl⟩⟩
  | payloadTask hstate hnarrow hfull htask =>
    obtain ⟨hextends, hconsumed⟩ := htask.logged
    exact ⟨htaken.trans hextends, .inr ⟨by simp [reading, hstate], hconsumed⟩⟩

theorem WriteServed.logged {count : Nat} {r : Served} (h : WriteServed c log count r) :
    log.Extends r.log ∧ r.log.consumed = log.consumed := by
  cases h with
  | ignored hstate => exact ⟨.refl log, rfl⟩
  | failed hstate hzero => exact ⟨.refl log, rfl⟩
  | part hstate hlt => exact ⟨⟨List.prefix_rfl, List.prefix_rfl, List.prefix_append _ _⟩, rfl⟩
  | done hstate hfull => exact ⟨⟨List.prefix_rfl, List.prefix_rfl, List.prefix_append _ _⟩, rfl⟩

theorem Assembling.sent_eq (h : Assembling handler c log) (hreading : c.reading = true) :
    log.sent = responses log.calls := by
  simp only [reading, Bool.or_eq_true, beq_iff_eq] at hreading
  rcases hreading with hstate | hstate
  · exact (h.header hstate).sent
  · exact (h.payload hstate).sent

end SocketConnection

theorem ReceiveQueue.prefix_of_answers {q : ReceiveQueue} {consumed : List UInt8} {length : Nat}
    {recv : RecvReturn} (hconsumed : consumed <+: q.arrived)
    (h : q.answers consumed length recv = true) : consumed ++ recv.bytes <+: q.arrived := by
  obtain ⟨rest, hrest⟩ := hconsumed
  have hunread : q.unread consumed = rest := by rw [ReceiveQueue.unread, ← hrest, List.drop_left]
  have hfront : recv.bytes <+: rest := by
    rw [← hunread]
    cases recv with
    | data bytes => exact List.isPrefixOf_iff_prefix.mp h
    | closed => exact List.nil_prefix
    | error errno => exact List.nil_prefix
  rw [← hrest]
  exact (List.prefix_append_right_inj consumed).mpr hfront

theorem ReceiveQueue.arrived_arrive {q q' : ReceiveQueue} {bytes : List UInt8}
    (h : q.arrive bytes = some q') : q'.arrived = q.arrived ++ bytes := by
  unfold ReceiveQueue.arrive at h
  split at h
  · cases h
  · cases h
    rfl

theorem ReceiveQueue.arrived_update {queues : Nat → ReceiveQueue} {id : Nat} {queue : ReceiveQueue}
    (h : (queues id).arrived <+: queue.arrived) (id' : Nat) :
    (queues id').arrived <+: (Function.update queues id queue id').arrived := by
  by_cases hsame : id' = id
  · subst hsame
    rw [Function.update_self]
    exact h
  · simp only [Function.update_of_ne hsame, List.prefix_rfl]

namespace RequestStreams

variable {handler : SocketRequestHandler} {configuration : SocketConfiguration}
  {s s' : RequestStreams}

/-- Each connection is framed, and has consumed the front of what has arrived on it. -/
structure Fed (handler : SocketRequestHandler) (configuration : SocketConfiguration)
    (s : RequestStreams) : Prop where
  steady : RequestServer.Steady s.server
  each : RequestServer.EachConnection (fun c log =>
    SocketConnection.Sound handler configuration.pduSize c ∧
      SocketConnection.Assembling handler c log) s.server
  consumed : ∀ id, (s.server.logs id).consumed <+: (s.queues id).arrived

theorem fed_opened (hservice : Serviceable handler configuration.pduSize) (fd : Int) :
    Fed handler configuration (opened fd) where
  steady := by
    have hreach : Reachable (RequestServer.step handler configuration) (.opened fd) (.opened fd) :=
      .refl _
    exact RequestServer.reachable_steady hreach
  each := RequestServer.eachConnection_opened
    (RequestServer.assembling_connectionInvariant hservice) fd
  consumed _ := List.nil_prefix

theorem Fed.framed (hservice : Serviceable handler configuration.pduSize)
    (h : Fed handler configuration s) (id : Nat) : Framed handler (s.server.logs id) := by
  obtain ⟨c, hsound, hc⟩ := h.each.logs id
  exact hc.framed hservice hsound

theorem Fed.dispatched (h : Fed handler configuration s) {p : ContextPtr}
    {rest : List ContextPtr} {a : Answer} {server : RequestServer}
    (hloop : s.server.loop = .running (p :: rest)) (hanswers : s.answers (.dispatch a) = true)
    (hdispatch : { s.server with loop := .running rest }.dispatch handler configuration p a =
      some server) (id : Nat) :
    (s.server.logs id).Extends (server.logs id) ∧
      (server.logs id).consumed <+: (s.queues id).arrived := by
  have hkept : (s.server.logs id).Extends (s.server.logs id) ∧
      (s.server.logs id).consumed <+: (s.queues id).arrived := ⟨.refl _, h.consumed id⟩
  -- the log of one connection changes, the others are as they were
  have hserved : ∀ {i id' c r}, (s.server.logs id').Extends r.log ∧
      r.log.consumed <+: (s.queues id').arrived →
      (s.server.logs id).Extends (({ s.server with loop := .running rest }.served i c id' r).logs id) ∧
        (({ s.server with loop := .running rest }.served i c id' r).logs id).consumed <+:
          (s.queues id).arrived := by
    intro i id' c r hr
    by_cases hsame : id = id'
    · subst hsame
      simpa [RequestServer.served] using hr
    · simpa [RequestServer.served, hsame] using hkept
  cases RequestServer.dispatch_cases hdispatch with
  | ignored => exact hkept
  | faulted fault => exact hkept
  | leaked hfits hloop' => exact hkept
  | admitted hfits hpos hacquire => exact hkept
  | disconnected hp hc htype => exact hkept
  | @read i id' c r hp hc htype hid hr =>
    subst hp
    apply hserved
    obtain ⟨hsound, -⟩ := h.each.live i c id' hc hid
    obtain ⟨hextends, hconsumed⟩ := (SocketConnection.serveRead_cases hsound hr).logged
    refine ⟨hextends, ?_⟩
    rcases hconsumed with hsame | ⟨-, htaken⟩
    · rw [hsame]
      exact h.consumed id'
    · rw [htaken]
      have hpeer := peer?_peer hc hid
      have hqueue : (s.queues id').answers (s.server.logs id').consumed c.asked a.recv = true := by
        simp only [answers, hloop] at hanswers
        have hpeer' : s.server.peer? (.peer i) = some (c, id') := hpeer
        simpa [hpeer', htype] using hanswers
      exact ReceiveQueue.prefix_of_answers (h.consumed id') hqueue
  | @write i id' c r hp hc htype hid hr =>
    apply hserved
    obtain ⟨hsound, -⟩ := h.each.live i c id' hc hid
    obtain ⟨hextends, hconsumed⟩ := (SocketConnection.serveWrite_cases hsound hr).logged
    exact ⟨hextends, hconsumed ▸ h.consumed id'⟩

/-- **Step lemma.**  A step extends the logs, and leaves the connections fed. -/
theorem Fed.step (hservice : Serviceable handler configuration.pduSize)
    (h : Fed handler configuration s) {label : Label}
    (hstep : step handler configuration s label = some s') :
    Fed handler configuration s' ∧ ∀ id, (s.server.logs id).Extends (s'.server.logs id) := by
  cases label with
  | arrive id bytes =>
    obtain ⟨queue, hqueue, rfl⟩ := Option.map_eq_some_iff.mp hstep
    refine ⟨⟨h.steady, h.each, fun id' => ?_⟩, fun _ => .refl _⟩
    have hgrown : (s.queues id).arrived <+: queue.arrived := by
      rw [ReceiveQueue.arrived_arrive hqueue]
      exact List.prefix_append _ _
    exact (h.consumed id').trans (ReceiveQueue.arrived_update hgrown id')
  | finish id =>
    cases hstep
    refine ⟨⟨h.steady, h.each, fun id' => ?_⟩, fun _ => .refl _⟩
    have hkept : (s.queues id).arrived <+: (s.queues id).finish.arrived := List.prefix_rfl
    exact (h.consumed id').trans (ReceiveQueue.arrived_update hkept id')
  | server label =>
    simp only [RequestStreams.step] at hstep
    split at hstep
    · rename_i hanswers
      obtain ⟨server, hserver, rfl⟩ := Option.map_eq_some_iff.mp hstep
      have hsteady := h.steady.step hserver
      have heach := h.each.step (RequestServer.assembling_connectionInvariant hservice)
        h.steady.inv hserver
      have hlogs : ∀ id, (s.server.logs id).Extends (server.logs id) ∧
          (server.logs id).consumed <+: (s.queues id).arrived := by
        intro id
        rcases RequestServer.step_cases hserver with ⟨-, rfl⟩ | ⟨ret, -, -, -, rfl⟩ | ⟨-, rfl⟩ |
          ⟨a, p, rest, rfl, hloop, hdispatch⟩
        · exact ⟨.refl _, h.consumed id⟩
        · rw [(RequestServer.unchanged_poll s.server ret).logs]
          exact ⟨.refl _, h.consumed id⟩
        · exact ⟨.refl _, h.consumed id⟩
        · exact h.dispatched hloop hanswers hdispatch id
      exact ⟨⟨hsteady, heach, fun id => (hlogs id).2⟩, fun id => (hlogs id).1⟩
    · cases hstep

end RequestStreams

theorem serviceable_byteHandler :
    Serviceable SocketConnection.byteHandler RequestServer.bytePdu.pduSize := by
  refine ⟨by decide, fun header _ => ?_, fun header _ => ?_⟩
  · exact Nat.le_of_lt_succ (header.headD 0).toNat_lt
  · simp [SocketConnection.byteHandler]

end SecuritySocket
