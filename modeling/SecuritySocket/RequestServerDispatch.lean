import SecuritySocket.RequestServerAdmission
import SecuritySocket.RequestServerEndOfStream

/-!
# What the request server dispatches

`_contexts` is searched by descriptor and `_handle` by position, and while a batch is
dispatched connections come and go, slots and descriptor numbers are handed out again, and
`modifyEvent` moves entries to the end of both vectors.  The batch is not affected: what is
left of it are contexts of live connections, each under the descriptor the poll reported.
-/

namespace SecuritySocket.RequestServer

open Transition SocketMultiEventListener

variable {handler : SocketRequestHandler} {configuration : SocketConfiguration}
  {s s' : RequestServer} {fd : Int}

/-- The two vectors of the listener: the same descriptors, each once, which are the accept
    socket's and those of the connections in the pool. -/
structure Registered (s : RequestServer) : Prop where
  handle : s.listener.fds.Nodup
  contexts : (s.listener.contextFds s.fdOf).Nodup
  same : ∀ fd, fd ∈ s.listener.fds ↔ fd ∈ s.listener.contextFds s.fdOf
  polled : ∀ fd, fd ∈ s.listener.fds ↔
    fd = s.serverContext.fd ∨ ∃ i c, s.pool.objects i = some c ∧ c.context.fd = fd
  acquired : ∀ p, p ∈ s.listener.contexts ↔
    p = .server ∨ ∃ i, p = .peer i ∧ i < s.pool.size ∧ i ∉ s.pool.availables

/-- The reported context is the accept context, or that of a connection that has been acquired
    and not released; its descriptor is the one poll reported. -/
inductive Live (s : RequestServer) (e : Reported ContextPtr) : Prop where
  | server (hcontext : e.context = .server) (hfd : s.serverContext.fd = e.fd)
  | connection {i : Nat} {c : SocketConnection} (hcontext : e.context = .peer i)
      (hobject : s.pool.objects i = some c) (hacquired : i ∉ s.pool.availables)
      (hfd : c.context.fd = e.fd) (hsocket : c.socket.socket = e.fd)

/-- `s` is a state within the batch of a poll that reported `reported`. -/
def Polled (handler : SocketRequestHandler) (configuration : SocketConfiguration) (fd : Int)
    (reported : List (Reported ContextPtr)) (s : RequestServer) : Prop :=
  ∃ top revents labels, Reachable (step handler configuration) (opened fd) top ∧
    top.loop = .running [] ∧
    collect top.fdOf top.listener.contexts (top.listener.handle.zip revents) = some reported ∧
    (∀ label ∈ labels, label.Within) ∧
    exec (step handler configuration) top (.poll (.ready revents) :: labels) = some s

/-! ### The vectors -/

theorem Inv.acquired_iff (h : Inv s) (i : Nat) :
    (∃ c, s.pool.objects i = some c) ↔ i < s.pool.size ∧ i ∉ s.pool.availables := by
  rw [h.pool.mem_iff]
  constructor
  · rintro ⟨c, hc⟩
    exact ⟨h.pool.lt_size i c hc, fun hfree => by simp [hc] at hfree⟩
  · rintro ⟨hlt, hnot⟩
    exact Option.ne_none_iff_exists'.mp fun hnone => hnot ⟨hlt, hnone⟩

theorem Inv.mem_contexts_iff (h : Inv s) (p : ContextPtr) :
    p ∈ s.listener.contexts ↔ p = .server ∨ ∃ i c, p = .peer i ∧ s.pool.objects i = some c := by
  rw [h.registered]
  cases p with
  | server => simp [context?]
  | peer i => simp [context?, Option.isSome_iff_exists]

theorem Inv.toRegistered (h : Inv s) : Registered s where
  handle := h.nodup_fds
  contexts := h.paired ▸ h.nodup_fds
  same fd := by rw [h.paired]
  polled fd := by
    rw [h.paired, contextFds, List.mem_map]
    constructor
    · rintro ⟨p, hp, rfl⟩
      rcases (h.mem_contexts_iff p).mp hp with rfl | ⟨i, c, rfl, hc⟩
      · exact .inl rfl
      · exact .inr ⟨i, c, hc, (fdOf_peer hc).symm⟩
    · rintro (rfl | ⟨i, c, hc, rfl⟩)
      · exact ⟨.server, (h.mem_contexts_iff _).mpr (.inl rfl), rfl⟩
      · exact ⟨.peer i, h.mem_peer hc, fdOf_peer hc⟩
  acquired p := by
    rw [h.mem_contexts_iff]
    refine or_congr_right (exists_congr fun i => ?_)
    rw [← h.acquired_iff i]
    simp

theorem Inv.live (h : Inv s) {e : Reported ContextPtr} (hmem : e.context ∈ s.listener.contexts)
    (hfd : s.fdOf e.context = e.fd) : Live s e := by
  rcases (h.mem_contexts_iff _).mp hmem with hcontext | ⟨i, c, hcontext, hc⟩
  · rw [hcontext] at hfd
    exact .server hcontext hfd
  · rw [hcontext, fdOf_peer hc] at hfd
    have hacquired := ((h.acquired_iff i).mp ⟨c, hc⟩).2
    exact .connection hcontext hc hacquired hfd ((h.contextFd i c hc).symm.trans hfd)

/-! ### The batch -/

theorem Dispatched.fdOf {p q : ContextPtr} {a : Answer} (h : Inv s) (hne : q ≠ p)
    (hq : q ∈ s.listener.contexts) (hs' : Dispatched handler configuration s p a s') :
    s'.fdOf q = s.fdOf q := by
  simp only [RequestServer.fdOf, hs'.context? h hne hq]

/-- What is left of the batch was reported, and has kept its descriptors. -/
def Remaining (reported : List (Reported ContextPtr)) (s : RequestServer) : Prop :=
  ∀ batch, s.loop = .running batch → ∃ rest : List (Reported ContextPtr),
    batch = rest.map (·.context) ∧ ∀ e ∈ rest, e ∈ reported ∧ s.fdOf e.context = e.fd

theorem Remaining.step {reported : List (Reported ContextPtr)} (h : Remaining reported s)
    (hsteady : Steady s) {label : Label} (hlabel : label.Within)
    (hstep : RequestServer.step handler configuration s label = some s') :
    Remaining reported s' := by
  rcases step_cases hstep with ⟨rfl, rfl⟩ | ⟨ret, rfl, _⟩ | ⟨rfl, _⟩ |
    ⟨a, p, batch, rfl, hloop, hdispatch⟩
  · exact h
  · exact hlabel.elim
  · exact hlabel.elim
  · intro batch' hbatch'
    have hpending := hsteady.pending _ hloop
    have hpopped : Inv { s with loop := .running batch } :=
      hsteady.inv.unchanged (unchanged_loop s _)
    have hdispatched := dispatch_cases hdispatch
    obtain ⟨rest, hrest, hkept⟩ := h _ hloop
    obtain ⟨e, others, rfl⟩ : ∃ e others, rest = e :: others := by
      cases rest with
      | nil => cases hrest
      | cons e others => exact ⟨e, others, rfl⟩
    obtain ⟨rfl, rfl⟩ := List.cons.inj hrest
    have hsame : batch' = others.map (·.context) := by
      rcases hdispatched.loop with hloop' | ⟨fault, hfault⟩
      · rw [hbatch'] at hloop'
        cases hloop'
        rfl
      · rw [hbatch'] at hfault
        cases hfault
    refine ⟨others, hsame, fun f hf => ?_⟩
    obtain ⟨hreported, hfd⟩ := hkept f (List.mem_cons_of_mem _ hf)
    have hmem : f.context ∈ others.map (·.context) := List.mem_map_of_mem hf
    have hne : f.context ≠ e.context := by
      intro heq
      rw [heq] at hmem
      exact (List.nodup_cons.mp hpending.nodup).1 hmem
    have hregistered := hpending.registered _ (List.mem_cons_of_mem _ hmem)
    exact ⟨hreported, (hdispatched.fdOf hpopped hne hregistered).trans hfd⟩

theorem remaining_poll (h : Inv s) {revents : List Revents} {reported : List (Reported ContextPtr)}
    (hcollect : collect s.fdOf s.listener.contexts (s.listener.handle.zip revents) =
      some reported) : Remaining reported (s.poll (.ready revents)) := by
  obtain ⟨reported', hcollect', hpoll⟩ := h.poll_ready revents
  rw [hcollect, Option.some.injEq] at hcollect'
  subst hcollect'
  intro batch hbatch
  rw [hpoll] at hbatch
  cases hbatch
  refine ⟨reported, rfl, fun e he => ⟨he, ?_⟩⟩
  rw [(unchanged_poll s _).fdOf]
  exact ((collect_reports hcollect).2 e he).2

theorem Polled.reachable {reported : List (Reported ContextPtr)}
    (h : Polled handler configuration fd reported s) :
    Reachable (step handler configuration) (opened fd) s := by
  obtain ⟨top, revents, labels, hreach, _, _, _, hexec⟩ := h
  exact hreach.exec hexec

theorem Polled.step {reported : List (Reported ContextPtr)}
    (h : Polled handler configuration fd reported s) {label : Label} (hlabel : label.Within)
    (hstep : RequestServer.step handler configuration s label = some s') :
    Polled handler configuration fd reported s' := by
  obtain ⟨top, revents, labels, hreach, htop, hcollect, hwithin, hexec⟩ := h
  refine ⟨top, revents, labels ++ [label], hreach, htop, hcollect, ?_, ?_⟩
  · intro label' hlabel'
    rcases List.mem_append.mp hlabel' with hbefore | hlast
    · exact hwithin label' hbefore
    · rw [List.mem_singleton.mp hlast]
      exact hlabel
  · rw [← List.cons_append]
    exact exec_append_eq_some.mpr ⟨s, hexec, exec_cons_eq_some.mpr ⟨s', hstep, rfl⟩⟩

theorem Polled.remaining {reported : List (Reported ContextPtr)}
    (h : Polled handler configuration fd reported s) : Remaining reported s := by
  obtain ⟨top, revents, labels, hreach, htop, hcollect, hwithin, hexec⟩ := h
  have hsteady : Steady top := reachable_steady hreach
  obtain ⟨polled, hpolled, hrest⟩ := exec_cons_eq_some.mp hexec
  obtain rfl : polled = top.poll (.ready revents) := by
    rcases step_cases hpolled with ⟨hlabel, _⟩ | ⟨ret, hlabel, _, _, heq⟩ | ⟨hlabel, _⟩ |
      ⟨_, _, _, hlabel, _⟩
    · cases hlabel
    · cases hlabel
      exact heq
    · cases hlabel
    · cases hlabel
  refine (exec_invariant_of_meets (I := fun s => Steady s ∧ Remaining reported s) ?_ hrest
    (meets_of_forall_label hwithin) ⟨hsteady.poll _, remaining_poll hsteady.inv hcollect⟩).2
  rintro s label s' ⟨hs, hremaining⟩ hlabel hstep
  exact ⟨hs.step hstep, hremaining.step hs hlabel hstep⟩

theorem exists_polled (h : Reachable (step handler configuration) (opened fd) s) {p : ContextPtr}
    {batch : List ContextPtr} (hloop : s.loop = .running (p :: batch)) :
    ∃ reported, Polled handler configuration fd reported s := by
  refine (h.invariant (I := fun s => Reachable (step handler configuration) (opened fd) s ∧
    ∀ p batch, s.loop = .running (p :: batch) →
      ∃ reported, Polled handler configuration fd reported s)
    ⟨.refl _, fun p batch hbatch => by cases hbatch⟩ ?_).2 p batch hloop
  rintro s label s' ⟨hreach, hbefore⟩ hstep
  refine ⟨hreach.tail hstep, fun p batch hbatch => ?_⟩
  have hsteady : Steady s := reachable_steady hreach
  rcases step_cases hstep with ⟨rfl, rfl⟩ | ⟨ret, rfl, htop, _, rfl⟩ | ⟨rfl, rfl⟩ |
    ⟨a, q, rest, rfl, hrunning, hdispatch⟩
  · obtain ⟨reported, hpolled⟩ := hbefore p batch hbatch
    exact ⟨reported, hpolled.step (show Label.Within .stop from trivial) hstep⟩
  · cases ret with
    | timeout => simp [poll, htop] at hbatch
    | error => simp [poll] at hbatch
    | ready revents =>
      obtain ⟨reported, hcollect, _⟩ := hsteady.inv.poll_ready revents
      exact ⟨reported, s, revents, [], hreach, htop, hcollect, by simp,
        exec_cons_eq_some.mpr ⟨_, hstep, rfl⟩⟩
  · cases hbatch
  · obtain ⟨reported, hpolled⟩ := hbefore q rest hrunning
    exact ⟨reported, hpolled.step (show Label.Within (.dispatch a) from trivial) hstep⟩

/-- **Dispatch.**  At every loop top the two vectors agree, and `wait` finds a context for
    whatever is reported; a state with a context left to dispatch lies within the batch of a
    poll, and that context is live under the descriptor the poll reported. -/
theorem reachable_dispatch_live (h : Reachable (step handler configuration) (opened fd) s) :
    (s.loop = .running [] → Registered s ∧
      ∀ revents, (MultiPollReturn.ready revents).consistent s.listener.handle = true →
        ∃ reported, collect s.fdOf s.listener.contexts (s.listener.handle.zip revents) =
          some reported) ∧
    ∀ p batch, s.loop = .running (p :: batch) →
      (∃ reported, Polled handler configuration fd reported s) ∧
      ∀ reported, Polled handler configuration fd reported s →
        ∃ e ∈ reported, e.context = p ∧ Live s e := by
  have hsteady : Steady s := reachable_steady h
  refine ⟨fun _ => ⟨hsteady.inv.toRegistered, fun revents _ => ?_⟩, fun p batch hloop => ?_⟩
  · obtain ⟨reported, hcollect, _⟩ := hsteady.inv.poll_ready revents
    exact ⟨reported, hcollect⟩
  · refine ⟨exists_polled h hloop, fun reported hpolled => ?_⟩
    obtain ⟨rest, hrest, hkept⟩ := hpolled.remaining _ hloop
    obtain ⟨e, others, rfl⟩ : ∃ e others, rest = e :: others := by
      cases rest with
      | nil => cases hrest
      | cons e others => exact ⟨e, others, rfl⟩
    obtain ⟨rfl, _⟩ := List.cons.inj hrest
    obtain ⟨hreported, hfd⟩ := hkept e List.mem_cons_self
    exact ⟨e, hreported, rfl,
      hsteady.inv.live ((hsteady.pending _ hloop).registered _ List.mem_cons_self) hfd⟩

/-- Two clients are connected, and one poll reports both: the first one has left, and is gone
    when the second one is dispatched. -/
def leftWithinBatch : List Label :=
  [.poll (.ready [{ pollin := true }]), .dispatch { accept := { descriptor := 4 } },
    .poll (.ready [{ pollin := true }, {}]), .dispatch { accept := { descriptor := 5 } },
    .poll (.ready [{}, { pollhup := true }, { pollin := true }]), .dispatch {}]

theorem leftWithinBatch_live :
    ∃ s, Reachable (step SocketConnection.byteHandler bytePdu) (opened 3) s ∧
      s.loop = .running [.peer 1] ∧ s.kernel.fdTable 4 = none ∧
      (∃ reported, Polled SocketConnection.byteHandler bytePdu 3 reported s ∧
        ∃ e ∈ reported, e.context = .peer 1 ∧ Live s e) := by
  have h : Reachable (step SocketConnection.byteHandler bytePdu) (opened 3) _ :=
    ⟨leftWithinBatch, rfl⟩
  obtain ⟨⟨reported, hpolled⟩, hlive⟩ := (reachable_dispatch_live h).2 (.peer 1) [] rfl
  exact ⟨_, h, rfl, rfl, reported, hpolled, hlive reported hpolled⟩

end SecuritySocket.RequestServer
