import SecuritySocket.ConnectionBuffers
import SecuritySocket.RequestServerInvariant

/-!
# Admission to the request server

`accept` is called for every ACCEPT event, whether the pool has a free slot or not, and the
number of clients given to `open` is not used.  A descriptor that gets no connection is
never closed: nobody refers to it.  The theorem here says when every accepted descriptor
has a connection: as long as `accept` returns no descriptor while all slots are in use, and
never the descriptor 0, which `createResult` takes for a failure.
-/

namespace SecuritySocket.RequestServer

open Transition SocketMultiEventListener SocketConnection

variable {handler : SocketRequestHandler} {configuration : SocketConfiguration}
  {s s' : RequestServer} {p : ContextPtr} {a : Answer}

/-- Every connection of the process is that of an object in the pool. -/
def Pooled (s : RequestServer) : Prop :=
  ∀ fd id, s.kernel.connectionAt fd = some id →
    ∃ i c, s.pool.objects i = some c ∧ c.socket.socket = fd

/-- No null connection was used, and every connection of the process is registered with the
    listener through a live connection of the pool. -/
structure Accounted (s : RequestServer) : Prop where
  nonnull : s.loop ≠ .faulted .nullConnection
  pooled : ∀ fd id, s.kernel.connectionAt fd = some id →
    ∃ i c, s.pool.objects i = some c ∧ c.socket.socket = fd ∧
      .peer i ∈ s.listener.contexts ∧ fd ∈ s.listener.fds

/-- The dispatch accepts a descriptor it has no connection for. -/
def overruns (s : RequestServer) : Label → Bool
  | .dispatch a =>
    match s.loop with
    | .running (p :: _) =>
      (s.context? p).any (fun context => context.type == .accept) &&
        decide (0 ≤ a.accept.descriptor) &&
        (a.accept.descriptor == 0 || s.pool.availables.isEmpty)
    | .running [] | .exited | .faulted _ => false
  | .poll _ | .leave | .stop => false

theorem Pooled.accounted (h : Pooled s) (hinv : Inv s) (hloop : s.loop ≠ .faulted .nullConnection) :
    Accounted s where
  nonnull := hloop
  pooled fd id hid := by
    obtain ⟨i, c, hc, hfd⟩ := h fd id hid
    have hmem := hinv.mem_peer hc
    refine ⟨i, c, hc, hfd, hmem, ?_⟩
    rw [hinv.paired, ← hfd, ← hinv.contextFd i c hc, ← fdOf_peer hc]
    exact List.mem_map_of_mem hmem

theorem Accounted.pooled_objects (h : Accounted s) : Pooled s := by
  intro fd id hid
  obtain ⟨i, c, hc, hfd, _⟩ := h.pooled fd id hid
  exact ⟨i, c, hc, hfd⟩

/-! ### The ACCEPT case -/

/-- What the ACCEPT case does with the return of `accept`. -/
inductive Admission (handler : SocketRequestHandler) (configuration : SocketConfiguration)
    (s : RequestServer) (r : AcceptReturn) : RequestServer → Prop where
  | refused (hdescriptor : r.descriptor < 0) : Admission handler configuration s r s
  | overrun {loop : LoopState} (hdescriptor : 0 ≤ r.descriptor)
      (hover : r.descriptor = 0 ∨ s.pool.availables = [])
      (hloop : loop = s.loop ∨ loop = .faulted .nullConnection) :
      Admission handler configuration s r (s.leak r loop)
  | admitted {i : Nat} {pool : ObjectPool SocketConnection} (hpos : 0 < r.descriptor)
      (hfree : s.pool.availables ≠ [])
      (hacquire : s.pool.acquire (SocketConnection.make (.ofAccept r) handler
        configuration.pduSize) = some (i, pool)) :
      Admission handler configuration s r (s.admitted r i pool)

theorem acceptClient_admission (s : RequestServer) (r : AcceptReturn) :
    Admission handler configuration s r (s.acceptClient handler configuration r) := by
  have hcode := ServerActiveSocket.ofAccept_result_code r
  unfold acceptClient
  dsimp only
  split
  · rename_i hsuccess
    have hpos := hcode.mp hsuccess
    cases havailables : s.pool.availables with
    | nil =>
      simp only [addConnection, ObjectPool.acquire, havailables]
      exact .overrun (Int.le_of_lt hpos) (.inr havailables) (.inr rfl)
    | cons i rest =>
      have hip : (ServerActiveSocket.ofAccept r).clientIp = r.ip ∧
          (ServerActiveSocket.ofAccept r).clientPort = r.port := by
        unfold ServerActiveSocket.ofAccept at hsuccess ⊢
        dsimp only at hsuccess ⊢
        split
        · exact ⟨rfl, rfl⟩
        · rename_i hfail
          rw [if_neg hfail] at hsuccess
          exact absurd hsuccess hfail
      obtain ⟨pool, hacquire⟩ : ∃ pool, s.pool.acquire (SocketConnection.make (.ofAccept r)
          handler configuration.pduSize) = some (i, pool) := by
        simp [ObjectPool.acquire, havailables]
      simp only [addConnection, hacquire, ServerActiveSocket.ofAccept_socket, hip]
      exact .admitted hpos (by simp [havailables]) hacquire
  · rename_i hfail
    rcases Int.lt_trichotomy r.descriptor 0 with hneg | hzero | hpos
    · rw [Kernel.accept_of_neg (Int.not_le.mpr hneg)]
      exact .refused hneg
    · exact .overrun (Int.le_of_eq hzero.symm) (.inl hzero) (.inl rfl)
    · exact absurd (hcode.mpr hpos) hfail

/-! ### The other cases -/

/-- What a dispatch does that is no ACCEPT. -/
inductive Settled (s : RequestServer) : RequestServer → Prop where
  | ignored : Settled s s
  | faulted {fault : Fault} (hfault : fault ≠ .nullConnection) :
      Settled s { s with loop := .faulted fault }
  | disconnected {i : Nat} {c : SocketConnection} (hc : s.pool.objects i = some c) :
      Settled s (s.disconnect i c)
  | served {i id : Nat} {c : SocketConnection} {r : Served} (hc : s.pool.objects i = some c)
      (hsame : SameSocket c r.connection) : Settled s (s.served i c id r)

theorem settled_serve {i : Nat} {c : SocketConnection} {event : ConnectionLog → Option Served}
    (hc : s.pool.objects i = some c)
    (hsame : ∀ log r, event log = some r → SameSocket c r.connection)
    (h : s.serve i c event = some s') : Settled s s' := by
  rcases serve_cases h with rfl | ⟨id, r, -, hr, rfl⟩
  · exact .ignored
  · exact .served hc (hsame _ r hr)

theorem dispatch_settled (h : s.dispatch handler configuration p a = some s') :
    ((s.context? p).any (fun context => context.type == .accept) = true ∧ a.accept.fits s.kernel ∧
      s' = s.acceptClient handler configuration a.accept) ∨
    ((s.context? p).any (fun context => context.type == .accept) = false ∧ Settled s s') := by
  unfold dispatch at h
  cases hcontext : s.context? p with
  | none =>
    simp only [hcontext, Option.some.injEq] at h
    exact .inr ⟨rfl, h ▸ .faulted (by simp)⟩
  | some context =>
    simp only [hcontext] at h
    cases htype : context.type with
    | accept =>
      simp only [htype] at h
      split at h
      · rename_i hfits
        cases h
        exact .inl ⟨by simp [htype], hfits, rfl⟩
      · cases h
    | disconnected =>
      refine .inr ⟨by simp [htype], ?_⟩
      simp only [htype] at h
      cases p with
      | server => cases h; exact .faulted (by simp)
      | peer i =>
        obtain ⟨c, hc, rfl⟩ := Option.map_eq_some_iff.mp h
        exact .disconnected hc
    | read =>
      refine .inr ⟨by simp [htype], ?_⟩
      simp only [htype] at h
      cases p with
      | server => cases h; exact .faulted (by simp)
      | peer i =>
        obtain ⟨c, hc, hserve⟩ := Option.bind_eq_some_iff.mp h
        exact settled_serve hc (fun log r hr => sameSocket_serveRead hr) hserve
    | write =>
      refine .inr ⟨by simp [htype], ?_⟩
      simp only [htype] at h
      cases p with
      | server => cases h; exact .faulted (by simp)
      | peer i =>
        obtain ⟨c, hc, hserve⟩ := Option.bind_eq_some_iff.mp h
        exact settled_serve hc (fun log r hr => sameSocket_serveWrite hr) hserve
    | undefined | connect | readWrite =>
      simp only [htype] at h
      cases h
      exact .inr ⟨by simp [htype], .ignored⟩

/-! ### Connections without an object -/

theorem Settled.pooled_iff (h : Settled s s') (hinv : Inv s) : Pooled s' ↔ Pooled s := by
  cases h with
  | ignored => exact Iff.rfl
  | faulted => exact Iff.rfl
  | @disconnected i c hc =>
    constructor
    · intro h fd id hid
      by_cases hfd : fd = c.socket.socket
      · exact ⟨i, c, hc, hfd.symm⟩
      · obtain ⟨j, d, hd, hfd'⟩ := h fd id (Kernel.connectionAt_close.mpr ⟨hfd, hid⟩)
        exact ⟨j, d, ((disconnect_objects_eq_some hinv hc).mp hd).2, hfd'⟩
    · intro h fd id hid
      obtain ⟨hfd, hid⟩ := Kernel.connectionAt_close.mp hid
      obtain ⟨j, d, hd, rfl⟩ := h fd id hid
      have hji : j ≠ i := by
        rintro rfl
        rw [hc, Option.some.injEq] at hd
        exact hfd (by rw [hd])
      exact ⟨j, d, (disconnect_objects_eq_some hinv hc).mpr ⟨hji, hd⟩, rfl⟩
  | @served i id' c r hc hsame =>
    constructor
    · intro h fd id hid
      obtain ⟨j, d, hd, rfl⟩ := h fd id hid
      rcases served_objects_eq_some.mp hd with ⟨rfl, rfl⟩ | ⟨_, hd⟩
      · exact ⟨j, c, hc, by rw [hsame.2]⟩
      · exact ⟨j, d, hd, rfl⟩
    · intro h fd id hid
      obtain ⟨j, d, hd, rfl⟩ := h fd id hid
      obtain ⟨d', hd', -, hsocket⟩ := served_object id' hc hd hsame
      exact ⟨j, d', hd', by rw [hsocket]⟩

theorem Unchanged.pooled_iff (h : Unchanged s s') : Pooled s' ↔ Pooled s := by
  constructor
  · intro hpooled fd id hid
    obtain ⟨i, c', hc', rfl⟩ := hpooled fd id (h.kernel ▸ hid)
    obtain ⟨c, type, hc, rfl⟩ := h.object hc'
    exact ⟨i, c, hc, rfl⟩
  · intro hpooled fd id hid
    obtain ⟨i, c, hc, rfl⟩ := hpooled fd id (h.kernel ▸ hid)
    obtain ⟨type, htype⟩ := h.objects i
    exact ⟨i, retype type c, by rw [htype, hc]; rfl, rfl⟩

/-- The descriptor leads to an accepted connection without an object. -/
def Overrun (s : RequestServer) (r : AcceptReturn) : Prop :=
  0 ≤ r.descriptor ∧ (r.descriptor = 0 ∨ s.pool.availables = [])

/-- A descriptor that gets no connection leaves the process with one nobody refers to; one
    that gets a connection is accounted for. -/
theorem Admission.pooled_iff {r : AcceptReturn} (h : Admission handler configuration s r s')
    (hinv : Inv s) (hfits : r.fits s.kernel) : Pooled s' ↔ Pooled s ∧ ¬ Overrun s r := by
  -- an open descriptor is not the one accepted
  have hfresh : ∀ {fd id}, s.kernel.connectionAt fd = some id → 0 ≤ r.descriptor →
      fd ≠ r.descriptor := by
    rintro fd id hid hnonneg rfl
    rw [Kernel.connectionAt_eq_some, Kernel.fdTable_of_fits hfits hnonneg] at hid
    cases hid
  cases h with
  | refused hdescriptor =>
    have hnot : ¬ Overrun s r := fun h => absurd h.1 (Int.not_le.mpr hdescriptor)
    simp [hnot]
  | overrun hdescriptor hover hloop =>
    refine iff_of_false (fun hpooled => ?_) (fun h => h.2 ⟨hdescriptor, hover⟩)
    obtain ⟨i, c, hc, hfd⟩ := hpooled _ _ (Kernel.connectionAt_accept_self s.kernel hdescriptor)
    obtain ⟨id, hid⟩ := hinv.connected i c hc
    exact hfresh hid hdescriptor hfd
  | @admitted i pool hpos hfree hacquire =>
    have hnonneg := Int.le_of_lt hpos
    have hobjects := ObjectPool.acquire_objects hacquire
    have hslot := hinv.pool.acquired_free hacquire
    have hnot : ¬ Overrun s r := fun h => h.2.elim (Int.ne_of_gt hpos) hfree
    rw [and_iff_left hnot]
    constructor
    · intro h fd id hid
      obtain ⟨j, d, hd, rfl⟩ := h fd id (Kernel.connectionAt_accept_of_some hfits hid)
      rcases (ObjectPool.acquire_objects_eq_some hacquire).mp hd with ⟨rfl, rfl⟩ | ⟨_, hd⟩
      · exact absurd (by simp [SocketConnection.make]) (hfresh hid hnonneg)
      · exact ⟨j, d, hd, rfl⟩
    · intro h fd id hid
      rcases Kernel.connectionAt_accept hid with hold | ⟨_, rfl, _⟩
      · obtain ⟨j, d, hd, rfl⟩ := h fd id hold
        have hji : j ≠ i := by
          rintro rfl
          rw [hslot] at hd
          cases hd
        exact ⟨j, d, by simpa [RequestServer.admitted, hobjects, hji] using hd, rfl⟩
      · refine ⟨i, SocketConnection.make (.ofAccept r) handler configuration.pduSize, ?_, ?_⟩
        · simp [RequestServer.admitted, hobjects]
        · simp [SocketConnection.make]

/-! ### Runs -/

theorem overruns_dispatch {rest : List ContextPtr} (hloop : s.loop = .running (p :: rest)) :
    s.overruns (.dispatch a) = true ↔
      (s.context? p).any (fun context => context.type == .accept) = true ∧
        Overrun { s with loop := .running rest } a.accept := by
  simp [overruns, hloop, Overrun, and_assoc]

/-- A step that overruns leaves a connection without an object, any other keeps to how it
    was. -/
theorem step_pooled (h : Steady s) {label : Label}
    (hstep : step handler configuration s label = some s') :
    Pooled s' ↔ Pooled s ∧ s.overruns label = false := by
  rcases step_cases hstep with ⟨rfl, rfl⟩ | ⟨ret, rfl, hloop, _, rfl⟩ | ⟨rfl, rfl⟩ |
    ⟨a, p, rest, rfl, hloop, hdispatch⟩
  · exact ⟨fun h => ⟨h, rfl⟩, And.left⟩
  · rw [(unchanged_poll s ret).pooled_iff]
    exact ⟨fun h => ⟨h, rfl⟩, And.left⟩
  · exact ⟨fun h => ⟨h, rfl⟩, And.left⟩
  · have hpopped : Inv { s with loop := .running rest } := h.inv.unchanged (unchanged_loop s _)
    rw [← Bool.not_eq_true, overruns_dispatch hloop]
    rcases dispatch_settled hdispatch with ⟨htype, hfits, rfl⟩ | ⟨htype, hsettled⟩
    · rw [(acceptClient_admission _ a.accept).pooled_iff hpopped hfits]
      have htype' : (s.context? p).any (fun context => context.type == .accept) = true := htype
      simp only [htype', true_and]
      exact Iff.rfl
    · rw [hsettled.pooled_iff hpopped]
      have htype' : (s.context? p).any (fun context => context.type == .accept) = false := htype
      simp only [htype', Bool.false_eq_true, false_and, not_false_eq_true, and_true]
      exact Iff.rfl

theorem step_nonnull {label : Label} (h : s.loop ≠ .faulted .nullConnection)
    (hinv : Inv s) (hquiet : s.overruns label = false)
    (hstep : step handler configuration s label = some s') : s'.loop ≠ .faulted .nullConnection := by
  rcases step_cases hstep with ⟨rfl, rfl⟩ | ⟨ret, rfl, hloop, _, rfl⟩ | ⟨rfl, rfl⟩ |
    ⟨a, p, rest, rfl, hloop, hdispatch⟩
  · exact h
  · cases ret with
    | timeout => exact h
    | error => simp [poll]
    | ready revents =>
      obtain ⟨reported, _, hpoll⟩ := hinv.poll_ready revents
      simp [hpoll]
  · simp
  · rcases dispatch_settled hdispatch with ⟨htype, hfits, rfl⟩ | ⟨htype, hsettled⟩
    · have hnot : ¬ Overrun { s with loop := .running rest } a.accept := by
        intro hover
        rw [(overruns_dispatch hloop).mpr ⟨htype, hover⟩] at hquiet
        cases hquiet
      have hadmission : Admission handler configuration { s with loop := .running rest } a.accept
          (RequestServer.acceptClient _ handler configuration a.accept) :=
        acceptClient_admission _ _
      revert hadmission
      generalize RequestServer.acceptClient _ _ _ _ = s'
      intro hadmission
      cases hadmission with
      | refused => simp
      | overrun hdescriptor hover => exact absurd ⟨hdescriptor, hover⟩ hnot
      | admitted => simp [RequestServer.admitted]
    · cases hsettled with
      | ignored => simp
      | faulted hfault => simpa using hfault
      | disconnected => simp [RequestServer.disconnect]
      | served => simp [RequestServer.served]

theorem accounted_exec {labels : List Label} (h : Steady s) (hs : Accounted s)
    (hexec : exec (step handler configuration) s labels = some s') :
    Accounted s' ↔
      Meets (step handler configuration) (fun s label => s.overruns label = false) s labels := by
  have hpooled := exec_iff_meets (I := Steady) (P := Pooled) (fun _ _ _ h hstep => h.step hstep)
    (fun _ _ _ h hstep => step_pooled h hstep) hexec h
  constructor
  · intro hs'
    exact (hpooled.mp hs'.pooled_objects).2
  · intro hmeets
    have hnonnull := exec_invariant_of_meets
      (I := fun s => Steady s ∧ s.loop ≠ .faulted .nullConnection) ?_ hexec hmeets ⟨h, hs.nonnull⟩
    · exact (hpooled.mpr ⟨hs.pooled_objects, hmeets⟩).accounted hnonnull.1.inv hnonnull.2
    · rintro s label s' ⟨hsteady, hnonnull⟩ hquiet hstep
      exact ⟨hsteady.step hstep, step_nonnull hnonnull hsteady.inv hquiet hstep⟩

/-- **Admission.**  In a run no null connection is used and every accepted descriptor that is
    open has a live connection registered for it, exactly when no dispatch accepts a
    descriptor while all slots of the pool are in use, nor the descriptor 0. -/
theorem accounted_iff {fd : Int} {labels : List Label}
    (hexec : exec (step handler configuration) (opened fd) labels = some s) :
    Accounted s ↔ Meets (step handler configuration) (fun s label => s.overruns label = false)
      (opened fd) labels := by
  have hreach : Reachable (step handler configuration) (opened fd) (opened fd) := .refl _
  refine accounted_exec (reachable_steady hreach) ⟨by simp [opened], ?_⟩ hexec
  intro fd' id hid
  rw [Kernel.connectionAt_eq_some] at hid
  simp only [opened, Kernel.listening, Function.update_apply] at hid
  split at hid <;> cases hid

theorem bytePdu_lt : 255 < 2 ^ 63 := by decide

def bytePdu : SocketConfiguration := { pduSize := 255, pduSize_lt := bytePdu_lt }

def connects (n : Nat) : List Label :=
  (List.range n).flatMap fun k =>
    [.poll (.ready ({ pollin := true } :: List.replicate k {})),
      .dispatch { accept := { descriptor := 4 + k } }]

theorem connects_not_accounted :
    ∃ s, exec (step byteHandler bytePdu) (opened 3)
      (connects 33) = some s ∧ s.loop = .faulted .nullConnection ∧ ¬ Accounted s := by
  have hrun : (exec (step byteHandler bytePdu) (opened 3)
      (connects 33)).map (·.loop) = some (.faulted .nullConnection) := by decide +kernel
  obtain ⟨s, hexec, hloop⟩ := Option.map_eq_some_iff.mp hrun
  exact ⟨s, hexec, hloop, fun h => h.nonnull hloop⟩

/-- All thirty-two slots are used, and every client has one. -/
theorem connects_accounted :
    ∃ s, exec (step byteHandler bytePdu) (opened 3)
      (connects 32) = some s ∧ s.pool.availables = [] ∧ Accounted s := by
  have hrun : (exec (step byteHandler bytePdu) (opened 3)
      (connects 32)).map (·.pool.availables) = some [] := by decide +kernel
  obtain ⟨s, hexec, havailables⟩ := Option.map_eq_some_iff.mp hrun
  exact ⟨s, hexec, havailables, (accounted_iff hexec).mpr (by decide +kernel)⟩

end SecuritySocket.RequestServer
