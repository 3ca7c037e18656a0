import SecuritySocket.RequestServerInterest
import SecuritySocket.SocketEventWindows

/-!
# What a listener stands for

Both servers use a `SocketMultiEventListener` as a table of what they have registered: contexts in
order, each with what it waits for, of which `wait` returns those that have something to report.  The
listener keeps that table in two vectors, and looks its entries up by descriptor in the one and by
address in the other.  The theorems here say that the two are the table exactly as long as no context
is registered whose descriptor is, none is taken off whose descriptor is that of another one, and
none gets another descriptor meanwhile; and that `wait` then returns what it should.
-/

namespace SecuritySocket

open Transition

variable {P : Type} [DecidableEq P]

/-- The call registers no context with a descriptor that is, takes none off with that of another one,
    and gives no registered one another descriptor. -/
def MultiCall.disciplined (contexts : List P) (memory : ContextMemory P) : MultiCall P → Bool
  | .addEvent p _ => contexts.all fun q => (memory q).fd != (memory p).fd
  | .modifyEvent p _ | .removeEvent p =>
    contexts.all fun q => q == p || (memory q).fd != (memory p).fd
  | .wait _ => true
  | .setFd p fd => contexts.all fun q => q != p || (memory p).fd == fd

def ListenerInterface.next {L : Type} (I : ListenerInterface P L) (s : L × ContextMemory P)
    (call : MultiCall P) : Option (L × ContextMemory P) :=
  (I.step s.1 s.2 call).map fun (l, memory, _) => (l, memory)

/-- The contexts that are registered, in order, each with what it waits for. -/
structure Registrations (P : Type) where
  serverSocket : Int := 0
  entries : List (P × SocketEventType) := []
deriving DecidableEq, Repr

namespace Registrations

def contexts (m : Registrations P) : List P := m.entries.map (·.1)

def addEvent (m : Registrations P) (p : P) (fd : Int) (type : SocketEventType) : Registrations P where
  serverSocket := if type = .accept then fd else m.serverSocket
  entries := m.entries ++ [(p, type)]

def removeEvent (m : Registrations P) (p : P) (_fd : Int) : Registrations P :=
  { m with entries := m.entries.filter (·.1 != p) }

def modifyEvent (m : Registrations P) (p : P) (fd : Int) (type : SocketEventType) :
    Registrations P :=
  (m.removeEvent p fd).addEvent p fd type

def reporting (m : Registrations P) (memory : ContextMemory P) (revents : List Revents) :
    List (Reported P) :=
  ((m.entries.zip revents).filter fun e => !e.2.isZero).map fun e =>
    ⟨e.1.1, (memory e.1.1).fd, e.2⟩

def wait (m : Registrations P) (memory : ContextMemory P) :
    MultiPollReturn → Option (SocketEventResult P × ContextMemory P)
  | .timeout => some ({ result := { code := .socketTimeout } }, memory)
  | .error => some ({ result := { code := .socketEventError } }, memory)
  | .ready revents =>
    let reported := m.reporting memory revents
    some ({ contexts := reported.map (·.context) },
      reported.foldl (SocketMultiEventListener.store m.serverSocket) memory)

def interface : ListenerInterface P (Registrations P) :=
  ⟨addEvent, modifyEvent, removeEvent, wait⟩

theorem exists_step (m : Registrations P) (memory : ContextMemory P) (call : MultiCall P) :
    ∃ m' memory' outcome, interface.step m memory call = some (m', memory', outcome) := by
  cases call with
  | wait ret => cases ret <;> exact ⟨_, _, _, rfl⟩
  | addEvent | modifyEvent | removeEvent | setFd => exact ⟨_, _, _, rfl⟩

end Registrations

/-! ### The two vectors -/

/-- The vectors of the listener are the two columns of the table, in which no descriptor stands
    twice. -/
structure Represents (memory : ContextMemory P) (m : Registrations P)
    (l : SocketMultiEventListener P) : Prop where
  serverSocket : l.serverSocket = m.serverSocket
  contexts : l.contexts = m.contexts
  handle : l.handle = m.entries.map fun e => ⟨(memory e.1).fd, e.2.events⟩
  distinct : (m.entries.map fun e => (memory e.1).fd).Nodup

variable {memory memory' : ContextMemory P} {m : Registrations P} {l : SocketMultiEventListener P}

omit [DecidableEq P] in
theorem represents_nil (memory : ContextMemory P) : Represents memory {} {} :=
  ⟨rfl, rfl, rfl, List.nodup_nil⟩

omit [DecidableEq P] in
theorem Represents.congr (h : Represents memory m l)
    (hfd : ∀ e ∈ m.entries, (memory' e.1).fd = (memory e.1).fd) : Represents memory' m l where
  serverSocket := h.serverSocket
  contexts := h.contexts
  handle := by
    rw [h.handle]
    apply List.map_congr_left
    intro e he
    rw [hfd e he]
  distinct := by
    have hsame : (m.entries.map fun e => (memory' e.1).fd) = m.entries.map fun e => (memory e.1).fd :=
      List.map_congr_left hfd
    rw [hsame]
    exact h.distinct

omit [DecidableEq P] in
theorem Represents.addEvent (h : Represents memory m l) {p : P} (type : SocketEventType)
    (hnew : ∀ e ∈ m.entries, (memory e.1).fd ≠ (memory p).fd) :
    Represents memory (m.addEvent p (memory p).fd type) (l.addEvent p (memory p).fd type) where
  serverSocket := by
    simp only [Registrations.addEvent, SocketMultiEventListener.addEvent, h.serverSocket]
  contexts := by
    simp [Registrations.addEvent, SocketMultiEventListener.addEvent, h.contexts,
      Registrations.contexts]
  handle := by simp [Registrations.addEvent, SocketMultiEventListener.addEvent, h.handle]
  distinct := by
    simp only [Registrations.addEvent, List.map_append, List.map_cons, List.map_nil]
    apply List.Nodup.append h.distinct (List.nodup_singleton _)
    rw [List.disjoint_singleton]
    intro hmem
    obtain ⟨e, he, hfd⟩ := List.mem_map.mp hmem
    exact hnew e he hfd

theorem eraseP_entries {entries : List (P × SocketEventType)} {p : P}
    (hdistinct : (entries.map fun e => (memory e.1).fd).Nodup)
    (hown : ∀ e ∈ entries, e.1 = p ∨ (memory e.1).fd ≠ (memory p).fd) :
    (entries.map fun e => (⟨(memory e.1).fd, e.2.events⟩ : PollFd)).eraseP
        (fun h => h.fd == (memory p).fd) =
      (entries.filter (·.1 != p)).map fun e => ⟨(memory e.1).fd, e.2.events⟩ := by
  induction entries with
  | nil => rfl
  | cons e rest ih =>
    obtain ⟨hnew, hrest⟩ := List.nodup_cons.mp hdistinct
    by_cases he : e.1 = p
    · -- no other entry has the context
      have hall : rest.filter (·.1 != p) = rest := by
        apply List.filter_eq_self.mpr
        intro e' he'
        rw [bne_iff_ne]
        intro hp
        apply hnew
        have hsame : (memory e'.1).fd = (memory e.1).fd := by rw [he, hp]
        exact List.mem_map.mpr ⟨e', he', hsame⟩
      rw [List.map_cons, List.eraseP_cons_of_pos (by simp [he]),
        List.filter_cons_of_neg (by simp [he]), hall]
    · have hfd := (hown e List.mem_cons_self).resolve_left he
      rw [List.map_cons, List.eraseP_cons_of_neg (by simpa using hfd),
        List.filter_cons_of_pos (by simpa using he), List.map_cons]
      congr 1
      exact ih hrest fun e' he' => hown e' (List.mem_cons_of_mem _ he')

theorem Represents.removeEvent (h : Represents memory m l) {p : P}
    (hown : ∀ e ∈ m.entries, e.1 = p ∨ (memory e.1).fd ≠ (memory p).fd) :
    Represents memory (m.removeEvent p (memory p).fd) (l.removeEvent p (memory p).fd) := by
  have hcontexts : m.contexts.Nodup := by
    refine List.Nodup.of_map (fun q => (memory q).fd) ?_
    rw [Registrations.contexts, List.map_map]
    exact h.distinct
  refine ⟨h.serverSocket, ?_, ?_, ?_⟩
  · simp only [Registrations.removeEvent, SocketMultiEventListener.removeEvent, h.contexts]
    rw [hcontexts.erase_eq_filter, Registrations.contexts, List.filter_map]
    rfl
  · simp only [Registrations.removeEvent, SocketMultiEventListener.removeEvent, h.handle]
    exact eraseP_entries h.distinct hown
  · exact h.distinct.sublist (List.filter_sublist.map _)

theorem Represents.modifyEvent (h : Represents memory m l) {p : P} (type : SocketEventType)
    (hown : ∀ e ∈ m.entries, e.1 = p ∨ (memory e.1).fd ≠ (memory p).fd) :
    Represents memory (m.modifyEvent p (memory p).fd type) (l.modifyEvent p (memory p).fd type) := by
  refine (h.removeEvent hown).addEvent type ?_
  intro e he
  obtain ⟨hmem, hne⟩ := List.mem_filter.mp he
  exact (hown e hmem).resolve_left (by simpa using hne)

/-! ### Waiting -/

omit [DecidableEq P] in
theorem collect_entries {contexts : List P} {polled : List ((P × SocketEventType) × Revents)}
    (hmem : ∀ e ∈ polled, e.1.1 ∈ contexts)
    (hunique : ∀ p ∈ contexts, ∀ q ∈ contexts, (memory p).fd = (memory q).fd → p = q) :
    SocketMultiEventListener.collect (fun p => (memory p).fd) contexts
        (polled.map fun e => (⟨(memory e.1.1).fd, e.1.2.events⟩, e.2)) =
      some ((polled.filter fun e => !e.2.isZero).map fun e =>
        ⟨e.1.1, (memory e.1.1).fd, e.2⟩) := by
  induction polled with
  | nil => rfl
  | cons e rest ih =>
    have hrest := ih fun e' he' => hmem e' (List.mem_cons_of_mem _ he')
    cases hzero : e.2.isZero with
    | true =>
      rw [List.map_cons, SocketMultiEventListener.collect, if_pos hzero, hrest,
        List.filter_cons_of_neg (by simp [hzero])]
    | false =>
      have hself := hmem e List.mem_cons_self
      have hfind : contexts.find? (fun p => (memory p).fd == (memory e.1.1).fd) = some e.1.1 := by
        obtain ⟨q, hq⟩ : ∃ q, contexts.find? (fun p => (memory p).fd == (memory e.1.1).fd) = some q :=
          Option.isSome_iff_exists.mp (List.find?_isSome.mpr ⟨e.1.1, hself, by simp⟩)
        have hfd : (memory q).fd = (memory e.1.1).fd := by simpa using List.find?_some hq
        rw [hq, hunique q (List.mem_of_find?_eq_some hq) e.1.1 hself hfd]
      rw [List.map_cons, SocketMultiEventListener.collect, if_neg (by simp [hzero]), hfind]
      simp only [hrest, Option.map_some]
      rw [List.filter_cons_of_pos (by simp [hzero]), List.map_cons]

omit [DecidableEq P] in
theorem Represents.collect (h : Represents memory m l) (revents : List Revents) :
    SocketMultiEventListener.collect (fun p => (memory p).fd) l.contexts (l.handle.zip revents) =
      some (m.reporting memory revents) := by
  have hzip : l.handle.zip revents = (m.entries.zip revents).map fun e =>
      (⟨(memory e.1.1).fd, e.1.2.events⟩, e.2) := by
    rw [h.handle, List.zip_map_left]
    rfl
  rw [hzip, h.contexts]
  apply collect_entries
  · intro e he
    exact List.mem_map_of_mem (List.of_mem_zip he).1
  · intro p hp q hq hfd
    obtain ⟨e, he, rfl⟩ := List.mem_map.mp hp
    obtain ⟨e', he', rfl⟩ := List.mem_map.mp hq
    rw [List.inj_on_of_nodup_map h.distinct he he' hfd]

theorem fd_foldl_store (serverSocket : Int) (reported : List (Reported P))
    (memory : ContextMemory P) (p : P) :
    (reported.foldl (SocketMultiEventListener.store serverSocket) memory p).fd = (memory p).fd := by
  induction reported generalizing memory with
  | nil => rfl
  | cons e rest ih =>
    rw [List.foldl_cons, ih]
    exact Windows.SocketMultiEventListener.setType_fd memory e.context p _

/-! ### Calls -/

theorem Represents.step (h : Represents memory m l) {call : MultiCall P}
    (hdisciplined : call.disciplined l.contexts memory = true) {m' : Registrations P}
    {outcome : MultiOutcome P}
    (hstep : Registrations.interface.step m memory call = some (m', memory', outcome)) :
    ∃ l', SocketMultiEventListener.interface.step l memory call = some (l', memory', outcome) ∧
      Represents memory' m' l' := by
  rw [h.contexts] at hdisciplined
  cases call with
  | addEvent p type =>
    cases hstep
    refine ⟨_, rfl, h.addEvent type ?_⟩
    simpa [MultiCall.disciplined, Registrations.contexts] using hdisciplined
  | modifyEvent p type =>
    cases hstep
    refine ⟨_, rfl, h.modifyEvent type ?_⟩
    simpa [MultiCall.disciplined, Registrations.contexts] using hdisciplined
  | removeEvent p =>
    cases hstep
    refine ⟨_, rfl, h.removeEvent ?_⟩
    simpa [MultiCall.disciplined, Registrations.contexts] using hdisciplined
  | wait ret =>
    cases ret with
    | timeout =>
      cases hstep
      exact ⟨l, rfl, h⟩
    | error =>
      cases hstep
      exact ⟨l, rfl, h⟩
    | ready revents =>
      cases hstep
      refine ⟨l, ?_, h.congr fun e _ => fd_foldl_store _ _ _ _⟩
      simp only [ListenerInterface.step, SocketMultiEventListener.interface,
        SocketMultiEventListener.wait, h.collect revents, h.serverSocket, Option.map_some]
  | setFd p fd =>
    cases hstep
    refine ⟨l, rfl, h.congr fun e he => ?_⟩
    have hall : ∀ e ∈ m.entries, e.1 = p → (memory p).fd = fd := by
      simpa [MultiCall.disciplined, Registrations.contexts, or_iff_not_imp_left] using hdisciplined
    by_cases hp : e.1 = p
    · rw [hp, Function.update_self]
      exact (hall e he hp).symm
    · rw [Function.update_of_ne hp]

theorem Represents.run (h : Represents memory m l) {calls : List (MultiCall P)}
    (hmeets : Meets Registrations.interface.next
      (fun s call => call.disciplined s.1.contexts s.2 = true) (m, memory) calls) :
    ∃ outcomes, Registrations.interface.run m memory calls = some outcomes ∧
      SocketMultiEventListener.interface.run l memory calls = some outcomes := by
  induction calls generalizing m memory l with
  | nil => exact ⟨[], rfl, rfl⟩
  | cons call calls ih =>
    obtain ⟨m', memory', outcome, hstep⟩ := Registrations.exists_step m memory call
    obtain ⟨l', hstep', h'⟩ := h.step (h.contexts ▸ hmeets.1) hstep
    obtain ⟨outcomes, hrun, hrun'⟩ := ih h' (hmeets.2 (m', memory') (by
      simp only [ListenerInterface.next, hstep, Option.map_some]))
    refine ⟨outcome :: outcomes, ?_, ?_⟩
    · simp only [ListenerInterface.run, hstep, hrun, Option.map_some]
    · simp only [ListenerInterface.run, hstep', hrun', Option.map_some]

/-! ### Undisciplined calls -/

/-- The vectors of the listener are those of some table. -/
def Represented (memory : ContextMemory P) (l : SocketMultiEventListener P) : Prop :=
  ∃ m, Represents memory m l

omit [DecidableEq P] in
theorem Represents.fds (h : Represents memory m l) :
    l.fds = l.contexts.map fun p => (memory p).fd := by
  simp [SocketMultiEventListener.fds, h.handle, h.contexts, Registrations.contexts,
    Function.comp_def]

omit [DecidableEq P] in
theorem Represents.nodup (h : Represents memory m l) :
    (l.contexts.map fun p => (memory p).fd).Nodup := by
  rw [h.contexts, Registrations.contexts, List.map_map]
  exact h.distinct

/-- Taking off a context with the descriptor of another one takes off only one of two entries. -/
theorem Represents.removed_iff (h : Represents memory m l) (p : P) :
    (l.removeEvent p (memory p).fd).fds.length = (l.removeEvent p (memory p).fd).contexts.length ↔
      ∀ q ∈ l.contexts, q = p ∨ (memory q).fd ≠ (memory p).fd := by
  have hlength : l.fds.length = l.contexts.length := by
    rw [h.fds, List.length_map]
  have hcontexts : (l.removeEvent p (memory p).fd).contexts = l.contexts.erase p := rfl
  rw [SocketMultiEventListener.fds_removeEvent, hcontexts]
  by_cases hp : p ∈ l.contexts
  · have hfd : (memory p).fd ∈ l.fds := by
      rw [h.fds]
      exact List.mem_map_of_mem hp
    refine iff_of_true ?_ fun q hq => ?_
    · rw [List.length_erase_of_mem hfd, List.length_erase_of_mem hp, hlength]
    · by_cases hsame : (memory q).fd = (memory p).fd
      · exact .inl (List.inj_on_of_nodup_map h.nodup hq hp hsame)
      · exact .inr hsame
  · rw [List.erase_of_not_mem hp, ← hlength]
    constructor
    · intro hsame q hq
      refine .inr fun hfd => ?_
      have hmem : (memory p).fd ∈ l.fds := by
        rw [h.fds, ← hfd]
        exact List.mem_map_of_mem hq
      have hpos := List.length_pos_of_mem hmem
      rw [List.length_erase_of_mem hmem] at hsame
      omega
    · intro hown
      have hnot : (memory p).fd ∉ l.fds := by
        rw [h.fds]
        intro hmem
        obtain ⟨q, hq, hfd⟩ := List.mem_map.mp hmem
        rcases hown q hq with rfl | hne
        · exact hp hq
        · exact hne hfd
      rw [List.erase_of_not_mem hnot]

/-- **Step lemma, the other way.**  After a call that is not disciplined the vectors are no table. -/
theorem Represents.disciplined (h : Represents memory m l) {call : MultiCall P}
    {l' : SocketMultiEventListener P} {outcome : MultiOutcome P}
    (hstep : SocketMultiEventListener.interface.step l memory call = some (l', memory', outcome))
    (h' : Represented memory' l') : call.disciplined l.contexts memory = true := by
  obtain ⟨m', h'⟩ := h'
  have hlength : l'.fds.length = l'.contexts.length := by
    rw [h'.fds, List.length_map]
  cases call with
  | wait ret => rfl
  | addEvent p type =>
    cases hstep
    have hnodup : ((l.contexts ++ [p]).map fun q => (memory q).fd).Nodup := h'.nodup
    rw [List.map_append, List.nodup_append] at hnodup
    simp only [MultiCall.disciplined, List.all_eq_true, bne_iff_ne]
    intro q hq
    exact hnodup.2.2 _ (List.mem_map_of_mem hq) _ (by simp)
  | removeEvent p =>
    cases hstep
    simpa [MultiCall.disciplined] using (h.removed_iff p).mp hlength
  | modifyEvent p type =>
    cases hstep
    have hremoved : (l.removeEvent p (memory p).fd).fds.length =
        (l.removeEvent p (memory p).fd).contexts.length := by
      have hadded : ((l.removeEvent p (memory p).fd).addEvent p (memory p).fd type).fds.length =
        ((l.removeEvent p (memory p).fd).addEvent p (memory p).fd type).contexts.length := hlength
      rw [SocketMultiEventListener.fds_addEvent] at hadded
      simpa [SocketMultiEventListener.addEvent] using hadded
    simpa [MultiCall.disciplined] using (h.removed_iff p).mp hremoved
  | setFd p fd =>
    cases hstep
    have hfds := h.fds.symm.trans h'.fds
    simp only [MultiCall.disciplined, List.all_eq_true, Bool.or_eq_true, bne_iff_ne, beq_iff_eq]
    intro q hq
    by_cases hp : q = p
    · subst hp
      have hsame := List.map_inj_left.mp hfds q hq
      rw [Function.update_self] at hsame
      exact .inr hsame
    · exact .inl hp

/-- **Exact condition.**  In every run of a new listener the two vectors are the columns of one table all
    along if and only if every call is disciplined. -/
theorem represented_iff_disciplined (memory : ContextMemory P) {calls : List (MultiCall P)}
    {s : SocketMultiEventListener P × ContextMemory P}
    (hexec : exec SocketMultiEventListener.interface.next ({}, memory) calls = some s) :
    Always SocketMultiEventListener.interface.next (fun s => Represented s.2 s.1) ({}, memory) calls ↔
      Meets SocketMultiEventListener.interface.next
        (fun s call => call.disciplined s.1.contexts s.2 = true) ({}, memory) calls := by
  refine always_iff_meets (I := fun _ => True) (fun _ _ _ _ _ => trivial) ?_ hexec trivial
    ⟨{}, represents_nil memory⟩
  rintro ⟨l, memory⟩ call ⟨l', memory'⟩ - ⟨m, h⟩ hnext
  obtain ⟨⟨l'', memory'', outcome⟩, hstep, heq⟩ := Option.map_eq_some_iff.mp hnext
  cases heq
  refine ⟨fun h' => h.disciplined hstep h', fun hdisciplined => ?_⟩
  obtain ⟨m', memory₁, outcome', htable⟩ := Registrations.exists_step m memory call
  obtain ⟨l₁, hstep', h'⟩ := h.step hdisciplined htable
  rw [hstep, Option.some.injEq, Prod.mk.injEq, Prod.mk.injEq] at hstep'
  obtain ⟨rfl, rfl, -⟩ := hstep'
  exact ⟨m', h'⟩

def twoDescriptors : ContextMemory ContextPtr
  | .server => { fd := 3 }
  | .peer id => { fd := 4 + id % 2 }

/-- A client is taken off a second time after another one has got its descriptor. -/
def staleRemoval : List (MultiCall ContextPtr) :=
  [.addEvent .server .accept, .addEvent (.peer 0) .read, .removeEvent (.peer 0),
    .addEvent (.peer 2) .read, .removeEvent (.peer 0)]

theorem represented_iff_staleRemoval :
    ∃ s, exec SocketMultiEventListener.interface.next ({}, twoDescriptors) staleRemoval = some s ∧
      s.1.contexts = [.server, .peer 2] ∧ s.1.fds = [3] ∧
      ¬ Always SocketMultiEventListener.interface.next (fun s => Represented s.2 s.1)
        ({}, twoDescriptors) staleRemoval := by
  refine ⟨_, rfl, rfl, rfl, ?_⟩
  rw [represented_iff_disciplined twoDescriptors rfl]
  decide

/-! ### The table -/

/-- **The listener is a table.**  Whatever calls a listener gets and whatever `poll` returns to them, as
    long as the calls are disciplined, each call of `wait` returns the contexts that are registered and
    report something, in the order of their registration, with the types of their own flags; no
    null pointer is dereferenced.  That holds for the listeners of both systems. -/
theorem run_of_disciplined (memory : ContextMemory P) {calls : List (MultiCall P)}
    (hmeets : Meets Registrations.interface.next
      (fun s call => call.disciplined s.1.contexts s.2 = true) ({}, memory) calls) :
    ∃ outcomes, Registrations.interface.run {} memory calls = some outcomes ∧
      SocketMultiEventListener.interface.run {} memory calls = some outcomes ∧
      Windows.SocketMultiEventListener.interface.run {} memory calls = some outcomes := by
  obtain ⟨outcomes, hrun, hrun'⟩ := (represents_nil memory).run hmeets
  refine ⟨outcomes, hrun, hrun', ?_⟩
  rw [← hrun']
  exact Windows.SocketMultiEventListener.simulates.run {} memory calls

def writingMeanwhile : List (MultiCall ContextPtr) :=
  [.addEvent .server .accept, .addEvent (.peer 0) .read, .addEvent (.peer 1) .read,
    .modifyEvent (.peer 0) .write,
    .wait (.ready [{}, { pollin := true }, { pollout := true }]),
    .removeEvent (.peer 1), .setFd (.peer 1) 7, .wait (.ready [{}, { pollhup := true }])]

theorem run_writingMeanwhile :
    Registrations.interface.run {} twoDescriptors writingMeanwhile = some
      [{}, {}, {}, {}, ⟨.success, [(.peer 1, .read), (.peer 0, .write)]⟩, {}, {},
        ⟨.success, [(.peer 0, .disconnected)]⟩] ∧
      ∃ outcomes, Registrations.interface.run {} twoDescriptors writingMeanwhile = some outcomes ∧
        SocketMultiEventListener.interface.run {} twoDescriptors writingMeanwhile = some outcomes ∧
        Windows.SocketMultiEventListener.interface.run {} twoDescriptors writingMeanwhile =
          some outcomes :=
  ⟨by decide, run_of_disciplined twoDescriptors (by decide)⟩

/-! ### The request server -/

namespace RequestServer

variable {s : RequestServer}

def contextMemory (s : RequestServer) : ContextMemory ContextPtr := fun p => { fd := s.fdOf p }

/-- What the server has registered: each context with what it has to be polled for. -/
def registrations (s : RequestServer) : Registrations ContextPtr where
  serverSocket := s.serverContext.fd
  entries := s.listener.contexts.map fun p => (p, s.interestOf p)

/-- The listener of the request server is that table. -/
theorem Wired.represents (hwired : Wired s) (h : Inv s) :
    Represents s.contextMemory s.registrations s.listener where
  serverSocket := h.serverSocket
  contexts := by
    rw [Registrations.contexts, registrations, List.map_map]
    exact (List.map_id _).symm
  handle := by
    rw [hwired, registrations, List.map_map]
    rfl
  distinct := by
    rw [registrations, List.map_map]
    have hnodup : (s.listener.contextFds s.fdOf).Nodup := h.paired ▸ h.nodup_fds
    exact hnodup

end RequestServer

end SecuritySocket
