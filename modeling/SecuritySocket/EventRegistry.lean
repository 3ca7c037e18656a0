import SecuritySocket.SocketEvent
import Mathlib.Data.List.Nodup

/-!
# The two vectors of a listener

`SocketMultiEventListener` removes a `pollfd` by its descriptor and a context by its
address.  The lemmas here say what that does to the descriptors of the two vectors, and
what `wait` finds in them; the servers' invariants are stated in these terms.
-/

namespace SecuritySocket.SocketMultiEventListener

variable {P : Type} {l : SocketMultiEventListener P} {fdOf : P → Int}

def fds (l : SocketMultiEventListener P) : List Int := l.handle.map (·.fd)

def contextFds (fdOf : P → Int) (l : SocketMultiEventListener P) : List Int :=
  l.contexts.map fdOf

/-! ### Registering -/

theorem fds_addEvent (l : SocketMultiEventListener P) (p : P) (fd : Int)
    (type : SocketEventType) : (l.addEvent p fd type).fds = l.fds ++ [fd] := by
  simp [fds, addEvent]

theorem contextFds_addEvent (l : SocketMultiEventListener P) (p : P) (fd : Int)
    (type : SocketEventType) :
    (l.addEvent p fd type).contextFds fdOf = l.contextFds fdOf ++ [fdOf p] := by
  simp [contextFds, addEvent]

theorem nodup_contexts_addEvent {p : P} {fd : Int} {type : SocketEventType}
    (hnodup : l.contexts.Nodup) (hnew : p ∉ l.contexts) :
    (l.addEvent p fd type).contexts.Nodup := by
  simpa [addEvent, List.nodup_append, hnodup] using fun q hq (hqp : q = p) => hnew (hqp ▸ hq)

section Removal

variable [DecidableEq P]

theorem fds_removeEvent (l : SocketMultiEventListener P) (p : P) (fd : Int) :
    (l.removeEvent p fd).fds = l.fds.erase fd := by
  rw [fds, fds, List.erase_eq_eraseP', List.eraseP_map]
  rfl

theorem map_erase_of_unique {contexts : List P} {p : P}
    (hunique : ∀ q ∈ contexts, fdOf q = fdOf p → q = p) :
    (contexts.erase p).map fdOf = (contexts.map fdOf).erase (fdOf p) := by
  induction contexts with
  | nil => rfl
  | cons q rest ih =>
    by_cases hq : q = p
    · subst hq; simp
    · have hfd : fdOf q ≠ fdOf p := fun h => hq (hunique q (by simp) h)
      rw [List.erase_cons_tail (by simpa using hq), List.map_cons, List.map_cons,
        List.erase_cons_tail (by simpa using hfd), ih fun r hr => hunique r (by simp [hr])]

/-- A context whose descriptor no other registered one has takes its descriptor along. -/
theorem contextFds_removeEvent {p : P} {fd : Int}
    (hunique : ∀ q ∈ l.contexts, fdOf q = fdOf p → q = p) :
    (l.removeEvent p fd).contextFds fdOf = (l.contextFds fdOf).erase (fdOf p) :=
  map_erase_of_unique hunique

theorem eraseP_map_of_unique {contexts : List P} {pollFd : P → PollFd} {p : P}
    (hunique : ∀ q ∈ contexts, (pollFd q).fd = (pollFd p).fd → q = p) :
    (contexts.map pollFd).eraseP (fun h => h.fd == (pollFd p).fd) =
      (contexts.erase p).map pollFd := by
  induction contexts with
  | nil => rfl
  | cons q rest ih =>
    by_cases hq : q = p
    · subst hq; simp
    · have hfd : ¬ (pollFd q).fd = (pollFd p).fd := fun h => hq (hunique q (by simp) h)
      rw [List.erase_cons_tail (by simpa using hq), List.map_cons, List.map_cons,
        List.eraseP_cons_of_neg (by simpa using hfd), ih fun r hr => hunique r (by simp [hr])]

/-- As long as each `pollfd` is made from its context, removing one takes the two entries of
    the same context. -/
theorem handle_removeEvent {pollFd : P → PollFd} {p : P} (hhandle : l.handle = l.contexts.map pollFd)
    (hunique : ∀ q ∈ l.contexts, (pollFd q).fd = (pollFd p).fd → q = p) :
    (l.removeEvent p (pollFd p).fd).handle =
      (l.removeEvent p (pollFd p).fd).contexts.map pollFd := by
  simp only [removeEvent, hhandle]
  exact eraseP_map_of_unique hunique

theorem fds_modifyEvent (l : SocketMultiEventListener P) (p : P) (fd : Int)
    (type : SocketEventType) : (l.modifyEvent p fd type).fds = l.fds.erase fd ++ [fd] := by
  rw [modifyEvent, fds_addEvent, fds_removeEvent]

theorem contextFds_modifyEvent {p : P} {fd : Int} (type : SocketEventType)
    (hunique : ∀ q ∈ l.contexts, fdOf q = fdOf p → q = p) :
    (l.modifyEvent p fd type).contextFds fdOf =
      (l.contextFds fdOf).erase (fdOf p) ++ [fdOf p] := by
  rw [modifyEvent, contextFds_addEvent, contextFds_removeEvent hunique]

theorem mem_contexts_modifyEvent {p q : P} {fd : Int} {type : SocketEventType}
    (hmem : p ∈ l.contexts) : q ∈ (l.modifyEvent p fd type).contexts ↔ q ∈ l.contexts := by
  by_cases hq : q = p
  · subst hq; simp [modifyEvent, addEvent, hmem]
  · simp [modifyEvent, addEvent, removeEvent, hq, List.mem_erase_of_ne]

theorem nodup_contexts_modifyEvent {p : P} {fd : Int} {type : SocketEventType}
    (hnodup : l.contexts.Nodup) : (l.modifyEvent p fd type).contexts.Nodup :=
  nodup_contexts_addEvent (hnodup.erase p) (by simp [removeEvent, hnodup.mem_erase_iff])

end Removal

/-! ### Waiting -/

def reports (polled : List (PollFd × Revents)) : List (Int × Revents) :=
  (polled.filter fun p => !p.2.isZero).map fun p => (p.1.fd, p.2)

theorem mem_reports {polled : List (PollFd × Revents)} {fd : Int} {revents : Revents} :
    (fd, revents) ∈ reports polled ↔
      ∃ entry ∈ polled, entry.2.isZero = false ∧ entry.1.fd = fd ∧ entry.2 = revents := by
  simp only [reports, List.mem_map, List.mem_filter, Bool.not_eq_eq_eq_not, Bool.not_true,
    Prod.mk.injEq, and_assoc]

/-- What `wait` collects are the reporting entries, each with a registered context that has
    its descriptor. -/
theorem collect_reports {contexts : List P} {polled : List (PollFd × Revents)}
    {reported : List (Reported P)} (h : collect fdOf contexts polled = some reported) :
    reported.map (fun e => (e.fd, e.revents)) = reports polled ∧
      ∀ e ∈ reported, e.context ∈ contexts ∧ fdOf e.context = e.fd := by
  induction polled generalizing reported with
  | nil =>
    cases h
    exact ⟨rfl, by simp⟩
  | cons entry rest ih =>
    obtain ⟨handle, revents⟩ := entry
    rw [collect] at h
    by_cases hzero : revents.isZero
    · rw [if_pos hzero] at h
      simpa [reports, hzero] using ih h
    · rw [if_neg hzero] at h
      cases hfind : contexts.find? fun c => fdOf c == handle.fd with
      | none => simp [hfind] at h
      | some c =>
        simp only [hfind] at h
        obtain ⟨others, hothers, rfl⟩ := Option.map_eq_some_iff.mp h
        obtain ⟨hmap, hmem⟩ := ih hothers
        refine ⟨by simpa [reports, hzero] using hmap, ?_⟩
        intro e he
        rcases List.mem_cons.mp he with rfl | he
        · exact ⟨List.mem_of_find?_eq_some hfind, by simpa using List.find?_some hfind⟩
        · exact hmem e he

theorem exists_reporting {contexts : List P} {polled : List (PollFd × Revents)}
    {reported : List (Reported P)} (h : collect fdOf contexts polled = some reported)
    {e : Reported P} (he : e ∈ reported) :
    ∃ entry ∈ polled, entry.2.isZero = false ∧ entry.1.fd = e.fd ∧ entry.2 = e.revents := by
  rw [← mem_reports, ← (collect_reports h).1]
  exact List.mem_map_of_mem he

theorem exists_collected {contexts : List P} {polled : List (PollFd × Revents)}
    {reported : List (Reported P)} (h : collect fdOf contexts polled = some reported)
    {entry : PollFd × Revents} (hentry : entry ∈ polled) (hzero : entry.2.isZero = false) :
    ∃ e ∈ reported, e.fd = entry.1.fd ∧ e.revents = entry.2 := by
  have hreport : (entry.1.fd, entry.2) ∈ reported.map fun e => (e.fd, e.revents) := by
    rw [(collect_reports h).1]
    exact mem_reports.mpr ⟨entry, hentry, hzero, rfl, rfl⟩
  obtain ⟨e, he, heq⟩ := List.mem_map.mp hreport
  exact ⟨e, he, Prod.mk.inj heq⟩

/-- `wait` finds a context for every entry as long as every polled descriptor is one of a
    registered context. -/
theorem exists_collect {contexts : List P} {polled : List (PollFd × Revents)}
    (h : ∀ entry ∈ polled, entry.1.fd ∈ contexts.map fdOf) :
    ∃ reported, collect fdOf contexts polled = some reported := by
  induction polled with
  | nil => exact ⟨[], rfl⟩
  | cons entry rest ih =>
    obtain ⟨handle, revents⟩ := entry
    obtain ⟨others, hothers⟩ := ih fun e he => h e (by simp [he])
    by_cases hzero : revents.isZero
    · exact ⟨others, by rw [collect, if_pos hzero, hothers]⟩
    · obtain ⟨c, hc, hfd⟩ := List.mem_map.mp (h _ List.mem_cons_self)
      have hsome : (contexts.find? fun c => fdOf c == handle.fd).isSome :=
        List.find?_isSome.mpr ⟨c, hc, by simpa using hfd⟩
      obtain ⟨found, hfound⟩ := Option.isSome_iff_exists.mp hsome
      exact ⟨⟨found, handle.fd, revents⟩ :: others, by
        rw [collect, if_neg hzero]; simp [hfound, hothers]⟩

theorem reports_fst_sublist (handle : List PollFd) (revents : List Revents) :
    ((reports (handle.zip revents)).map (·.1)).Sublist (handle.map (·.fd)) := by
  induction handle generalizing revents with
  | nil => simp [reports]
  | cons h rest ih =>
    cases revents with
    | nil => simp [reports]
    | cons r revents =>
      have hrest := ih revents
      cases hzero : r.isZero with
      | true => simpa [reports, hzero] using hrest.cons h.fd
      | false => simpa [reports, hzero] using hrest.cons_cons h.fd

theorem polled_unique {handle : List PollFd} {revents : List Revents}
    (hnodup : (handle.map (·.fd)).Nodup) {e e' : PollFd × Revents}
    (he : e ∈ handle.zip revents) (he' : e' ∈ handle.zip revents) (hfd : e.1.fd = e'.1.fd) :
    e = e' := by
  induction handle generalizing revents with
  | nil => simp at he
  | cons h rest ih =>
    obtain ⟨hfresh, hrest⟩ := List.nodup_cons.mp hnodup
    have hnot : ∀ entry ∈ rest.zip revents.tail, entry.1.fd ≠ h.fd := by
      intro entry hentry heq
      exact hfresh (List.mem_map.mpr ⟨entry.1, (List.of_mem_zip hentry).1, heq⟩)
    cases revents with
    | nil => simp at he
    | cons r revents =>
      rw [List.zip_cons_cons, List.mem_cons] at he he'
      rcases he with rfl | he <;> rcases he' with rfl | he'
      · rfl
      · exact absurd hfd.symm (hnot e' he')
      · exact absurd hfd (hnot e he)
      · exact ih hrest he he'

/-- No context is collected twice when no descriptor is polled twice. -/
theorem nodup_collected {contexts : List P} {handle : List PollFd} {revents : List Revents}
    {reported : List (Reported P)} (hnodup : (handle.map (·.fd)).Nodup)
    (h : collect fdOf contexts (handle.zip revents) = some reported) :
    (reported.map (·.context)).Nodup := by
  obtain ⟨hmap, hmem⟩ := collect_reports h
  have hfds : (reported.map (·.context)).map fdOf = (reports (handle.zip revents)).map (·.1) := by
    rw [← hmap, List.map_map, List.map_map]
    exact List.map_congr_left fun e he => (hmem e he).2
  refine List.Nodup.of_map fdOf ?_
  rw [hfds]
  exact hnodup.sublist (reports_fst_sublist handle revents)

/-! ### The event type -/

/-- A reporting entry is disconnected exactly when a hangup flag is set. -/
theorem eventType_eq_disconnected {serverSocket fd : Int} {r : Revents} {old : SocketEventType}
    (h : r.isZero = false) :
    eventType serverSocket fd r old = .disconnected ↔ r.hangup := by
  cases hhangup : r.hangup with
  | true =>
    rw [Revents.hangup] at hhangup
    simp [eventType, hhangup]
  | false =>
    simp only [Revents.isZero, hhangup, Bool.or_false, Bool.not_eq_eq_eq_not, Bool.not_false,
      Bool.or_eq_true] at h
    rw [Revents.hangup] at hhangup
    simp only [eventType, hhangup, Bool.false_eq_true, if_false, iff_false]
    rcases h with h | h
    · simp only [h, if_true]; split <;> simp
    · simp only [h, if_true]; split <;> [simp; (split <;> simp)]

theorem eventType_eq_read {serverSocket fd : Int} {r : Revents} {old : SocketEventType}
    (hzero : r.isZero = false) (h : eventType serverSocket fd r old = .read) :
    r.pollin = true ∧ serverSocket ≠ fd := by
  simp only [eventType] at h
  split at h
  · cases h
  · split at h
    · cases h
    · rename_i hnot hserver
      split at h
      · rename_i hin
        exact ⟨hin, fun heq => hserver (by simp [heq, hin])⟩
      · split at h
        · cases h
        · rename_i hin hout
          simp_all [Revents.isZero, Revents.hangup]

theorem eventType_eq_write {serverSocket fd : Int} {r : Revents} {old : SocketEventType}
    (hzero : r.isZero = false) (h : eventType serverSocket fd r old = .write) :
    r.pollout = true := by
  simp only [eventType] at h
  split at h
  · cases h
  · split at h
    · cases h
    · split at h
      · cases h
      · rename_i hnot hserver hin
        simp_all [Revents.isZero, Revents.hangup]

end SecuritySocket.SocketMultiEventListener
