import SecuritySocket.SocketBroadcastWrite
import Mathlib.Algebra.GroupWithZero.Nat
import Mathlib.Data.List.Induction

/-!
# What the result of a broadcast write says

A client's loop ends in one of three ways: all bytes accepted, a poll or a `send` that
failed, or the retries used up.  Only the second leaves a code other than `SUCCESS`, and
only the last client's code is returned.
-/

namespace SecuritySocket.BroadcastServer

open FixedWidth Transition

variable {maxRetries size : Nat}

/-! ### The rounds of a client -/

namespace ClientRound

def accepted (round : ClientRound) : Nat :=
  if (SocketEventListener.wait round.poll).code = .success then round.send.count else 0

def timesOut (round : ClientRound) : Bool :=
  (SocketEventListener.wait round.poll).code == .socketTimeout

/-- The poll fails, or it succeeds and the `send` fails. -/
def fails (round : ClientRound) : Bool :=
  let code := (SocketEventListener.wait round.poll).code
  (code != .success && code != .socketTimeout) ||
    (code == .success && (ServerActiveSocket.write round.send).code != .success)

end ClientRound

def accepted (rounds : List ClientRound) : Nat := (rounds.map ClientRound.accepted).sum

def failed (rounds : List ClientRound) : Bool := rounds.any ClientRound.fails

def timeouts (rounds : List ClientRound) : Nat := rounds.countP ClientRound.timesOut

/-! ### One iteration -/

/-- What one iteration can do to the loop. -/
inductive ClientMove (size : Nat) (l : ClientLoop) (round : ClientRound) : ClientLoop → Prop where
  | timedOut (htimeout : round.timesOut) (hfails : round.fails = false)
      (haccepted : round.accepted = 0) : ClientMove size l round { l with i := l.i + 1 }
  | stopped {code : SocketCode} (hcode : code ≠ .success) (htimeout : round.timesOut = false)
      (hfails : round.fails) (haccepted : round.accepted = 0) :
      ClientMove size l round (l.stop code)
  | part (htimeout : round.timesOut = false) (hfails : round.fails = false)
      (hlt : l.writtenSize + round.accepted < size) :
      ClientMove size l round { l with writtenSize := l.writtenSize + round.accepted }
  | done (htimeout : round.timesOut = false) (hfails : round.fails = false)
      (hfull : l.writtenSize + round.accepted = size) :
      ClientMove size l round ({ l with writtenSize := size }.stop .success)

theorem polled_cases (l : ClientLoop) (r : PollReturn) :
    let code := (SocketEventListener.wait r).code
    (code = .socketTimeout ∧ l.polled r = ({ l with i := l.i + 1 }, false)) ∨
      (code = .success ∧ l.polled r = (l, true)) ∨
      (code ≠ .socketTimeout ∧ code ≠ .success ∧ l.polled r = (l.stop code, false)) := by
  unfold ClientLoop.polled
  dsimp only
  split
  · rename_i hcode
    exact .inl ⟨hcode, rfl⟩
  · rename_i hcode
    exact .inr (.inr (by simp [hcode]))
  · rename_i hcode
    exact .inr (.inl ⟨hcode, rfl⟩)
  · rename_i _ htimeout _ hsuccess
    exact .inr (.inr ⟨htimeout, hsuccess, rfl⟩)

theorem sent_of_failed {l : ClientLoop} {r : SendReturn}
    (hcode : (ServerActiveSocket.write r).code ≠ .success) :
    l.sent size r = l.stop (ServerActiveSocket.write r).code := by
  unfold ClientLoop.sent
  split
  · rename_i htimeout
    exact absurd htimeout (SendReturn.result_code_ne_timeout r)
  · rename_i hclosed
    rw [hclosed]
  · rename_i hsuccess
    exact absurd hsuccess hcode
  · rfl

/-- A `send` that fits either fails, accepting nothing, or moves the loop on by what it
    accepted. -/
theorem sent_cases {l : ClientLoop} {r : SendReturn} (hsize : size < 2 ^ 64)
    (hlt : l.writtenSize < size)
    (hfits : r.fits (ServerActiveSocket.sendLength (l.remaining size))) :
    let code := (ServerActiveSocket.write r).code
    (code ≠ .success ∧ r.count = 0 ∧ l.sent size r = l.stop code) ∨
      (code = .success ∧ l.writtenSize + r.count < size ∧
        l.sent size r = { l with writtenSize := l.writtenSize + r.count }) ∨
      (code = .success ∧ l.writtenSize + r.count = size ∧
        l.sent size r = { l with writtenSize := size }.stop .success) := by
  have hremaining : l.remaining size = size - l.writtenSize :=
    sizeSub_eq (Nat.le_of_lt hlt) hsize
  rw [ServerActiveSocket.sendLength, hremaining] at hfits
  have hcount := SendReturn.count_le_of_fits hfits
  have hsuccess := SendReturn.result_code_eq_success_of_fits hfits
  by_cases hcode : r.result.code = .success
  · have hbytes : r.result.bytes = r.count := by
      refine (SendReturn.result_bytes_of_fits hfits).resolve_left ?_
      rintro ⟨_, hzero⟩
      have := hsuccess.mp hcode
      omega
    have hadd : sizeAdd l.writtenSize (toSize r.result.bytes) = l.writtenSize + r.count := by
      rw [hbytes, toSize_natCast (by omega), sizeAdd_eq (by omega)]
    have hsent : l.sent size r = if size ≤ l.writtenSize + r.count then
        { l with writtenSize := l.writtenSize + r.count }.stop .success
      else { l with writtenSize := l.writtenSize + r.count } := by
      simp only [ClientLoop.sent, ServerActiveSocket.write, hcode, hadd]
    by_cases hfull : l.writtenSize + r.count = size
    · exact .inr (.inr ⟨hcode, hfull, by rw [hsent, if_pos (by omega), hfull]⟩)
    · exact .inr (.inl ⟨hcode, by omega, by rw [hsent, if_neg (by omega)]⟩)
  · refine .inl ⟨hcode, ?_, sent_of_failed hcode⟩
    by_contra hzero
    exact hcode (hsuccess.mpr (by omega))

theorem clientStep_cases {l l' : ClientLoop} {round : ClientRound} (hsize : size < 2 ^ 64)
    (hlt : l.writtenSize < size) (h : clientStep maxRetries size l round = some l') :
    l.running maxRetries = true ∧ ClientMove size l round l' := by
  unfold clientStep at h
  split at h
  · rename_i hrunning
    refine ⟨hrunning, ?_⟩
    rcases polled_cases l round.poll with ⟨hcode, hpolled⟩ | ⟨hcode, hpolled⟩ |
      ⟨htimeout, hsuccess, hpolled⟩
    · rw [hpolled] at h
      cases h
      exact .timedOut (by simp [ClientRound.timesOut, hcode]) (by simp [ClientRound.fails, hcode])
        (by simp [ClientRound.accepted, hcode])
    · rw [hpolled] at h
      dsimp only at h
      have htimeout : round.timesOut = false := by simp [ClientRound.timesOut, hcode]
      have haccepted : round.accepted = round.send.count := by simp [ClientRound.accepted, hcode]
      split at h
      · rename_i hfits
        cases h
        rcases sent_cases hsize hlt hfits with ⟨hfail, hzero, hsent⟩ | ⟨hok, hpart, hsent⟩ |
          ⟨hok, hfull, hsent⟩
        · rw [hsent]
          exact .stopped hfail htimeout (by simp [ClientRound.fails, hcode, hfail])
            (haccepted.trans hzero)
        · rw [hsent, ← haccepted]
          exact .part htimeout (by simp [ClientRound.fails, hcode, hok]) (haccepted ▸ hpart)
        · rw [hsent]
          exact .done htimeout (by simp [ClientRound.fails, hcode, hok]) (haccepted ▸ hfull)
      · cases h
    · rw [hpolled] at h
      cases h
      exact .stopped hsuccess (by simp [ClientRound.timesOut, htimeout])
        (by simp [ClientRound.fails, htimeout, hsuccess])
        (by simp [ClientRound.accepted, hsuccess])
  · cases h

/-! ### A client's loop -/

/-- What the loop for one client has done after `rounds`. -/
structure ClientRun (maxRetries size : Nat) (rounds : List ClientRound) (l : ClientLoop) :
    Prop where
  written : l.writtenSize = accepted rounds
  retries : l.i = timeouts rounds
  within : l.i ≤ maxRetries
  open_ : l.broken = false → failed rounds = false ∧ l.writtenSize < size ∧
    l.result.code = .success
  success : l.broken = true → l.result.code = .success →
    failed rounds = false ∧ l.writtenSize = size ∧ l.i < maxRetries
  failure : l.broken = true → l.result.code ≠ .success → failed rounds = true ∧ l.writtenSize < size

theorem clientRun_nil (hsize : 1 ≤ size) : ClientRun maxRetries size [] {} := by
  constructor <;> simp [accepted, timeouts, failed]
  exact hsize

theorem ClientRun.step {rounds : List ClientRound} {l l' : ClientLoop} {round : ClientRound}
    (hsize : size < 2 ^ 64) (h : ClientRun maxRetries size rounds l)
    (hstep : clientStep maxRetries size l round = some l') :
    ClientRun maxRetries size (rounds ++ [round]) l' := by
  have hrunning : l.running maxRetries = true := by
    by_contra hnot
    simp [clientStep, hnot] at hstep
  simp only [ClientLoop.running, Bool.and_eq_true, Bool.not_eq_true', decide_eq_true_eq] at hrunning
  obtain ⟨hbroken, hleft⟩ := hrunning
  obtain ⟨hfailed, hlt, hcode⟩ := h.open_ hbroken
  have haccepted : accepted (rounds ++ [round]) = accepted rounds + round.accepted := by
    simp [accepted]
  have htimeouts : timeouts (rounds ++ [round]) =
      timeouts rounds + if round.timesOut then 1 else 0 := by
    simp [timeouts, List.countP_append, List.countP_singleton]
  have hfails : failed (rounds ++ [round]) = round.fails := by
    simp [failed, show rounds.any ClientRound.fails = false from hfailed]
  have hwritten := h.written
  have hretries := h.retries
  cases (clientStep_cases hsize hlt hstep).2 with
  | timedOut htimeout hok hzero =>
    constructor <;> simp [haccepted, htimeouts, hfails, htimeout, hok, hzero, hwritten, hretries,
      hbroken, hcode] <;> omega
  | stopped hne htimeout hfail hzero =>
    constructor <;> simp [ClientLoop.stop, haccepted, htimeouts, hfails, htimeout, hfail, hzero,
      hwritten, hretries, hne] <;> omega
  | part htimeout hok hpart =>
    constructor <;> simp [haccepted, htimeouts, hfails, htimeout, hok, hwritten, hretries,
      hbroken, hcode] <;> omega
  | done htimeout hok hfull =>
    constructor <;> simp [ClientLoop.stop, haccepted, htimeouts, hfails, htimeout, hok, ← hwritten,
      hretries, hfull] <;> omega

theorem clientRun_of_exec {rounds : List ClientRound} {l : ClientLoop} (hpos : 1 ≤ size)
    (hsize : size < 2 ^ 64) (h : exec (clientStep maxRetries size) {} rounds = some l) :
    ClientRun maxRetries size rounds l := by
  induction rounds using List.reverseRecOn generalizing l with
  | nil =>
    cases h
    exact clientRun_nil hpos
  | append_singleton rounds round ih =>
    obtain ⟨m, hm, hlast⟩ := exec_append_eq_some.mp h
    obtain ⟨l', hstep, hend⟩ := exec_cons_eq_some.mp hlast
    cases hend
    exact (ih hm).step hsize hstep

/-! ### The whole call -/

/-- All bytes reach the client exactly when no round fails and the retries last. -/
theorem ClientRun.delivered_iff {rounds : List ClientRound} {l : ClientLoop}
    (h : ClientRun maxRetries size rounds l) (hover : l.running maxRetries = false) :
    accepted rounds = size ↔ failed rounds = false ∧ timeouts rounds < maxRetries := by
  rw [← h.written, ← h.retries]
  cases hbroken : l.broken with
  | false =>
    obtain ⟨_, hlt, _⟩ := h.open_ hbroken
    simp only [ClientLoop.running, hbroken, Bool.not_false, Bool.true_and,
      decide_eq_false_iff_not] at hover
    constructor
    · omega
    · omega
  | true =>
    by_cases hcode : l.result.code = .success
    · obtain ⟨hok, hfull, hleft⟩ := h.success hbroken hcode
      exact ⟨fun _ => ⟨hok, hleft⟩, fun _ => hfull⟩
    · obtain ⟨hfail, hlt⟩ := h.failure hbroken hcode
      rw [hfail]
      constructor
      · omega
      · simp

theorem ClientRun.code_iff {rounds : List ClientRound} {l : ClientLoop}
    (h : ClientRun maxRetries size rounds l) :
    l.result.code = .success ↔ failed rounds = false := by
  cases hbroken : l.broken with
  | false =>
    obtain ⟨hok, _, hcode⟩ := h.open_ hbroken
    simp [hok, hcode]
  | true =>
    by_cases hcode : l.result.code = .success
    · simp [hcode, (h.success hbroken hcode).1]
    · simp [hcode, (h.failure hbroken hcode).1]

/-- The loop over the snapshot: every client's rounds are a complete loop, and the result is
    that of the last one. -/
theorem writeClients_spec {result r : SocketResult} {clients : List (List ClientRound)}
    (h : writeClients maxRetries size result clients = some r) :
    (∀ rounds ∈ clients, ∃ l, exec (clientStep maxRetries size) {} rounds = some l ∧
      l.running maxRetries = false) ∧
    (clients = [] → r = result) ∧
    ∀ last ∈ clients.getLast?, ∀ l, exec (clientStep maxRetries size) {} last = some l →
      r = l.result := by
  induction clients generalizing result with
  | nil =>
    cases h
    simp
  | cons rounds rest ih =>
    rw [writeClients] at h
    split at h
    · rename_i l hexec
      split at h
      · cases h
      · rename_i hover
        obtain ⟨hrest, hnil, hlast⟩ := ih h
        refine ⟨?_, by simp, ?_⟩
        · intro others hmem
          rcases List.mem_cons.mp hmem with rfl | hmem
          · exact ⟨l, hexec, by simpa using hover⟩
          · exact hrest others hmem
        · cases rest with
          | nil =>
            intro last hmem l' hl'
            simp only [List.getLast?_singleton, Option.mem_def, Option.some.injEq] at hmem
            subst hmem
            rw [hnil rfl, Option.some.inj (hl'.symm.trans hexec)]
          | cons others rest =>
            rw [List.getLast?_cons_cons]
            exact hlast
    · cases h

/-- **The result of a broadcast write.**  On a snapshot that is not empty, `SUCCESS` means
    that every client got the whole buffer if and only if the last client has a round that
    fails, or no client has one and none runs out of retries. -/
theorem write_success_delivers_iff {clients : List (List ClientRound)} {r : SocketResult}
    (hpos : 1 ≤ size) (hsize : size < 2 ^ 64) (hclients : clients ≠ [])
    (h : write maxRetries size clients = some r) :
    (r.code = .success → ∀ rounds ∈ clients, accepted rounds = size) ↔
      failed (clients.getLast hclients) = true ∨
        ∀ rounds ∈ clients, failed rounds = false ∧ timeouts rounds < maxRetries := by
  rw [write, if_neg (by simpa using hclients)] at h
  obtain ⟨hcomplete, -, hlast⟩ := writeClients_spec h
  have hdelivered : ∀ rounds ∈ clients, accepted rounds = size ↔
      failed rounds = false ∧ timeouts rounds < maxRetries := by
    intro rounds hmem
    obtain ⟨l, hexec, hover⟩ := hcomplete rounds hmem
    exact (clientRun_of_exec hpos hsize hexec).delivered_iff hover
  have hcode : r.code = .success ↔ failed (clients.getLast hclients) = false := by
    obtain ⟨l, hexec, -⟩ := hcomplete _ (List.getLast_mem hclients)
    rw [hlast _ (List.getLast?_eq_some_getLast hclients) l hexec]
    exact (clientRun_of_exec hpos hsize hexec).code_iff
  rw [hcode]
  constructor
  · intro hall
    cases hfail : failed (clients.getLast hclients) with
    | true => exact .inl rfl
    | false => exact .inr fun rounds hmem => (hdelivered rounds hmem).mp (hall hfail rounds hmem)
  · rintro (hfail | hall) hok rounds hmem
    · rw [hfail] at hok
      cases hok
    · exact (hdelivered rounds hmem).mpr (hall rounds hmem)

def timedOutRound : ClientRound := { poll := .timeout }

def sentRound (count : Nat) : ClientRound :=
  { poll := .ready { pollout := true } none, send := .sent count }

theorem write_two_delivered :
    write 3 2 [[sentRound 2], [timedOutRound, sentRound 1, sentRound 1]] =
        some { code := .success, bytes := 2 } ∧
      ∀ rounds ∈ [[sentRound 2], [timedOutRound, sentRound 1, sentRound 1]],
        accepted rounds = 2 := by
  have hrun : write 3 2 [[sentRound 2], [timedOutRound, sentRound 1, sentRound 1]] =
      some { code := .success, bytes := 2 } := by decide
  exact ⟨hrun, (write_success_delivers_iff (by decide) (by decide) (by simp) hrun).mpr
    (.inr (by decide)) rfl⟩

/-- The only client runs out of retries after one byte, and `write` returns `SUCCESS`. -/
theorem write_success_truncated :
    ∃ r, write 1 2 [[sentRound 1, timedOutRound]] = some r ∧ r.code = .success ∧
      ¬ ∀ rounds ∈ [[sentRound 1, timedOutRound]], accepted rounds = 2 :=
  ⟨{ code := .success }, by decide, rfl, by decide⟩

end SecuritySocket.BroadcastServer
