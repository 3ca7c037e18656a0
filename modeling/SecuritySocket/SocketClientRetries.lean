import SecuritySocket.SocketClientConnect

/-!
# How many attempts `connect` makes

The connect loop under a server that takes no connection: each attempt is refused by
`::connect` itself, or is in progress and then refused through the poll and SO_ERROR, or is
in progress until the poll times out.  `max_retries` is the number of attempts that are to
be made.  A refusal by `::connect` spends one retry; a timeout spends two, one in the body of
the loop and one in its header; a refusal through the poll returns at once.
-/

namespace SecuritySocket.SocketClient

open Transition

/-- What an attempt to connect meets.  A refusal through the poll comes with POLLERR, beside
    whatever else is reported. -/
inductive Attempt where
  | refused
  | refusedLater (revents : Revents)
  | timedOut
deriving DecidableEq, Repr

namespace Attempt

def calls : Attempt → List ConnectCall
  | .refused => [.connect (.error .econnrefused)]
  | .refusedLater revents =>
    [.connect (.error .einprogress),
     .poll (.ready { revents with pollerr := true } (some .econnrefused))]
  | .timedOut => [.connect (.error .einprogress), .poll .timeout]

def isRefusal : Attempt → Bool
  | .refused | .refusedLater _ => true
  | .timedOut => false

end Attempt

variable (tls : Bool) (maxRetries : Nat)

def attemptStep (pc : ConnectPc) (attempt : Attempt) : Option ConnectPc :=
  exec (connectStep tls maxRetries) pc attempt.calls

/-- Under these attempts `connect` returns something other than a success after `count` of
    them. -/
def ReturnsAfter (attempts : Nat → Attempt) (count : Nat) : Prop :=
  ∃ result, exec (attemptStep tls maxRetries) (connectStart maxRetries)
    (firstLabels attempts count) = some (.returned result) ∧ result.code ≠ .success

/-- `connect` makes all the attempts it may before it returns. -/
def UsesBudget (attempts : Nat → Attempt) : Prop :=
  ReturnsAfter tls maxRetries attempts maxRetries

/-- How many attempts are made does not depend on how the refusals among them are reported. -/
def Indifferent (attempts : Nat → Attempt) : Prop :=
  ∀ attempts' : Nat → Attempt, (∀ i, (attempts' i).isRefusal = (attempts i).isRefusal) →
    ∀ count, ReturnsAfter tls maxRetries attempts' count ↔
      ReturnsAfter tls maxRetries attempts count

variable {tls maxRetries} {attempts : Nat → Attempt}

def refusal : SocketResult := { code := .socketConnectionRefused }

/-! ### One attempt -/

/-- **One attempt** from the top of the loop, and what it spends. -/
theorem attemptStep_connecting (i : Nat) (attempt : Attempt) :
    attemptStep tls maxRetries (.connecting i) attempt = some
      (match attempt with
        | .refused => toConnect maxRetries (i + 1) refusal
        | .refusedLater _ => .returned refusal
        | .timedOut => toConnect maxRetries (i + 2) { code := .socketTimeout }) := by
  cases attempt with
  | refused => rfl
  | refusedLater revents =>
    have hfits : (PollReturn.ready { revents with pollerr := true } (some .econnrefused)).fits
        .connect = true := by
      simp [PollReturn.fits, Revents.isZero, Revents.hangup, Revents.allowedBy,
        SocketEventType.events]
    have hwait : SocketEventListener.wait
        (.ready { revents with pollerr := true } (some .econnrefused)) = refusal := rfl
    have hpoll : connectStep tls maxRetries (.connectWait i)
        (.poll (.ready { revents with pollerr := true } (some .econnrefused))) =
          some (.returned refusal) := by
      simp only [connectStep, afterWait, hfits, hwait]
      rfl
    exact exec_cons_eq_some.mpr ⟨.connectWait i, rfl, exec_cons_eq_some.mpr ⟨_, hpoll, rfl⟩⟩
  | timedOut => rfl

theorem attemptStep_returned (result : SocketResult) (attempt : Attempt) :
    attemptStep tls maxRetries (.returned result) attempt = none := by
  cases attempt <;> rfl

/-- Where the loop is after `count` attempts: at its top again, where no fewer than `count` retries
    are spent, and `count` only if all were refused by `::connect`; or it has returned. -/
def Spent (maxRetries : Nat) (attempts : Nat → Attempt) (count : Nat) : ConnectPc → Prop
  | .connecting i =>
    i < maxRetries ∧ count ≤ i ∧ (i = count → ∀ j < count, attempts j = .refused)
  | .returned result => 1 ≤ count ∧ result.code ≠ .success
  | .connectWait _ | .handshaking _ | .handshakeWait _ | .probing | .probeWait => False

theorem spent_toConnect {i count : Nat} {result : SocketResult} (hfailed : result.code ≠ .success)
    (hpos : 1 ≤ count) (hcount : count ≤ i)
    (hrefused : i = count → ∀ j < count, attempts j = .refused) :
    Spent maxRetries attempts count (toConnect maxRetries i result) := by
  rw [toConnect_of_ne hfailed]
  split
  · rename_i hlt
    exact ⟨hlt, hcount, hrefused⟩
  · exact ⟨hpos, hfailed⟩

theorem Spent.step {count : Nat} {pc pc' : ConnectPc} (h : Spent maxRetries attempts count pc)
    (hstep : attemptStep tls maxRetries pc (attempts count) = some pc') :
    Spent maxRetries attempts (count + 1) pc' := by
  cases pc with
  | connecting i =>
    obtain ⟨hlt, hcount, hrefused⟩ := h
    rw [attemptStep_connecting] at hstep
    cases hattempt : attempts count with
    | refused =>
      rw [hattempt] at hstep
      cases hstep
      apply spent_toConnect
      · simp [refusal]
      · omega
      · omega
      · intro hi j hj
        by_cases hlast : j = count
        · rw [hlast, hattempt]
        · exact hrefused (by omega) j (by omega)
    | refusedLater revents =>
      rw [hattempt] at hstep
      cases hstep
      exact ⟨by omega, by simp [refusal]⟩
    | timedOut =>
      rw [hattempt] at hstep
      cases hstep
      apply spent_toConnect
      · simp
      · omega
      · omega
      · intro hi
        omega
  | returned result =>
    rw [attemptStep_returned] at hstep
    cases hstep
  | connectWait i | handshaking i | handshakeWait i | probing | probeWait => exact h.elim

/-! ### The loop -/

theorem exec_attemptStep_succ {count : Nat} {start pc : ConnectPc} :
    exec (attemptStep tls maxRetries) start (firstLabels attempts (count + 1)) = some pc ↔
      ∃ m, exec (attemptStep tls maxRetries) start (firstLabels attempts count) = some m ∧
        attemptStep tls maxRetries m (attempts count) = some pc := by
  rw [firstLabels_succ, exec_append_eq_some]
  simp [exec]

theorem spent_of_exec (hretries : 1 ≤ maxRetries) {count : Nat} {pc : ConnectPc}
    (hexec : exec (attemptStep tls maxRetries) (connectStart maxRetries)
      (firstLabels attempts count) = some pc) : Spent maxRetries attempts count pc := by
  induction count generalizing pc with
  | zero =>
    cases hexec
    rw [connectStart_of_pos hretries]
    refine ⟨hretries, Nat.le_refl _, fun _ j hj => ?_⟩
    omega
  | succ count ih =>
    obtain ⟨m, hm, hstep⟩ := exec_attemptStep_succ.mp hexec
    exact (ih hm).step hstep

theorem exec_refused (hretries : 1 ≤ maxRetries) {count : Nat} (hcount : count < maxRetries)
    (hrefused : ∀ j < count, attempts j = .refused) :
    exec (attemptStep tls maxRetries) (connectStart maxRetries) (firstLabels attempts count) =
      some (.connecting count) := by
  induction count with
  | zero =>
    rw [connectStart_of_pos hretries]
    rfl
  | succ count ih =>
    have hbefore := ih (by omega) fun j hj => hrefused j (by omega)
    refine exec_attemptStep_succ.mpr ⟨_, hbefore, ?_⟩
    rw [attemptStep_connecting, hrefused count (by omega)]
    simp only [toConnect, if_pos hcount]

/-- `connect` makes all its attempts exactly when `::connect` itself refuses all but the last. -/
theorem usesBudget_iff_refused (hretries : 1 ≤ maxRetries) :
    UsesBudget tls maxRetries attempts ↔ ∀ i < maxRetries - 1, attempts i = .refused := by
  obtain ⟨last, rfl⟩ : ∃ last, maxRetries = last + 1 := ⟨maxRetries - 1, by omega⟩
  constructor
  · rintro ⟨result, hexec, -⟩
    obtain ⟨pc, hpc, hstep⟩ := exec_attemptStep_succ.mp hexec
    have hspent := spent_of_exec hretries hpc
    cases pc with
    | connecting i =>
      obtain ⟨hlt, hcount, hrefused⟩ := hspent
      exact hrefused (by omega)
    | returned result =>
      rw [attemptStep_returned] at hstep
      cases hstep
    | connectWait i | handshaking i | handshakeWait i | probing | probeWait => exact hspent.elim
  · intro hrefused
    have hbefore : exec (attemptStep tls (last + 1)) (connectStart (last + 1))
        (firstLabels attempts last) = some (.connecting last) :=
      exec_refused hretries (Nat.lt_succ_self last) hrefused
    have hreturns : ∃ result, attemptStep tls (last + 1) (.connecting last) (attempts last) =
        some (.returned result) ∧ result.code ≠ .success := by
      rw [attemptStep_connecting]
      cases attempts last with
      | refused => exact ⟨refusal, by simp [toConnect, refusal], by simp [refusal]⟩
      | refusedLater revents => exact ⟨refusal, rfl, by simp [refusal]⟩
      | timedOut => exact ⟨{ code := .socketTimeout }, by simp [toConnect], by simp⟩
    obtain ⟨result, hstep, hfailed⟩ := hreturns
    exact ⟨result, exec_attemptStep_succ.mpr ⟨_, hbefore, hstep⟩, hfailed⟩

theorem ReturnsAfter.eq_of_le {count count' : Nat} (hle : count ≤ count')
    (h : ReturnsAfter tls maxRetries attempts count)
    (h' : ReturnsAfter tls maxRetries attempts count') : count' = count := by
  obtain ⟨result, hexec, -⟩ := h
  obtain ⟨result', hexec', -⟩ := h'
  obtain ⟨more, rfl⟩ := Nat.exists_eq_add_of_le hle
  rw [firstLabels_add, exec_append_eq_some] at hexec'
  obtain ⟨pc, hpc, hrest⟩ := hexec'
  obtain rfl := Option.some.inj (hexec.symm.trans hpc)
  obtain ⟨hnil, -⟩ := exec_of_stuck (attemptStep_returned result) hrest
  have hmore := congrArg List.length hnil
  rw [length_firstLabels] at hmore
  rw [hmore, List.length_nil, Nat.add_zero]

theorem returnsAfter_one {count : Nat} : ReturnsAfter tls 1 attempts count ↔ count = 1 := by
  have hone : ReturnsAfter tls 1 attempts 1 :=
    (usesBudget_iff_refused (Nat.le_refl 1)).mpr fun i hi => absurd hi (Nat.not_lt_zero i)
  constructor
  · intro hreturns
    rcases Nat.le_total 1 count with hle | hle
    · exact ReturnsAfter.eq_of_le hle hone hreturns
    · exact (ReturnsAfter.eq_of_le hle hreturns hone).symm
  · rintro rfl
    exact hone

/-- **The retry budget.**  `connect` makes `max_retries` attempts before it gives up exactly when
    `::connect` itself refuses all but the last; it does so with a number of attempts that does
    not depend on how the refusals are reported exactly when one attempt is all it has. -/
theorem usesBudget_iff (tls : Bool) (hretries : 1 ≤ maxRetries) (attempts : Nat → Attempt) :
    (UsesBudget tls maxRetries attempts ↔ ∀ i < maxRetries - 1, attempts i = .refused) ∧
      (UsesBudget tls maxRetries attempts ∧ Indifferent tls maxRetries attempts ↔
        maxRetries = 1) := by
  refine ⟨usesBudget_iff_refused hretries, ?_, ?_⟩
  · rintro ⟨hbudget, hindifferent⟩
    by_contra hmore
    have hrefused := (usesBudget_iff_refused hretries).mp hbudget
    -- the first refusal reported through the poll instead
    let polled : Nat → Attempt := fun i => if i = 0 then .refusedLater {} else attempts i
    have hsame : ∀ i, (polled i).isRefusal = (attempts i).isRefusal := by
      intro i
      by_cases hi : i = 0
      · rw [hi, hrefused 0 (by omega)]
        rfl
      · simp [polled, hi]
    have hpolled : UsesBudget tls maxRetries polled :=
      (hindifferent polled hsame maxRetries).mpr hbudget
    have hfirst := (usesBudget_iff_refused hretries).mp hpolled 0 (by omega)
    simp [polled] at hfirst
  · rintro rfl
    exact ⟨returnsAfter_one.mpr rfl, fun attempts' _ count =>
      returnsAfter_one.trans returnsAfter_one.symm⟩

def refusedTwice : Nat → Attempt := fun i => if i < 2 then .refused else .timedOut

theorem usesBudget_iff_refusedTwice :
    (UsesBudget true 3 refusedTwice ↔ ∀ i < 3 - 1, refusedTwice i = .refused) ∧
      (UsesBudget true 3 refusedTwice ∧ Indifferent true 3 refusedTwice ↔ 3 = 1) :=
  usesBudget_iff true (by decide) refusedTwice

/-- With three retries one polled refusal, or two timeouts, end the loop. -/
theorem polledRefusal_returns : ReturnsAfter false 3 (fun _ => .refusedLater {}) 1 ∧
    ReturnsAfter false 3 (fun _ => .timedOut) 2 ∧
      ¬ UsesBudget false 3 (fun _ => .refusedLater {}) ∧
        ¬ UsesBudget false 3 (fun _ => .timedOut) := by
  refine ⟨⟨_, rfl, by decide⟩, ⟨_, rfl, by decide⟩, ?_, ?_⟩
  · rintro ⟨result, hexec, -⟩
    cases hexec
  · rintro ⟨result, hexec, -⟩
    cases hexec

end SecuritySocket.SocketClient
