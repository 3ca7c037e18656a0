import Mathlib.Tactic.Common

/-!
# Runs of a labelled transition function

A system is a partial step function `step : σ → α → Option σ`; a label that is not
enabled in a state has no successor.  Nondeterminism lives in the labels, so a run is
determined by its schedule, the list of labels taken.  Invariants are proved once per
step and lifted here to whole schedules, with or without a side condition that every
step taken has to meet.
-/

namespace SecuritySocket.Transition

variable {σ α : Type*} {step : σ → α → Option σ}

/-- Execute a schedule; `none` when some label of it was not enabled. -/
def exec (step : σ → α → Option σ) : σ → List α → Option σ
  | s, [] => some s
  | s, a :: as => (step s a).bind fun s' => exec step s' as

theorem exec_cons (s : σ) (a : α) (as : List α) :
    exec step s (a :: as) = (step s a).bind fun s' => exec step s' as := rfl

theorem exec_cons_eq_some {s s' : σ} {a : α} {as : List α} :
    exec step s (a :: as) = some s' ↔ ∃ m, step s a = some m ∧ exec step m as = some s' := by
  simp [exec_cons, Option.bind_eq_some_iff]

theorem exec_append (s : σ) (as bs : List α) :
    exec step s (as ++ bs) = (exec step s as).bind fun s' => exec step s' bs := by
  induction as generalizing s with
  | nil => rfl
  | cons a as ih =>
    simp only [List.cons_append, exec_cons]
    cases step s a with
    | none => rfl
    | some m => exact ih m

theorem exec_append_eq_some {s s' : σ} {as bs : List α} :
    exec step s (as ++ bs) = some s' ↔
      ∃ m, exec step s as = some m ∧ exec step m bs = some s' := by
  simp [exec_append, Option.bind_eq_some_iff]

/-- `s` is reached from `s₀` by some schedule. -/
def Reachable (step : σ → α → Option σ) (s₀ s : σ) : Prop :=
  ∃ labels, exec step s₀ labels = some s

theorem Reachable.refl (s : σ) : Reachable step s s := ⟨[], rfl⟩

theorem Reachable.tail {s₀ s s' : σ} {a : α} (h : Reachable step s₀ s)
    (hstep : step s a = some s') : Reachable step s₀ s' := by
  obtain ⟨labels, hexec⟩ := h
  exact ⟨labels ++ [a], exec_append_eq_some.mpr
    ⟨s, hexec, exec_cons_eq_some.mpr ⟨s', hstep, rfl⟩⟩⟩

theorem Reachable.exec {s₀ s s' : σ} {labels : List α} (h : Reachable step s₀ s)
    (hexec : exec step s labels = some s') : Reachable step s₀ s' := by
  obtain ⟨before, hbefore⟩ := h
  exact ⟨before ++ labels, exec_append_eq_some.mpr ⟨s, hbefore, hexec⟩⟩

theorem exec_of_stuck {s s' : σ} {labels : List α} (hstuck : ∀ a, step s a = none)
    (h : exec step s labels = some s') : labels = [] ∧ s' = s := by
  cases labels with
  | nil =>
    cases h
    exact ⟨rfl, rfl⟩
  | cons a as =>
    obtain ⟨m, hm, -⟩ := exec_cons_eq_some.mp h
    rw [hstuck a] at hm
    cases hm

/-- **Invariant rule.**  What every step preserves holds at the end of every run. -/
theorem exec_invariant {I : σ → Prop} (hstep : ∀ s a s', I s → step s a = some s' → I s')
    {s s' : σ} {labels : List α} (hexec : exec step s labels = some s') (hI : I s) : I s' := by
  induction labels generalizing s with
  | nil =>
    cases hexec
    exact hI
  | cons a as ih =>
    obtain ⟨m, hm, hrest⟩ := exec_cons_eq_some.mp hexec
    exact ih hrest (hstep s a m hI hm)

theorem Reachable.invariant {I : σ → Prop} {s₀ s : σ} (h : Reachable step s₀ s) (hI : I s₀)
    (hstep : ∀ s a s', I s → step s a = some s' → I s') : I s := by
  obtain ⟨labels, hexec⟩ := h
  exact exec_invariant hstep hexec hI

/-- **Invariant rule, with the labels taken so far.** -/
theorem exec_invariant_labels {J : List α → σ → Prop}
    (hstep : ∀ taken s a s', J taken s → step s a = some s' → J (taken ++ [a]) s')
    {taken labels : List α} {s s' : σ} (hexec : exec step s labels = some s') (hJ : J taken s) :
    J (taken ++ labels) s' := by
  induction labels generalizing taken s with
  | nil =>
    cases hexec
    rw [List.append_nil]
    exact hJ
  | cons a as ih =>
    obtain ⟨m, hm, hrest⟩ := exec_cons_eq_some.mp hexec
    have hlast := ih hrest (hstep taken s a m hJ hm)
    rwa [List.append_assoc] at hlast

/-- **Simulation rule.**  When every step either leaves the abstraction of the state alone
    or is a step of the abstract relation, what the abstract steps preserve holds of the
    abstraction of every reachable state.  The simulation may use an invariant. -/
theorem Reachable.simulation {τ : Type*} {abs : σ → τ} {absStep : τ → τ → Prop} {I : σ → Prop}
    {J : τ → Prop} {s₀ s : σ} (h : Reachable step s₀ s) (hI : I s₀) (hJ : J (abs s₀))
    (hstep : ∀ s a s', I s → step s a = some s' → I s')
    (hsim : ∀ s a s', I s → step s a = some s' → abs s' = abs s ∨ absStep (abs s) (abs s'))
    (habs : ∀ t t', J t → absStep t t' → J t') : J (abs s) := by
  refine (h.invariant (I := fun s => I s ∧ J (abs s)) ⟨hI, hJ⟩ ?_).2
  rintro s a s' ⟨hs, hJs⟩ ha
  refine ⟨hstep s a s' hs ha, ?_⟩
  rcases hsim s a s' hs ha with heq | habstract
  · rw [heq]
    exact hJs
  · exact habs _ _ hJs habstract

/-- Every step the schedule takes from `s` meets `guard`, a condition on the state before
    the step and its label. -/
def Meets (step : σ → α → Option σ) (guard : σ → α → Prop) : σ → List α → Prop
  | _, [] => True
  | s, a :: as => guard s a ∧ ∀ s', step s a = some s' → Meets step guard s' as

instance decidableMeets (guard : σ → α → Prop) [∀ s a, Decidable (guard s a)] :
    ∀ s labels, Decidable (Meets step guard s labels)
  | _, [] => isTrue trivial
  | s, a :: as =>
    match hstep : step s a with
    | none => decidable_of_iff (guard s a)
        ⟨fun h => ⟨h, fun s' hs' => by simp [hstep] at hs'⟩, And.left⟩
    | some m =>
      have := decidableMeets guard m as
      decidable_of_iff (guard s a ∧ Meets step guard m as)
        ⟨fun h => ⟨h.1, fun s' hs' => by cases hstep.symm.trans hs'; exact h.2⟩,
          fun h => ⟨h.1, h.2 m hstep⟩⟩

/-- **Guarded invariant rule.**  The step lemma may use the side condition that every
    step of the run meets. -/
theorem exec_invariant_of_meets {guard : σ → α → Prop} {I : σ → Prop}
    (hstep : ∀ s a s', I s → guard s a → step s a = some s' → I s')
    {s s' : σ} {labels : List α} (hexec : exec step s labels = some s')
    (hmeets : Meets step guard s labels) (hI : I s) : I s' := by
  induction labels generalizing s with
  | nil =>
    cases hexec
    exact hI
  | cons a as ih =>
    obtain ⟨m, hm, hrest⟩ := exec_cons_eq_some.mp hexec
    exact ih hrest (hmeets.2 m hm) (hstep s a m hI hmeets.1 hm)

/-- **Exact condition rule.**  When a property that cannot be regained holds after a step exactly
    if it held before and the step meets `guard`, it holds at the end of a run exactly if it
    held at its start and every step meets `guard`.  The step lemma may use an invariant. -/
theorem exec_iff_meets {guard : σ → α → Prop} {I P : σ → Prop}
    (hI : ∀ s a s', I s → step s a = some s' → I s')
    (hP : ∀ s a s', I s → step s a = some s' → (P s' ↔ P s ∧ guard s a))
    {s s' : σ} {labels : List α} (hexec : exec step s labels = some s') (hs : I s) :
    P s' ↔ P s ∧ Meets step guard s labels := by
  induction labels generalizing s with
  | nil =>
    cases hexec
    simp [Meets]
  | cons a as ih =>
    obtain ⟨m, hm, hrest⟩ := exec_cons_eq_some.mp hexec
    rw [ih hrest (hI s a m hs hm), hP s a m hs hm, and_assoc]
    simp only [Meets, hm, Option.some.injEq, forall_eq']

/-- `P` holds in every state of the run, the first one included. -/
def Always (step : σ → α → Option σ) (P : σ → Prop) : σ → List α → Prop
  | s, [] => P s
  | s, a :: as => P s ∧ ∀ s', step s a = some s' → Always step P s' as

theorem Always.head {P : σ → Prop} {s : σ} {labels : List α} (h : Always step P s labels) :
    P s := by
  cases labels with
  | nil => exact h
  | cons a as => exact h.1

/-- Every state of the run: what a prefix of its schedule leads to. -/
theorem Always.exec {P : σ → Prop} {s m : σ} {as bs : List α}
    (h : Always step P s (as ++ bs)) (hexec : exec step s as = some m) : P m := by
  induction as generalizing s with
  | nil =>
    cases hexec
    exact h.head
  | cons a as ih =>
    obtain ⟨n, hn, hrest⟩ := exec_cons_eq_some.mp hexec
    exact ih (h.2 n hn) hrest

/-- **Exact condition rule, over all states of a run.**  When a step from a state with the
    property leads to one with the property exactly if it meets `guard`, a run that starts
    with the property keeps it throughout exactly if every step meets `guard`. -/
theorem always_iff_meets {guard : σ → α → Prop} {I P : σ → Prop}
    (hI : ∀ s a s', I s → step s a = some s' → I s')
    (hP : ∀ s a s', I s → P s → step s a = some s' → (P s' ↔ guard s a))
    {s s' : σ} {labels : List α} (hexec : exec step s labels = some s') (hs : I s) (hPs : P s) :
    Always step P s labels ↔ Meets step guard s labels := by
  induction labels generalizing s with
  | nil => simp [Always, Meets, hPs]
  | cons a as ih =>
    obtain ⟨m, hm, hrest⟩ := exec_cons_eq_some.mp hexec
    have hIm := hI s a m hs hm
    simp only [Always, Meets, hm, Option.some.injEq, forall_eq', hPs, true_and]
    constructor
    · intro h
      have hPm := h.head
      exact ⟨(hP s a m hs hPs hm).mp hPm, (ih hrest hIm hPm).mp h⟩
    · rintro ⟨hguard, h⟩
      exact (ih hrest hIm ((hP s a m hs hPs hm).mpr hguard)).mpr h

theorem Meets.and {guard guard' : σ → α → Prop} {s : σ} {labels : List α}
    (h : Meets step guard s labels) (h' : Meets step guard' s labels) :
    Meets step (fun s a => guard s a ∧ guard' s a) s labels := by
  induction labels generalizing s with
  | nil => trivial
  | cons a as ih => exact ⟨⟨h.1, h'.1⟩, fun s' hs' => ih (h.2 s' hs') (h'.2 s' hs')⟩

theorem meets_append {guard : σ → α → Prop} {s m : σ} {as bs : List α}
    (hexec : exec step s as = some m) :
    Meets step guard s (as ++ bs) ↔ Meets step guard s as ∧ Meets step guard m bs := by
  induction as generalizing s with
  | nil =>
    cases hexec
    simp [Meets]
  | cons a as ih =>
    obtain ⟨n, hn, hrest⟩ := exec_cons_eq_some.mp hexec
    simp only [List.cons_append, Meets, hn, Option.some.injEq, forall_eq', ih hrest, and_assoc]

/-- A condition on labels alone is met as soon as every label of the schedule has it. -/
theorem meets_of_forall_label {good : α → Prop} {s : σ} {labels : List α}
    (h : ∀ a ∈ labels, good a) : Meets step (fun _ a => good a) s labels := by
  induction labels generalizing s with
  | nil => trivial
  | cons a as ih =>
    exact ⟨h a (by simp), fun s' _ => ih fun b hb => h b (by simp [hb])⟩

/-- A condition that an invariant implies is met by every step of a run. -/
theorem meets_of_invariant {guard : σ → α → Prop} {I : σ → Prop}
    (hstep : ∀ s a s', I s → step s a = some s' → I s') (hguard : ∀ s a, I s → guard s a)
    {s : σ} {labels : List α} (hI : I s) : Meets step guard s labels := by
  induction labels generalizing s with
  | nil => trivial
  | cons a as ih => exact ⟨hguard s a hI, fun s' hs' => ih (hstep s a s' hI hs')⟩

/-- A condition follows from another that the run meets, by an invariant that this one keeps. -/
theorem Meets.imp_of_invariant {guard guard' : σ → α → Prop} {I : σ → Prop}
    (hstep : ∀ s a s', I s → guard s a → step s a = some s' → I s')
    (himp : ∀ s a, I s → guard s a → guard' s a) {s : σ} {labels : List α}
    (h : Meets step guard s labels) (hI : I s) : Meets step guard' s labels := by
  induction labels generalizing s with
  | nil => trivial
  | cons a as ih =>
    exact ⟨himp s a hI h.1, fun s' hs' => ih (h.2 s' hs') (hstep s a s' hI h.1 hs')⟩

def restrict (good : α → Bool) (step : σ → α → Option σ) (s : σ) (a : α) : Option σ :=
  if good a then step s a else none

theorem restrict_eq_some {good : α → Bool} {s s' : σ} {a : α} :
    restrict good step s a = some s' ↔ good a = true ∧ step s a = some s' := by
  unfold restrict
  split <;> simp_all

/-- Whatever labels are taken from `s`, a state with `P` is reached: no run avoids it for ever,
    and none gets stuck before it. -/
inductive Inevitable (step : σ → α → Option σ) (P : σ → Prop) : σ → Prop where
  | now {s : σ} (h : P s) : Inevitable step P s
  | later {s : σ} (henabled : ∃ a s', step s a = some s')
      (hnext : ∀ a s', step s a = some s' → Inevitable step P s') : Inevitable step P s

/-- **Termination rule.**  Where each step from a state without `P` leads to one with `P` or
    decreases a measure, and some step is enabled, `P` is inevitable. -/
theorem inevitable_of_measure {I P : σ → Prop} {measure : σ → Nat}
    (henabled : ∀ s, I s → P s ∨ ∃ a s', step s a = some s')
    (hstep : ∀ s a s', I s → step s a = some s' → P s' ∨ I s' ∧ measure s' < measure s)
    {s : σ} (hI : I s) : Inevitable step P s := by
  induction hn : measure s using Nat.strongRecOn generalizing s with
  | ind n ih =>
    rcases henabled s hI with hP | hsome
    · exact .now hP
    · refine .later hsome fun a s' ha => ?_
      rcases hstep s a s' hI ha with hP | ⟨hI', hlt⟩
      · exact .now hP
      · exact ih (measure s') (hn ▸ hlt) hI' rfl

/-- **Bounded response rule.**  A debt that the steps of one party reduce until one of them pays it,
    and that no other step adds to, is paid within as many steps of that party. -/
theorem exists_payment_of_debt {debt : σ → Nat} {own pays : α → Bool}
    (hown : ∀ s a s', step s a = some s' → 0 < debt s → own a = true →
      pays a = true ∨ 0 < debt s' ∧ debt s' < debt s)
    (hother : ∀ s a s', step s a = some s' → 0 < debt s → own a = false →
      0 < debt s' ∧ debt s' ≤ debt s)
    {s s' : σ} {labels : List α} (hexec : exec step s labels = some s') (hpos : 0 < debt s)
    (henough : debt s ≤ labels.countP own) : ∃ a ∈ labels, pays a = true := by
  induction labels generalizing s with
  | nil => exact absurd (Nat.lt_of_lt_of_le hpos henough) (Nat.lt_irrefl 0)
  | cons a as ih =>
    obtain ⟨m, hm, hrest⟩ := exec_cons_eq_some.mp hexec
    cases ha : own a with
    | true =>
      rw [List.countP_cons_of_pos ha] at henough
      rcases hown s a m hm hpos ha with hpays | ⟨hpos', hlt⟩
      · exact ⟨a, List.mem_cons_self, hpays⟩
      · obtain ⟨b, hb, hpays⟩ := ih hrest hpos' (by omega)
        exact ⟨b, List.mem_cons_of_mem a hb, hpays⟩
    | false =>
      rw [List.countP_cons_of_neg (by simp [ha])] at henough
      obtain ⟨hpos', hle⟩ := hother s a m hm hpos ha
      obtain ⟨b, hb, hpays⟩ := ih hrest hpos' (Nat.le_trans hle henough)
      exact ⟨b, List.mem_cons_of_mem a hb, hpays⟩

/-! ### Infinite schedules -/

/-- The first `n` labels of a schedule that never ends. -/
def firstLabels (schedule : Nat → α) (n : Nat) : List α := (List.range n).map schedule

theorem firstLabels_succ (schedule : Nat → α) (n : Nat) :
    firstLabels schedule (n + 1) = firstLabels schedule n ++ [schedule n] := by
  simp [firstLabels, List.range_succ]

theorem firstLabels_add (schedule : Nat → α) (n m : Nat) : firstLabels schedule (n + m) =
    firstLabels schedule n ++ firstLabels (fun i => schedule (n + i)) m := by
  simp [firstLabels, List.range_add, Function.comp_def]

@[simp] theorem length_firstLabels (schedule : Nat → α) (n : Nat) :
    (firstLabels schedule n).length = n := by simp [firstLabels]

/-- **Loop rule.**  A loop that can always go on while it is running, and runs no more than `bound`
    times, stops. -/
theorem exists_stop {schedule : Nat → α} {running : σ → Bool} {I : Nat → σ → Prop} {bound : Nat}
    (hstep : ∀ n s, I n s → running s = true → ∃ s', step s (schedule n) = some s' ∧ I (n + 1) s')
    (hbound : ∀ n s, I n s → running s = true → n < bound) {s₀ : σ} (h₀ : I 0 s₀) :
    ∃ n s, exec step s₀ (firstLabels schedule n) = some s ∧ I n s ∧ running s = false := by
  have hgo : ∀ left n s, exec step s₀ (firstLabels schedule n) = some s → I n s →
      bound ≤ n + left →
        ∃ n s, exec step s₀ (firstLabels schedule n) = some s ∧ I n s ∧ running s = false := by
    intro left
    induction left with
    | zero =>
      intro n s hexec hI hleft
      refine ⟨n, s, hexec, hI, Bool.eq_false_iff.mpr fun hrunning => ?_⟩
      exact absurd (hbound n s hI hrunning) (by omega)
    | succ left ih =>
      intro n s hexec hI hleft
      cases hrunning : running s with
      | false => exact ⟨n, s, hexec, hI, hrunning⟩
      | true =>
        obtain ⟨s', hs', hI'⟩ := hstep n s hI hrunning
        refine ih (n + 1) s' ?_ hI' (by omega)
        rw [firstLabels_succ, exec_append_eq_some]
        exact ⟨s, hexec, exec_cons_eq_some.mpr ⟨s', hs', rfl⟩⟩
  exact hgo bound 0 s₀ rfl h₀ (by omega)

/-! ### Runs with some of the labels left out -/

section Unwinding

variable (perform : σ → α → σ) (kept : α → Bool)

/-- A run of all labels, and beside it one of those that are kept. -/
def beside (p : σ × σ) (a : α) : Option (σ × σ) :=
  some (perform p.1 a, if kept a then perform p.2 a else p.2)

theorem exec_beside (labels : List α) (s t : σ) :
    exec (beside perform kept) (s, t) labels =
      some (labels.foldl perform s, (labels.filter kept).foldl perform t) := by
  induction labels generalizing s t with
  | nil => rfl
  | cons a labels ih =>
    rw [exec_cons, beside, Option.bind_some, ih, List.filter_cons, List.foldl_cons]
    split <;> rfl

variable {perform kept}

/-- **Unwinding rule.**  What relates two runs from related states: the labels that are kept lead
    from related states to such, and the others do not lead away from a related state. -/
theorem related_of_unwinding {R : σ → σ → Prop} {guard : σ × σ → α → Prop}
    (hkept : ∀ s t a, R s t → guard (s, t) a → kept a = true → R (perform s a) (perform t a))
    (hleft : ∀ s t a, R s t → guard (s, t) a → kept a = false → R (perform s a) t)
    {s t : σ} {labels : List α} (h : Meets (beside perform kept) guard (s, t) labels)
    (hR : R s t) : R (labels.foldl perform s) ((labels.filter kept).foldl perform t) := by
  apply exec_invariant_of_meets (I := fun p => R p.1 p.2) _ (exec_beside perform kept labels s t) h hR
  rintro ⟨s, t⟩ a p hR hguard hstep
  cases hstep
  cases ha : kept a with
  | true => exact hkept s t a hR hguard ha
  | false => exact hleft s t a hR hguard ha

end Unwinding

end SecuritySocket.Transition
