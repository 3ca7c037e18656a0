import Mathlib.Algebra.BigOperators.Finprod
import SecuritySocket.Transition

/-!
# Progress under disturbance

Some steps of a system are disturbances: they may come at any time and give its parties more to
do.  As long as there are only finitely many of them, the parties come to the end of what they have
to do.  The measure for that adds up what is left for each party; there may be any number of them,
but all except finitely many have not begun.
-/

namespace SecuritySocket.Transition

variable {σ α : Type*}

/-- **Stages.**  What is inevitable once something inevitable has happened is inevitable. -/
theorem Inevitable.trans {step : σ → α → Option σ} {P Q : σ → Prop} {s : σ}
    (h : Inevitable step Q s) (hnext : ∀ s, Q s → Inevitable step P s) : Inevitable step P s := by
  induction h with
  | now hQ => exact hnext _ hQ
  | later henabled _ ih => exact .later henabled ih

/-! ### A budget for disturbances -/

/-- A system, and how much it will still be disturbed. -/
structure Budgeted (σ : Type*) where
  state : σ
  left : Nat

/-- A `good` step that the budget covers. -/
def Budgeted.step (good : σ → α → Bool) (cost : σ → α → Nat) (step : σ → α → Option σ)
    (b : Budgeted σ) (a : α) : Option (Budgeted σ) :=
  if good b.state a && cost b.state a ≤ b.left then
    (step b.state a).map fun s => ⟨s, b.left - cost b.state a⟩
  else none

variable {good : σ → α → Bool} {cost : σ → α → Nat} {step : σ → α → Option σ}

theorem Budgeted.step_eq_some {b b' : Budgeted σ} {a : α} (h : b.step good cost step a = some b') :
    good b.state a = true ∧ cost b.state a ≤ b.left ∧ step b.state a = some b'.state ∧
      b'.left = b.left - cost b.state a := by
  simp only [Budgeted.step] at h
  split at h
  · rename_i hguard
    rw [Bool.and_eq_true, decide_eq_true_eq] at hguard
    obtain ⟨s, hs, rfl⟩ := Option.map_eq_some_iff.mp h
    exact ⟨hguard.1, hguard.2, hs, rfl⟩
  · cases h

/-- **Termination rule, with disturbances.**  When every good step makes a measure smaller, except that a
    disturbance adds to it in proportion to its cost, and some step that is no disturbance is always
    enabled, `P` is inevitable with any budget. -/
theorem inevitable_of_budget {I P : σ → Prop} (measure : σ → Nat) (price : Nat)
    (henabled : ∀ s, I s → P s ∨ ∃ a s', good s a = true ∧ cost s a = 0 ∧ step s a = some s')
    (hstep : ∀ s a s', I s → good s a = true → step s a = some s' →
      P s' ∨ I s' ∧ measure s' < measure s + price * cost s a)
    {s : σ} (hI : I s) (left : Nat) :
    Inevitable (Budgeted.step good cost step) (fun b => P b.state) ⟨s, left⟩ := by
  refine @inevitable_of_measure (Budgeted σ) α _ (fun b => I b.state) _
    (fun b => measure b.state + price * b.left) ?_ ?_ ⟨s, left⟩ hI
  · intro b hb
    refine (henabled b.state hb).imp_right ?_
    rintro ⟨a, s', hgood, hfree, hs'⟩
    exact ⟨a, ⟨s', b.left⟩, by simp [Budgeted.step, hgood, hfree, hs']⟩
  · intro b a b' hb hb'
    obtain ⟨hgood, hcovered, hs', hleft⟩ := Budgeted.step_eq_some hb'
    rcases hstep _ _ _ hb hgood hs' with hP | ⟨hI', hlt⟩
    · exact .inl hP
    · refine .inr ⟨hI', ?_⟩
      have hspent : price * b.left = price * (b.left - cost b.state a) + price * cost b.state a := by
        rw [← Nat.mul_add, Nat.sub_add_cancel hcovered]
      simp only [hleft, hspent]
      omega

/-! ### Loops under disturbance -/

section Loops

variable {schedule : Nat → α} {running : σ → Bool} {disturbed : σ → α → Bool} {s₀ : σ}

/-- The loop comes to its end under this schedule. -/
def Finishes (step : σ → α → Option σ) (running : σ → Bool) (s₀ : σ) (schedule : Nat → α) : Prop :=
  ∃ n s, exec step s₀ (firstLabels schedule n) = some s ∧ running s = false

/-- There is always another disturbance to come. -/
def DisturbedForever (step : σ → α → Option σ) (running : σ → Bool) (disturbed : σ → α → Bool)
    (s₀ : σ) (schedule : Nat → α) : Prop :=
  ∀ n, ∃ m s, n ≤ m ∧ exec step s₀ (firstLabels schedule m) = some s ∧ running s = true ∧
    disturbed s (schedule m) = true

theorem not_running_later (hstopped : ∀ s a, running s = false → step s a = none) {n m : Nat}
    (hle : n ≤ m) {s s' : σ} (hs : exec step s₀ (firstLabels schedule n) = some s)
    (hended : running s = false) (hs' : exec step s₀ (firstLabels schedule m) = some s') :
    running s' = false := by
  obtain ⟨k, rfl⟩ := Nat.exists_eq_add_of_le hle
  rw [firstLabels_add, exec_append_eq_some] at hs'
  obtain ⟨t, ht, hrest⟩ := hs'
  obtain rfl : s = t := Option.some.inj (hs.symm.trans ht)
  obtain ⟨-, rfl⟩ := exec_of_stuck (fun a => hstopped s a hended) hrest
  exact hended

theorem running_of_not_finishes {I : σ → Prop} (hstep : ∀ s a, I s → running s = true →
      ∃ s', step s a = some s' ∧ I s')
    (h₀ : I s₀) (hnever : ¬ Finishes step running s₀ schedule) (n : Nat) :
    ∃ s, exec step s₀ (firstLabels schedule n) = some s ∧ I s ∧ running s = true := by
  have hrunning : ∀ n s, exec step s₀ (firstLabels schedule n) = some s → running s = true := by
    intro n s hs
    by_contra hended
    exact hnever ⟨n, s, hs, by simpa using hended⟩
  induction n with
  | zero => exact ⟨s₀, rfl, h₀, hrunning 0 s₀ rfl⟩
  | succ n ih =>
    obtain ⟨s, hs, hI, hs_running⟩ := ih
    obtain ⟨s', hs', hI'⟩ := hstep s (schedule n) hI hs_running
    have hexec : exec step s₀ (firstLabels schedule (n + 1)) = some s' := by
      rw [firstLabels_succ, exec_append_eq_some]
      exact ⟨s, hs, exec_cons_eq_some.mpr ⟨s', hs', rfl⟩⟩
    exact ⟨s', hexec, hI', hrunning _ _ hexec⟩

/-- **When a loop ends.**  A loop that makes a measure smaller whenever it is not disturbed comes to its
    end if and only if it is not disturbed for ever, whatever a disturbance does to the measure. -/
theorem finishes_iff {I : σ → Prop} (measure : σ → Nat)
    (hstopped : ∀ s a, running s = false → step s a = none)
    (hstep : ∀ s a, I s → running s = true → ∃ s', step s a = some s' ∧ I s')
    (hless : ∀ s a s', I s → running s = true → disturbed s a = false → step s a = some s' →
      running s' = true → measure s' < measure s)
    (h₀ : I s₀) : Finishes step running s₀ schedule ↔
      ¬ DisturbedForever step running disturbed s₀ schedule := by
  constructor
  · rintro ⟨n, s, hs, hended⟩ hforever
    obtain ⟨m, s', hle, hs', hrunning, -⟩ := hforever n
    rw [not_running_later hstopped hle hs hended hs'] at hrunning
    cases hrunning
  · intro hquiet
    by_contra hnever
    choose state hstate hI hrunning using running_of_not_finishes hstep h₀ hnever
    have hnext : ∀ m, step (state m) (schedule m) = some (state (m + 1)) := by
      intro m
      have hlater := hstate (m + 1)
      rw [firstLabels_succ, exec_append_eq_some] at hlater
      obtain ⟨s, hs, hrest⟩ := hlater
      obtain rfl : state m = s := Option.some.inj ((hstate m).symm.trans hs)
      obtain ⟨s', hs', hend⟩ := exec_cons_eq_some.mp hrest
      cases hend
      exact hs'
    -- from some point on every step makes the measure smaller
    obtain ⟨n, hn⟩ := not_forall.mp hquiet
    have hbelow : ∀ k, measure (state (n + k)) + k ≤ measure (state n) := by
      intro k
      induction k with
      | zero => exact Nat.le_refl _
      | succ k ih =>
        have hfree : disturbed (state (n + k)) (schedule (n + k)) = false := by
          by_contra hdisturbed
          exact hn ⟨n + k, _, Nat.le_add_right _ _, hstate _, hrunning _, by simpa using hdisturbed⟩
        have hlt : measure (state (n + (k + 1))) < measure (state (n + k)) :=
          hless _ _ _ (hI _) (hrunning _) hfree (hnext _) (hrunning _)
        omega
    have hlate := hbelow (measure (state n) + 1)
    omega

end Loops

/-! ### Any number of parties -/

section Parties

variable {ι κ : Type*} {parties : ι → κ} {idle : κ} {weight : κ → Nat}

/-- Only finitely many parties are not idle. -/
def Begun (idle : κ) (parties : ι → κ) : Prop := {i | parties i ≠ idle}.Finite

theorem begun_const : Begun idle fun _ : ι => idle := by
  simp [Begun]

variable [DecidableEq ι]

theorem Begun.update (h : Begun idle parties) (i : ι) (next : κ) :
    Begun idle (Function.update parties i next) := by
  refine (h.insert i).subset fun j hj => ?_
  by_cases hsame : j = i
  · exact Set.mem_insert_iff.mpr (.inl hsame)
  · exact Set.mem_insert_of_mem _ (by simpa [hsame] using hj)

/-- What is left for all of them. -/
noncomputable def total (weight : κ → Nat) (parties : ι → κ) : Nat := finsum fun i => weight (parties i)

theorem finsum_update {f : ι → Nat} (hf : (Function.support f).Finite) (i : ι) (n : Nat) :
    finsum (Function.update f i n) + f i = finsum f + n := by
  let terms : Finset ι := insert i hf.toFinset
  have hi : i ∈ terms := Finset.mem_insert_self _ _
  have hsupport : Function.support f ⊆ terms := by
    intro j hj
    exact Finset.mem_insert_of_mem (hf.mem_toFinset.mpr hj)
  have hupdate : Function.support (Function.update f i n) ⊆ terms := by
    intro j hj
    by_cases hsame : j = i
    · exact hsame ▸ hi
    · apply hsupport
      simpa [hsame] using hj
  rw [finsum_eq_sum_of_support_subset _ hsupport, finsum_eq_sum_of_support_subset _ hupdate,
    Finset.sum_update_of_mem hi, ← Finset.add_sum_erase terms f hi,
    Finset.sdiff_singleton_eq_erase]
  omega

theorem total_update (h : Begun idle parties) (hidle : weight idle = 0) (i : ι) (next : κ) :
    total weight (Function.update parties i next) + weight (parties i) =
      total weight parties + weight next := by
  have hsupport : (Function.support fun j => weight (parties j)).Finite := by
    refine h.subset fun j hj hsame => ?_
    simp [hsame, hidle] at hj
  have hterms : (fun j => weight (Function.update parties i next j)) =
      Function.update (fun j => weight (parties j)) i (weight next) := by
    funext j
    exact Function.apply_update (fun _ => weight) parties i next j
  rw [total, hterms]
  exact finsum_update hsupport i (weight next)

end Parties

end SecuritySocket.Transition
