import SecuritySocket.ActiveSocket
import Mathlib.Logic.Function.Basic

/-!
# Descriptors

The part of the operating system the servers share with their peers: which descriptor
numbers are open, and what each of them refers to.  A connection gets a number of its own
when it is accepted and keeps it for good; descriptor numbers are reused.
-/

namespace SecuritySocket

/-- What an open descriptor refers to. -/
inductive Endpoint where
  | listening
  | connection (id : Nat)
deriving DecidableEq, Repr

structure Kernel where
  fdTable : Int → Option Endpoint
  nextConnection : Nat

/-- `accept` returns a descriptor that is not open, or `-1`. -/
def AcceptReturn.fits (r : AcceptReturn) (kernel : Kernel) : Bool :=
  if 0 ≤ r.descriptor then (kernel.fdTable r.descriptor).isNone else r.descriptor == -1

namespace Kernel

/-- A process whose only descriptor is the listening socket. -/
def listening (fd : Int) : Kernel :=
  { fdTable := Function.update (fun _ => none) fd (some .listening), nextConnection := 0 }

/-- The connection a descriptor refers to. -/
def connectionAt (kernel : Kernel) (fd : Int) : Option Nat :=
  match kernel.fdTable fd with
  | some (.connection id) => some id
  | some .listening | none => none

def accept (kernel : Kernel) (r : AcceptReturn) : Kernel :=
  if 0 ≤ r.descriptor then
    { fdTable := Function.update kernel.fdTable r.descriptor
        (some (.connection kernel.nextConnection))
      nextConnection := kernel.nextConnection + 1 }
  else
    kernel

def close (kernel : Kernel) (fd : Int) : Kernel :=
  { kernel with fdTable := Function.update kernel.fdTable fd none }

structure WellFormed (kernel : Kernel) : Prop where
  lt_next : ∀ fd id, kernel.fdTable fd = some (.connection id) → id < kernel.nextConnection
  inj : ∀ fd fd' id, kernel.fdTable fd = some (.connection id) →
    kernel.fdTable fd' = some (.connection id) → fd = fd'

theorem connectionAt_eq_some {kernel : Kernel} {fd : Int} {id : Nat} :
    kernel.connectionAt fd = some id ↔ kernel.fdTable fd = some (.connection id) := by
  unfold connectionAt
  split <;> simp_all

theorem wellFormed_listening (fd : Int) : (listening fd).WellFormed := by
  constructor
  · intro fd' id h
    by_cases hfd : fd' = fd <;> simp [listening, hfd] at h
  · intro fd' fd'' id h
    by_cases hfd : fd' = fd <;> simp [listening, hfd] at h

theorem accept_of_nonneg {kernel : Kernel} {r : AcceptReturn} (h : 0 ≤ r.descriptor) :
    kernel.accept r =
      { fdTable := Function.update kernel.fdTable r.descriptor
          (some (.connection kernel.nextConnection))
        nextConnection := kernel.nextConnection + 1 } := if_pos h

theorem accept_of_neg {kernel : Kernel} {r : AcceptReturn} (h : ¬ 0 ≤ r.descriptor) :
    kernel.accept r = kernel := if_neg h

theorem fdTable_of_fits {kernel : Kernel} {r : AcceptReturn} (h : r.fits kernel)
    (hnonneg : 0 ≤ r.descriptor) : kernel.fdTable r.descriptor = none := by
  simpa [AcceptReturn.fits, hnonneg] using h

theorem accept_fdTable_of_open {kernel : Kernel} {r : AcceptReturn} (h : r.fits kernel) {fd : Int}
    {endpoint : Endpoint} (hopen : kernel.fdTable fd = some endpoint) :
    (kernel.accept r).fdTable fd = some endpoint := by
  by_cases hnonneg : 0 ≤ r.descriptor
  · have hne : fd ≠ r.descriptor := by
      rintro rfl
      rw [fdTable_of_fits h hnonneg] at hopen
      cases hopen
    rw [accept_of_nonneg hnonneg]
    simpa [hne] using hopen
  · rw [accept_of_neg hnonneg]
    exact hopen

theorem WellFormed.accept {kernel : Kernel} {r : AcceptReturn} (hk : kernel.WellFormed) :
    (kernel.accept r).WellFormed := by
  by_cases hnonneg : 0 ≤ r.descriptor
  · rw [accept_of_nonneg hnonneg]
    refine ⟨fun fd id h => ?_, fun fd fd' id h h' => ?_⟩
    · by_cases hfd : fd = r.descriptor
      · simp only [hfd, Function.update_self, Option.some.injEq, Endpoint.connection.injEq] at h
        dsimp only; omega
      · have := hk.lt_next fd id (by simpa [hfd] using h)
        dsimp only; omega
    · by_cases hfd : fd = r.descriptor <;> by_cases hfd' : fd' = r.descriptor
      · rw [hfd, hfd']
      · simp only [hfd, Function.update_self, Option.some.injEq, Endpoint.connection.injEq] at h
        have := hk.lt_next fd' id (by simpa [hfd'] using h')
        omega
      · simp only [hfd', Function.update_self, Option.some.injEq, Endpoint.connection.injEq] at h'
        have := hk.lt_next fd id (by simpa [hfd] using h)
        omega
      · exact hk.inj fd fd' id (by simpa [hfd] using h) (by simpa [hfd'] using h')
  · rw [accept_of_neg hnonneg]
    exact hk

theorem close_fdTable_ne {kernel : Kernel} {fd fd' : Int} (h : fd' ≠ fd) :
    (kernel.close fd).fdTable fd' = kernel.fdTable fd' := by
  simp [close, h]

theorem close_fdTable_self (kernel : Kernel) (fd : Int) : (kernel.close fd).fdTable fd = none := by
  simp [close]

theorem fdTable_of_close {kernel : Kernel} {fd fd' : Int} {endpoint : Endpoint}
    (h : (kernel.close fd).fdTable fd' = some endpoint) :
    fd' ≠ fd ∧ kernel.fdTable fd' = some endpoint := by
  by_cases hfd : fd' = fd
  · subst hfd; simp [close] at h
  · exact ⟨hfd, by simpa [close, hfd] using h⟩

theorem WellFormed.close {kernel : Kernel} (hk : kernel.WellFormed) (fd : Int) :
    (kernel.close fd).WellFormed where
  lt_next fd' id h := hk.lt_next fd' id (fdTable_of_close h).2
  inj fd' fd'' id h h' := hk.inj fd' fd'' id (fdTable_of_close h).2 (fdTable_of_close h').2

/-- What connections there are after `accept` returned: those from before, and perhaps the
    new one. -/
theorem connectionAt_accept {kernel : Kernel} {r : AcceptReturn} {fd : Int} {id : Nat}
    (h : (kernel.accept r).connectionAt fd = some id) :
    kernel.connectionAt fd = some id ∨
      (0 ≤ r.descriptor ∧ fd = r.descriptor ∧ id = kernel.nextConnection) := by
  rw [connectionAt_eq_some] at h ⊢
  by_cases hnonneg : 0 ≤ r.descriptor
  · rw [accept_of_nonneg hnonneg] at h
    by_cases hfd : fd = r.descriptor
    · simp only [hfd, Function.update_self, Option.some.injEq, Endpoint.connection.injEq] at h
      exact .inr ⟨hnonneg, hfd, h.symm⟩
    · exact .inl (by simpa [hfd] using h)
  · rw [accept_of_neg hnonneg] at h
    exact .inl h

theorem connectionAt_accept_self (kernel : Kernel) {r : AcceptReturn} (h : 0 ≤ r.descriptor) :
    (kernel.accept r).connectionAt r.descriptor = some kernel.nextConnection := by
  rw [connectionAt_eq_some, accept_of_nonneg h]
  simp

theorem connectionAt_accept_of_some {kernel : Kernel} {r : AcceptReturn} (hfits : r.fits kernel)
    {fd : Int} {id : Nat} (h : kernel.connectionAt fd = some id) :
    (kernel.accept r).connectionAt fd = some id := by
  rw [connectionAt_eq_some] at h ⊢
  exact accept_fdTable_of_open hfits h

theorem nextConnection_le_accept (kernel : Kernel) (r : AcceptReturn) :
    kernel.nextConnection ≤ (kernel.accept r).nextConnection := by
  unfold accept
  split <;> simp

theorem accept_nextConnection (kernel : Kernel) (r : AcceptReturn) :
    (kernel.accept r).nextConnection =
      if 0 ≤ r.descriptor then kernel.nextConnection + 1 else kernel.nextConnection := by
  unfold accept
  split <;> rfl

theorem connectionAt_close {kernel : Kernel} {fd fd' : Int} {id : Nat} :
    (kernel.close fd).connectionAt fd' = some id ↔
      fd' ≠ fd ∧ kernel.connectionAt fd' = some id := by
  simp only [connectionAt_eq_some]
  constructor
  · exact fdTable_of_close
  · rintro ⟨hne, h⟩
    rw [close_fdTable_ne hne, h]

end Kernel

end SecuritySocket
