import Mathlib.Logic.Function.Basic

/-!
# The object pool (`ObjectPool.hpp`)

A fixed array of slots and a queue of the free ones.  A pointer into the array is the
index of its slot, a pointer outside it an index past the end.
-/

namespace SecuritySocket

variable {α : Type}

/-- `objects i` is the object living in slot `i`, if one has been constructed there. -/
structure ObjectPool (α : Type) where
  size : Nat
  objects : Nat → Option α
  availables : List Nat

namespace ObjectPool

def make (initialSize : Nat) : ObjectPool α :=
  { size := initialSize, objects := fun _ => none, availables := List.range initialSize }

/-- `acquire`: the slot at the front of the queue, with the new object in it; `none` is the
    null pointer. -/
def acquire (p : ObjectPool α) (object : α) : Option (Nat × ObjectPool α) :=
  match p.availables with
  | [] => none
  | i :: rest =>
    some (i, { p with objects := Function.update p.objects i (some object), availables := rest })

/-- `release`: the object is destroyed and its slot queued, if the pointer is in the array. -/
def release (p : ObjectPool α) (i : Nat) : ObjectPool α :=
  if i < p.size then
    { p with objects := Function.update p.objects i none, availables := p.availables ++ [i] }
  else
    p

def store (p : ObjectPool α) (i : Nat) (object : α) : ObjectPool α :=
  { p with objects := Function.update p.objects i (some object) }

/-- The queue holds each slot without an object exactly once. -/
structure WellFormed (p : ObjectPool α) : Prop where
  nodup : p.availables.Nodup
  mem_iff : ∀ i, i ∈ p.availables ↔ i < p.size ∧ p.objects i = none
  lt_size : ∀ i a, p.objects i = some a → i < p.size

theorem wellFormed_make (n : Nat) : (make n : ObjectPool α).WellFormed where
  nodup := List.nodup_range
  mem_iff := by simp [make]
  lt_size := by simp [make]

theorem acquire_cases {p p' : ObjectPool α} {object : α} {i : Nat}
    (h : p.acquire object = some (i, p')) :
    ∃ rest, p.availables = i :: rest ∧
      p' = { p with objects := Function.update p.objects i (some object), availables := rest } := by
  unfold acquire at h
  split at h
  · cases h
  · rename_i j rest hqueue
    simp only [Option.some.injEq, Prod.mk.injEq] at h
    obtain ⟨rfl, rfl⟩ := h
    exact ⟨rest, hqueue, rfl⟩

theorem WellFormed.acquired_free {p p' : ObjectPool α} {object : α} {i : Nat}
    (hp : p.WellFormed) (h : p.acquire object = some (i, p')) : p.objects i = none := by
  obtain ⟨rest, hqueue, rfl⟩ := acquire_cases h
  exact ((hp.mem_iff i).mp (by simp [hqueue])).2

theorem acquire_objects {p p' : ObjectPool α} {object : α} {i : Nat}
    (h : p.acquire object = some (i, p')) :
    p'.objects = Function.update p.objects i (some object) := by
  obtain ⟨rest, hqueue, rfl⟩ := acquire_cases h
  rfl

theorem store_objects_eq_some {p : ObjectPool α} {i j : Nat} {a b : α} :
    (p.store i a).objects j = some b ↔ (j = i ∧ b = a) ∨ (j ≠ i ∧ p.objects j = some b) := by
  unfold store
  by_cases hji : j = i
  · subst hji
    simp [eq_comm]
  · simp [hji]

theorem acquire_objects_eq_some {p p' : ObjectPool α} {object a : α} {i j : Nat}
    (h : p.acquire object = some (i, p')) :
    p'.objects j = some a ↔ (j = i ∧ a = object) ∨ (j ≠ i ∧ p.objects j = some a) := by
  rw [acquire_objects h]
  exact store_objects_eq_some

theorem WellFormed.acquire {p p' : ObjectPool α} {object : α} {i : Nat}
    (hp : p.WellFormed) (h : p.acquire object = some (i, p')) : p'.WellFormed := by
  obtain ⟨rest, hqueue, rfl⟩ := acquire_cases h
  have hnodup : i ∉ rest ∧ rest.Nodup := by simpa [hqueue] using hp.nodup
  refine ⟨hnodup.2, fun j => ?_, fun j a hj => ?_⟩
  · have hmem := hp.mem_iff j
    rw [hqueue, List.mem_cons] at hmem
    by_cases hji : j = i
    · subst hji; simp [hnodup.1]
    · simpa [hji] using hmem
  · by_cases hji : j = i
    · subst hji; exact ((hp.mem_iff j).mp (by simp [hqueue])).1
    · exact hp.lt_size j a (by simpa [hji] using hj)

theorem WellFormed.release {p : ObjectPool α} {i : Nat} {a : α} (hp : p.WellFormed)
    (hi : p.objects i = some a) : (p.release i).WellFormed := by
  have hlt := hp.lt_size i a hi
  have hqueued : i ∉ p.availables := by
    intro hmem
    simp [((hp.mem_iff i).mp hmem).2] at hi
  simp only [ObjectPool.release, if_pos hlt]
  refine ⟨?_, fun j => ?_, fun j b hj => ?_⟩
  · rw [List.nodup_append]
    refine ⟨hp.nodup, by simp, fun x hx y hy hxy => ?_⟩
    rw [List.mem_singleton] at hy
    exact hqueued (hy ▸ hxy ▸ hx)
  · by_cases hji : j = i
    · subst hji; simp [hlt]
    · simpa [hji] using hp.mem_iff j
  · by_cases hji : j = i
    · subst hji; exact hlt
    · exact hp.lt_size j b (by simpa [hji] using hj)

theorem release_objects {p : ObjectPool α} {i : Nat} (hlt : i < p.size) :
    (p.release i).objects = Function.update p.objects i none := by
  simp [release, hlt]

theorem release_objects_eq_some {p : ObjectPool α} {i j : Nat} {a : α} (hlt : i < p.size) :
    (p.release i).objects j = some a ↔ j ≠ i ∧ p.objects j = some a := by
  rw [release_objects hlt]
  by_cases hji : j = i
  · subst hji
    simp
  · simp [hji]

theorem WellFormed.store {p : ObjectPool α} {i : Nat} {a b : α} (hp : p.WellFormed)
    (hi : p.objects i = some a) : (p.store i b).WellFormed := by
  refine ⟨hp.nodup, fun j => ?_, fun j c hj => ?_⟩
  · by_cases hji : j = i
    · subst hji
      have := hp.mem_iff j
      simp only [hi, reduceCtorEq, and_false, iff_false] at this
      simp [ObjectPool.store, this]
    · simpa [ObjectPool.store, hji] using hp.mem_iff j
  · by_cases hji : j = i
    · subst hji; exact hp.lt_size j a hi
    · exact hp.lt_size j c (by simpa [ObjectPool.store, hji] using hj)

end ObjectPool

end SecuritySocket
