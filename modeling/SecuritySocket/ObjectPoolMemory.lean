import Mathlib.Data.List.Nodup
import SecuritySocket.Fifo
import SecuritySocket.HandleLedger
import SecuritySocket.ObjectPool
import SecuritySocket.Transition

/-!
# The object pool in memory (`ObjectPool.hpp`)

`_objects` is an array of buffers of `sizeof(ObjectType)` bytes, and slots travel as pointers
to these: from the constructor into the queue, from there to the callers of `acquire`, and back
by `release`, which asks whether a pointer lies in the array.  A pointer is its address.  The pool
of the servers, where a slot is its index, is what this one comes to.
-/

namespace SecuritySocket

open Transition Ledger Fifo

variable {α : Type}

/-- `_objects`: where it is, how many containers it has and how many bytes an object takes. -/
structure SlotArray where
  data : Nat
  count : Nat
  objectSize : Nat
  objectSize_pos : 0 < objectSize

namespace SlotArray

variable (array : SlotArray)

def slot (k : Nat) : Nat := array.data + k * array.objectSize

def slots : List Nat := (List.range array.count).map array.slot

/-- The pointer points to some byte of the array. -/
def Covers (pointer : Nat) : Prop :=
  ∃ k < array.count, ∃ byte < array.objectSize, pointer = array.slot k + byte

instance (pointer : Nat) : Decidable (array.Covers pointer) :=
  inferInstanceAs (Decidable (∃ k < _, ∃ byte < _, _))

/-- The test of `release`: `start_ptr <= pos && pos < end_ptr`. -/
def contains (pos : Nat) : Bool :=
  let startPtr := array.data
  let endPtr := array.data + array.count * array.objectSize
  startPtr ≤ pos && pos < endPtr

end SlotArray

/-- `ObjectPool`, with the objects that live in memory by their addresses, and a ledger of the
    constructors and destructors that were called. -/
structure PoolMemory (α : Type) where
  array : SlotArray
  objects : Nat → Option α
  availables : List Nat
  events : List (Event Nat)

namespace PoolMemory

def make (array : SlotArray) : PoolMemory α where
  array := array
  objects _ := none
  availables := array.slots
  events := []

def construct (m : PoolMemory α) (ptr : Nat) (object : α) : PoolMemory α :=
  { m with
    objects := Function.update m.objects ptr (some object)
    events := m.events ++ [.acquire ptr] }

def destroy (m : PoolMemory α) (object : Nat) : PoolMemory α :=
  { m with
    objects := Function.update m.objects object none
    events := m.events ++ [.release object] }

def acquire (m : PoolMemory α) (object : α) : Option Nat × PoolMemory α :=
  match m.availables with
  | [] => (none, m)
  | ptr :: rest => (some ptr, { m with availables := rest }.construct ptr object)

def release (m : PoolMemory α) (object : Nat) : PoolMemory α :=
  if m.array.contains object then
    { m.destroy object with availables := m.availables ++ [object] }
  else
    m

end PoolMemory

inductive PoolCall (α : Type) where
  | acquire (object : α)
  | release (pointer : Nat)
deriving DecidableEq, Repr

/-- A pool and what its callers know of it: the objects they have acquired and not released since,
    what `acquire` has returned and which of these objects were released, in order. -/
structure PoolUse (α : Type) where
  pool : PoolMemory α
  acquired : List Nat := []
  returned : List (Option Nat) := []
  released : List Nat := []

namespace PoolUse

def made (array : SlotArray) : PoolUse α := { pool := .make array }

/-- One call.  Only an object that is acquired is released, or a pointer outside the array. -/
def step (s : PoolUse α) : PoolCall α → Option (PoolUse α)
  | .acquire object =>
    let (pointer, pool) := s.pool.acquire object
    some { s with
      pool := pool
      acquired := s.acquired ++ pointer.toList
      returned := s.returned ++ [pointer] }
  | .release pointer =>
    if pointer ∈ s.acquired then
      some { s with
        pool := s.pool.release pointer
        acquired := s.acquired.erase pointer
        released := s.released ++ [pointer] }
    else if s.pool.array.Covers pointer then none
    else some { s with pool := s.pool.release pointer }

/-- What a pool keeps: the queued slots and the acquired objects are the slots of the array, each
    once; `acquire` returns null when all of them are acquired; a released slot comes after those
    queued before it; a pointer outside the array is ignored; and every object is constructed by
    the call that acquires it and destroyed once, by the call that releases it. -/
structure Conserved (s : PoolUse α) : Prop where
  nodup : (s.pool.availables ++ s.acquired).Nodup
  slots : (s.pool.availables ++ s.acquired).Perm s.pool.array.slots
  null : ∀ object, (s.pool.acquire object).1 = none ↔ s.acquired.length = s.pool.array.count
  again : ∀ pointer ∈ s.acquired, ∀ calls s', exec step s (.release pointer :: calls) = some s' →
    ∃ later, s'.returned = s.returned ++ later ∧
      (later <+: (s.pool.availables ++ [pointer]).map some ∨
        (s.pool.availables ++ [pointer]).map some <+: later)
  foreign : ∀ pointer, ¬ s.pool.array.Covers pointer → s.pool.release pointer = s.pool
  live : ∀ pointer, (s.pool.objects pointer).isSome = true ↔ pointer ∈ s.acquired
  constructed : ∀ pointer,
    (tally pointer s.pool.events).length = s.returned.count (some pointer)
  destroyed : ∀ pointer, tally pointer s.pool.events =
    (if pointer ∈ s.acquired then [0] else []) ++ List.replicate (s.released.count pointer) 1

end PoolUse

/-! ### The array -/

namespace SlotArray

variable {array : SlotArray} {pointer : Nat}

theorem slot_injective : Function.Injective array.slot := by
  intro k k' h
  rw [slot, slot, Nat.add_left_cancel_iff] at h
  exact Nat.eq_of_mul_eq_mul_right array.objectSize_pos h

theorem slots_nodup : array.slots.Nodup := List.Nodup.map slot_injective List.nodup_range

@[simp] theorem length_slots : array.slots.length = array.count := by simp [slots]

theorem mem_slots : pointer ∈ array.slots ↔ ∃ k < array.count, pointer = array.slot k := by
  simp only [slots, List.mem_map, List.mem_range, eq_comm]

theorem covers_of_mem_slots (h : pointer ∈ array.slots) : array.Covers pointer := by
  obtain ⟨k, hk, rfl⟩ := mem_slots.mp h
  exact ⟨k, hk, 0, array.objectSize_pos, rfl⟩

/-- The test of `release` finds the pointers into the array, up to its last byte. -/
theorem contains_iff : array.contains pointer = true ↔ array.Covers pointer := by
  simp only [contains, Bool.and_eq_true, decide_eq_true_eq]
  constructor
  · rintro ⟨hstart, hend⟩
    have hsplit := Nat.div_add_mod' (pointer - array.data) array.objectSize
    refine ⟨(pointer - array.data) / array.objectSize, ?_,
      (pointer - array.data) % array.objectSize, Nat.mod_lt _ array.objectSize_pos, ?_⟩
    · rw [Nat.div_lt_iff_lt_mul array.objectSize_pos]
      omega
    · rw [slot]
      omega
  · rintro ⟨k, hk, byte, hbyte, rfl⟩
    have hbound : (k + 1) * array.objectSize ≤ array.count * array.objectSize :=
      Nat.mul_le_mul_right _ hk
    rw [Nat.add_mul, Nat.one_mul] at hbound
    rw [slot]
    omega

end SlotArray

/-! ### One call -/

namespace PoolMemory

theorem release_of_covers {m : PoolMemory α} {pointer : Nat} (h : m.array.Covers pointer) :
    m.release pointer =
      { m.destroy pointer with availables := m.availables ++ [pointer] } := by
  rw [release, if_pos (SlotArray.contains_iff.mpr h)]

theorem release_of_not_covers {m : PoolMemory α} {pointer : Nat} (h : ¬ m.array.Covers pointer) :
    m.release pointer = m := by
  rw [release, if_neg fun hcontains => h (SlotArray.contains_iff.mp hcontains)]

end PoolMemory

namespace PoolUse

variable {s s' : PoolUse α} {call : PoolCall α}

inductive Called (s : PoolUse α) : PoolCall α → PoolUse α → Prop where
  | acquired {object : α} {ptr : Nat} {rest : List Nat} (hqueue : s.pool.availables = ptr :: rest) :
      Called s (.acquire object)
        { s with
          pool := { s.pool with availables := rest }.construct ptr object
          acquired := s.acquired ++ [ptr]
          returned := s.returned ++ [some ptr] }
  | refused {object : α} (hqueue : s.pool.availables = []) :
      Called s (.acquire object) { s with returned := s.returned ++ [none] }
  | released {pointer : Nat} (hacquired : pointer ∈ s.acquired) :
      Called s (.release pointer)
        { s with
          pool := s.pool.release pointer
          acquired := s.acquired.erase pointer
          released := s.released ++ [pointer] }
  | ignored {pointer : Nat} (hforeign : ¬ s.pool.array.Covers pointer) : Called s (.release pointer) s

theorem step_cases (h : step s call = some s') : Called s call s' := by
  cases call with
  | acquire object =>
    simp only [step, PoolMemory.acquire] at h
    cases hqueue : s.pool.availables with
    | nil =>
      rw [hqueue] at h
      cases h
      simpa using Called.refused hqueue
    | cons ptr rest =>
      rw [hqueue] at h
      cases h
      exact .acquired hqueue
  | release pointer =>
    simp only [step] at h
    split at h
    · rename_i hacquired
      cases h
      exact .released hacquired
    · split at h
      · cases h
      · rename_i hforeign
        cases h
        rw [PoolMemory.release_of_not_covers hforeign]
        exact .ignored hforeign

/-- The slots are queued or acquired, the acquired ones hold objects, and every other object that
    was constructed has been destroyed. -/
structure Partitioned (s : PoolUse α) : Prop where
  slots : (s.pool.availables ++ s.acquired).Perm s.pool.array.slots
  live : ∀ pointer, (s.pool.objects pointer).isSome = true ↔ pointer ∈ s.acquired
  constructed : ∀ pointer,
    (tally pointer s.pool.events).length = s.returned.count (some pointer)
  destroyed : ∀ pointer, tally pointer s.pool.events =
    (if pointer ∈ s.acquired then [0] else []) ++ List.replicate (s.released.count pointer) 1

theorem partitioned_made (array : SlotArray) : (made array : PoolUse α).Partitioned where
  slots := by simp [made, PoolMemory.make]
  live := by simp [made, PoolMemory.make]
  constructed := by simp [made, PoolMemory.make]
  destroyed := by simp [made, PoolMemory.make]

theorem Partitioned.nodup (h : s.Partitioned) : (s.pool.availables ++ s.acquired).Nodup :=
  h.slots.nodup_iff.mpr SlotArray.slots_nodup

theorem Partitioned.covers (h : s.Partitioned) {pointer : Nat} (hacquired : pointer ∈ s.acquired) :
    s.pool.array.Covers pointer :=
  SlotArray.covers_of_mem_slots (h.slots.mem_iff.mp (List.mem_append_right _ hacquired))

theorem Partitioned.acquire (h : s.Partitioned) {object : α} {ptr : Nat} {rest : List Nat}
    (hqueue : s.pool.availables = ptr :: rest) : Partitioned { s with
      pool := { s.pool with availables := rest }.construct ptr object
      acquired := s.acquired ++ [ptr]
      returned := s.returned ++ [some ptr] } := by
  have hfree : ptr ∉ s.acquired := by
    have hnodup := h.nodup
    rw [hqueue, List.cons_append, List.nodup_cons] at hnodup
    exact fun hacquired => hnodup.1 (List.mem_append_right rest hacquired)
  refine ⟨?_, fun pointer => ?_, fun pointer => ?_, fun pointer => ?_⟩
  · have hmoved : (rest ++ (s.acquired ++ [ptr])).Perm (ptr :: (rest ++ s.acquired)) := by
      rw [← List.append_assoc]
      exact List.perm_append_singleton ptr (rest ++ s.acquired)
    have hslots := h.slots
    rw [hqueue, List.cons_append] at hslots
    exact hmoved.trans hslots
  · by_cases hsame : pointer = ptr
    · simp [PoolMemory.construct, hsame]
    · simpa [PoolMemory.construct, hsame] using h.live pointer
  · have hcount := h.constructed pointer
    by_cases hsame : pointer = ptr
    · subst hsame
      simpa [PoolMemory.construct, count] using hcount
    · have hne : ptr ≠ pointer := Ne.symm hsame
      simpa [PoolMemory.construct, count, hne] using hcount
  · have htally := h.destroyed pointer
    by_cases hsame : pointer = ptr
    · subst hsame
      rw [if_neg hfree, List.nil_append] at htally
      simp [PoolMemory.construct, count, htally]
    · simpa [PoolMemory.construct, count, hsame, Ne.symm hsame] using htally

theorem Partitioned.release (h : s.Partitioned) {pointer : Nat} (hacquired : pointer ∈ s.acquired) :
    Partitioned { s with
      pool := s.pool.release pointer
      acquired := s.acquired.erase pointer
      released := s.released ++ [pointer] } := by
  have hnodup : s.acquired.Nodup := (List.nodup_append.mp h.nodup).2.1
  rw [PoolMemory.release_of_covers (h.covers hacquired)]
  refine ⟨?_, fun pointer' => ?_, fun pointer' => ?_, fun pointer' => ?_⟩
  · have hmoved := (List.perm_cons_erase hacquired).symm.append_left s.pool.availables
    simp only [PoolMemory.destroy, List.append_assoc, List.singleton_append]
    exact hmoved.trans h.slots
  · by_cases hsame : pointer' = pointer
    · subst hsame
      simp [PoolMemory.destroy, hnodup.not_mem_erase]
    · simpa [PoolMemory.destroy, hsame, List.mem_erase_of_ne hsame] using h.live pointer'
  · have hcount := h.constructed pointer'
    by_cases hsame : pointer' = pointer
    · subst hsame
      simpa [PoolMemory.destroy, count] using hcount
    · have hne : pointer ≠ pointer' := Ne.symm hsame
      simpa [PoolMemory.destroy, count, hne] using hcount
  · have htally := h.destroyed pointer'
    by_cases hsame : pointer' = pointer
    · subst hsame
      rw [if_pos hacquired] at htally
      simp [PoolMemory.destroy, count, htally, hnodup.not_mem_erase, List.replicate_succ]
    · simpa [PoolMemory.destroy, count, Ne.symm hsame, List.mem_erase_of_ne hsame] using htally

theorem Partitioned.step (h : s.Partitioned) (hstep : PoolUse.step s call = some s') :
    s'.Partitioned := by
  cases step_cases hstep with
  | acquired hqueue => exact h.acquire hqueue
  | refused hqueue =>
    refine ⟨h.slots, h.live, fun pointer => ?_, h.destroyed⟩
    simpa using h.constructed pointer
  | released hacquired => exact h.release hacquired
  | ignored hforeign => exact h

/-! ### Runs -/

theorem step_array (h : step s call = some s') : s'.pool.array = s.pool.array := by
  cases step_cases h with
  | acquired hqueue => rfl
  | refused hqueue => rfl
  | released hacquired =>
    simp only [PoolMemory.release]
    split <;> rfl
  | ignored hforeign => rfl

theorem partitioned_of_exec {array : SlotArray} {calls : List (PoolCall α)}
    (hexec : exec step (made array) calls = some s) : s.Partitioned ∧ s.pool.array = array := by
  refine exec_invariant (I := fun s => s.Partitioned ∧ s.pool.array = array) ?_ hexec
    ⟨partitioned_made array, rfl⟩
  rintro s call s' ⟨hparts, harray⟩ hstep
  exact ⟨hparts.step hstep, (step_array hstep).trans harray⟩

/-- Since the queue was `start`, after the calls that returned `before`, it has come out in
    order. -/
def Serving (before : List (Option Nat)) (start : List Nat) (s : PoolUse α) : Prop :=
  ∃ later, s.returned = before ++ later ∧ Serves start later s.pool.availables

theorem Serving.step {before : List (Option Nat)} {start : List Nat} (h : Serving before start s)
    (hstep : PoolUse.step s call = some s') : Serving before start s' := by
  obtain ⟨later, hreturned, hserves⟩ := h
  cases step_cases hstep with
  | @acquired object ptr rest hqueue =>
    refine ⟨later ++ [some ptr], ?_, ?_⟩
    · simp only [hreturned, List.append_assoc]
    · rw [hqueue] at hserves
      exact hserves.take
  | refused hqueue =>
    refine ⟨later ++ [none], ?_, ?_⟩
    · simp only [hreturned, List.append_assoc]
    · rw [hqueue] at hserves
      rw [hqueue]
      exact hserves.take
  | @released pointer hacquired =>
    refine ⟨later, hreturned, ?_⟩
    by_cases hcovers : s.pool.array.Covers pointer
    · rw [PoolMemory.release_of_covers hcovers]
      exact hserves.push pointer
    · rw [PoolMemory.release_of_not_covers hcovers]
      exact hserves
  | ignored hforeign => exact ⟨later, hreturned, hserves⟩

theorem acquire_eq_none {m : PoolMemory α} {object : α} :
    (m.acquire object).1 = none ↔ m.availables = [] := by
  unfold PoolMemory.acquire
  split
  · rename_i hqueue
    simp [hqueue]
  · rename_i hqueue
    simp [hqueue]

theorem Partitioned.null (h : s.Partitioned) (object : α) :
    (s.pool.acquire object).1 = none ↔ s.acquired.length = s.pool.array.count := by
  have hlength := h.slots.length_eq
  rw [List.length_append, SlotArray.length_slots] at hlength
  rw [acquire_eq_none, ← List.length_eq_zero_iff]
  omega

theorem Partitioned.again (h : s.Partitioned) {pointer : Nat} (hacquired : pointer ∈ s.acquired)
    {calls : List (PoolCall α)} (hexec : exec PoolUse.step s (.release pointer :: calls) = some s') :
    ∃ later, s'.returned = s.returned ++ later ∧
      (later <+: (s.pool.availables ++ [pointer]).map some ∨
        (s.pool.availables ++ [pointer]).map some <+: later) := by
  obtain ⟨m, hm, hrest⟩ := exec_cons_eq_some.mp hexec
  have hstart : Serving s.returned (s.pool.availables ++ [pointer]) m := by
    simp only [PoolUse.step, if_pos hacquired, PoolMemory.release_of_covers (h.covers hacquired),
      Option.some.injEq] at hm
    rw [← hm]
    exact ⟨[], (List.append_nil _).symm, Serves.refl _⟩
  obtain ⟨later, hreturned, hserves⟩ :=
    exec_invariant (fun s call s' h hstep => Serving.step h hstep) hrest hstart
  exact ⟨later, hreturned, hserves.prefix_or_prefix⟩

/-- **Slots are conserved.**  Whatever the size of the array, and whatever the calls of `acquire` and
    of `release`, with an object that is acquired or a pointer outside the array. -/
theorem pool_conserved (array : SlotArray) {calls : List (PoolCall α)}
    (hexec : exec step (made array) calls = some s) : s.Conserved ∧ s.pool.array = array := by
  obtain ⟨hparts, harray⟩ := partitioned_of_exec hexec
  refine ⟨⟨hparts.nodup, hparts.slots, hparts.null, ?_, ?_, hparts.live, hparts.constructed,
    hparts.destroyed⟩, harray⟩
  · intro pointer hacquired calls s' hexec'
    exact hparts.again hacquired hexec'
  · intro pointer hforeign
    exact PoolMemory.release_of_not_covers hforeign

/-- Two slots of three bytes.  Both are acquired and a third object is refused; the last slot is
    released, the pointer behind the array is not, and the slot is acquired again. -/
def lastSlot : List (PoolCall Char) :=
  [.acquire 'a', .acquire 'b', .acquire 'c', .release 103, .release 106, .acquire 'd']

theorem pool_conserved_lastSlot : ∃ s : PoolUse Char,
    exec step (made ⟨100, 2, 3, by decide⟩) lastSlot = some s ∧
      s.returned = [some 100, some 103, none, some 103] ∧ s.Conserved := by
  have hruns : (exec step (made ⟨100, 2, 3, by decide⟩) lastSlot).map returned =
      some [some 100, some 103, none, some 103] := by decide
  obtain ⟨s, hs, hreturned⟩ := Option.map_eq_some_iff.mp hruns
  exact ⟨s, hs, hreturned, (pool_conserved _ hs).1⟩

end PoolUse

/-! ### Slots by their index -/

namespace PoolMemory

variable {m : PoolMemory α} {p : ObjectPool α}

/-- The pool of indices that a pool in memory comes to. -/
structure Represents (m : PoolMemory α) (p : ObjectPool α) : Prop where
  size : p.size = m.array.count
  objects : ∀ k, k < m.array.count → m.objects (m.array.slot k) = p.objects k
  availables : m.availables = p.availables.map m.array.slot

theorem represents_make (array : SlotArray) :
    Represents (make array : PoolMemory α) (ObjectPool.make array.count) :=
  ⟨rfl, fun _ _ => rfl, rfl⟩

theorem Represents.update (h : Represents m p) (k : Nat) (object : Option α) {k' : Nat}
    (hk' : k' < m.array.count) :
    Function.update m.objects (m.array.slot k) object (m.array.slot k') =
      Function.update p.objects k object k' := by
  by_cases hsame : k' = k
  · simp [hsame]
  · have hslot : m.array.slot k' ≠ m.array.slot k := fun heq =>
      hsame (SlotArray.slot_injective heq)
    rw [Function.update_of_ne hslot, Function.update_of_ne hsame, h.objects k' hk']

theorem Represents.acquire (h : Represents m p) (object : α) :
    match p.acquire object with
    | none => m.acquire object = (none, m)
    | some (k, p') => (m.acquire object).1 = some (m.array.slot k) ∧
        Represents (m.acquire object).2 p' := by
  unfold ObjectPool.acquire PoolMemory.acquire
  rw [h.availables]
  cases p.availables with
  | nil => rfl
  | cons k rest => exact ⟨rfl, h.size, fun k' hk' => h.update k (some object) hk', rfl⟩

theorem Represents.release (h : Represents m p) {k : Nat} (hk : k < p.size) :
    Represents (m.release (m.array.slot k)) (p.release k) := by
  have hmem : m.array.slot k ∈ m.array.slots := SlotArray.mem_slots.mpr ⟨k, h.size ▸ hk, rfl⟩
  rw [release_of_covers (SlotArray.covers_of_mem_slots hmem), ObjectPool.release, if_pos hk]
  refine ⟨h.size, fun k' hk' => h.update k none hk', ?_⟩
  simp [destroy, h.availables]

end PoolMemory

namespace PoolUse

/-- **Refinement.**  In every run the pool is one of indices whose queue holds each free slot once. -/
theorem exists_represents {s : PoolUse α} {array : SlotArray} {calls : List (PoolCall α)}
    (hexec : exec step (made array) calls = some s) :
    ∃ p : ObjectPool α, s.pool.Represents p ∧ p.WellFormed := by
  have hend := exec_invariant (I := fun s : PoolUse α => s.Partitioned ∧
    ∃ p : ObjectPool α, s.pool.Represents p ∧ p.WellFormed) ?_ hexec
    ⟨partitioned_made array, _, PoolMemory.represents_make array,
      ObjectPool.wellFormed_make array.count⟩
  · exact hend.2
  · rintro s call s' ⟨hparts, p, hp, hwell⟩ hstep
    refine ⟨hparts.step hstep, ?_⟩
    cases step_cases hstep with
    | @acquired object ptr rest hqueue =>
      have hacquire := hp.acquire object
      cases hindex : p.acquire object with
      | none =>
        rw [hindex] at hacquire
        simp [PoolMemory.acquire, hqueue] at hacquire
      | some result =>
        obtain ⟨k, p'⟩ := result
        rw [hindex] at hacquire
        simp only [PoolMemory.acquire, hqueue] at hacquire
        exact ⟨p', hacquire.2, hwell.acquire hindex⟩
    | refused hqueue => exact ⟨p, hp, hwell⟩
    | @released pointer hacquired =>
      have hmem := hparts.slots.mem_iff.mp (List.mem_append_right _ hacquired)
      obtain ⟨k, hk, rfl⟩ := SlotArray.mem_slots.mp hmem
      obtain ⟨object, hobject⟩ := Option.isSome_iff_exists.mp ((hparts.live _).mpr hacquired)
      rw [hp.objects k hk] at hobject
      exact ⟨p.release k, hp.release (hp.size ▸ hk), hwell.release hobject⟩
    | ignored hforeign => exact ⟨p, hp, hwell⟩

end PoolUse

end SecuritySocket
