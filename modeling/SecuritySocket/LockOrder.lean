import SecuritySocket.Transition
import Mathlib.Logic.Function.Basic
import Mathlib.Logic.Relation
import Mathlib.Data.List.Nodup

/-!
# Locks taken in order

Threads that run structured programs over shared data, locks and callbacks.  A callback is
code of the caller: it may call any operation of the interface, whose callbacks may do so
again, to any depth.

The locks have ranks.  `check` follows the text of a program and the list of locks held: a
lock may be taken only above all that are held, and a callback made only when none is.
When all operations and all threads pass the check, then whatever the actions and tests
mean, no thread ever requests a lock it holds, and the waiting threads never form a circle.
-/

namespace SecuritySocket.LockOrder

open Transition

/-- Programs over actions `A`, tests `C` and locks `L`. -/
inductive Prog (A C L : Type) where
  | skip
  | act (a : A)
  | lock (l : L)
  | unlock (l : L)
  | seq (p q : Prog A C L)
  | branch (c : C) (p q : Prog A C L)
  | loop (c : C) (p : Prog A C L)
  | callback

namespace Prog

variable {A C L : Type}

def block : List (Prog A C L) → Prog A C L
  | [] => skip
  | p :: ps => seq p (block ps)

/-- The scope of a `lock_guard`. -/
def guarded (l : L) (p : Prog A C L) : Prog A C L := block [lock l, p, unlock l]

def when (c : C) (p : Prog A C L) : Prog A C L := branch c p skip

end Prog

/-- What actions and tests do when thread `t` comes to them in data `D`; an action may need an
    input, and without a successor the thread is stuck. -/
structure Meaning (A C D T I : Type) where
  act : A → T → I → D → Option D
  test : C → T → D → Bool

/-! ### Threads -/

/-- What the threads have yet to do, who holds the locks, and the data. -/
structure Threads (A C L D T : Type) where
  work : T → List (Prog A C L)
  holder : L → Option T
  data : D

/-- What a step needs to be told: the input of an action, and what a callback does next. -/
inductive Turn (I Op : Type) where
  | go (input : I)
  | call (op : Op)
  | back

section Programs

variable {A C L D T I Op : Type} [DecidableEq L]

def Threads.goOn [DecidableEq T] (s : Threads A C L D T) (t : T) (stack : List (Prog A C L)) :
    Threads A C L D T :=
  { s with work := Function.update s.work t stack }

/-- One step of thread `t`; `none` when it is not possible, or waits for a lock. -/
def step [DecidableEq T] (m : Meaning A C D T I) (ops : Op → Prog A C L)
    (s : Threads A C L D T) : T × Turn I Op → Option (Threads A C L D T)
  | (t, turn) =>
    match s.work t, turn with
    | .skip :: rest, .go _ => some (s.goOn t rest)
    | .act a :: rest, .go input =>
      (m.act a t input s.data).map fun data => { s.goOn t rest with data := data }
    | .lock l :: rest, .go _ =>
      if s.holder l = none then
        some { s.goOn t rest with holder := Function.update s.holder l (some t) }
      else none
    | .unlock l :: rest, .go _ =>
      if s.holder l = some t then
        some { s.goOn t rest with holder := Function.update s.holder l none }
      else none
    | .seq p q :: rest, .go _ => some (s.goOn t (p :: q :: rest))
    | .branch c p q :: rest, .go _ =>
      some (s.goOn t (if m.test c t s.data then p :: rest else q :: rest))
    | .loop c p :: rest, .go _ =>
      some (s.goOn t (if m.test c t s.data then p :: .loop c p :: rest else rest))
    | .callback :: rest, .call op => some (s.goOn t (ops op :: .callback :: rest))
    | .callback :: rest, .back => some (s.goOn t rest)
    | _, _ => none

def Requests (s : Threads A C L D T) (t : T) (l : L) : Prop := (s.work t).head? = some (.lock l)

/-- The thread is about to take a lock that `u` holds. -/
def WaitsFor (s : Threads A C L D T) (t u : T) : Prop := ∃ l, Requests s t l ∧ s.holder l = some u

/-! ### The check -/

/-- The locks held after the program, when it takes them in order. -/
def check (rank : L → Nat) (held : List L) : Prog A C L → Option (List L)
  | .skip => some held
  | .act _ => some held
  | .lock l => if ∀ h ∈ held, rank h < rank l then some (l :: held) else none
  | .unlock l => if l ∈ held then some (held.erase l) else none
  | .seq p q => (check rank held p).bind fun held => check rank held q
  | .branch _ p q => if check rank held p = check rank held q then check rank held p else none
  | .loop _ p => if check rank held p = some held then some held else none
  | .callback => if held = [] then some [] else none

def checkAll (rank : L → Nat) (held : List L) : List (Prog A C L) → Option (List L)
  | [] => some held
  | p :: rest => (check rank held p).bind fun held => checkAll rank held rest

/-- The program can be called with no lock held, and holds none at its end. -/
def Ordered (rank : L → Nat) (p : Prog A C L) : Prop := check rank [] p = some []

instance (rank : L → Nat) (p : Prog A C L) : Decidable (Ordered rank p) :=
  inferInstanceAs (Decidable (check rank [] p = some []))

variable {rank : L → Nat} {held held' : List L} {p q : Prog A C L} {rest : List (Prog A C L)}

theorem checkAll_cons : checkAll rank held (p :: rest) = some held' ↔
    ∃ mid, check rank held p = some mid ∧ checkAll rank mid rest = some held' :=
  Option.bind_eq_some_iff

theorem check_lock {l : L} :
    check rank held (.lock l : Prog A C L) = some held' ↔
      (∀ h ∈ held, rank h < rank l) ∧ l :: held = held' := by
  simp only [check]
  split
  · rename_i habove
    simp only [Option.some.injEq, and_iff_right habove]
  · rename_i hbelow
    simp only [reduceCtorEq, hbelow, false_and]

theorem check_unlock {l : L} :
    check rank held (.unlock l : Prog A C L) = some held' ↔ l ∈ held ∧ held.erase l = held' := by
  simp only [check]
  split
  · rename_i hheld
    simp only [Option.some.injEq, and_iff_right hheld]
  · rename_i hfree
    simp only [reduceCtorEq, hfree, false_and]

theorem check_branch {c : C} (h : check rank held (.branch c p q) = some held') :
    check rank held p = some held' ∧ check rank held q = some held' := by
  simp only [check] at h
  split at h
  · rename_i heq
    exact ⟨h, heq ▸ h⟩
  · cases h

theorem check_loop {c : C} :
    check rank held (.loop c p) = some held' ↔ check rank held p = some held ∧ held = held' := by
  simp only [check]
  split
  · rename_i hkeeps
    simp only [Option.some.injEq, and_iff_right hkeeps]
  · rename_i hkeeps
    simp only [reduceCtorEq, hkeeps, false_and]

theorem check_callback :
    check rank held (.callback : Prog A C L) = some held' ↔ held = [] ∧ held' = [] := by
  simp only [check]
  split
  · rename_i hnil
    simp [hnil, eq_comm]
  · rename_i hheld
    simp [hheld]

/-! ### The invariant -/

/-- Every thread holds the locks of its list, and the rest of its program passes the check with
    them. -/
structure InOrder (rank : L → Nat) (s : Threads A C L D T) (held : T → List L) : Prop where
  holder : ∀ t l, s.holder l = some t ↔ l ∈ held t
  nodup : ∀ t, (held t).Nodup
  checked : ∀ t, checkAll rank (held t) (s.work t) = some []

variable {s : Threads A C L D T} {helds : T → List L} {t : T}

theorem InOrder.not_mem_of_free (h : InOrder rank s helds) {l : L} (hfree : s.holder l = none)
    (t : T) : l ∉ helds t := by
  intro hmem
  have hheld := (h.holder t l).mpr hmem
  rw [hfree] at hheld
  cases hheld

/-! ### What order gives -/

theorem InOrder.rank_lt (h : InOrder rank s helds) {k l : L} (hrequest : Requests s t l)
    (hheld : s.holder k = some t) : rank k < rank l := by
  have hchecked := h.checked t
  unfold Requests at hrequest
  cases hwork : s.work t with
  | nil =>
    rw [hwork] at hrequest
    cases hrequest
  | cons p rest =>
    rw [hwork] at hrequest hchecked
    cases hrequest
    obtain ⟨mid, hlock, -⟩ := checkAll_cons.mp hchecked
    exact (check_lock.mp hlock).1 k ((h.holder t k).mp hheld)

theorem InOrder.not_holds (h : InOrder rank s helds) {l : L} (hrequest : Requests s t l) :
    s.holder l ≠ some t :=
  fun hheld => Nat.lt_irrefl _ (h.rank_lt hrequest hheld)

/-- Along the waiting threads the ranks rise: the last one holds a lock at least as high as the
    first requests. -/
theorem InOrder.rank_le_of_transGen (h : InOrder rank s helds) {t u : T}
    (hwait : Relation.TransGen (WaitsFor s) t u) :
    ∃ k l, Requests s t k ∧ s.holder l = some u ∧ rank k ≤ rank l := by
  induction hwait with
  | single hfirst =>
    obtain ⟨k, hrequest, hheld⟩ := hfirst
    exact ⟨k, k, hrequest, hheld, Nat.le_refl _⟩
  | tail _ hnext ih =>
    obtain ⟨k, l, hrequest, hheld, hle⟩ := ih
    obtain ⟨l', hrequest', hheld'⟩ := hnext
    have hlt := h.rank_lt hrequest' hheld
    exact ⟨k, l', hrequest, hheld', Nat.le_of_lt (Nat.lt_of_le_of_lt hle hlt)⟩

/-- **The waiting threads form no circle.** -/
theorem InOrder.acyclic (h : InOrder rank s helds) (t : T) :
    ¬ Relation.TransGen (WaitsFor s) t t := by
  intro hcircle
  obtain ⟨k, l, hrequest, hheld, hle⟩ := h.rank_le_of_transGen hcircle
  exact Nat.not_lt_of_le hle (h.rank_lt hrequest hheld)

/-! ### What keeps the order -/

variable [DecidableEq T] {m : Meaning A C D T I} {ops : Op → Prog A C L} {s' : Threads A C L D T}

theorem checked_update
    (h : ∀ u, checkAll rank (helds u) (s.work u) = some []) {stack : List (Prog A C L)}
    (hchecked : checkAll rank held stack = some []) (u : T) :
    checkAll rank (Function.update helds t held u) ((s.goOn t stack).work u) = some [] := by
  dsimp only [Threads.goOn]
  by_cases hu : u = t
  · subst hu
    rw [Function.update_self, Function.update_self]
    exact hchecked
  · rw [Function.update_of_ne hu, Function.update_of_ne hu]
    exact h u

theorem InOrder.goOn (h : InOrder rank s helds) {stack : List (Prog A C L)} {data : D}
    (hchecked : checkAll rank (helds t) stack = some []) :
    InOrder rank { s.goOn t stack with data := data } helds where
  holder := h.holder
  nodup := h.nodup
  checked u := by
    have hupdated := checked_update h.checked hchecked u (t := t)
    rw [Function.update_eq_self] at hupdated
    exact hupdated

theorem InOrder.lock (h : InOrder rank s helds) {l : L} (hfree : s.holder l = none)
    (hchecked : checkAll rank (l :: helds t) rest = some []) :
    InOrder rank { s.goOn t rest with holder := Function.update s.holder l (some t) }
      (Function.update helds t (l :: helds t)) where
  holder u k := by
    dsimp only
    by_cases hu : u = t
    · subst hu
      rw [Function.update_self, List.mem_cons, ← h.holder u k]
      by_cases hk : k = l <;> simp [hk]
    · rw [Function.update_of_ne hu, ← h.holder u k]
      by_cases hk : k = l
      · subst hk
        simp [hfree, Ne.symm hu]
      · rw [Function.update_of_ne hk]
  nodup := by
    rw [Function.forall_update_iff helds (p := fun _ held => held.Nodup)]
    exact ⟨List.nodup_cons.mpr ⟨h.not_mem_of_free hfree t, h.nodup t⟩, fun u _ => h.nodup u⟩
  checked := checked_update h.checked hchecked

theorem InOrder.unlock (h : InOrder rank s helds) {l : L} (hheld : s.holder l = some t)
    (hchecked : checkAll rank ((helds t).erase l) rest = some []) :
    InOrder rank { s.goOn t rest with holder := Function.update s.holder l none }
      (Function.update helds t ((helds t).erase l)) where
  holder u k := by
    dsimp only
    by_cases hk : k = l
    · subst hk
      rw [Function.update_self]
      by_cases hu : u = t
      · subst hu
        simp [(h.nodup u).mem_erase_iff]
      · rw [Function.update_of_ne hu, ← h.holder u k, hheld]
        simp [Ne.symm hu]
    · rw [Function.update_of_ne hk, h.holder u k]
      by_cases hu : u = t
      · subst hu
        rw [Function.update_self, List.mem_erase_of_ne hk]
      · rw [Function.update_of_ne hu]
  nodup := by
    rw [Function.forall_update_iff helds (p := fun _ held => held.Nodup)]
    exact ⟨(h.nodup t).erase l, fun u _ => h.nodup u⟩
  checked := checked_update h.checked hchecked

/-- Everything thread `t` can do with `p` at the top of its stack. -/
inductive Move (m : Meaning A C D T I) (ops : Op → Prog A C L) (s : Threads A C L D T) (t : T)
    (rest : List (Prog A C L)) : Prog A C L → Threads A C L D T → Prop where
  | skip : Move m ops s t rest .skip (s.goOn t rest)
  | act {a : A} {input : I} {data : D} (hact : m.act a t input s.data = some data) :
      Move m ops s t rest (.act a) { s.goOn t rest with data := data }
  | lock {l : L} (hfree : s.holder l = none) : Move m ops s t rest (.lock l)
      { s.goOn t rest with holder := Function.update s.holder l (some t) }
  | unlock {l : L} (hheld : s.holder l = some t) : Move m ops s t rest (.unlock l)
      { s.goOn t rest with holder := Function.update s.holder l none }
  | seq (p q : Prog A C L) : Move m ops s t rest (.seq p q) (s.goOn t (p :: q :: rest))
  | branch (c : C) (p q : Prog A C L) : Move m ops s t rest (.branch c p q)
      (s.goOn t (if m.test c t s.data then p :: rest else q :: rest))
  | loop (c : C) (p : Prog A C L) : Move m ops s t rest (.loop c p)
      (s.goOn t (if m.test c t s.data then p :: .loop c p :: rest else rest))
  | call (op : Op) : Move m ops s t rest .callback (s.goOn t (ops op :: .callback :: rest))
  | back : Move m ops s t rest .callback (s.goOn t rest)

theorem step_cases {turn : Turn I Op} (h : step m ops s (t, turn) = some s') :
    ∃ p rest, s.work t = p :: rest ∧ Move m ops s t rest p s' := by
  simp only [LockOrder.step] at h
  split at h
  · rename_i hwork
    cases h
    exact ⟨_, _, hwork, .skip⟩
  · rename_i hwork
    obtain ⟨data, hact, rfl⟩ := Option.map_eq_some_iff.mp h
    exact ⟨_, _, hwork, .act hact⟩
  · rename_i hwork
    split at h
    · rename_i hfree
      cases h
      exact ⟨_, _, hwork, .lock hfree⟩
    · cases h
  · rename_i hwork
    split at h
    · rename_i hheld
      cases h
      exact ⟨_, _, hwork, .unlock hheld⟩
    · cases h
  · rename_i hwork
    cases h
    exact ⟨_, _, hwork, .seq _ _⟩
  · rename_i hwork
    cases h
    exact ⟨_, _, hwork, .branch _ _ _⟩
  · rename_i hwork
    cases h
    exact ⟨_, _, hwork, .loop _ _⟩
  · rename_i hwork
    cases h
    exact ⟨_, _, hwork, .call _⟩
  · rename_i hwork
    cases h
    exact ⟨_, _, hwork, .back⟩
  · cases h

/-- **Step lemma.**  Operations that pass the check keep the threads in order. -/
theorem InOrder.step (hops : ∀ op, Ordered rank (ops op)) {turn : Turn I Op}
    (h : InOrder rank s helds) (hstep : step m ops s (t, turn) = some s') :
    ∃ helds', InOrder rank s' helds' := by
  obtain ⟨p, rest, hwork, hmove⟩ := step_cases hstep
  have hchecked := h.checked t
  rw [hwork] at hchecked
  obtain ⟨mid, hp, hrest⟩ := checkAll_cons.mp hchecked
  cases hmove with
  | skip =>
    cases hp
    exact ⟨helds, h.goOn hrest⟩
  | act hact =>
    cases hp
    exact ⟨helds, h.goOn hrest⟩
  | lock hfree =>
    obtain ⟨-, rfl⟩ := check_lock.mp hp
    exact ⟨_, h.lock hfree hrest⟩
  | unlock hheld =>
    obtain ⟨-, rfl⟩ := check_unlock.mp hp
    exact ⟨_, h.unlock hheld hrest⟩
  | seq p q =>
    obtain ⟨between, hp, hq⟩ := Option.bind_eq_some_iff.mp hp
    refine ⟨helds, h.goOn ?_⟩
    exact checkAll_cons.mpr ⟨between, hp, checkAll_cons.mpr ⟨mid, hq, hrest⟩⟩
  | branch c p q =>
    obtain ⟨hp, hq⟩ := check_branch hp
    refine ⟨helds, h.goOn ?_⟩
    split
    · exact checkAll_cons.mpr ⟨mid, hp, hrest⟩
    · exact checkAll_cons.mpr ⟨mid, hq, hrest⟩
  | loop c p =>
    obtain ⟨hkeeps, rfl⟩ := check_loop.mp hp
    refine ⟨helds, h.goOn ?_⟩
    split
    · exact checkAll_cons.mpr ⟨helds t, hkeeps, hchecked⟩
    · exact hrest
  | call op =>
    obtain ⟨hnone, rfl⟩ := check_callback.mp hp
    refine ⟨helds, h.goOn ?_⟩
    rw [hnone] at hchecked ⊢
    exact checkAll_cons.mpr ⟨[], hops op, hchecked⟩
  | back =>
    obtain ⟨hnone, rfl⟩ := check_callback.mp hp
    refine ⟨helds, h.goOn ?_⟩
    rw [hnone]
    exact hrest

/-- **Run lemma.**  From a state with no lock taken, where every thread's program passes the
    check, every reachable state is in order. -/
theorem reachable_inOrder {s₀ : Threads A C L D T} (hops : ∀ op, Ordered rank (ops op))
    (hfree : ∀ l, s₀.holder l = none) (hwork : ∀ t, checkAll rank [] (s₀.work t) = some [])
    (hreach : Reachable (LockOrder.step m ops) s₀ s) : ∃ helds, InOrder rank s helds := by
  refine hreach.invariant (I := fun s => ∃ helds, InOrder rank s helds) ?_ ?_
  · exact ⟨fun _ => [], ⟨fun t l => by simp [hfree l], fun _ => List.nodup_nil, hwork⟩⟩
  · rintro s ⟨t, turn⟩ s' ⟨helds, h⟩ hstep
    exact h.step hops hstep

end Programs

end SecuritySocket.LockOrder
