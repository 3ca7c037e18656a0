import Mathlib.Order.BooleanAlgebra.Set
import Mathlib.Tactic.Common

/-!
# Ledgers of handles

A program acquires handles from its surroundings, uses them and releases them; a handle that
was released may be given out again.  The events are a ledger, in which every acquisition of a
handle has its own count of releases.  What the program still holds is a set of handles; an
acquisition that was not released and is not held any more is lost for good.
-/

namespace SecuritySocket.Ledger

variable {H : Type*}

inductive Event (H : Type*) where
  | acquire (h : H)
  | use (h : H)
  | release (h : H)
deriving DecidableEq, Repr

/-- The event needs a handle that has not been released. -/
def Event.needs : Event H → Option H
  | .acquire _ => none
  | .use h | .release h => some h

section Tally

variable [DecidableEq H] (h : H)

/-- What an event does to the counts of `h`; a release belongs to the latest acquisition. -/
def count (counts : List Nat) : Event H → List Nat
  | .acquire h' => if h' = h then 0 :: counts else counts
  | .use _ => counts
  | .release h' => if h' = h then counts.modifyHead (· + 1) else counts

/-- How often each acquisition of `h` was released, the latest one first. -/
def tally (events : List (Event H)) : List Nat := events.foldl (count h) []

def live (events : List (Event H)) : Bool := (tally h events).head? == some 0

def stale (events : List (Event H)) : Bool :=
  match tally h events with
  | [] | 0 :: _ => false
  | (_ + 1) :: _ => true

end Tally

variable [DecidableEq H]

/-- Every acquisition was released exactly once. -/
def ExactlyOnce (events : List (Event H)) : Prop := ∀ h, ∀ n ∈ tally h events, n = 1

/-- No handle is used or released after its release. -/
def Safe (events : List (Event H)) : Prop :=
  ∀ before e after, events = before ++ e :: after → ∀ h ∈ e.needs, stale h before = false

variable {events more : List (Event H)} {held held' : Set H} {h h' : H}

@[simp] theorem tally_nil : tally h [] = [] := rfl

@[simp] theorem tally_concat (e : Event H) : tally h (events ++ [e]) = count h (tally h events) e := by
  simp [tally]

theorem tally_eq_of_forall (hmore : ∀ e ∈ more, ∀ counts, count h counts e = counts) :
    tally h (events ++ more) = tally h events := by
  rw [tally, List.foldl_append]
  change more.foldl (count h) (tally h events) = tally h events
  induction more with
  | nil => rfl
  | cons e more ih =>
    rw [List.foldl_cons, hmore e List.mem_cons_self]
    exact ih fun e' he' => hmore e' (List.mem_cons_of_mem _ he')

theorem safe_nil : Safe ([] : List (Event H)) := by
  intro before e after hsplit
  simp at hsplit

theorem safe_concat (e : Event H) :
    Safe (events ++ [e]) ↔ Safe events ∧ ∀ h ∈ e.needs, stale h events = false := by
  constructor
  · intro hsafe
    refine ⟨fun before e' after hsplit => hsafe before e' (after ++ [e]) ?_, hsafe events e [] rfl⟩
    simp [hsplit]
  · rintro ⟨hsafe, he⟩ before e' after hsplit
    rcases List.eq_nil_or_concat after with rfl | ⟨after, last, rfl⟩
    · obtain ⟨rfl, hlast⟩ := List.append_inj' hsplit rfl
      obtain rfl := List.singleton_inj.mp hlast
      exact he
    · have hlast : events ++ [e] = (before ++ e' :: after) ++ [last] := by simp [hsplit]
      obtain ⟨hevents, -⟩ := List.append_inj' hlast rfl
      exact hsafe before e' after hevents

/-! ### Accounts -/

/-- The ledger of a program that holds `held`: an acquisition was released once, the latest one
    perhaps not yet, and what is held is live. -/
structure Accounted (events : List (Event H)) (held : Set H) : Prop where
  head : ∀ h, ∀ n ∈ (tally h events).head?, n ≤ 1
  tail : ∀ h, ∀ n ∈ (tally h events).tail, n = 1
  held : ∀ h ∈ held, live h events = true
  safe : Safe events

def lost (events : List (Event H)) (held : Set H) : Set H :=
  { h | live h events = true } \ held

theorem accounted_nil : Accounted ([] : List (Event H)) ∅ :=
  ⟨by simp, by simp, by simp, safe_nil⟩

theorem lost_nil : lost ([] : List (Event H)) ∅ = ∅ := by
  simp [lost, live]

theorem stale_of_tally_nil (hnone : tally h events = []) : stale h events = false := by
  simp [stale, hnone]

theorem stale_of_live (hlive : live h events = true) : stale h events = false := by
  unfold live at hlive
  unfold stale
  split
  · rfl
  · rfl
  · rename_i n rest htally
    simp [htally] at hlive

/-- Nothing but what is lost keeps a ledger from being settled. -/
theorem Accounted.exactlyOnce_iff (haccounted : Accounted events ∅) :
    ExactlyOnce events ↔ lost events ∅ = ∅ := by
  simp only [lost, Set.sdiff_empty, Set.eq_empty_iff_forall_notMem, Set.mem_ofPred_eq]
  refine forall_congr' fun h => ?_
  have hhead := haccounted.head h
  have htail := haccounted.tail h
  unfold live
  cases htally : tally h events with
  | nil => simp
  | cons n rest =>
    simp only [htally, List.head?_cons, Option.mem_def, Option.some.injEq, forall_eq',
      List.tail_cons] at hhead htail
    simp only [List.mem_cons, forall_eq_or_imp, List.head?_cons, beq_iff_eq, Option.some.injEq]
    constructor
    · rintro ⟨rfl, _⟩
      simp
    · intro hne
      exact ⟨by omega, htail⟩

theorem Accounted.forget (haccounted : Accounted events held) (hsub : held' ⊆ held) :
    Accounted events held' ∧ (lost events held' = ∅ ↔ lost events held = ∅ ∧ held ⊆ held') := by
  refine ⟨{ haccounted with held := fun h hh => haccounted.held h (hsub hh) }, ?_⟩
  simp only [lost, Set.sdiff_eq_empty]
  constructor
  · intro hnone
    exact ⟨fun h hlive => hsub (hnone hlive), fun h hh => hnone (haccounted.held h hh)⟩
  · rintro ⟨hnone, hsame⟩ h hlive
    exact hsame (hnone hlive)

theorem live_concat_of_ne {e : Event H} (hne : ∀ counts, count h counts e = counts) :
    live h (events ++ [e]) = live h events := by
  simp [live, hne]

theorem Accounted.acquire (haccounted : Accounted events held) (hfree : live h events = false) :
    Accounted (events ++ [.acquire h]) (insert h held) ∧
      lost (events ++ [.acquire h]) (insert h held) = lost events held := by
  have hlive : live h (events ++ [.acquire h]) = true := by simp [live, count]
  have hother : ∀ h', h' ≠ h → ∀ counts, count h' counts (Event.acquire h) = counts := by
    intro h' hne counts
    simp [count, Ne.symm hne]
  have hnot : h ∉ held := fun hh => by simp [haccounted.held h hh] at hfree
  refine ⟨⟨?_, ?_, ?_, ?_⟩, ?_⟩
  · intro h'
    by_cases hne : h' = h
    · subst hne
      simp [count]
    · rw [tally_concat, hother h' hne]
      exact haccounted.head h'
  · intro h'
    by_cases hne : h' = h
    · subst hne
      intro n hn
      simp only [tally_concat, count, if_true, List.tail_cons] at hn
      cases htally : tally h' events with
      | nil => simp [htally] at hn
      | cons m rest =>
        have hhead := haccounted.head h' m (by simp [htally])
        have hm : m ≠ 0 := by
          rintro rfl
          simp [live, htally] at hfree
        rw [htally] at hn
        rcases List.mem_cons.mp hn with rfl | hn
        · omega
        · exact haccounted.tail h' n (by simpa [htally] using hn)
    · rw [tally_concat, hother h' hne]
      exact haccounted.tail h'
  · rintro h' (rfl | hh)
    · exact hlive
    · have hne : h' ≠ h := fun heq => hnot (heq ▸ hh)
      rw [live_concat_of_ne (hother h' hne)]
      exact haccounted.held h' hh
  · exact (safe_concat _).mpr ⟨haccounted.safe, by simp [Event.needs]⟩
  · ext h'
    by_cases hne : h' = h
    · subst hne
      simp [lost, hfree]
    · simp [lost, hne, live_concat_of_ne (hother h' hne)]

theorem Accounted.use (haccounted : Accounted events held) (hh : h ∈ held ∨ tally h events = []) :
    Accounted (events ++ [.use h]) held ∧ lost (events ++ [.use h]) held = lost events held := by
  have hsame : ∀ h' counts, count h' counts (Event.use h) = counts := fun _ _ => rfl
  refine ⟨⟨?_, ?_, ?_, ?_⟩, ?_⟩
  · simpa only [tally_concat, hsame] using haccounted.head
  · simpa only [tally_concat, hsame] using haccounted.tail
  · simpa only [live_concat_of_ne (hsame _)] using haccounted.held
  · refine (safe_concat _).mpr ⟨haccounted.safe, ?_⟩
    simp only [Event.needs, Option.mem_def, Option.some.injEq, forall_eq']
    rcases hh with hh | hnone
    · exact stale_of_live (haccounted.held h hh)
    · exact stale_of_tally_nil hnone
  · ext h'
    simp [lost, live_concat_of_ne (hsame h')]

theorem Accounted.release (haccounted : Accounted events held) (hh : h ∈ held) :
    Accounted (events ++ [.release h]) (held \ {h}) ∧
      lost (events ++ [.release h]) (held \ {h}) = lost events held := by
  have hother : ∀ h', h' ≠ h → ∀ counts, count h' counts (Event.release h) = counts := by
    intro h' hne counts
    simp [count, Ne.symm hne]
  have hlive := haccounted.held h hh
  obtain ⟨rest, htally⟩ : ∃ rest, tally h events = 0 :: rest := by
    simp only [live, beq_iff_eq] at hlive
    exact List.head?_eq_some_iff.mp hlive
  have hafter : tally h (events ++ [.release h]) = 1 :: rest := by simp [count, htally]
  have hdead : live h (events ++ [.release h]) = false := by rw [live, hafter]; rfl
  refine ⟨⟨?_, ?_, ?_, ?_⟩, ?_⟩
  · intro h'
    by_cases hne : h' = h
    · subst hne
      simp [hafter]
    · rw [tally_concat, hother h' hne]
      exact haccounted.head h'
  · intro h'
    by_cases hne : h' = h
    · subst hne
      simpa [hafter, htally] using haccounted.tail h'
    · rw [tally_concat, hother h' hne]
      exact haccounted.tail h'
  · rintro h' ⟨hh', hne⟩
    rw [live_concat_of_ne (hother h' hne)]
    exact haccounted.held h' hh'
  · refine (safe_concat _).mpr ⟨haccounted.safe, ?_⟩
    simp only [Event.needs, Option.mem_def, Option.some.injEq, forall_eq']
    exact stale_of_live hlive
  · ext h'
    by_cases hne : h' = h
    · subst hne
      simp [lost, hh, hdead]
    · simp [lost, hne, live_concat_of_ne (hother h' hne)]

theorem Accounted.release_none (haccounted : Accounted events held) (hnone : tally h events = []) :
    Accounted (events ++ [.release h]) held ∧
      lost (events ++ [.release h]) held = lost events held := by
  have hsame : ∀ h', tally h' (events ++ [.release h]) = tally h' events := by
    intro h'
    by_cases hne : h' = h
    · subst hne
      simp [count, hnone]
    · simp [count, Ne.symm hne]
  refine ⟨⟨?_, ?_, ?_, ?_⟩, ?_⟩
  · simpa only [hsame] using haccounted.head
  · simpa only [hsame] using haccounted.tail
  · simpa only [live, hsame] using haccounted.held
  · refine (safe_concat _).mpr ⟨haccounted.safe, ?_⟩
    simp only [Event.needs, Option.mem_def, Option.some.injEq, forall_eq']
    exact stale_of_tally_nil hnone
  · simp only [lost, live, hsame]

end SecuritySocket.Ledger
