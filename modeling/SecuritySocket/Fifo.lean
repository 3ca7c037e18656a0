import Mathlib.Data.List.Basic
import Mathlib.Tactic.Common

/-!
# First in, first out

A queue gets elements at its end and is taken from at its front; taking from an empty queue
gives nothing.  What it holds comes out first and in order, and what has come out is the front
of what was put in.
-/

namespace SecuritySocket.Fifo

variable {α : Type*} {start contents pushed taken : List α} {results : List (Option α)}

/-! ### What a queue holds comes out first -/

/-- Since the queue held `start` taking from it has given `results`, and now it holds `contents`. -/
def Serves (start : List α) (results : List (Option α)) (contents : List α) : Prop :=
  (∃ rest, start.map some = results ++ rest.map some ∧ rest <+: contents) ∨
    start.map some <+: results

theorem Serves.refl (start : List α) : Serves start [] start :=
  .inl ⟨start, rfl, List.prefix_refl start⟩

theorem Serves.push (h : Serves start results contents) (a : α) :
    Serves start results (contents ++ [a]) := by
  rcases h with ⟨rest, hstart, hrest⟩ | hdone
  · exact .inl ⟨rest, hstart, hrest.trans (List.prefix_append contents [a])⟩
  · exact .inr hdone

theorem Serves.take (h : Serves start results contents) :
    Serves start (results ++ [contents.head?]) contents.tail := by
  rcases h with ⟨rest, hstart, hrest⟩ | hdone
  · cases rest with
    | nil =>
      rw [List.map_nil, List.append_nil] at hstart
      rw [Serves, hstart]
      exact .inr (List.prefix_append results _)
    | cons a rest =>
      obtain ⟨behind, rfl⟩ := hrest
      refine .inl ⟨rest, ?_, List.prefix_append rest behind⟩
      simpa using hstart
  · exact .inr (hdone.trans (List.prefix_append results _))

theorem Serves.prefix_or_prefix (h : Serves start results contents) :
    results <+: start.map some ∨ start.map some <+: results := by
  rcases h with ⟨rest, hstart, -⟩ | hdone
  · exact .inl ⟨rest.map some, hstart.symm⟩
  · exact .inr hdone

/-! ### What has come out is the front of what was put in -/

/-- All that was pushed has been taken, or is there still. -/
def InOrder (pushed taken contents : List α) : Prop := pushed = taken ++ contents

theorem InOrder.push (h : InOrder pushed taken contents) (a : α) :
    InOrder (pushed ++ [a]) taken (contents ++ [a]) := by
  rw [InOrder, h, List.append_assoc]

theorem InOrder.take {a : α} (h : InOrder pushed taken (a :: contents)) :
    InOrder pushed (taken ++ [a]) contents := by
  rw [InOrder, h, List.append_assoc, List.singleton_append]

theorem InOrder.taken_prefix (h : InOrder pushed taken contents) : taken <+: pushed := by
  rw [h]
  exact List.prefix_append taken contents

end SecuritySocket.Fifo
