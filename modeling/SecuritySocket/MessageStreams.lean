import Mathlib.Data.List.Nodup
import Mathlib.Tactic.Common

/-!
# Messages in a stream

A stream of bytes each of which is known by the message it is from and its position there.
A stream is intact when it consists of complete messages, in the order in which they were
sent, and perhaps the beginning of one more message at its end.
-/

namespace SecuritySocket.MessageStreams

/-- The first `n` bytes of the message `m`. -/
def piece (m n : Nat) : List (Nat × Nat) := (List.range n).map (m, ·)

def message (size : Nat → Nat) (m : Nat) : List (Nat × Nat) := piece m (size m)

/-- Complete messages, in order. -/
def Whole (size : Nat → Nat) (order : List Nat) (stream : List (Nat × Nat)) : Prop :=
  ∃ sent : List Nat, sent.Sublist order ∧ stream = sent.flatMap (message size)

/-- Complete messages, in order, and then at most a proper beginning of one more. -/
def Intact (size : Nat → Nat) (order : List Nat) (stream : List (Nat × Nat)) : Prop :=
  ∃ (sent : List Nat) (rest : List (Nat × Nat)), stream = sent.flatMap (message size) ++ rest ∧
    (rest = [] ∧ sent.Sublist order ∨
      ∃ m n, n < size m ∧ rest = piece m n ∧ (sent ++ [m]).Sublist order)

/-- Some message is in the stream in part only. -/
def cut (size : Nat → Nat) (order : List Nat) (stream : List (Nat × Nat)) : Bool :=
  order.any fun m =>
    let n := stream.countP fun byte => byte.1 == m
    decide (0 < n) && decide (n < size m)

def bytesOf (m : Nat) (stream : List (Nat × Nat)) : List (Nat × Nat) :=
  stream.filter fun byte => byte.1 == m

/-- Beginnings of messages, mixed in any way. -/
def Mixed (size : Nat → Nat) (stream : List (Nat × Nat)) : Prop :=
  ∀ m, ∃ n ≤ size m, bytesOf m stream = piece m n

variable {size : Nat → Nat} {order order' : List Nat} {stream stream' : List (Nat × Nat)}
  {m n : Nat}

theorem piece_append (m n k : Nat) : piece m n ++ (List.range' n k).map (m, ·) = piece m (n + k) := by
  rw [piece, piece, ← List.map_append, List.range_eq_range', List.range_eq_range',
    ← List.range'_append_1, Nat.zero_add]

theorem countP_piece (m n : Nat) : (piece m n).countP (fun byte => byte.1 == m) = n := by
  simp [piece, List.countP_map, Function.comp_def]

theorem countP_messages {sent : List Nat} (h : m ∉ sent) :
    (sent.flatMap (message size)).countP (fun byte => byte.1 == m) = 0 := by
  rw [List.countP_eq_zero]
  intro byte hbyte heq
  obtain ⟨m', hm', hpiece⟩ := List.mem_flatMap.mp hbyte
  obtain ⟨pos, _, rfl⟩ := List.mem_map.mp hpiece
  have hsame : m' = m := by simpa using heq
  exact h (hsame ▸ hm')

theorem whole_nil : Whole size order [] := ⟨[], List.nil_sublist _, rfl⟩

theorem Whole.intact (h : Whole size order stream) : Intact size order stream := by
  obtain ⟨sent, hsent, rfl⟩ := h
  exact ⟨sent, [], (List.append_nil _).symm, .inl ⟨rfl, hsent⟩⟩

theorem Intact.mono (h : Intact size order stream) (hsub : order.Sublist order') :
    Intact size order' stream := by
  obtain ⟨sent, rest, hstream, hrest⟩ := h
  refine ⟨sent, rest, hstream, ?_⟩
  rcases hrest with ⟨hnil, hsent⟩ | ⟨m, n, hlt, hpiece, hsent⟩
  · exact .inl ⟨hnil, hsent.trans hsub⟩
  · exact .inr ⟨m, n, hlt, hpiece, hsent.trans hsub⟩

theorem Whole.continued (h : Whole size order stream) (hle : n ≤ size m) :
    Intact size (order ++ [m]) (stream ++ piece m n) := by
  obtain ⟨sent, hsent, rfl⟩ := h
  have hsub : (sent ++ [m]).Sublist (order ++ [m]) := hsent.append (List.Sublist.refl [m])
  rcases Nat.lt_or_eq_of_le hle with hlt | rfl
  · exact ⟨sent, piece m n, rfl, .inr ⟨m, n, hlt, rfl, hsub⟩⟩
  · refine ⟨sent ++ [m], [], ?_, .inl ⟨rfl, hsub⟩⟩
    simp [message]

/-- An intact stream in which no message is cut consists of complete messages. -/
theorem Intact.whole (h : Intact size order stream) (hnodup : order.Nodup)
    (hcut : cut size order stream = false) : Whole size order stream := by
  obtain ⟨sent, rest, rfl, ⟨rfl, hsent⟩ | ⟨m, n, hlt, rfl, hsent⟩⟩ := h
  · exact ⟨sent, hsent, List.append_nil _⟩
  · have hnotin : m ∉ sent := by
      have hsplit := hnodup.sublist hsent
      rw [List.nodup_append] at hsplit
      exact fun hmem => hsplit.2.2 m hmem m (List.mem_singleton_self m) rfl
    have hcount : (sent.flatMap (message size) ++ piece m n).countP
        (fun byte => byte.1 == m) = n := by
      rw [List.countP_append, countP_messages hnotin, countP_piece, Nat.zero_add]
    have hmem : m ∈ order := hsent.subset (List.mem_append_right _ (List.mem_singleton_self m))
    have hzero : n = 0 := by
      have hnot := List.any_eq_false.mp hcut m hmem
      simp only [hcount, Bool.and_eq_true, decide_eq_true_eq] at hnot
      omega
    subst hzero
    exact ⟨sent, (List.sublist_append_left sent [m]).trans hsent, by simp [piece]⟩

/-! ### Mixed streams -/

theorem bytesOf_append (m : Nat) (stream stream' : List (Nat × Nat)) :
    bytesOf m (stream ++ stream') = bytesOf m stream ++ bytesOf m stream' := List.filter_append ..

theorem bytesOf_eq_nil (h : ∀ pos, (m, pos) ∉ stream) : bytesOf m stream = [] := by
  rw [bytesOf, List.filter_eq_nil_iff]
  rintro ⟨m', pos⟩ hbyte heq
  obtain rfl : m' = m := by simpa using heq
  exact h pos hbyte

theorem bytesOf_self (m : Nat) (positions : List Nat) :
    bytesOf m (positions.map (m, ·)) = positions.map (m, ·) := by
  rw [bytesOf, List.filter_eq_self]
  intro byte hbyte
  obtain ⟨pos, -, rfl⟩ := List.mem_map.mp hbyte
  exact beq_self_eq_true m

theorem bytesOf_other {m' : Nat} (hne : m' ≠ m) (positions : List Nat) :
    bytesOf m (positions.map (m', ·)) = [] := by
  apply bytesOf_eq_nil
  intro pos hbyte
  obtain ⟨_, -, heq⟩ := List.mem_map.mp hbyte
  exact hne (Prod.ext_iff.mp heq).1

theorem mixed_nil : Mixed size [] := fun _ => ⟨0, Nat.zero_le _, rfl⟩

theorem piece_of_prefix (h : stream <+: piece m n) : ∃ k ≤ n, stream = piece m k := by
  have htake := List.prefix_iff_eq_take.mp h
  refine ⟨min stream.length n, Nat.min_le_right _ _, ?_⟩
  rw [htake, piece, ← List.map_take, List.take_range, List.length_map, List.length_range]
  simp [piece]

theorem Mixed.front (h : Mixed size stream) (hfront : stream' <+: stream) : Mixed size stream' := by
  intro m
  obtain ⟨n, hn, hbytes⟩ := h m
  have hpiece : bytesOf m stream' <+: piece m n := hbytes ▸ hfront.filter _
  obtain ⟨k, hk, heq⟩ := piece_of_prefix hpiece
  exact ⟨k, Nat.le_trans hk hn, heq⟩

theorem Mixed.nodup (h : Mixed size stream) : stream.Nodup := by
  rw [List.nodup_iff_count_le_one]
  intro byte
  obtain ⟨n, -, hbytes⟩ := h byte.1
  have hpiece : (piece byte.1 n).Nodup := List.nodup_range.map fun a b heq => (Prod.ext_iff.mp heq).2
  calc stream.count byte = (bytesOf byte.1 stream).count byte := by
        rw [bytesOf, List.count_filter]
        exact beq_self_eq_true byte.1
    _ ≤ 1 := by
        rw [hbytes]
        exact List.nodup_iff_count_le_one.mp hpiece byte

end SecuritySocket.MessageStreams
