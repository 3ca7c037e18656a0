import Mathlib.Data.List.TakeWhile
import Mathlib.Tactic.Common

/-!
# Strings in fixed fields

A C string is read from memory up to the first NUL.  `memcpy` writes what it is given,
whatever the field it is aimed at can hold; `snprintf` keeps what leaves room for the NUL and
drops the rest.  The lemmas say for which texts the string read back is the one written.
Memory is the list of its characters, from the field on.
-/

namespace SecuritySocket.CStrings

def nul : Char := Char.ofNat 0

/-- The string that begins at `memory`. -/
def read (memory : List Char) : List Char := memory.takeWhile (· != nul)

/-- A `char` array of `size` with initializer `{0}`. -/
def zeros (size : Nat) : List Char := List.replicate size nul

def memcpy (memory bytes : List Char) : List Char := bytes ++ memory.drop bytes.length

/-- `snprintf` of `text` into a field, which is not empty. -/
def snprintf (field text : List Char) : List Char :=
  memcpy field (text.take (field.length - 1) ++ [nul])

variable {text rest field : List Char} {size : Nat}

/-! ### Reading -/

theorem read_append_nul (h : nul ∉ text) : read (text ++ nul :: rest) = text := by
  have htext : ∀ c ∈ text, (c != nul) = true := fun c hc =>
    bne_iff_ne.mpr fun hnul => h (hnul ▸ hc)
  rw [read, List.takeWhile_append_of_pos htext]
  simp

theorem read_take {memory : List Char} {n : Nat} (h : nul ∈ memory.take n) :
    read (memory.take n) = read memory := by
  obtain ⟨text, rest, hsplit, hnul⟩ := List.eq_append_cons_of_mem h
  have hmemory : memory = text ++ nul :: (rest ++ memory.drop n) := by
    calc memory = memory.take n ++ memory.drop n := (List.take_append_drop n memory).symm
      _ = text ++ nul :: (rest ++ memory.drop n) := by
        rw [hsplit, List.append_assoc, List.cons_append]
  rw [hsplit, read_append_nul hnul, hmemory, read_append_nul hnul]

/-! ### `snprintf` -/

theorem read_snprintf (h : nul ∉ text) :
    read (snprintf field text) = text.take (field.length - 1) := by
  rw [snprintf, memcpy, List.append_assoc, List.singleton_append]
  exact read_append_nul fun hmem => h (List.mem_of_mem_take hmem)

/-- The text comes back exactly when it leaves room for its NUL. -/
theorem read_snprintf_eq_iff (h : nul ∉ text) (hfield : 0 < field.length) :
    read (snprintf field text) = text ↔ text.length < field.length := by
  rw [read_snprintf h]
  constructor
  · intro hsame
    have hlength := congrArg List.length hsame
    rw [List.length_take] at hlength
    omega
  · intro hlt
    exact List.take_of_length_le (by omega)

/-! ### `memcpy` over a zeroed field -/

@[simp] theorem length_zeros (size : Nat) : (zeros size).length = size := List.length_replicate

theorem zeros_drop (n : Nat) : (zeros size).drop n = zeros (size - n) := List.drop_replicate

theorem memcpy_zeros (h : text.length < size) :
    memcpy (zeros size ++ rest) text =
      text ++ nul :: (zeros (size - text.length - 1) ++ rest) := by
  rw [memcpy, List.drop_append_of_le_length (by rw [length_zeros]; omega), zeros_drop]
  have hsucc : zeros (size - text.length) = nul :: zeros (size - text.length - 1) := by
    rw [zeros, show size - text.length = (size - text.length - 1) + 1 by omega,
      List.replicate_succ]
    rfl
  rw [hsucc, List.cons_append]

theorem read_memcpy_zeros (hnul : nul ∉ text) (h : text.length < size) :
    read (memcpy (zeros size ++ rest) text) = text := by
  rw [memcpy_zeros h]
  exact read_append_nul hnul

/-- The field still holds a NUL exactly when the text leaves room for one. -/
theorem nul_mem_take_memcpy (hnul : nul ∉ text) :
    nul ∈ (memcpy (zeros size ++ rest) text).take size ↔ text.length < size := by
  constructor
  · intro hmem
    by_contra hlong
    rw [memcpy, List.take_append_of_le_length (by omega)] at hmem
    exact hnul (List.mem_of_mem_take hmem)
  · intro h
    rw [memcpy_zeros h, List.take_append, show size - text.length = (size - text.length - 1) + 1 by
      omega, List.take_succ_cons]
    simp

/-- Where more zeros follow the field, they are left alone exactly when the text fits into the
    field. -/
theorem drop_memcpy_eq (hnul : nul ∉ text) {behind : Nat} (hbehind : 0 < behind) :
    (memcpy (zeros size ++ (zeros behind ++ rest)) text).drop size = zeros behind ++ rest ↔
      text.length ≤ size := by
  have hlength : (zeros size).length = size := length_zeros size
  constructor
  · intro hsame
    by_contra hlong
    rw [memcpy, List.drop_append_of_le_length (Nat.le_of_not_le hlong)] at hsame
    have hfirst := congrArg (·[0]?) hsame
    have hzero : (zeros behind ++ rest)[0]? = some nul := by
      rw [List.getElem?_append_left (by simpa [zeros] using hbehind)]
      simp [zeros, hbehind]
    rw [hzero] at hfirst
    have hdrop : 0 < (text.drop size).length := by rw [List.length_drop]; omega
    simp only [List.getElem?_append_left hdrop] at hfirst
    exact hnul (List.mem_of_mem_drop (List.mem_of_getElem? hfirst))
  · intro h
    have hfield : (text ++ (zeros size).drop text.length).length = size := by
      rw [List.length_append, zeros_drop, length_zeros]
      omega
    have hrest : (zeros size ++ (zeros behind ++ rest)).drop text.length =
        (zeros size).drop text.length ++ (zeros behind ++ rest) :=
      List.drop_append_of_le_length (by omega)
    rw [memcpy, hrest, ← List.append_assoc]
    exact List.drop_left' hfield

/-! ### Writing behind an offset -/

/-- `memcpy` of `bytes` to `offset` bytes behind the start of `memory`. -/
def memcpyAt (memory : List Char) (offset : Nat) (bytes : List Char) : List Char :=
  memory.take offset ++ memcpy (memory.drop offset) bytes

theorem memcpyAt_append (text rest bytes : List Char) :
    memcpyAt (text ++ rest) text.length bytes = text ++ bytes ++ rest.drop bytes.length := by
  rw [memcpyAt, memcpy, List.take_left, List.drop_left, List.append_assoc]

theorem set_append_length (text rest : List Char) (c d : Char) :
    (text ++ d :: rest).set text.length c = text ++ c :: rest := by
  rw [List.set_append_right _ _ (Nat.le_refl _), Nat.sub_self, List.set_cons_zero]

theorem memcpyAt_cons (text rest bytes : List Char) (c d : Char) :
    memcpyAt ((text ++ d :: rest).set text.length c) (text.length + 1) bytes =
      memcpyAt (text ++ d :: rest) text.length (c :: bytes) := by
  have hlength : text.length + 1 = (text ++ [c]).length := by simp
  have hsplit : text ++ c :: rest = (text ++ [c]) ++ rest := by simp
  rw [set_append_length, hsplit, hlength, memcpyAt_append, memcpyAt_append]
  simp

/-- A field of `size` characters holds `text` and its NUL, and `behind` lies behind it. -/
structure Holds (size : Nat) (text behind memory : List Char) : Prop where
  split : ∃ rest, memory = text ++ nul :: (rest ++ behind) ∧ text.length + 1 + rest.length = size
  proper : nul ∉ text

variable {behind memory : List Char}

theorem Holds.length_lt (h : Holds size text behind memory) : text.length < size := by
  obtain ⟨rest, -, hsize⟩ := h.split
  omega

theorem Holds.read (h : Holds size text behind memory) : read memory = text := by
  obtain ⟨rest, rfl, -⟩ := h.split
  exact read_append_nul h.proper

theorem Holds.drop (h : Holds size text behind memory) : memory.drop size = behind := by
  obtain ⟨rest, rfl, hsize⟩ := h.split
  have hfield : (text ++ nul :: rest).length = size := by
    rw [List.length_append, List.length_cons]
    omega
  rw [← List.cons_append, ← List.append_assoc]
  exact List.drop_left' hfield

theorem Holds.length (h : Holds size text behind memory) : memory.length = size + behind.length := by
  obtain ⟨rest, rfl, hsize⟩ := h.split
  simp only [List.length_append, List.length_cons]
  omega

theorem holds_nil (hfield : field.length = size) (hsize : 0 < size) :
    Holds size [] behind ((field ++ behind).set 0 nul) := by
  cases field with
  | nil => simp at hfield; omega
  | cons c rest =>
    refine ⟨⟨rest, rfl, ?_⟩, by simp⟩
    rw [← hfield, List.length_cons, List.length_nil]
    omega

theorem Holds.append (h : Holds size text behind memory) {more : List Char} (hmore : nul ∉ more)
    (hroom : (text ++ more).length < size) :
    Holds size (text ++ more) behind
      ((memcpyAt memory text.length more).set (text ++ more).length nul) := by
  obtain ⟨rest, rfl, hsize⟩ := h.split
  rw [List.length_append] at hroom
  have hlonger : more.length < (nul :: rest).length := by
    rw [List.length_cons]
    omega
  have hbehind : (nul :: (rest ++ behind)).drop more.length =
      (nul :: rest)[more.length] :: ((nul :: rest).drop (more.length + 1) ++ behind) := by
    rw [← List.cons_append, List.drop_append_of_le_length (Nat.le_of_lt hlonger),
      List.drop_eq_getElem_cons hlonger, List.cons_append]
  rw [memcpyAt_append, hbehind, set_append_length]
  refine ⟨⟨(nul :: rest).drop (more.length + 1), rfl, ?_⟩, ?_⟩
  · rw [List.length_append, List.length_drop]
    rw [List.length_cons] at hlonger ⊢
    omega
  · intro hmem
    rcases List.mem_append.mp hmem with hin | hin
    · exact h.proper hin
    · exact hmore hin

end SecuritySocket.CStrings
