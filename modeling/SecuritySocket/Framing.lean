import Mathlib.Tactic.Common

/-!
# Length-prefixed framing

A byte stream carries frames: a header of fixed size, from which the size of the payload
is read, then the payload.  `Format.frames` is the reference parser: it reads all of a
finite stream at once and returns the complete frames.  A parser that gets its bytes in
pieces is correct when, whatever the pieces were, the frames it has emitted are
`Format.frames` of the bytes it has consumed; `frames_of_split` is the rule for showing
that, from a splitting of the consumed bytes into emitted frames and an incomplete rest.
-/

namespace SecuritySocket.Framing

variable {β : Type*}

/-- How long headers are, and how long the payload announced by a header is. -/
structure Format (β : Type*) where
  headerSize : Nat
  payloadSize : List β → Nat

structure Frame (β : Type*) where
  header : List β
  payload : List β
deriving DecidableEq, Repr

def Frame.bytes (f : Frame β) : List β := f.header ++ f.payload

namespace Format

variable (F : Format β)

/-- The frame has the sizes the format asks for. -/
structure Fits (f : Frame β) : Prop where
  header : f.header.length = F.headerSize
  payload : f.payload.length = F.payloadSize f.header

/-- The first frame of a stream and the stream after it, if that frame is complete. -/
def next? (bytes : List β) : Option (Frame β × List β) :=
  let header := bytes.take F.headerSize
  let rest := bytes.drop F.headerSize
  if F.headerSize ≤ bytes.length ∧ F.payloadSize header ≤ rest.length then
    some (⟨header, rest.take (F.payloadSize header)⟩, rest.drop (F.payloadSize header))
  else
    none

/-- At most `fuel` frames from the front of a stream. -/
def framesWithin : Nat → List β → List (Frame β)
  | 0, _ => []
  | fuel + 1, bytes =>
    match F.next? bytes with
    | none => []
    | some (f, rest) => f :: framesWithin fuel rest

/-- The complete frames of a stream, in order.  A frame has at least one byte when headers
    do, so the length of the stream bounds their number. -/
def frames (bytes : List β) : List (Frame β) := F.framesWithin bytes.length bytes

theorem next?_append {f : Frame β} (h : F.Fits f) (rest : List β) :
    F.next? (f.bytes ++ rest) = some (f, rest) := by
  have hheader : (f.bytes ++ rest).take F.headerSize = f.header := by
    rw [Frame.bytes, List.append_assoc, ← h.header, List.take_left]
  have hrest : (f.bytes ++ rest).drop F.headerSize = f.payload ++ rest := by
    rw [Frame.bytes, List.append_assoc, ← h.header, List.drop_left]
  have hfits : F.headerSize ≤ (f.bytes ++ rest).length ∧
      F.payloadSize f.header ≤ (f.payload ++ rest).length := by
    constructor
    · simp only [Frame.bytes, List.length_append, ← h.header]; omega
    · simp only [List.length_append, ← h.payload]; omega
  simp only [next?, hheader, hrest, if_pos hfits]
  rw [← h.payload, List.take_left, List.drop_left]

theorem next?_eq_none_of_short_header {bytes : List β} (h : bytes.length < F.headerSize) :
    F.next? bytes = none := by
  simp only [next?]
  rw [if_neg (by omega)]

theorem next?_eq_none_of_short_payload {header part : List β}
    (hheader : header.length = F.headerSize) (hpart : part.length < F.payloadSize header) :
    F.next? (header ++ part) = none := by
  have htake : (header ++ part).take F.headerSize = header := by
    rw [← hheader, List.take_left]
  have hdrop : (header ++ part).drop F.headerSize = part := by
    rw [← hheader, List.drop_left]
  simp only [next?, htake, hdrop]
  rw [if_neg (by omega)]

theorem framesWithin_of_split {emitted : List (Frame β)} {rest : List β} {fuel : Nat}
    (hfits : ∀ f ∈ emitted, F.Fits f) (hrest : F.next? rest = none)
    (hfuel : emitted.length ≤ fuel) :
    F.framesWithin fuel ((emitted.map Frame.bytes).flatten ++ rest) = emitted := by
  induction emitted generalizing fuel with
  | nil =>
    cases fuel with
    | zero => rfl
    | succ fuel => simp [framesWithin, hrest]
  | cons f fs ih =>
    cases fuel with
    | zero => simp at hfuel
    | succ fuel =>
      have hnext := F.next?_append (hfits f (by simp)) ((fs.map Frame.bytes).flatten ++ rest)
      simp only [List.map_cons, List.flatten_cons, List.append_assoc, framesWithin, hnext]
      rw [ih (fun g hg => hfits g (by simp [hg])) (by simpa using hfuel)]

theorem length_le_of_fits (hpos : 0 < F.headerSize) {emitted : List (Frame β)}
    (hfits : ∀ f ∈ emitted, F.Fits f) :
    emitted.length ≤ (emitted.map Frame.bytes).flatten.length := by
  induction emitted with
  | nil => simp
  | cons f fs ih =>
    have hone : 0 < f.bytes.length := by
      rw [Frame.bytes, List.length_append, (hfits f (by simp)).header]; omega
    have htail := ih fun g hg => hfits g (by simp [hg])
    simp only [List.length_cons, List.map_cons, List.flatten_cons, List.length_append]
    omega

/-- **Splitting rule.**  A stream that falls into fitting frames and a rest holding no
    complete frame has exactly those frames. -/
theorem frames_of_split (hpos : 0 < F.headerSize) {emitted : List (Frame β)} {rest : List β}
    (hfits : ∀ f ∈ emitted, F.Fits f) (hrest : F.next? rest = none) :
    F.frames ((emitted.map Frame.bytes).flatten ++ rest) = emitted := by
  refine F.framesWithin_of_split hfits hrest ?_
  rw [List.length_append]
  have := F.length_le_of_fits hpos hfits
  omega

theorem next?_eq_some {bytes rest : List β} {f : Frame β} (h : F.next? bytes = some (f, rest)) :
    F.Fits f ∧ bytes = f.bytes ++ rest := by
  unfold next? at h
  dsimp only at h
  split at h
  · rename_i hfits
    simp only [Option.some.injEq, Prod.mk.injEq] at h
    obtain ⟨rfl, rfl⟩ := h
    refine ⟨⟨?_, ?_⟩, ?_⟩
    · rw [List.length_take, Nat.min_eq_left hfits.1]
    · rw [List.length_take, Nat.min_eq_left hfits.2]
    · rw [Frame.bytes, List.append_assoc, List.take_append_drop, List.take_append_drop]
  · cases h

theorem exists_split_within (hpos : 0 < F.headerSize) {fuel : Nat} {bytes : List β}
    (hfuel : bytes.length ≤ fuel) : ∃ rest, (∀ f ∈ F.framesWithin fuel bytes, F.Fits f) ∧
      F.next? rest = none ∧
        bytes = ((F.framesWithin fuel bytes).map Frame.bytes).flatten ++ rest := by
  induction fuel generalizing bytes with
  | zero =>
    refine ⟨bytes, ?_, ?_, rfl⟩
    · simp [framesWithin]
    · apply F.next?_eq_none_of_short_header
      omega
  | succ fuel ih =>
    cases hnext : F.next? bytes with
    | none => exact ⟨bytes, by simp [framesWithin, hnext], hnext, by simp [framesWithin, hnext]⟩
    | some first =>
      obtain ⟨f, later⟩ := first
      obtain ⟨hfits, hbytes⟩ := F.next?_eq_some hnext
      have hlater : later.length ≤ fuel := by
        have hlength := congrArg List.length hbytes
        rw [Frame.bytes, List.length_append, List.length_append, hfits.header] at hlength
        omega
      obtain ⟨rest, heach, hrest, hsplit⟩ := ih hlater
      refine ⟨rest, ?_, hrest, ?_⟩
      · simp only [framesWithin, hnext, List.mem_cons, forall_eq_or_imp]
        exact ⟨hfits, heach⟩
      · simp only [framesWithin, hnext, List.map_cons, List.flatten_cons, List.append_assoc]
        rw [← hsplit]
        exact hbytes

/-- Every stream falls into its frames and a rest holding no complete frame. -/
theorem exists_split (hpos : 0 < F.headerSize) (bytes : List β) :
    ∃ rest, (∀ f ∈ F.frames bytes, F.Fits f) ∧ F.next? rest = none ∧
      bytes = ((F.frames bytes).map Frame.bytes).flatten ++ rest :=
  F.exists_split_within hpos (Nat.le_refl _)

/-- **Prefix rule.**  A longer stream has the frames of a shorter one, and then more. -/
theorem frames_prefix (hpos : 0 < F.headerSize) {bytes bytes' : List β} (h : bytes <+: bytes') :
    F.frames bytes <+: F.frames bytes' := by
  obtain ⟨more, rfl⟩ := h
  obtain ⟨rest, hfits, -, hbytes⟩ := F.exists_split hpos bytes
  obtain ⟨rest', hfits', hrest', hmore⟩ := F.exists_split hpos (rest ++ more)
  have hwhole : bytes ++ more =
      ((F.frames bytes ++ F.frames (rest ++ more)).map Frame.bytes).flatten ++ rest' := by
    rw [List.map_append, List.flatten_append, List.append_assoc, ← hmore, ← List.append_assoc,
      ← hbytes]
  have hboth : ∀ f ∈ F.frames bytes ++ F.frames (rest ++ more), F.Fits f := by
    intro f hf
    exact (List.mem_append.mp hf).elim (hfits f) (hfits' f)
  rw [hwhole, F.frames_of_split hpos hboth hrest']
  exact List.prefix_append _ _

end Format

end SecuritySocket.Framing
