import SecuritySocket.SocketClient

/-!
# What `SocketClient::write` delivers

The bytes taken by the transport are the first bytes of the buffer, each once, and the
returned count says how many, as long as no transport call of the loop reports the
retryable code with a negative byte count.  That outcome is added to `written_size` like
any other, as a negative number converted to `size_t`.
-/

namespace SecuritySocket.SocketClient

open FixedWidth Transition

variable {tls : Bool} {maxRetries size : Nat}

/-- The state of the loop is what a caller may rely on: the transport took the first
    bytes of the buffer in order, `written_size` counts them, and once the loop is over the
    result reports their number, with `SUCCESS` for exactly the whole buffer. -/
structure Delivers (maxRetries size : Nat) (s : WriteLoop) : Prop where
  in_order : s.handed = List.range s.handed.length
  within : s.handed.length ≤ size
  bounded : s.writtenSize ≤ size
  bytes : s.running maxRetries = false → s.returned.bytes = s.handed.length
  code : s.running maxRetries = false →
    (s.returned.code = .success ↔ s.handed.length = size)

/-- The rounds of a call keep the contract: every state on the way delivers, and
    `written_size` never decreases. -/
structure WriteKept (tls : Bool) (maxRetries size : Nat) (rounds : List WriteRound) : Prop where
  delivers : ∀ before after s, rounds = before ++ after →
    exec (writeStep tls maxRetries size) {} before = some s → Delivers maxRetries size s
  monotone : ∀ before round after s s', rounds = before ++ round :: after →
    exec (writeStep tls maxRetries size) {} before = some s →
    writeStep tls maxRetries size s round = some s' → s.writtenSize ≤ s'.writtenSize

/-- The poll succeeds and the transport call reports would-block with a negative return. -/
def WriteRound.wouldBlock (round : WriteRound) : Bool :=
  (SocketEventListener.wait round.poll).code == .success &&
    (ClientActiveSocket.write round.transport).code == .socketConnectionNeedToBeBlocked &&
    (ClientActiveSocket.write round.transport).bytes < 0

/-- What the loop knows while nothing has gone wrong. -/
structure WriteInv (maxRetries size : Nat) (s : WriteLoop) : Prop where
  handed : s.handed = List.range s.writtenSize
  bounded : s.writtenSize ≤ size
  incomplete : s.running maxRetries = true → s.writtenSize < size
  code : s.running maxRetries = false → (s.result.code = .success ↔ s.writtenSize = size)

theorem WriteInv.delivers (hsize : size < 2 ^ 31) {s : WriteLoop}
    (h : WriteInv maxRetries size s) : Delivers maxRetries size s := by
  have hlength : s.handed.length = s.writtenSize := by rw [h.handed, List.length_range]
  have hnarrow : toInt32 s.writtenSize = s.writtenSize :=
    toInt32_of_lt (Nat.lt_of_le_of_lt h.bounded hsize)
  refine ⟨by rw [hlength]; exact h.handed, hlength ▸ h.bounded, h.bounded, ?_, ?_⟩
  · intro _
    rw [WriteLoop.returned, hnarrow, hlength]
  · intro hover
    rw [hlength]
    exact h.code hover

theorem writeInv_init (hretries : 1 ≤ maxRetries) (hsize : 1 ≤ size) :
    WriteInv maxRetries size {} := by
  refine ⟨rfl, Nat.zero_le _, fun _ => hsize, ?_⟩
  intro hover
  simp only [WriteLoop.running, Bool.not_false, Bool.true_and, decide_eq_false_iff_not] at hover
  omega

/-- What one iteration can do: time out, break on a failed poll, or make a transport call. -/
theorem writeStep_cases {s s' : WriteLoop} {round : WriteRound}
    (h : writeStep tls maxRetries size s round = some s') :
    s.running maxRetries = true ∧
      let result := SocketEventListener.wait round.poll
      (result.code = .socketTimeout ∧ s' = { s with result := result, i := s.i + 1 }) ∨
      (result.code ≠ .socketTimeout ∧ result.code ≠ .success ∧
        s' = { s with result := result, broken := true }) ∨
      (result.code = .success ∧ round.transport.fits tls (s.remaining size) ∧
        s' = { s with result := result }.transport size round.transport) := by
  unfold writeStep at h
  split at h
  · cases h
  · rename_i hrunning
    refine ⟨by simpa using hrunning, ?_⟩
    dsimp only at h ⊢
    split at h
    · rename_i hcode
      left; exact ⟨hcode, by simpa using h.symm⟩
    · rename_i hcode
      split at h
      · rename_i hfits
        right; right; exact ⟨hcode, hfits, by simpa using h.symm⟩
      · cases h
    · rename_i htimeout hsuccess
      right; left; exact ⟨htimeout, hsuccess, by simpa using h.symm⟩

theorem transport_cases (size : Nat) (s : WriteLoop) (r : ClientWriteReturn) :
    let result := ClientActiveSocket.write r
    let handed := s.handed ++ List.range' s.writtenSize r.count
    ((result.code = .success ∨ result.code = .socketConnectionNeedToBeBlocked) ∧
      s.transport size r = { s with result := result, handed := handed }.accumulate size) ∨
    (result.code ≠ .success ∧ result.code ≠ .socketConnectionNeedToBeBlocked ∧
      s.transport size r = { s with result := result, handed := handed, broken := true }) := by
  unfold WriteLoop.transport
  dsimp only
  split
  · rename_i htimeout
    exact absurd htimeout (ClientActiveSocket.write_code_ne_timeout r)
  · rename_i hblocked
    left; exact ⟨Or.inr hblocked, rfl⟩
  · rename_i hsuccess
    left; exact ⟨Or.inl hsuccess, rfl⟩
  · rename_i _ hblocked hsuccess
    right; exact ⟨hsuccess, hblocked, rfl⟩

theorem accumulate_inv {s : WriteLoop} {result : SocketResult} {count : Nat}
    (hsize : size < 2 ^ 31) (hinv : WriteInv maxRetries size s)
    (hrunning : s.running maxRetries = true) (hcount : s.writtenSize + count ≤ size)
    (hbytes : result.bytes = count) (hcode : 0 < count → result.code = .success) :
    let handed := s.handed ++ List.range' s.writtenSize count
    let s' := { s with result := result, handed := handed }.accumulate size
    WriteInv maxRetries size s' ∧ s.writtenSize ≤ s'.writtenSize := by
  have hwritten : sizeAdd s.writtenSize (toSize result.bytes) = s.writtenSize + count := by
    rw [hbytes, toSize_natCast (by omega), sizeAdd_eq (by omega)]
  have hlt : s.writtenSize < size := hinv.incomplete hrunning
  simp only [WriteLoop.running, Bool.and_eq_true, Bool.not_eq_true', decide_eq_true_eq] at hrunning
  simp only [WriteLoop.accumulate, hwritten]
  refine ⟨⟨?_, hcount, ?_, ?_⟩, by omega⟩
  · rw [hinv.handed, List.range_eq_range', List.range_eq_range', ← List.range'_append_1,
      Nat.zero_add]
  · intro hrun
    simp only [WriteLoop.running, Bool.and_eq_true, Bool.not_eq_true', beq_eq_false_iff_ne] at hrun
    dsimp only; omega
  · intro hover
    have hfull : s.writtenSize + count = size := by
      by_contra hne
      simp [WriteLoop.running, hne, hrunning.2] at hover
    simp only [hfull, iff_true]
    exact hcode (by omega)

/-- A transport call that does not would-block with a negative return keeps the invariant. -/
theorem transport_inv {s : WriteLoop} {r : ClientWriteReturn} (hsize : size < 2 ^ 31)
    (hinv : WriteInv maxRetries size s) (hrunning : s.running maxRetries = true)
    (hfits : r.fits tls (s.remaining size))
    (hblock : ¬ ((ClientActiveSocket.write r).code = .socketConnectionNeedToBeBlocked ∧
      (ClientActiveSocket.write r).bytes < 0)) :
    WriteInv maxRetries size (s.transport size r) ∧
      s.writtenSize ≤ (s.transport size r).writtenSize := by
  have hlt : s.writtenSize < size := hinv.incomplete hrunning
  have hremaining : s.remaining size = size - s.writtenSize :=
    sizeSub_eq hinv.bounded (by omega)
  rw [hremaining] at hfits
  have hcount : r.count ≤ size - s.writtenSize := r.count_le_of_fits (by omega) hfits
  have hsuccess := ClientActiveSocket.write_code_eq_success hfits
  have hbytes := ClientActiveSocket.write_bytes hfits
  rcases transport_cases size s r with ⟨hcode, heq⟩ | ⟨hns, hnb, heq⟩
  · rw [heq]
    refine accumulate_inv hsize hinv hrunning (by omega) ?_ hsuccess.mpr
    rcases hbytes with ⟨hneg, hzero⟩ | hbytes
    · rcases hcode with hcode | hcode
      · have := hsuccess.mp hcode; omega
      · exact absurd ⟨hcode, hneg⟩ hblock
    · exact hbytes
  · have hzero : r.count = 0 := by
      by_contra hpos
      exact hns (hsuccess.mpr (by omega))
    rw [heq, hzero]
    refine ⟨⟨by simpa using hinv.handed, hinv.bounded, ?_, ?_⟩, Nat.le_refl _⟩
    · intro hrun
      simp [WriteLoop.running] at hrun
    · intro _
      simp only [hns, false_iff]
      omega

/-- **Iteration lemma.**  Off the retryable outcome, an iteration keeps the invariant and
    moves `written_size` forward only. -/
theorem writeStep_inv {s s' : WriteLoop} {round : WriteRound} (hsize : size < 2 ^ 31)
    (hinv : WriteInv maxRetries size s) (hblock : round.wouldBlock = false)
    (hstep : writeStep tls maxRetries size s round = some s') :
    WriteInv maxRetries size s' ∧ s.writtenSize ≤ s'.writtenSize := by
  obtain ⟨hrunning, hcases⟩ := writeStep_cases hstep
  have hlt : s.writtenSize < size := hinv.incomplete hrunning
  rcases hcases with ⟨hcode, rfl⟩ | ⟨htimeout, hcode, rfl⟩ | ⟨hcode, hfits, rfl⟩
  · refine ⟨⟨hinv.handed, hinv.bounded, fun _ => hlt, ?_⟩, Nat.le_refl _⟩
    intro _
    simp only [hcode, reduceCtorEq, false_iff]
    omega
  · refine ⟨⟨hinv.handed, hinv.bounded, fun _ => hlt, ?_⟩, Nat.le_refl _⟩
    intro _
    simp only [hcode, false_iff]
    omega
  · have hinv' : WriteInv maxRetries size
        { s with result := SocketEventListener.wait round.poll } :=
      ⟨hinv.handed, hinv.bounded, hinv.incomplete, fun hover => by
        have : s.running maxRetries = false := hover
        simp [hrunning] at this⟩
    refine transport_inv hsize hinv' hrunning hfits ?_
    rintro ⟨hblocked, hneg⟩
    simp [WriteRound.wouldBlock, hcode, hblocked, hneg] at hblock

theorem writeStep_wouldBlock {s s' : WriteLoop} {round : WriteRound} (hsize : size < 2 ^ 31)
    (hbounded : s.writtenSize ≤ size) (hblock : round.wouldBlock = true)
    (hstep : writeStep tls maxRetries size s round = some s') :
    s'.writtenSize < s.writtenSize ∨ size < s'.writtenSize := by
  simp only [WriteRound.wouldBlock, Bool.and_eq_true, beq_iff_eq, decide_eq_true_eq] at hblock
  obtain ⟨⟨hpoll, hcode⟩, hneg⟩ := hblock
  obtain ⟨_, hcases⟩ := writeStep_cases hstep
  rcases hcases with ⟨htimeout, _⟩ | ⟨_, hne, _⟩ | ⟨_, hfits, rfl⟩
  · rw [hpoll] at htimeout; cases htimeout
  · exact absurd hpoll hne
  · have hlow := ClientActiveSocket.write_bytes_ge hfits
    rcases transport_cases size
        { s with result := SocketEventListener.wait round.poll } round.transport with
      ⟨_, heq⟩ | ⟨_, hnb, _⟩
    · rw [heq]
      simp only [WriteLoop.accumulate, toSize_neg hneg hlow, sizeAdd]
      omega
    · exact absurd hcode hnb

/-- The rounds of a `write` call keep its contract if and only if none of them would-blocks
    with a negative return. -/
theorem writeKept_iff (tls : Bool) (maxRetries size : Nat) (rounds : List WriteRound)
    (hretries : 1 ≤ maxRetries) (hsize : 1 ≤ size) (hlimit : size < 2 ^ 31)
    (hcall : (exec (writeStep tls maxRetries size) {} rounds).isSome) :
    WriteKept tls maxRetries size rounds ↔ ∀ round ∈ rounds, round.wouldBlock = false := by
  obtain ⟨last, hlast⟩ := Option.isSome_iff_exists.mp hcall
  constructor
  · intro hkept round hmem
    obtain ⟨before, after, rfl⟩ := List.append_of_mem hmem
    obtain ⟨s, hbefore, hrest⟩ := exec_append_eq_some.mp hlast
    obtain ⟨s', hstep, hafter⟩ := exec_cons_eq_some.mp hrest
    by_contra hblock
    have hs := hkept.delivers before (round :: after) s rfl hbefore
    have hs' := hkept.delivers (before ++ [round]) after s' (by simp) (by
      rw [exec_append_eq_some]
      exact ⟨s, hbefore, exec_cons_eq_some.mpr ⟨s', hstep, rfl⟩⟩)
    have hmono := hkept.monotone before round after s s' rfl hbefore hstep
    have hbounded := hs'.bounded
    rcases writeStep_wouldBlock hlimit hs.bounded (by simpa using hblock) hstep with h | h <;>
      omega
  · intro hnone
    have hinv : ∀ before after s, rounds = before ++ after →
        exec (writeStep tls maxRetries size) {} before = some s → WriteInv maxRetries size s := by
      rintro before after s rfl hbefore
      refine exec_invariant_of_meets
        (fun s round s' hI (hguard : round.wouldBlock = false) hstep => (writeStep_inv hlimit hI hguard hstep).1) hbefore
        (meets_of_forall_label fun round hmem => hnone round (by simp [hmem]))
        (writeInv_init hretries hsize)
    refine ⟨fun before after s heq hbefore => (hinv before after s heq hbefore).delivers hlimit, ?_⟩
    rintro before round after s s' rfl hbefore hstep
    exact (writeStep_inv hlimit (hinv before (round :: after) s rfl hbefore)
      (hnone round (by simp)) hstep).2

/-- One byte sent, then the poll reports the socket writable but the send would block: the
    second round takes the byte back, so that it is sent again. -/
def wouldBlockRounds : List WriteRound :=
  [⟨.ready { pollout := true } none, .plain (.sent 1)⟩,
   ⟨.ready { pollout := true } none, .plain (.error .ewouldblock)⟩]

/-- With a buffer of two bytes, `wouldBlockRounds` are the rounds of a call that breaks the
    contract. -/
theorem write_after_wouldBlock :
    (exec (writeStep false 1 2) {} wouldBlockRounds).isSome ∧
      ¬ WriteKept false 1 2 wouldBlockRounds := by
  refine ⟨by decide, fun hkept => ?_⟩
  have hmono := hkept.monotone [wouldBlockRounds[0]] wouldBlockRounds[1] []
    { writtenSize := 1, result := { code := .success, bytes := 1 }, handed := [0] }
    { writtenSize := 0, handed := [0],
      result := { code := .socketConnectionNeedToBeBlocked, bytes := -1 } }
    rfl (by decide) (by decide)
  simp at hmono

theorem writeKept_two_rounds :
    WriteKept false 3 2
      [⟨.ready { pollout := true } none, .plain (.sent 1)⟩, ⟨.timeout, .plain (.sent 0)⟩,
       ⟨.ready { pollout := true } none, .plain (.sent 1)⟩] :=
  (writeKept_iff false 3 2 _ (by decide) (by decide) (by decide) (by decide)).mpr (by decide)

end SecuritySocket.SocketClient
