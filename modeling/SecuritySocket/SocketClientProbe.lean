import SecuritySocket.SocketClientConnect

/-!
# The probe loop (`SocketClientImpl::connect`, phase 2)

A TLS 1.3 server may reject the client after `SSL_connect` has returned 1.  The loop peeks for
that, and waits for input as long as nothing tells.  What the server sends after the handshake
is a list of pieces of records: a record has arrived when its last piece has.  A piece is
first on its way, then unread in the kernel, and `SSL_peek` takes the unread pieces in order.
-/

namespace SecuritySocket.SocketClient

open Transition

/-- The records a server sends after the handshake. -/
inductive TlsRecord where
  | sessionTicket
  | applicationData
  | fatalAlert
  | closeNotify
deriving DecidableEq, Repr

/-- Some bytes of a record, or the bytes that complete it. -/
inductive Piece where
  | part
  | last (record : TlsRecord)
deriving DecidableEq, Repr

/-- `SSL_peek` works through what is unread up to the first record that is no session ticket;
    the second component is what stays in the kernel. -/
def sslPeek : List Piece → Option TlsRecord × List Piece
  | [] => (none, [])
  | .part :: unread => sslPeek unread
  | .last .sessionTicket :: unread => sslPeek unread
  | .last record :: unread => (some record, unread)

/-- What `SSL_peek` and `SSL_get_error` say of the record found.  Once the connection is
    closed, or reset, they may say anything where nothing is left to read. -/
def peekAnswers (isOpen : Bool) (ret : Int) (failure : SslFailure) : Option TlsRecord → Bool
  | some .applicationData => 0 < ret
  | some .fatalAlert => ret ≤ 0 && failure.error == .ssl
  | some .closeNotify => ret ≤ 0 && failure.error == .zeroReturn
  | some .sessionTicket => false
  | none => ret ≤ 0 && (!isOpen || failure.error == .wantRead)

/-- What poll may report: POLLIN if, and on an open connection only if, something is unread. -/
def pollAnswers (isOpen : Bool) (unread : List Piece) : PollReturn → Bool
  | .timeout => isOpen && unread.isEmpty
  | .error => true
  | .ready revents _ =>
    (revents.pollin || unread.isEmpty) && (!revents.pollin || !unread.isEmpty || !isOpen)

/-- `connect` in its last loop, and the connection: what the server has still to send or the
    network to deliver, what is unread, and what arrived in all. -/
structure ProbeLoop where
  pc : ConnectPc
  coming : List Piece
  unread : List Piece := []
  arrived : List Piece := []
  isOpen : Bool := true
deriving DecidableEq, Repr

inductive ProbeLabel where
  | arrive
  | close
  | peek (ret : Int) (failure : SslFailure)
  | poll (ret : PollReturn)
deriving DecidableEq, Repr

namespace ProbeLoop

def running (s : ProbeLoop) : Bool :=
  match s.pc with
  | .returned _ => false
  | _ => true

/-- TCP and TLS are connected, with TLS 1.3; nothing has arrived after that. -/
def start (maxRetries : Nat) (result : SocketResult) (coming : List Piece) : ProbeLoop where
  pc := toProbe maxRetries result
  coming := coming

def step (maxRetries : Nat) (s : ProbeLoop) : ProbeLabel → Option ProbeLoop
  | .arrive =>
    match s.coming with
    | [] => none
    | piece :: coming =>
      if s.running && s.isOpen then
        some { s with coming := coming, unread := s.unread ++ [piece],
                      arrived := s.arrived ++ [piece] }
      else none
  | .close => if s.running && s.isOpen then some { s with isOpen := false } else none
  | .peek ret failure =>
    let (record, unread) := sslPeek s.unread
    if peekAnswers s.isOpen ret failure record then
      (connectStep true maxRetries s.pc (.probe (.peek ret failure))).map fun pc =>
        { s with pc := pc, unread := unread }
    else none
  | .poll ret =>
    if pollAnswers s.isOpen s.unread ret then
      (connectStep true maxRetries s.pc (.poll ret)).map fun pc => { s with pc := pc }
    else none

end ProbeLoop

/-- A fatal alert or a close_notify has arrived, and no application data before it. -/
def Rejected (arrived : List Piece) : Prop :=
  ∃ before record after, arrived = before ++ .last record :: after ∧
    (record = .fatalAlert ∨ record = .closeNotify) ∧ .last .applicationData ∉ before

/-- Nothing but session tickets, and perhaps part of a record. -/
def Quiet (pieces : List Piece) : Prop :=
  ∀ piece ∈ pieces, piece = .part ∨ piece = .last .sessionTicket

theorem Quiet.append {pieces pieces' : List Piece} (h : Quiet pieces) (h' : Quiet pieces') :
    Quiet (pieces ++ pieces') := by
  intro piece hpiece
  rcases List.mem_append.mp hpiece with hmem | hmem
  · exact h piece hmem
  · exact h' piece hmem

theorem Rejected.tail {piece : Piece} {arrived : List Piece} (h : Rejected (piece :: arrived))
    (hpiece : piece = .part ∨ piece = .last .sessionTicket) : Rejected arrived := by
  obtain ⟨before, record, after, heq, hrecord, hbefore⟩ := h
  cases before with
  | nil =>
    rw [(List.cons.inj heq).1] at hpiece
    rcases hrecord with rfl | rfl <;> simp at hpiece
  | cons first before =>
    refine ⟨before, record, after, (List.cons.inj heq).2, hrecord, ?_⟩
    exact fun hmem => hbefore (List.mem_cons_of_mem _ hmem)

/-- Before application data, and where nothing but tickets arrived, there is no rejection. -/
theorem Quiet.not_rejected {before after : List Piece} (h : Quiet before)
    (hafter : after = [] ∨ ∃ rest, after = .last .applicationData :: rest) :
    ¬ Rejected (before ++ after) := by
  induction before with
  | nil =>
    rintro ⟨before, record, rest, heq, hrecord, hbefore⟩
    rcases hafter with rfl | ⟨rest', rfl⟩
    · simp at heq
    · cases before with
      | nil =>
        cases (List.cons.inj heq).1
        simp at hrecord
      | cons first before =>
        apply hbefore
        rw [(List.cons.inj heq).1]
        exact List.mem_cons_self
  | cons piece before ih =>
    intro hrejected
    apply ih fun piece' hpiece' => h piece' (List.mem_cons_of_mem _ hpiece')
    exact hrejected.tail (h piece List.mem_cons_self)

/-- Everything `SSL_peek` can find. -/
inductive Peeked : List Piece → Option TlsRecord → List Piece → Prop where
  | found {before rest : List Piece} {record : TlsRecord} (hbefore : Quiet before)
      (hrecord : record ≠ .sessionTicket) :
      Peeked (before ++ .last record :: rest) (some record) rest
  | nothing {unread : List Piece} (hquiet : Quiet unread) : Peeked unread none []

theorem Peeked.cons {piece : Piece} {unread rest : List Piece} {record : Option TlsRecord}
    (hpiece : piece = .part ∨ piece = .last .sessionTicket) (h : Peeked unread record rest) :
    Peeked (piece :: unread) record rest := by
  have hquiet : ∀ {pieces : List Piece}, Quiet pieces → Quiet (piece :: pieces) := by
    intro pieces hpieces
    exact List.forall_mem_cons.mpr ⟨hpiece, hpieces⟩
  cases h with
  | found hbefore hrecord => exact .found (hquiet hbefore) hrecord
  | nothing hunread => exact .nothing (hquiet hunread)

theorem sslPeek_cases (unread : List Piece) :
    Peeked unread (sslPeek unread).1 (sslPeek unread).2 := by
  have hnil : Quiet [] := by simp [Quiet]
  induction unread with
  | nil => exact .nothing hnil
  | cons piece unread ih =>
    cases piece with
    | part => exact ih.cons (.inl rfl)
    | last record =>
      cases record with
      | sessionTicket => exact ih.cons (.inr rfl)
      | applicationData | fatalAlert | closeNotify =>
        exact @Peeked.found [] unread _ hnil (by simp)

/-! ### What a peek comes to -/

open TLSClientActiveSocket in
theorem postHandshakeProbe_rejects {ret : Int} {failure : SslFailure} (hret : ret ≤ 0)
    (herror : failure.error = .ssl ∨ failure.error = .zeroReturn) :
    (postHandshakeProbe ret failure).code ≠ .success ∧
      pending (postHandshakeProbe ret failure) = false := by
  have hprobe : postHandshakeProbe ret failure = createTLSResult ret failure := by
    unfold postHandshakeProbe
    rw [if_neg (by omega)]
    rcases herror with herror | herror <;> rw [herror]
  rw [hprobe]
  refine ⟨?_, ?_⟩
  · rw [ne_eq, createTLSResult_code_eq_success]
    omega
  · unfold createTLSResult
    rw [if_neg (by omega)]
    rcases herror with herror | herror <;> rw [herror]
    · have hmem := tlsProtocolErrorCode_mem failure
      simp only [List.mem_cons, List.not_mem_nil, or_false] at hmem
      rcases hmem with h | h | h | h | h | h <;> simp [pending, h]
    · simp [pending]

namespace ProbeLoop

/-- Everything a step can do. -/
inductive Move (maxRetries : Nat) (s : ProbeLoop) : ProbeLabel → ProbeLoop → Prop where
  | arrive {piece : Piece} {coming : List Piece} (hcoming : s.coming = piece :: coming)
      (hrunning : s.running = true) :
      Move maxRetries s .arrive
        { s with coming := coming, unread := s.unread ++ [piece],
                 arrived := s.arrived ++ [piece] }
  | close (hrunning : s.running = true) : Move maxRetries s .close { s with isOpen := false }
  | peek {ret : Int} {failure : SslFailure} {record : Option TlsRecord} {rest : List Piece}
      {pc : ConnectPc} (hpeeked : Peeked s.unread record rest)
      (hanswers : peekAnswers s.isOpen ret failure record = true)
      (hmove : ConnectMove true maxRetries s.pc (.probe (.peek ret failure)) pc) :
      Move maxRetries s (.peek ret failure) { s with pc := pc, unread := rest }
  | poll {ret : PollReturn} {pc : ConnectPc}
      (hanswers : pollAnswers s.isOpen s.unread ret = true)
      (hmove : ConnectMove true maxRetries s.pc (.poll ret) pc) :
      Move maxRetries s (.poll ret) { s with pc := pc }

variable {maxRetries : Nat}

theorem step_cases {s s' : ProbeLoop} {label : ProbeLabel}
    (h : step maxRetries s label = some s') : Move maxRetries s label s' := by
  cases label with
  | arrive =>
    simp only [step] at h
    split at h
    · cases h
    · rename_i piece coming hcoming
      split at h
      · rename_i hboth
        cases h
        exact .arrive hcoming (Bool.and_eq_true_iff.mp hboth).1
      · cases h
  | close =>
    simp only [step] at h
    split at h
    · rename_i hboth
      cases h
      exact .close (Bool.and_eq_true_iff.mp hboth).1
    · cases h
  | peek ret failure =>
    simp only [step] at h
    split at h
    · obtain ⟨pc, hpc, rfl⟩ := Option.map_eq_some_iff.mp h
      exact .peek (sslPeek_cases s.unread) ‹_› (connectStep_cases hpc)
    · cases h
  | poll ret =>
    simp only [step] at h
    split at h
    · obtain ⟨pc, hpc, rfl⟩ := Option.map_eq_some_iff.mp h
      exact .poll ‹_› (connectStep_cases hpc)
    · cases h

/-! ### What a peek tells -/

section Peek

variable {isOpen : Bool} {ret : Int} {failure : SslFailure} {pc : ConnectPc}

theorem peek_applicationData
    (hanswers : peekAnswers isOpen ret failure (some .applicationData) = true)
    (hmove : CallMove (TLSClientActiveSocket.postHandshakeProbe ret failure) .returned .probeWait
      .returned pc) : pc = .returned {} := by
  have hret : 0 < ret := by simpa [peekAnswers] using hanswers
  have hprobe : TLSClientActiveSocket.postHandshakeProbe ret failure = {} := if_pos hret
  rw [hprobe] at hmove
  cases hmove with
  | succeeded hsuccess => rfl
  | pends hfailed hpending => exact absurd rfl hfailed
  | failed hfailed hpending => exact absurd rfl hfailed

theorem peek_rejection {record : TlsRecord} (hrecord : record = .fatalAlert ∨ record = .closeNotify)
    (hanswers : peekAnswers isOpen ret failure (some record) = true)
    (hmove : CallMove (TLSClientActiveSocket.postHandshakeProbe ret failure) .returned .probeWait
      .returned pc) : ∃ result, pc = .returned result ∧ result.code ≠ .success := by
  have hfails : ret ≤ 0 ∧ (failure.error = .ssl ∨ failure.error = .zeroReturn) := by
    rcases hrecord with rfl | rfl
    · simp only [peekAnswers, Bool.and_eq_true, decide_eq_true_eq, beq_iff_eq] at hanswers
      exact ⟨hanswers.1, .inl hanswers.2⟩
    · simp only [peekAnswers, Bool.and_eq_true, decide_eq_true_eq, beq_iff_eq] at hanswers
      exact ⟨hanswers.1, .inr hanswers.2⟩
  obtain ⟨hfailed, hpending⟩ := postHandshakeProbe_rejects hfails.1 hfails.2
  cases hmove with
  | succeeded hsuccess => exact absurd hsuccess hfailed
  | pends _ hpends =>
    rw [hpending] at hpends
    cases hpends
  | failed _ _ => exact ⟨_, rfl, hfailed⟩

theorem peek_nothing (hanswers : peekAnswers true ret failure none = true)
    (hmove : CallMove (TLSClientActiveSocket.postHandshakeProbe ret failure) .returned .probeWait
      .returned pc) : pc = .probeWait := by
  simp only [peekAnswers, Bool.not_true, Bool.false_or, Bool.and_eq_true, decide_eq_true_eq,
    beq_iff_eq] at hanswers
  have hprobe : TLSClientActiveSocket.postHandshakeProbe ret failure =
      { code := .socketConnectionNeedToBeBlocked } := by
    unfold TLSClientActiveSocket.postHandshakeProbe
    rw [if_neg (by omega), hanswers.2]
  rw [hprobe] at hmove
  cases hmove with
  | succeeded hsuccess => cases hsuccess
  | pends hfailed hpending => rfl
  | failed hfailed hpending => cases hpending

end Peek

/-! ### No rejection is missed -/

/-- What was taken out of the kernel while the loop runs is nothing but tickets; and a success
    is returned on no rejection. -/
inductive Attended (s : ProbeLoop) : Prop where
  | looping {taken : List Piece} (hpc : s.pc = .probing ∨ s.pc = .probeWait)
      (htaken : Quiet taken) (harrived : s.arrived = taken ++ s.unread) : Attended s
  | returned {result : SocketResult} (hpc : s.pc = .returned result)
      (hresult : result.code = .success → ¬ Rejected s.arrived) : Attended s

theorem Attended.peek {s : ProbeLoop} {taken rest : List Piece} {record : Option TlsRecord}
    {ret : Int} {failure : SslFailure} {pc : ConnectPc} (htaken : Quiet taken)
    (harrived : s.arrived = taken ++ s.unread) (hpeeked : Peeked s.unread record rest)
    (hanswers : peekAnswers s.isOpen ret failure record = true)
    (hmove : CallMove (TLSClientActiveSocket.postHandshakeProbe ret failure) .returned .probeWait
      .returned pc) : Attended { s with pc := pc, unread := rest } := by
  generalize hunread : s.unread = unread at hpeeked harrived
  cases hpeeked with
  | @found before rest record hbefore hrecord =>
    have harrived' : s.arrived = (taken ++ before) ++ .last record :: rest := by
      rw [harrived, List.append_assoc]
    cases record with
    | sessionTicket => exact absurd rfl hrecord
    | applicationData =>
      rw [peek_applicationData hanswers hmove]
      refine .returned rfl fun _ => ?_
      rw [harrived']
      exact (htaken.append hbefore).not_rejected (.inr ⟨rest, rfl⟩)
    | fatalAlert =>
      obtain ⟨result, rfl, hfailed⟩ := peek_rejection (.inl rfl) hanswers hmove
      exact .returned rfl fun hsuccess => absurd hsuccess hfailed
    | closeNotify =>
      obtain ⟨result, rfl, hfailed⟩ := peek_rejection (.inr rfl) hanswers hmove
      exact .returned rfl fun hsuccess => absurd hsuccess hfailed
  | nothing hquiet =>
    have hall : Quiet s.arrived := by
      rw [harrived]
      exact htaken.append hquiet
    have hnot : ¬ Rejected s.arrived := by
      have := hall.not_rejected (.inl rfl)
      rwa [List.append_nil] at this
    cases hmove with
    | succeeded hsuccess => exact .returned rfl fun _ => hnot
    | pends hfailed hpending => exact .looping (.inr rfl) hall (List.append_nil _).symm
    | failed hfailed hpending => exact .returned rfl fun _ => hnot

theorem Attended.poll (hmax : 1 ≤ maxRetries) {s : ProbeLoop} {taken : List Piece}
    {ret : PollReturn} {pc : ConnectPc} (htaken : Quiet taken)
    (harrived : s.arrived = taken ++ s.unread)
    (hanswers : pollAnswers s.isOpen s.unread ret = true)
    (hmove : WaitMove .read ret (fun _ => .returned {}) (toProbe maxRetries) pc) :
    Attended { s with pc := pc } := by
  cases hmove with
  | timedOut htimeout =>
    rw [SocketEventListener.wait_code_eq_timeout] at htimeout
    subst htimeout
    simp only [pollAnswers, Bool.and_eq_true, List.isEmpty_iff] at hanswers
    rw [hanswers.2] at harrived
    refine .returned rfl fun _ => ?_
    rw [harrived]
    exact htaken.not_rejected (.inl rfl)
  | failed htimeout hfailed => exact .returned rfl fun hsuccess => absurd hsuccess hfailed
  | ready hfits hsuccess =>
    rw [toProbe_of_pos hmax]
    exact .looping (.inl rfl) htaken harrived

theorem Attended.step (hmax : 1 ≤ maxRetries) {s s' : ProbeLoop} {label : ProbeLabel}
    (h : Attended s) (hmove : Move maxRetries s label s') : Attended s' := by
  cases h with
  | looping hpc htaken harrived =>
    cases hmove with
    | @arrive piece coming hcoming hrunning =>
      refine .looping hpc htaken ?_
      rw [harrived, List.append_assoc]
    | close hrunning => exact .looping hpc htaken harrived
    | peek hpeeked hanswers hmove =>
      rcases hpc with hpc | hpc <;> rw [hpc] at hmove <;> cases hmove
      exact .peek htaken harrived hpeeked hanswers ‹_›
    | poll hanswers hmove =>
      rcases hpc with hpc | hpc <;> rw [hpc] at hmove <;> cases hmove
      exact .poll hmax htaken harrived hanswers ‹_›
  | returned hpc hresult =>
    have hstopped : s.running = false := by
      unfold running
      rw [hpc]
    cases hmove with
    | arrive hcoming hrunning => simp [hstopped] at hrunning
    | close hrunning => simp [hstopped] at hrunning
    | peek hpeeked hanswers hmove =>
      rw [hpc] at hmove
      cases hmove
    | poll hanswers hmove =>
      rw [hpc] at hmove
      cases hmove

/-! ### A connection that stays good is accepted -/

/-- The connection stays open, and poll fails on no account. -/
def calm : ProbeLabel → Bool
  | .arrive | .peek _ _ | .poll .timeout => true
  | .close | .poll .error => false
  | .poll (.ready revents _) => !revents.hangup

def Accepted (s : ProbeLoop) : Prop :=
  ∃ result, s.pc = .returned result ∧ result.code = .success

/-- The loop runs on an open connection, on which no rejection is to come. -/
structure Hospitable (s : ProbeLoop) : Prop where
  looping : s.pc = .probing ∨ s.pc = .probeWait
  isOpen : s.isOpen = true
  unread : ∀ piece ∈ s.unread, piece ≠ .last .fatalAlert ∧ piece ≠ .last .closeNotify
  coming : ∀ piece ∈ s.coming, piece ≠ .last .fatalAlert ∧ piece ≠ .last .closeNotify

/-- What is to come, and the calls that can be made before more comes: a wait that finds
    something unread, the peek that takes it, and the one that finds nothing. -/
def remaining (s : ProbeLoop) : Nat :=
  4 * s.coming.length +
    match s.pc with
    | .probing => if s.unread = [] then 1 else 2
    | .probeWait => if s.unread = [] then 0 else 3
    | _ => 0

theorem Hospitable.found {s : ProbeLoop} (h : s.Hospitable) {record : TlsRecord}
    {rest : List Piece} (hpeeked : Peeked s.unread (some record) rest) :
    record = .applicationData := by
  generalize hunread : s.unread = unread at hpeeked
  cases hpeeked with
  | found hbefore hrecord =>
    obtain ⟨halert, hclose⟩ := h.unread (.last record) (by simp [hunread])
    cases record with
    | sessionTicket => exact absurd rfl hrecord
    | applicationData => rfl
    | fatalAlert => exact absurd rfl halert
    | closeNotify => exact absurd rfl hclose

theorem Hospitable.enabled {s : ProbeLoop} (h : s.Hospitable) :
    ∃ label s', restrict calm (ProbeLoop.step maxRetries) s label = some s' := by
  rcases h.looping with hpc | hpc
  · have hpeeked := sslPeek_cases s.unread
    cases hrecord : (sslPeek s.unread).1 with
    | some record =>
      rw [hrecord] at hpeeked
      rw [h.found hpeeked] at hrecord
      refine ⟨.peek 1 wantsRead, { s with pc := .returned {}, unread := (sslPeek s.unread).2 }, ?_⟩
      rw [restrict_eq_some]
      refine ⟨rfl, ?_⟩
      simp only [ProbeLoop.step, hrecord, hpc]
      rfl
    | none =>
      refine ⟨.peek (-1) wantsRead, { s with pc := .probeWait, unread := (sslPeek s.unread).2 }, ?_⟩
      rw [restrict_eq_some]
      refine ⟨rfl, ?_⟩
      simp only [ProbeLoop.step, hrecord, hpc, h.isOpen]
      rfl
  · cases hunread : s.unread with
    | nil =>
      refine ⟨.poll .timeout, { s with pc := .returned {} }, ?_⟩
      rw [restrict_eq_some]
      refine ⟨rfl, ?_⟩
      simp only [ProbeLoop.step, hpc, hunread, h.isOpen]
      rfl
    | cons piece unread =>
      refine ⟨.poll (.ready { pollin := true } none), { s with pc := toProbe maxRetries {} }, ?_⟩
      rw [restrict_eq_some]
      refine ⟨rfl, ?_⟩
      simp only [ProbeLoop.step, hpc, hunread, h.isOpen]
      rfl

theorem Hospitable.peek {s : ProbeLoop} {record : Option TlsRecord} {rest : List Piece}
    {ret : Int} {failure : SslFailure} {pc : ConnectPc} (h : s.Hospitable) (hpc : s.pc = .probing)
    (hpeeked : Peeked s.unread record rest)
    (hanswers : peekAnswers s.isOpen ret failure record = true)
    (hmove : CallMove (TLSClientActiveSocket.postHandshakeProbe ret failure) .returned .probeWait
      .returned pc) :
    Accepted { s with pc := pc, unread := rest } ∨
      Hospitable { s with pc := pc, unread := rest } ∧
        remaining { s with pc := pc, unread := rest } < s.remaining := by
  cases record with
  | some record =>
    rw [h.found hpeeked] at hanswers
    exact .inl ⟨{}, peek_applicationData hanswers hmove, rfl⟩
  | none =>
    rw [h.isOpen] at hanswers
    rw [peek_nothing hanswers hmove]
    have hrest : rest = [] := by
      generalize s.unread = unread at hpeeked
      cases hpeeked
      rfl
    subst hrest
    refine .inr ⟨⟨.inr rfl, h.isOpen, by simp, h.coming⟩, ?_⟩
    simp only [remaining, hpc, if_true]
    split <;> omega

theorem Hospitable.poll (hmax : 1 ≤ maxRetries) {s : ProbeLoop} {ret : PollReturn}
    {pc : ConnectPc} (h : s.Hospitable) (hpc : s.pc = .probeWait)
    (hcalm : calm (.poll ret) = true) (hanswers : pollAnswers s.isOpen s.unread ret = true)
    (hmove : WaitMove .read ret (fun _ => .returned {}) (toProbe maxRetries) pc) :
    Accepted { s with pc := pc } ∨
      Hospitable { s with pc := pc } ∧ remaining { s with pc := pc } < s.remaining := by
  cases ret with
  | timeout =>
    cases hmove with
    | timedOut htimeout => exact .inl ⟨_, rfl, rfl⟩
    | failed htimeout hfailed => exact absurd rfl htimeout
    | ready hfits hsuccess => cases hsuccess
  | error => cases hcalm
  | ready revents soError =>
    simp only [calm, Revents.hangup, Bool.not_eq_true', Bool.or_eq_false_iff] at hcalm
    have hwait : SocketEventListener.wait (.ready revents soError) = {} := by
      simp [SocketEventListener.wait, hcalm]
    cases hmove with
    | timedOut htimeout => rw [hwait] at htimeout; cases htimeout
    | failed htimeout hfailed => exact absurd (by rw [hwait]) hfailed
    | ready hfits hsuccess =>
      -- nothing else was asked for, so POLLIN was reported: there is something to peek at
      have hpollin : revents.pollin = true := by
        simp only [PollReturn.fits, Revents.isZero, Revents.hangup, Revents.allowedBy,
          SocketEventType.events, hcalm] at hfits
        revert hfits
        cases revents.pollin <;> cases revents.pollout <;> simp
      have hunread : s.unread ≠ [] := by
        simp only [pollAnswers, hpollin, h.isOpen] at hanswers
        simpa using hanswers
      rw [toProbe_of_pos hmax]
      refine .inr ⟨⟨.inl rfl, h.isOpen, h.unread, h.coming⟩, ?_⟩
      simp only [remaining, hpc, if_neg hunread]
      omega

theorem Hospitable.step (hmax : 1 ≤ maxRetries) {s s' : ProbeLoop} {label : ProbeLabel}
    (h : s.Hospitable) (hcalm : calm label = true) (hmove : Move maxRetries s label s') :
    s'.Accepted ∨ s'.Hospitable ∧ s'.remaining < s.remaining := by
  cases hmove with
  | @arrive piece coming hcoming hrunning =>
    right
    have hpieces := h.coming
    rw [hcoming, List.forall_mem_cons] at hpieces
    refine ⟨⟨h.looping, h.isOpen, ?_, hpieces.2⟩, ?_⟩
    · intro piece' hpiece'
      rcases List.mem_append.mp hpiece' with hmem | hmem
      · exact h.unread piece' hmem
      · rw [List.mem_singleton.mp hmem]
        exact hpieces.1
    · have hlength : s.coming.length = coming.length + 1 := by rw [hcoming, List.length_cons]
      simp only [remaining, hlength]
      rcases h.looping with hpc | hpc <;> simp only [hpc] <;> split <;> split <;> omega
  | close hrunning => cases hcalm
  | peek hpeeked hanswers hmove =>
    rcases h.looping with hpc | hpc <;> rw [hpc] at hmove <;> cases hmove
    exact h.peek hpc hpeeked hanswers ‹_›
  | poll hanswers hmove =>
    rcases h.looping with hpc | hpc <;> rw [hpc] at hmove <;> cases hmove
    exact h.poll hmax hpc hcalm hanswers ‹_›

end ProbeLoop

open ProbeLoop

/-- **The deferred rejection.**  Whatever the server sends and whenever it arrives: `connect` does
    not return success once a rejection has completely arrived; and where none is ever sent, on
    a connection that stays open and polls well, `connect` is bound to return success. -/
theorem rejection_not_missed {maxRetries : Nat} (hmax : 1 ≤ maxRetries) (result : SocketResult)
    (coming : List Piece) :
    (∀ s, Reachable (step maxRetries) (start maxRetries result coming) s → s.Accepted →
      ¬ Rejected s.arrived) ∧
    ((∀ piece ∈ coming, piece ≠ .last .fatalAlert ∧ piece ≠ .last .closeNotify) →
      Inevitable (restrict calm (step maxRetries)) Accepted (start maxRetries result coming)) := by
  have hpc : (start maxRetries result coming).pc = .probing := toProbe_of_pos hmax result
  constructor
  · rintro s hreach ⟨result', hpc', hsuccess⟩
    have hstart : Attended (start maxRetries result coming) :=
      @Attended.looping _ [] (.inl hpc) (by simp [Quiet]) rfl
    have hattended : s.Attended :=
      hreach.invariant hstart fun s label s' h hstep => h.step hmax (step_cases hstep)
    cases hattended with
    | looping hlooping htaken harrived => rcases hlooping with h | h <;> simp [hpc'] at h
    | returned hreturned hresult =>
      rw [hpc'] at hreturned
      cases hreturned
      exact hresult hsuccess
  · intro hcoming
    have hstart : Hospitable (start maxRetries result coming) :=
      ⟨.inl hpc, rfl, by simp [start], hcoming⟩
    apply @inevitable_of_measure _ _ _ Hospitable Accepted remaining _ _ _ hstart
    · exact fun s h => .inr h.enabled
    · intro s label s' h hstep
      obtain ⟨hcalm, hstep⟩ := restrict_eq_some.mp hstep
      exact h.step hmax hcalm (step_cases hstep)

/-- What a server sends that accepts the client: two tickets, the second in two parts, and
    application data. -/
def welcome : List Piece :=
  [.last .sessionTicket, .part, .last .sessionTicket, .last .applicationData]

/-- The wait times out between the parts of the second ticket, and `connect` is right to return. -/
theorem welcome_accepted :
    (∃ s, Reachable (step 3) (start 3 {} welcome) s ∧ s.Accepted ∧ ¬ Rejected s.arrived) ∧
      Inevitable (restrict calm (step 3)) Accepted (start 3 {} welcome) := by
  obtain ⟨hsound, hbound⟩ := rejection_not_missed (show 1 ≤ 3 by decide) {} welcome
  have hreach : Reachable (step 3) (start 3 {} welcome) _ :=
    ⟨[.arrive, .arrive, .peek (-1) wantsRead, .poll .timeout], rfl⟩
  exact ⟨⟨_, hreach, ⟨{}, rfl, rfl⟩, hsound _ hreach ⟨{}, rfl, rfl⟩⟩, hbound (by decide)⟩

end SecuritySocket.SocketClient
