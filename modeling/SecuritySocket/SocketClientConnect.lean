import SecuritySocket.ActiveSocket
import SecuritySocket.SocketEvent
import SecuritySocket.Transition

/-!
# Connecting (`SocketClientImpl::connect`)

Three loops over one `result`: `::connect` until the TCP connection is made, `reconnect(false)`
until the TLS handshake is done, and `reconnect(true)`, the probe for a late rejection.  A
step is one call with what the environment answers, so a run is the list of the calls made.
The address is not looked at again once it is built: `connect` tests its own `result`.
-/

namespace SecuritySocket.SocketClient

open Transition

/-- Where `connect` is, with the counter of the loop; that of the probe loop stays zero. -/
inductive ConnectPc where
  | connecting (i : Nat)
  | connectWait (i : Nat)
  | handshaking (i : Nat)
  | handshakeWait (i : Nat)
  | probing
  | probeWait
  | returned (result : SocketResult)
deriving DecidableEq, Repr

/-- The calls `connect` makes: `_socket->connect`, `event_listener.wait`, `reconnect(false)` and
    `reconnect(true)`. -/
inductive ConnectCall where
  | connect (r : ConnectReturn)
  | poll (ret : PollReturn)
  | handshake (r : HandshakeReturn)
  | probe (r : ProbeReturn)
deriving DecidableEq, Repr

/-- The codes on which the loops wait. -/
def pending (result : SocketResult) : Bool :=
  result.code == .socketConnectionInProgress || result.code == .socketConnectionNeedToBeBlocked

variable (tls : Bool) (maxRetries : Nat)

def toProbe (result : SocketResult) : ConnectPc :=
  if 0 < maxRetries then .probing else .returned result

def toHandshake (i : Nat) (result : SocketResult) : ConnectPc :=
  if i < maxRetries then .handshaking i
  else if result.code ≠ .success then .returned result
  else toProbe maxRetries result

def toConnect (i : Nat) (result : SocketResult) : ConnectPc :=
  if i < maxRetries then .connecting i
  else if result.code ≠ .success then .returned result
  else toHandshake maxRetries 0 result

def connectStart : ConnectPc := toConnect maxRetries 0 {}

/-- The three branches on the result of a call. -/
def afterCall (result : SocketResult) (succeeded : SocketResult → ConnectPc) (pends : ConnectPc)
    (failed : SocketResult → ConnectPc) : ConnectPc :=
  if result.code = .success then succeeded result
  else if pending result then pends
  else failed result

/-- The three branches on the result of a `wait`; `none` when poll could not have returned
    that. -/
def afterWait (type : SocketEventType) (ret : PollReturn) (timedOut : SocketResult → ConnectPc)
    (ready : SocketResult → ConnectPc) : Option ConnectPc :=
  let result := SocketEventListener.wait ret
  if ret.fits type then
    if result.code = .socketTimeout then some (timedOut result)
    else if result.code ≠ .success then some (.returned result)
    else some (ready result)
  else none

def connectStep : ConnectPc → ConnectCall → Option ConnectPc
  | .connecting i, .connect r =>
    some (afterCall (ClientActiveSocket.connect r) (toHandshake maxRetries 0) (.connectWait i)
      (toConnect maxRetries (i + 1)))
  -- a timeout counts twice, in the body of the loop and in its header
  | .connectWait i, .poll ret =>
    afterWait .connect ret (toConnect maxRetries (i + 2)) (toHandshake maxRetries 0)
  | .handshaking i, .handshake r =>
    if r.fits tls then
      some (afterCall (ClientActiveSocket.reconnect r) (toProbe maxRetries) (.handshakeWait i)
        .returned)
    else none
  -- only a timeout counts
  | .handshakeWait i, .poll ret =>
    afterWait .connect ret (toHandshake maxRetries (i + 1)) (toHandshake maxRetries i)
  | .probing, .probe r =>
    if r.fits tls then
      some (afterCall (ClientActiveSocket.reconnectAfterHandshake r) .returned .probeWait .returned)
    else none
  -- no alert within the timeout: the connection is accepted
  | .probeWait, .poll ret => afterWait .read ret (fun _ => .returned {}) (toProbe maxRetries)
  | _, _ => none

/-! ### The moves -/

/-- What follows a call. -/
inductive CallMove (result : SocketResult) (succeeded : SocketResult → ConnectPc)
    (pends : ConnectPc) (failed : SocketResult → ConnectPc) : ConnectPc → Prop where
  | succeeded (hsuccess : result.code = .success) :
      CallMove result succeeded pends failed (succeeded result)
  | pends (hfailed : result.code ≠ .success) (hpending : pending result = true) :
      CallMove result succeeded pends failed pends
  | failed (hfailed : result.code ≠ .success) (hpending : pending result = false) :
      CallMove result succeeded pends failed (failed result)

/-- What follows a `wait`. -/
inductive WaitMove (type : SocketEventType) (ret : PollReturn)
    (timedOut : SocketResult → ConnectPc) (ready : SocketResult → ConnectPc) : ConnectPc → Prop where
  | timedOut (htimeout : (SocketEventListener.wait ret).code = .socketTimeout) :
      WaitMove type ret timedOut ready (timedOut (SocketEventListener.wait ret))
  | failed (htimeout : (SocketEventListener.wait ret).code ≠ .socketTimeout)
      (hfailed : (SocketEventListener.wait ret).code ≠ .success) :
      WaitMove type ret timedOut ready (.returned (SocketEventListener.wait ret))
  | ready (hfits : ret.fits type = true)
      (hsuccess : (SocketEventListener.wait ret).code = .success) :
      WaitMove type ret timedOut ready (ready (SocketEventListener.wait ret))

/-- Everything a step of `connect` can do. -/
inductive ConnectMove : ConnectPc → ConnectCall → ConnectPc → Prop where
  | connect {i : Nat} {r : ConnectReturn} {pc : ConnectPc}
      (hmove : CallMove (ClientActiveSocket.connect r) (toHandshake maxRetries 0) (.connectWait i)
        (toConnect maxRetries (i + 1)) pc) :
      ConnectMove (.connecting i) (.connect r) pc
  | connectWait {i : Nat} {ret : PollReturn} {pc : ConnectPc}
      (hmove : WaitMove .connect ret (toConnect maxRetries (i + 2)) (toHandshake maxRetries 0) pc) :
      ConnectMove (.connectWait i) (.poll ret) pc
  | handshake {i : Nat} {r : HandshakeReturn} {pc : ConnectPc} (hfits : r.fits tls = true)
      (hmove : CallMove (ClientActiveSocket.reconnect r) (toProbe maxRetries) (.handshakeWait i)
        .returned pc) :
      ConnectMove (.handshaking i) (.handshake r) pc
  | handshakeWait {i : Nat} {ret : PollReturn} {pc : ConnectPc}
      (hmove : WaitMove .connect ret (toHandshake maxRetries (i + 1)) (toHandshake maxRetries i) pc) :
      ConnectMove (.handshakeWait i) (.poll ret) pc
  | probe {r : ProbeReturn} {pc : ConnectPc} (hfits : r.fits tls = true)
      (hmove : CallMove (ClientActiveSocket.reconnectAfterHandshake r) .returned .probeWait
        .returned pc) :
      ConnectMove .probing (.probe r) pc
  | probeWait {ret : PollReturn} {pc : ConnectPc}
      (hmove : WaitMove .read ret (fun _ => .returned {}) (toProbe maxRetries) pc) :
      ConnectMove .probeWait (.poll ret) pc

theorem afterCall_cases (result : SocketResult) (succeeded : SocketResult → ConnectPc)
    (pends : ConnectPc) (failed : SocketResult → ConnectPc) :
    CallMove result succeeded pends failed (afterCall result succeeded pends failed) := by
  unfold afterCall
  split
  · exact .succeeded ‹_›
  · rename_i hfailed
    split
    · exact .pends hfailed ‹_›
    · rename_i hpending
      exact .failed hfailed (Bool.eq_false_iff.mpr hpending)

theorem afterWait_cases {type : SocketEventType} {ret : PollReturn}
    {timedOut ready : SocketResult → ConnectPc} {pc : ConnectPc}
    (h : afterWait type ret timedOut ready = some pc) : WaitMove type ret timedOut ready pc := by
  simp only [afterWait] at h
  split at h
  · rename_i hfits
    split at h
    · cases h
      exact .timedOut ‹_›
    · rename_i htimeout
      split at h
      · cases h
        exact .failed htimeout ‹_›
      · rename_i hsuccess
        cases h
        exact .ready hfits (not_not.mp hsuccess)
  · cases h

variable {tls maxRetries}

theorem connectStep_cases {pc pc' : ConnectPc} {call : ConnectCall}
    (h : connectStep tls maxRetries pc call = some pc') :
    ConnectMove tls maxRetries pc call pc' := by
  unfold connectStep at h
  split at h
  · cases h
    exact .connect (afterCall_cases _ _ _ _)
  · exact .connectWait (afterWait_cases h)
  · split at h
    · cases h
      exact .handshake ‹_› (afterCall_cases _ _ _ _)
    · cases h
  · exact .handshakeWait (afterWait_cases h)
  · split at h
    · cases h
      exact .probe ‹_› (afterCall_cases _ _ _ _)
    · cases h
  · exact .probeWait (afterWait_cases h)
  · cases h

theorem toConnect_of_ne {i : Nat} {result : SocketResult} (h : result.code ≠ .success) :
    toConnect maxRetries i result =
      if i < maxRetries then .connecting i else .returned result := by
  simp only [toConnect, ne_eq, h, not_false_eq_true, if_true]

theorem connectStart_of_pos (h : 0 < maxRetries) : connectStart maxRetries = .connecting 0 :=
  if_pos h

theorem toHandshake_of_ne {i : Nat} {result : SocketResult} (h : result.code ≠ .success) :
    toHandshake maxRetries i result =
      if i < maxRetries then .handshaking i else .returned result := by
  simp only [toHandshake, ne_eq, h, not_false_eq_true, if_true]

theorem toHandshake_of_lt {i : Nat} (h : i < maxRetries) (result : SocketResult) :
    toHandshake maxRetries i result = .handshaking i := if_pos h

theorem toProbe_of_pos (h : 0 < maxRetries) (result : SocketResult) :
    toProbe maxRetries result = .probing := if_pos h

/-! ### What a success tells -/

/-- poll reported the socket ready, and no error is pending. -/
def connects : PollReturn → Bool
  | .timeout | .error => false
  | .ready revents soError =>
    (revents.pollin || revents.pollout || revents.pollerr) && !(revents.pollerr && soError.isSome)

/-- poll reported nothing but POLLNVAL, for a descriptor that is not open. -/
def invalid : PollReturn → Bool
  | .timeout | .error => false
  | .ready revents _ =>
    revents.pollnval && !(revents.pollin || revents.pollout || revents.pollerr || revents.pollhup)

/-- Among the calls, some `::connect` was directly followed by a poll of this kind. -/
def FollowedBy (kind : PollReturn → Bool) (calls : List ConnectCall) : Prop :=
  ∃ r ret, kind ret = true ∧ [.connect r, .poll ret] <:+: calls

/-- Some `::connect` returned 0, or was followed by a poll that reported the socket ready with
    no pending error; and `SSL_connect` of a TLS client returned 1. -/
structure Established (tls : Bool) (calls : List ConnectCall) : Prop where
  connected : .connect .ok ∈ calls ∨ FollowedBy connects calls
  handshaken : tls = true → ∃ failure, .handshake (.tls 1 failure) ∈ calls

theorem not_followedBy_nil {kind : PollReturn → Bool} : ¬ FollowedBy kind [] := by
  rintro ⟨_, _, _, hinfix⟩
  cases List.eq_nil_of_infix_nil hinfix

theorem not_established_nil : ¬ Established tls [] := by
  rintro ⟨hmem | hfollowed, _⟩
  · cases hmem
  · exact not_followedBy_nil hfollowed

theorem followedBy_concat {kind : PollReturn → Bool} {calls : List ConnectCall}
    {call : ConnectCall} : FollowedBy kind (calls ++ [call]) ↔ FollowedBy kind calls ∨
      ∃ before r ret, calls = before ++ [.connect r] ∧ call = .poll ret ∧ kind ret = true := by
  constructor
  · rintro ⟨r, ret, hkind, hinfix⟩
    rcases List.infix_concat_iff.mp hinfix with hsuffix | hinfix
    · rcases List.suffix_concat_iff.mp hsuffix with hnil | ⟨front, hfront, before, hbefore⟩
      · cases hnil
      · have hpair : [ConnectCall.connect r] ++ [.poll ret] = front ++ [call] := hfront
        obtain ⟨rfl, hcall⟩ := List.append_inj' hpair rfl
        cases hcall
        exact .inr ⟨before, r, ret, hbefore.symm, rfl, hkind⟩
    · exact .inl ⟨r, ret, hkind, hinfix⟩
  · rintro (⟨r, ret, hkind, hinfix⟩ | ⟨before, r, ret, rfl, rfl, hkind⟩)
    · exact ⟨r, ret, hkind, hinfix.trans (List.prefix_append _ _).isInfix⟩
    · exact ⟨r, ret, hkind, before, [], by simp⟩

/-- A call that is no poll, or comes after something other than `::connect`, ends no pair. -/
theorem followedBy_concat_of_not {kind : PollReturn → Bool} {calls : List ConnectCall}
    {call : ConnectCall}
    (h : ∀ before r ret, calls = before ++ [.connect r] → call ≠ .poll ret) :
    FollowedBy kind (calls ++ [call]) ↔ FollowedBy kind calls := by
  rw [followedBy_concat, or_iff_left]
  rintro ⟨before, r, ret, hcalls, hcall, _⟩
  exact h before r ret hcalls hcall

theorem connects_iff_not_invalid {type : SocketEventType} {ret : PollReturn} (hfits : ret.fits type)
    (hsuccess : (SocketEventListener.wait ret).code = .success) :
    connects ret = true ↔ ¬ invalid ret = true := by
  cases ret with
  | timeout => cases hsuccess
  | error => cases hsuccess
  | ready revents soError =>
    simp only [PollReturn.fits, Bool.and_eq_true, Bool.not_eq_true', Revents.isZero,
      Revents.hangup] at hfits
    simp only [SocketEventListener.wait] at hsuccess
    cases herr : revents.pollerr with
    | true =>
      cases soError with
      | none => simp [connects, invalid, herr]
      | some error =>
        simp only [herr, if_true] at hsuccess
        exact absurd hsuccess (createResultFromSocketError_code_ne_success error)
    | false =>
      cases hhup : revents.pollhup with
      | true => simp [herr, hhup] at hsuccess
      | false =>
        have hsome := hfits.1
        cases hin : revents.pollin <;> cases hout : revents.pollout <;>
          cases hnval : revents.pollnval <;>
          simp_all [connects, invalid]

/-- What the calls made so far have established, at each position. -/
def Progress (tls : Bool) (maxRetries : Nat) (calls : List ConnectCall) : ConnectPc → Prop
  | .connecting _ =>
    .connect .ok ∉ calls ∧ ¬ FollowedBy connects calls ∧ ¬ FollowedBy invalid calls
  | .connectWait _ =>
    .connect .ok ∉ calls ∧ ¬ FollowedBy connects calls ∧ ¬ FollowedBy invalid calls ∧
      ∃ before errno, calls = before ++ [.connect (.error errno)]
  | .handshaking i => i < maxRetries ∧
    (.connect .ok ∈ calls ∨ FollowedBy connects calls ↔ ¬ FollowedBy invalid calls)
  | .handshakeWait i => i < maxRetries ∧
    (.connect .ok ∈ calls ∨ FollowedBy connects calls ↔ ¬ FollowedBy invalid calls) ∧
      ∃ before r, calls = before ++ [.handshake r]
  | .probing => Established tls calls ↔ ¬ FollowedBy invalid calls
  | .probeWait => (Established tls calls ↔ ¬ FollowedBy invalid calls) ∧
      ∃ before r, calls = before ++ [.probe r]
  | .returned result => result.code = .success →
      (Established tls calls ↔ ¬ FollowedBy invalid calls)

theorem connect_code_eq_success {r : ConnectReturn} :
    (ClientActiveSocket.connect r).code = .success ↔ r = .ok := by
  cases r with
  | ok => simp [ClientActiveSocket.connect]
  | error errno => simp [ClientActiveSocket.connect, createResult_code_eq_success]

/-- A call that neither connects nor ends a handshake leaves what is established as it is. -/
theorem established_concat {calls : List ConnectCall} {call : ConnectCall}
    (hconnect : call ≠ .connect .ok) (hhandshake : ∀ failure, call ≠ .handshake (.tls 1 failure))
    (hpair : ∀ before r ret, calls = before ++ [.connect r] → call ≠ .poll ret) :
    Established tls (calls ++ [call]) ↔ Established tls calls := by
  have hconnected : .connect .ok ∈ calls ++ [call] ∨ FollowedBy connects (calls ++ [call]) ↔
      .connect .ok ∈ calls ∨ FollowedBy connects calls := by
    rw [followedBy_concat_of_not hpair]
    simp [Ne.symm hconnect]
  have hhandshaken : (∃ failure, .handshake (.tls 1 failure) ∈ calls ++ [call]) ↔
      ∃ failure, .handshake (.tls 1 failure) ∈ calls := by
    refine exists_congr fun failure => ?_
    simp [Ne.symm (hhandshake failure)]
  constructor
  · rintro ⟨hc, hh⟩
    exact ⟨hconnected.mp hc, fun htls => hhandshaken.mp (hh htls)⟩
  · rintro ⟨hc, hh⟩
    exact ⟨hconnected.mpr hc, fun htls => hhandshaken.mpr (hh htls)⟩

theorem no_pair_of_last {calls before : List ConnectCall} {last : ConnectCall}
    (hcalls : calls = before ++ [last]) (hlast : ∀ r, last ≠ .connect r) (call : ConnectCall) :
    ∀ before r ret, calls = before ++ [.connect r] → call ≠ .poll ret := by
  intro before' r ret hcalls' _
  rw [hcalls] at hcalls'
  obtain ⟨_, hsame⟩ := List.append_inj' hcalls' rfl
  exact hlast r (List.cons.inj hsame).1

theorem Progress.connect (hmax : 0 < maxRetries) {calls : List ConnectCall} {pc' : ConnectPc}
    {i : Nat} {r : ConnectReturn} (h : Progress tls maxRetries calls (.connecting i))
    (hmove : CallMove (ClientActiveSocket.connect r) (toHandshake maxRetries 0) (.connectWait i)
      (toConnect maxRetries (i + 1)) pc') :
    Progress tls maxRetries (calls ++ [.connect r]) pc' := by
  obtain ⟨hok, hconnects, hinvalid⟩ := h
  have hpair : ∀ before r' ret, calls = before ++ [.connect r'] →
      ConnectCall.connect r ≠ .poll ret := by simp
  cases hmove with
  | succeeded hsuccess =>
    rw [toHandshake_of_lt hmax]
    refine ⟨hmax, iff_of_true (.inl ?_) ?_⟩
    · simp [connect_code_eq_success.mp hsuccess]
    · rwa [followedBy_concat_of_not hpair]
  | pends hfailed hpending =>
    rw [ne_eq, connect_code_eq_success] at hfailed
    refine ⟨by simp [hok, Ne.symm hfailed], ?_, ?_, calls, ?_⟩
    · rwa [followedBy_concat_of_not hpair]
    · rwa [followedBy_concat_of_not hpair]
    · cases r with
      | ok => exact absurd rfl hfailed
      | error errno => exact ⟨errno, rfl⟩
  | failed hfailed hpending =>
    rw [toConnect_of_ne hfailed]
    split
    · rw [ne_eq, connect_code_eq_success] at hfailed
      refine ⟨by simp [hok, Ne.symm hfailed], ?_, ?_⟩
      · rwa [followedBy_concat_of_not hpair]
      · rwa [followedBy_concat_of_not hpair]
    · exact fun hsuccess => absurd hsuccess hfailed

theorem Progress.connectWait (hmax : 0 < maxRetries) {calls : List ConnectCall} {pc' : ConnectPc}
    {i : Nat} {ret : PollReturn} (h : Progress tls maxRetries calls (.connectWait i))
    (hmove : WaitMove .connect ret (toConnect maxRetries (i + 2)) (toHandshake maxRetries 0) pc') :
    Progress tls maxRetries (calls ++ [.poll ret]) pc' := by
  obtain ⟨hok, hconnects, hinvalid, before, errno, hcalls⟩ := h
  have hlast : ∀ kind : PollReturn → Bool, ¬ FollowedBy kind calls →
      (FollowedBy kind (calls ++ [.poll ret]) ↔ kind ret = true) := by
    intro kind hnot
    rw [followedBy_concat, or_iff_right hnot]
    constructor
    · rintro ⟨_, _, _, _, hcall, hkind⟩
      cases hcall
      exact hkind
    · exact fun hkind => ⟨before, _, ret, hcalls, rfl, hkind⟩
  cases hmove with
  | timedOut htimeout =>
    rw [toConnect_of_ne (by simp [htimeout])]
    rw [SocketEventListener.wait_code_eq_timeout] at htimeout
    split
    · refine ⟨by simpa using hok, ?_, ?_⟩
      · rw [hlast _ hconnects, htimeout]
        simp [connects]
      · rw [hlast _ hinvalid, htimeout]
        simp [invalid]
    · subst htimeout
      exact fun hsuccess => by cases hsuccess
  | failed htimeout hfailed => exact fun hsuccess => absurd hsuccess hfailed
  | ready hfits hsuccess =>
    rw [toHandshake_of_lt hmax]
    refine ⟨hmax, ?_⟩
    rw [hlast _ hconnects, hlast _ hinvalid, or_iff_right (by simpa using hok)]
    exact connects_iff_not_invalid hfits hsuccess

theorem Progress.handshake (hmax : 0 < maxRetries) {calls : List ConnectCall} {pc' : ConnectPc}
    {i : Nat} {r : HandshakeReturn} (h : Progress tls maxRetries calls (.handshaking i))
    (hfits : r.fits tls = true)
    (hmove : CallMove (ClientActiveSocket.reconnect r) (toProbe maxRetries) (.handshakeWait i)
      .returned pc') :
    Progress tls maxRetries (calls ++ [.handshake r]) pc' := by
  obtain ⟨hlt, hconnected⟩ := h
  have hpair : ∀ before r' ret, calls = before ++ [.connect r'] →
      ConnectCall.handshake r ≠ .poll ret := by simp
  have hconnected' : .connect .ok ∈ calls ++ [.handshake r] ∨
      FollowedBy connects (calls ++ [.handshake r]) ↔
        ¬ FollowedBy invalid (calls ++ [.handshake r]) := by
    rw [followedBy_concat_of_not hpair, followedBy_concat_of_not hpair]
    simpa using hconnected
  cases hmove with
  | succeeded hsuccess =>
    rw [toProbe_of_pos hmax]
    have hhandshaken : tls = true → ∃ failure, .handshake (.tls 1 failure) ∈ calls ++ [.handshake r] := by
      intro htls
      rcases (ClientActiveSocket.reconnect_code_eq_success hfits).mp hsuccess with
        rfl | ⟨failure, rfl⟩
      · simp [HandshakeReturn.fits, htls] at hfits
      · exact ⟨failure, by simp⟩
    exact ⟨fun h => hconnected'.mp h.connected, fun hnot => ⟨hconnected'.mpr hnot, hhandshaken⟩⟩
  | pends hfailed hpending => exact ⟨hlt, hconnected', calls, r, rfl⟩
  | failed hfailed hpending => exact fun hsuccess => absurd hsuccess hfailed

theorem Progress.handshakeWait {calls : List ConnectCall} {pc' : ConnectPc}
    {i : Nat} {ret : PollReturn} (h : Progress tls maxRetries calls (.handshakeWait i))
    (hmove : WaitMove .connect ret (toHandshake maxRetries (i + 1)) (toHandshake maxRetries i) pc') :
    Progress tls maxRetries (calls ++ [.poll ret]) pc' := by
  obtain ⟨hlt, hconnected, before, r, hcalls⟩ := h
  have hpair := no_pair_of_last hcalls (by simp) (.poll ret)
  have hconnected' : .connect .ok ∈ calls ++ [.poll ret] ∨
      FollowedBy connects (calls ++ [.poll ret]) ↔ ¬ FollowedBy invalid (calls ++ [.poll ret]) := by
    rw [followedBy_concat_of_not hpair, followedBy_concat_of_not hpair]
    simpa using hconnected
  cases hmove with
  | timedOut htimeout =>
    rw [toHandshake_of_ne (by simp [htimeout])]
    split
    · rename_i hlt'
      exact ⟨hlt', hconnected'⟩
    · exact fun hsuccess => by simp [htimeout] at hsuccess
  | failed htimeout hfailed => exact fun hsuccess => absurd hsuccess hfailed
  | ready hfits hsuccess =>
    rw [toHandshake_of_lt hlt]
    exact ⟨hlt, hconnected'⟩

theorem Progress.probe {calls : List ConnectCall} {pc' : ConnectPc}
    {r : ProbeReturn} (h : Progress tls maxRetries calls (.probing))
    (hmove : CallMove (ClientActiveSocket.reconnectAfterHandshake r) .returned .probeWait .returned
      pc') :
    Progress tls maxRetries (calls ++ [.probe r]) pc' := by
  have hpair : ∀ before r' ret, calls = before ++ [.connect r'] →
      ConnectCall.probe r ≠ .poll ret := by simp
  have hestablished : Established tls (calls ++ [.probe r]) ↔
      ¬ FollowedBy invalid (calls ++ [.probe r]) := by
    rw [established_concat (by simp) (by simp) hpair, followedBy_concat_of_not hpair]
    exact h
  cases hmove with
  | succeeded hsuccess => exact fun _ => hestablished
  | pends hfailed hpending => exact ⟨hestablished, calls, r, rfl⟩
  | failed hfailed hpending => exact fun _ => hestablished

theorem Progress.probeWait (hmax : 0 < maxRetries) {calls : List ConnectCall} {pc' : ConnectPc}
    {ret : PollReturn} (h : Progress tls maxRetries calls (.probeWait))
    (hmove : WaitMove .read ret (fun _ => .returned {}) (toProbe maxRetries) pc') :
    Progress tls maxRetries (calls ++ [.poll ret]) pc' := by
  obtain ⟨hbefore, before, r, hcalls⟩ := h
  have hpair := no_pair_of_last hcalls (by simp) (.poll ret)
  have hestablished : Established tls (calls ++ [.poll ret]) ↔
      ¬ FollowedBy invalid (calls ++ [.poll ret]) := by
    rw [established_concat (by simp) (by simp) hpair, followedBy_concat_of_not hpair]
    exact hbefore
  cases hmove with
  | timedOut htimeout => exact fun _ => hestablished
  | failed htimeout hfailed => exact fun _ => hestablished
  | ready hfits hsuccess =>
    rw [toProbe_of_pos hmax]
    exact hestablished

/-- **One call.**  What is established stays in step with the position. -/
theorem Progress.step (hmax : 0 < maxRetries) {calls : List ConnectCall} {pc pc' : ConnectPc}
    {call : ConnectCall} (h : Progress tls maxRetries calls pc)
    (hmove : ConnectMove tls maxRetries pc call pc') :
    Progress tls maxRetries (calls ++ [call]) pc' := by
  cases hmove with
  | connect hmove => exact h.connect hmax hmove
  | connectWait hmove => exact h.connectWait hmax hmove
  | handshake hfits hmove => exact h.handshake hmax hfits hmove
  | handshakeWait hmove => exact h.handshakeWait hmove
  | probe hfits hmove => exact h.probe hmove
  | probeWait hmove => exact h.probeWait hmax hmove

/-- **Success means connected.**  A call of `connect` that returns success has established the
    connection exactly if there was a retry to make at all, and no poll after an unfinished
    `::connect` said no more than that the descriptor is not open. -/
theorem established_iff {calls : List ConnectCall} {result : SocketResult}
    (hexec : exec (connectStep tls maxRetries) (connectStart maxRetries) calls =
      some (.returned result)) (hsuccess : result.code = .success) :
    Established tls calls ↔ 0 < maxRetries ∧ ¬ FollowedBy invalid calls := by
  rcases Nat.eq_zero_or_pos maxRetries with rfl | hmax
  · have hstart : connectStart 0 = .returned {} := rfl
    have hnil : calls = [] := by
      cases calls with
      | nil => rfl
      | cons call calls =>
        rw [hstart] at hexec
        obtain ⟨pc, hpc, _⟩ := exec_cons_eq_some.mp hexec
        cases connectStep_cases hpc
    rw [hnil]
    exact iff_of_false not_established_nil (by simp)
  · have hstart : Progress tls maxRetries [] (connectStart maxRetries) := by
      rw [connectStart_of_pos hmax]
      exact ⟨by simp, not_followedBy_nil, not_followedBy_nil⟩
    have hend := exec_invariant_labels (J := Progress tls maxRetries)
      (fun _ _ _ _ h hstep => h.step hmax (connectStep_cases hstep)) hexec hstart
    rw [List.nil_append] at hend
    rw [and_iff_right hmax]
    exact hend hsuccess

/-! ### No success without a handshake -/

def Handshaken (calls : List ConnectCall) : Prop :=
  ∃ failure, .handshake (.tls 1 failure) ∈ calls

/-- The handshake loop is left behind only with the handshake done. -/
def PastHandshake (maxRetries : Nat) (calls : List ConnectCall) : ConnectPc → Prop
  | .connecting _ | .connectWait _ => True
  | .handshaking i | .handshakeWait i => i < maxRetries
  | .probing | .probeWait => Handshaken calls
  | .returned result => result.code = .success → Handshaken calls

theorem Handshaken.concat {calls : List ConnectCall} (h : Handshaken calls) (call : ConnectCall) :
    Handshaken (calls ++ [call]) := by
  obtain ⟨failure, hmem⟩ := h
  exact ⟨failure, List.mem_append_left _ hmem⟩

theorem pastHandshake_toConnect {calls : List ConnectCall} (i : Nat) {result : SocketResult}
    (hfailed : result.code ≠ .success) :
    PastHandshake maxRetries calls (toConnect maxRetries i result) := by
  rw [toConnect_of_ne hfailed]
  split
  · trivial
  · exact fun hsuccess => absurd hsuccess hfailed

theorem pastHandshake_toHandshake {calls : List ConnectCall} {i : Nat} {result : SocketResult}
    (h : i < maxRetries ∨ result.code ≠ .success) :
    PastHandshake maxRetries calls (toHandshake maxRetries i result) := by
  by_cases hi : i < maxRetries
  · rw [toHandshake_of_lt hi]
    exact hi
  · have hfailed := h.resolve_left hi
    rw [toHandshake_of_ne hfailed, if_neg hi]
    exact fun hsuccess => absurd hsuccess hfailed

theorem PastHandshake.handshake (hmax : 0 < maxRetries) {calls : List ConnectCall} {i : Nat}
    {r : HandshakeReturn} {pc' : ConnectPc} (h : PastHandshake maxRetries calls (.handshaking i))
    (hfits : r.fits true = true)
    (hmove : CallMove (ClientActiveSocket.reconnect r) (toProbe maxRetries) (.handshakeWait i)
      .returned pc') : PastHandshake maxRetries (calls ++ [.handshake r]) pc' := by
  cases hmove with
  | succeeded hsuccess =>
    rw [toProbe_of_pos hmax]
    rcases (ClientActiveSocket.reconnect_code_eq_success hfits).mp hsuccess with
      rfl | ⟨failure, rfl⟩
    · cases hfits
    · exact ⟨failure, by simp⟩
  | pends hfailed hpending => exact h
  | failed hfailed hpending => exact fun hsuccess => absurd hsuccess hfailed

theorem PastHandshake.step (hmax : 0 < maxRetries) {calls : List ConnectCall} {pc pc' : ConnectPc}
    {call : ConnectCall} (h : PastHandshake maxRetries calls pc)
    (hmove : ConnectMove true maxRetries pc call pc') :
    PastHandshake maxRetries (calls ++ [call]) pc' := by
  cases hmove with
  | connect hmove =>
    cases hmove with
    | succeeded hsuccess => exact pastHandshake_toHandshake (.inl hmax)
    | pends hfailed hpending => trivial
    | failed hfailed hpending => exact pastHandshake_toConnect _ hfailed
  | connectWait hmove =>
    cases hmove with
    | timedOut htimeout => exact pastHandshake_toConnect _ (by simp [htimeout])
    | failed htimeout hfailed => exact fun hsuccess => absurd hsuccess hfailed
    | ready hfits hsuccess => exact pastHandshake_toHandshake (.inl hmax)
  | handshake hfits hmove => exact h.handshake hmax hfits hmove
  | handshakeWait hmove =>
    cases hmove with
    | timedOut htimeout => exact pastHandshake_toHandshake (.inr (by simp [htimeout]))
    | failed htimeout hfailed => exact fun hsuccess => absurd hsuccess hfailed
    | ready hfits hsuccess => exact pastHandshake_toHandshake (.inl h)
  | @probe r pc' hfits hmove =>
    have hdone : Handshaken (calls ++ [.probe r]) := Handshaken.concat h (.probe r)
    cases hmove with
    | succeeded hsuccess => exact fun _ => hdone
    | pends hfailed hpending => exact hdone
    | failed hfailed hpending => exact fun _ => hdone
  | @probeWait ret pc' hmove =>
    have hdone : Handshaken (calls ++ [.poll ret]) := Handshaken.concat h (.poll ret)
    cases hmove with
    | timedOut htimeout => exact fun _ => hdone
    | failed htimeout hfailed => exact fun _ => hdone
    | ready hfits hsuccess =>
      rw [toProbe_of_pos hmax]
      exact hdone

theorem pastHandshake_start (hmax : 0 < maxRetries) :
    PastHandshake maxRetries [] (connectStart maxRetries) := by
  rw [connectStart_of_pos hmax]
  trivial

theorem handshaken_of_success (hmax : 0 < maxRetries) {calls : List ConnectCall}
    {result : SocketResult}
    (hexec : exec (connectStep true maxRetries) (connectStart maxRetries) calls =
      some (.returned result)) (hsuccess : result.code = .success) : Handshaken calls := by
  have hend := exec_invariant_labels (J := PastHandshake maxRetries)
    (fun _ _ _ _ h hstep => h.step hmax (connectStep_cases hstep)) hexec (pastHandshake_start hmax)
  rw [List.nil_append] at hend
  exact hend hsuccess

def wantsRead : SslFailure where
  error := .wantRead
  verifyPeer := true
  verifyResult := .ok
  reason := .other
  currentCipher := true
  errno := .other 0

/-- A TLS 1.3 connection that is made, and on which no alert arrives. -/
def patient : List ConnectCall :=
  [.connect (.error .einprogress), .poll (.ready { pollout := true } none),
    .handshake (.tls (-1) wantsRead), .poll (.ready { pollin := true, pollout := true } none),
    .handshake (.tls 1 wantsRead), .probe (.peek (-1) wantsRead), .poll .timeout]

theorem patient_established :
    exec (connectStep true 3) (connectStart 3) patient = some (.returned {}) ∧
      Established true patient := by
  have hexec : exec (connectStep true 3) (connectStart 3) patient = some (.returned {}) := by decide
  refine ⟨hexec, (established_iff hexec rfl).mpr ⟨by decide, ?_⟩⟩
  rintro ⟨r, ret, hinvalid, hinfix⟩
  have hmem : .poll ret ∈ patient := hinfix.subset (by simp)
  simp only [patient, List.mem_cons, List.not_mem_nil, reduceCtorEq, ConnectCall.poll.injEq,
    false_or, or_false] at hmem
  rcases hmem with rfl | rfl | rfl <;> cases hinvalid

/-- Without retries `connect` returns success at once, and nothing was called. -/
theorem noRetries_not_established :
    exec (connectStep false 0) (connectStart 0) [] = some (.returned {}) ∧
      exec (connectStep true 0) (connectStart 0) [] = some (.returned {}) ∧
      ({} : SocketResult).code = .success ∧ ¬ Established false [] ∧ ¬ Established true [] :=
  ⟨rfl, rfl, rfl, not_established_nil, not_established_nil⟩

end SecuritySocket.SocketClient
