import SecuritySocket.BroadcastStreams
import SecuritySocket.ReadChannels

/-!
# The broadcast server and its subscribers

The server with one caller's `write` calls, and for each connection a client that reads from it over
a channel that carries what the connection has accepted.  The calls of the caller put messages into
the streams; what a subscriber reads is then whole messages, each at most once and in the order of the
calls, and at its end perhaps the beginning of one more.  There is one order for all subscribers.
-/

namespace SecuritySocket

open Transition SocketClient MessageStreams

namespace MessageStreams

/-- The bytes of a stream, `memory m` being the buffer of message `m`. -/
def contents (memory : Nat → Nat → UInt8) (stream : List (Nat × Nat)) : List UInt8 :=
  stream.map fun byte => memory byte.1 byte.2

def buffer (memory : Nat → Nat → UInt8) (size : Nat → Nat) (m : Nat) : List UInt8 :=
  (List.range (size m)).map (memory m)

variable {memory : Nat → Nat → UInt8} {size : Nat → Nat} {order sent : List Nat}
  {stream : List (Nat × Nat)}

theorem contents_message (m : Nat) : contents memory (message size m) = buffer memory size m := by
  simp [contents, message, piece, buffer, Function.comp_def]

theorem contents_messages : contents memory (sent.flatMap (message size)) =
    sent.flatMap (buffer memory size) := by
  induction sent with
  | nil => rfl
  | cons m rest ih =>
    have hmessage := @contents_message memory size m
    simp only [contents, List.flatMap_cons, List.map_append] at ih hmessage ⊢
    rw [hmessage, ih]

/-- The bytes of an intact stream are the first of some messages in order. -/
theorem Intact.contents_prefix (h : Intact size order stream) :
    ∃ sent : List Nat, sent.Sublist order ∧
      contents memory stream <+: sent.flatMap (buffer memory size) := by
  obtain ⟨sent, rest, rfl, ⟨rfl, hsent⟩ | ⟨m, n, hlt, rfl, hsent⟩⟩ := h
  · have hwhole : contents memory (sent.flatMap (message size) ++ []) =
        sent.flatMap (buffer memory size) := by
      rw [List.append_nil, contents_messages]
    exact ⟨sent, hsent, hwhole ▸ List.prefix_rfl⟩
  · refine ⟨sent ++ [m], hsent, ?_⟩
    have hsplit : message size m = piece m n ++ (List.range' n (size m - n)).map (m, ·) := by
      rw [piece_append, Nat.add_sub_cancel' (Nat.le_of_lt hlt), message]
    have hpart : contents memory (piece m n) <+: contents memory (message size m) := by
      rw [hsplit, contents, contents, List.map_append]
      exact List.prefix_append _ _
    rw [← contents_messages, List.flatMap_append]
    simp only [contents, List.map_append, List.flatMap_cons, List.flatMap_nil, List.append_nil]
    exact (List.prefix_append_right_inj _).mpr hpart

theorem Whole.contents (h : Whole size order stream) :
    ∃ sent : List Nat, sent.Sublist order ∧
      MessageStreams.contents memory stream = sent.flatMap (buffer memory size) := by
  obtain ⟨sent, hsent, rfl⟩ := h
  exact ⟨sent, hsent, contents_messages⟩

end MessageStreams

/-- The server with its `write` calls, and the reads of the client of each connection. -/
structure BroadcastNetwork where
  broadcast : BroadcastSystem
  subscribers : Nat → ClientStream

namespace BroadcastNetwork

def opened (fd : Int) : BroadcastNetwork where
  broadcast := .opened fd
  subscribers _ := {}

inductive Label where
  | broadcast (label : BroadcastSystem.Label)
  | subscriber (id : Nat) (label : ClientStream.Label)

variable (calls : WriteCalls) (memory : Nat → Nat → UInt8) (maxRetries : Nat)

def accepted (s : BroadcastNetwork) (id : Nat) : List UInt8 :=
  contents memory (s.broadcast.streams id)

def step (s : BroadcastNetwork) : Label → Option BroadcastNetwork
  | .broadcast label => (s.broadcast.step calls label).map fun broadcast =>
      { s with broadcast := broadcast }
  | .subscriber id label =>
    if (s.subscribers id).carries (s.accepted memory id) label then
      ((s.subscribers id).step false maxRetries label).map fun subscriber =>
        { s with subscribers := Function.update s.subscribers id subscriber }
    else none

/-- The step begins no call beside another one or within an earlier buffer of an active client, and
    accepts no client on a number a call has in hand. -/
def orderly (s : BroadcastNetwork) : Label → Bool
  | .broadcast label => s.broadcast.alone label && !s.broadcast.resumes calls label &&
      !s.broadcast.reuses calls label
  | .subscriber _ _ => true

/-- All subscribers read messages in the order of the calls: each has read the first bytes of some of
    them, and exactly whole messages once it has read all that its connection accepted and none
    of these is cut. -/
structure Agreed (s : BroadcastNetwork) : Prop where
  nodup : s.broadcast.calls.Nodup
  received : ∀ id, ∃ sent : List Nat, sent.Sublist s.broadcast.calls ∧
    (s.subscribers id).received <+: sent.flatMap (buffer memory calls.size)
  whole : ∀ id, (s.subscribers id).received = s.accepted memory id →
    cut calls.size s.broadcast.calls (s.broadcast.streams id) = false →
      ∃ sent : List Nat, sent.Sublist s.broadcast.calls ∧
        (s.subscribers id).received = sent.flatMap (buffer memory calls.size)

variable {calls memory maxRetries} {s s' : BroadcastNetwork}

/-- The server and its callers as they should be, and the subscribers reading what was accepted. -/
structure Linked (calls : WriteCalls) (memory : Nat → Nat → UInt8) (fd : Int)
    (s : BroadcastNetwork) : Prop where
  reachable : Reachable (BroadcastSystem.step calls) (.opened fd) s.broadcast
  homed : BroadcastSystem.Homed calls s.broadcast
  streaming : BroadcastSystem.Streaming calls s.broadcast
  reading : Reading s.subscribers (s.accepted memory)

theorem linked_opened (fd : Int) : Linked calls memory fd (opened fd) where
  reachable := .refl _
  homed := BroadcastSystem.homed_opened fd
  streaming := BroadcastSystem.streaming_opened fd
  reading := reading_start

theorem streams_step {s s' : BroadcastSystem} {label : BroadcastSystem.Label}
    (hstep : s.step calls label = some s') (id : Nat) : s.streams id <+: s'.streams id := by
  rcases BroadcastSystem.step_cases hstep with ⟨l, server, -, -, rfl⟩ | ⟨call, a, -, hmove⟩
  · exact List.prefix_rfl
  · cases hmove with
    | @sent snapshot todo id' loop fd hpc hfits hopen =>
      simp only [BroadcastSystem.setWrite, BroadcastSystem.accept]
      cases s.server.kernel.connectionAt fd with
      | none => exact List.prefix_rfl
      | some target =>
        by_cases htarget : id = target
        · subst htarget
          simp only [Function.update_self]
          exact List.prefix_append _ _
        · simp only [Function.update_of_ne htarget]
          exact List.prefix_rfl
    | _ => exact List.prefix_rfl

theorem Linked.step {fd : Int} (h : Linked calls memory fd s)
    {label : Label} (horderly : s.orderly calls label = true)
    (hstep : step calls memory maxRetries s label = some s') : Linked calls memory fd s' := by
  cases label with
  | broadcast label =>
    obtain ⟨broadcast, hbroadcast, rfl⟩ := Option.map_eq_some_iff.mp hstep
    simp only [orderly, Bool.and_eq_true, Bool.not_eq_true'] at horderly
    obtain ⟨⟨halone, hresumes⟩, hreuses⟩ := horderly
    refine ⟨h.reachable.tail hbroadcast, h.homed.step h.reachable hreuses hbroadcast, ?_, ?_⟩
    · rcases BroadcastSystem.step_cases hbroadcast with ⟨l, server, rfl, -, rfl⟩ |
        ⟨call, a, rfl, hmove⟩
      · exact h.streaming.serverStep server
      · exact h.streaming.writeMove h.homed (BroadcastSystem.reachable_server h.reachable) halone
          hresumes hmove
    · exact h.reading.grown fun id => (streams_step hbroadcast id).map _
  | subscriber id label =>
    simp only [BroadcastNetwork.step] at hstep
    split at hstep
    · rename_i hcarries
      obtain ⟨subscriber, hsubscriber, rfl⟩ := Option.map_eq_some_iff.mp hstep
      exact ⟨h.reachable, h.homed, h.streaming, h.reading.step hcarries hsubscriber⟩
    · cases hstep

theorem Linked.agreed {fd : Int} (h : Linked calls memory fd s) : s.Agreed calls memory where
  nodup := h.streaming.nodup
  received id := by
    obtain ⟨sent, hsent, hprefix⟩ := @Intact.contents_prefix memory _ _ _ (h.streaming.intact id)
    exact ⟨sent, hsent, (h.reading.received id).trans hprefix⟩
  whole id hall hcut := by
    have hwhole := (h.streaming.intact id).whole h.streaming.nodup hcut
    obtain ⟨sent, hsent, hcontents⟩ := @Whole.contents memory _ _ _ hwhole
    exact ⟨sent, hsent, hall.trans hcontents⟩

/-- **One order for all subscribers.**  In every state of a run whose calls are made by one caller, none
    within an earlier buffer of an active client and none with a number in hand that is used again,
    every subscriber has read whole messages in the order of the calls, each at most once, and then
    at most the beginning of one more. -/
theorem agreed_of_orderly {fd : Int} {labels : List Label}
    (hexec : exec (step calls memory maxRetries) (opened fd) labels = some s)
    (hmeets : Meets (step calls memory maxRetries) (fun s label => s.orderly calls label = true)
      (opened fd) labels) : s.Agreed calls memory := by
  have hlinked : Linked calls memory fd s :=
    exec_invariant_of_meets (fun s label s' h hguard hstep => Linked.step h hguard hstep)
      hexec hmeets (linked_opened fd)
  exact hlinked.agreed

open BroadcastServer (acceptRound)
open BroadcastSystem (twoBytes loadSteps)

def letters (call pos : Nat) : UInt8 := UInt8.ofNat (10 * (call + 1) + pos)

/-- Two clients connect, and a call sends its two bytes to the first and one of them to the second. -/
def twoServed : List BroadcastSystem.Label :=
  (acceptRound 4 [] ++ acceptRound 5 [{}]).map .server ++
    loadSteps 0 ++ [.write 0 { send := .sent 2 }, .write 0 {}] ++
    [.write 0 { poll := .ready { pollout := true } none }, .write 0 {}, .write 0 { send := .sent 1 }]

def twoSubscribers : List Label :=
  let read (bytes : List UInt8) : ReadRound :=
    ⟨.ready { pollin := true } none, .plain (.data bytes)⟩
  twoServed.map .broadcast ++
    [.subscriber 0 (.arrive [10, 11]), .subscriber 1 (.arrive [10]),
     .subscriber 0 (.call (.short 1)),
     .subscriber 0 (.round (read [10, 11])),
     .subscriber 1 (.call (.short 1)),
     .subscriber 1 (.round (read [10]))]

theorem twoSubscribers_agreed :
    ∃ s, exec (step twoBytes letters 3) (opened 3) twoSubscribers = some s ∧
      (s.subscribers 0).received = [10, 11] ∧ (s.subscribers 1).received = [10] ∧
        s.Agreed twoBytes letters := by
  have hmeets : Meets (step twoBytes letters 3) (fun s label => s.orderly twoBytes label = true)
      (opened 3) twoSubscribers := by decide
  refine ⟨_, rfl, rfl, rfl, ?_⟩
  exact @agreed_of_orderly twoBytes letters 3 _ 3 twoSubscribers rfl hmeets

end BroadcastNetwork

end SecuritySocket
