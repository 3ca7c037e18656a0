import SecuritySocket.SocketClient
import SecuritySocket.SocketClientPolicy

/-!
# Two TLS clients on one thread (`createTLSResult`)

OpenSSL keeps one error queue for each thread.  A failed call appends to it, `SSL_get_error`
answers `SSL_ERROR_SSL` as long as it is not empty, and the reason that is looked at is that of
its first entry.  Only `SSL_connect` clears it.  So what a failed `SSL_read` or `SSL_write` of one
client is taken for depends on what the calls of another one have left there.
-/

namespace SecuritySocket

open FixedWidth Transition

/-- The error queue of a thread, the entry that is looked at first. -/
abbrev ErrorQueue := List SslReason

/-- What a failed call is seen as, over the queue it leaves. -/
def SslFailure.seen (failure : SslFailure) : ErrorQueue → SslFailure
  | [] => failure
  | reason :: _ => { failure with error := .ssl, reason := reason }

namespace SocketClient

/-- What a call comes back with, and the entries it appends if it fails. -/
structure Answer (α : Type) where
  answer : α
  appended : ErrorQueue := []
deriving DecidableEq, Repr

/-- An OpenSSL call: what is seen of it, and the queue it leaves. -/
def sslCall (queue appended : ErrorQueue) (ret : Int) (failure : SslFailure) :
    SslFailure × ErrorQueue :=
  if ret ≥ 1 then (failure, queue) else (failure.seen (queue ++ appended), queue ++ appended)

def readCall (queue : ErrorQueue) (a : Answer ReadRound) : ReadRound × ErrorQueue :=
  match a.answer.transport with
  | .tls bytes ret failure =>
    if a.answer.reads then
      let (failure, queue) := sslCall queue a.appended ret failure
      ({ a.answer with transport := .tls bytes ret failure }, queue)
    else (a.answer, queue)
  | .plain _ => (a.answer, queue)

def writeCall (queue : ErrorQueue) (a : Answer WriteRound) : WriteRound × ErrorQueue :=
  match a.answer.transport with
  | .tls ret failure =>
    if (SocketEventListener.wait a.answer.poll).code = .success then
      let (failure, queue) := sslCall queue a.appended ret failure
      ({ a.answer with transport := .tls ret failure }, queue)
    else (a.answer, queue)
  | .plain _ => (a.answer, queue)

/-- One call of `connect`.  `SSL_connect` clears the queue on entry, and the probe before it takes
    the connection to be good. -/
def connectCall (queue : ErrorQueue) (a : Answer ConnectCall) : ConnectCall × ErrorQueue :=
  match a.answer with
  | .handshake (.tls ret failure) =>
    let (failure, queue) := sslCall [] a.appended ret failure
    (.handshake (.tls ret failure), queue)
  | .handshake .setFdFailed => (a.answer, queue ++ a.appended)
  | .probe (.peek ret failure) =>
    let (failure, queue) := sslCall queue a.appended ret failure
    let cleared := ret ≤ 0 && failure.error != .ssl && failure.error != .zeroReturn &&
      failure.error != .wantRead
    (.probe (.peek ret failure), if cleared then [] else queue)
  | .handshake .plain | .probe .plain | .probe .notTls13 | .connect _ | .poll _ =>
    (a.answer, queue)

/-- An operation: its calls one after the other, until it returns. -/
def runOp {σ α : Type} (step : σ → α → Option σ) (call : ErrorQueue → Answer α → α × ErrorQueue) :
    σ → ErrorQueue → List (Answer α) → σ × ErrorQueue
  | s, queue, [] => (s, queue)
  | s, queue, a :: answers =>
    match step s (call queue a).1 with
    | none => (s, queue)
    | some s' => runOp step call s' (call queue a).2 answers

structure TlsClient where
  maxRetries : Nat
  configuration : SocketTLSClientConfiguration
  host : CString
deriving DecidableEq, Repr

/-- An operation of a client with what the system and OpenSSL answer.  `failed` is what a failing
    `SSL_CTX_new` or `SSL_new` appends, `shutdown` what a failing `SSL_shutdown` does. -/
inductive ClientOp where
  | open_ (answer : TlsOpenAnswer) (appended : ContextCall → ErrorQueue) (failed : ErrorQueue)
  | connect (answers : List (Answer ConnectCall))
  | read (size : Nat) (answers : List (Answer ReadRound))
  | write (size : Nat) (answers : List (Answer WriteRound))
  | close (shutdown : ErrorQueue)

def openErrors (c : SocketTLSClientConfiguration) (answer : TlsOpenAnswer)
    (appended : ContextCall → ErrorQueue) (failed : ErrorQueue) : ErrorQueue :=
  if (ClientActiveSocket.make answer).result.code ≠ .success then []
  else if answer.newContext then
    (c.contextCalls.filter fun call => call.fallible && !answer.succeeds call).flatMap appended ++
      if answer.newSsl then [] else failed
  else failed

def ConnectPc.code : ConnectPc → Option SocketCode
  | .returned result => some result.code
  | _ => none

/-- An operation: the code it returns, if it does, and the queue it leaves. -/
def ClientOp.run (library : OpenSslDefaults) (c : TlsClient) (queue : ErrorQueue) :
    ClientOp → Option SocketCode × ErrorQueue
  | .open_ answer appended failed =>
    (some (TLSClientActiveSocket.make library c.configuration c.host answer).result.code,
      queue ++ openErrors c.configuration answer appended failed)
  | .connect answers =>
    let (pc, queue) := runOp (connectStep true c.maxRetries) connectCall
      (connectStart c.maxRetries) queue answers
    (pc.code, queue)
  | .read size answers =>
    let (l, queue) := runOp (readStep true c.maxRetries size) readCall {} queue answers
    (if l.running c.maxRetries then none else some l.result.code, queue)
  | .write size answers =>
    let (l, queue) := runOp (writeStep true c.maxRetries size) writeCall {} queue answers
    (if l.running c.maxRetries then none else some l.returned.code, queue)
  | .close shutdown => (none, queue ++ shutdown)

/-- Before the operation returns, a call of it fails; what a failed call is seen as does not matter
    for whether it is made. -/
def failsIn {σ α : Type} (step : σ → α → Option σ) (fails : α → Bool) :
    σ → List (Answer α) → Bool
  | _, [] => false
  | s, a :: answers =>
    match step s a.answer with
    | none => false
    | some s' => fails a.answer || failsIn step fails s' answers

def readFails (round : ReadRound) : Bool :=
  match round.transport with
  | .tls _ ret _ => round.reads && ret < 1
  | .plain _ => false

def writeFails (round : WriteRound) : Bool :=
  match round.transport with
  | .tls ret _ => (SocketEventListener.wait round.poll).code == .success && ret < 1
  | .plain _ => false

def ClientOp.fails (c : TlsClient) : ClientOp → Bool
  | .read size answers => failsIn (readStep true c.maxRetries size) readFails {} answers
  | .write size answers => failsIn (writeStep true c.maxRetries size) writeFails {} answers
  | .open_ _ _ _ | .connect _ | .close _ => false

inductive Party where
  | a
  | b
deriving DecidableEq, Repr

structure Thread where
  queue : ErrorQueue := []
  codes : List (Option SocketCode) := []
deriving DecidableEq, Repr

section

variable (library : OpenSslDefaults) (a b : TlsClient)

def Thread.perform (t : Thread) : Party × ClientOp → Thread
  | (.a, op) =>
    let (code, queue) := op.run library a t.queue
    { queue := queue, codes := t.codes ++ [code] }
  | (.b, op) => { t with queue := (op.run library b t.queue).2 }

def Thread.run (t : Thread) (schedule : List (Party × ClientOp)) : Thread :=
  schedule.foldl (Thread.perform library a b) t

def ofA (x : Party × ClientOp) : Bool := x.1 = .a

def alone (schedule : List (Party × ClientOp)) : List (Party × ClientOp) :=
  schedule.filter ofA

/-- Where an `SSL_read` or `SSL_write` of an operation of `a` fails, the queue begins as it does
    without `b`. -/
def Unpolluted (p : Thread × Thread) (x : Party × ClientOp) : Prop :=
  x.1 = .a → x.2.fails a = true → p.1.queue.head? = p.2.queue.head?

instance (p : Thread × Thread) (x : Party × ClientOp) : Decidable (Unpolluted a p x) :=
  inferInstanceAs (Decidable (_ → _ → _))

end

/-! ### Queues that begin alike -/

theorem seen_congr {failure : SslFailure} {queue queue' : ErrorQueue}
    (h : queue.head? = queue'.head?) : failure.seen queue = failure.seen queue' := by
  cases queue with
  | nil =>
    cases queue' with
    | nil => rfl
    | cons reason queue' => cases h
  | cons reason queue =>
    cases queue' with
    | nil => cases h
    | cons reason' queue' =>
      cases h
      rfl

theorem sslCall_congr {queue queue' : ErrorQueue} (h : queue.head? = queue'.head?)
    (appended : ErrorQueue) (ret : Int) (failure : SslFailure) :
    (sslCall queue appended ret failure).1 = (sslCall queue' appended ret failure).1 ∧
      (sslCall queue appended ret failure).2.head? =
        (sslCall queue' appended ret failure).2.head? := by
  have happended : (queue ++ appended).head? = (queue' ++ appended).head? := by
    rw [List.head?_append, List.head?_append, h]
  unfold sslCall
  split
  · exact ⟨rfl, h⟩
  · exact ⟨seen_congr happended, happended⟩

/-- A call makes the same of queues that begin alike. -/
def Alike {α : Type} (call : ErrorQueue → Answer α → α × ErrorQueue) : Prop :=
  ∀ {queue queue' : ErrorQueue} (x : Answer α), queue.head? = queue'.head? →
    (call queue x).1 = (call queue' x).1 ∧ (call queue x).2.head? = (call queue' x).2.head?

theorem readCall_alike : Alike readCall := by
  intro queue queue' x h
  unfold readCall
  split
  · rename_i bytes ret failure _
    split
    · obtain ⟨hseen, hqueue⟩ := sslCall_congr h x.appended ret failure
      exact ⟨by simp only [hseen], hqueue⟩
    · exact ⟨rfl, h⟩
  · exact ⟨rfl, h⟩

theorem writeCall_alike : Alike writeCall := by
  intro queue queue' x h
  unfold writeCall
  split
  · rename_i ret failure _
    split
    · obtain ⟨hseen, hqueue⟩ := sslCall_congr h x.appended ret failure
      exact ⟨by simp only [hseen], hqueue⟩
    · exact ⟨rfl, h⟩
  · exact ⟨rfl, h⟩

section

variable {σ α : Type} {step : σ → α → Option σ} {call : ErrorQueue → Answer α → α × ErrorQueue}

theorem runOp_alike (hcall : Alike call) {queue queue' : ErrorQueue}
    (h : queue.head? = queue'.head?) (answers : List (Answer α)) (s : σ) :
    (runOp step call s queue answers).1 = (runOp step call s queue' answers).1 := by
  induction answers generalizing s queue queue' with
  | nil => rfl
  | cons x answers ih =>
    obtain ⟨hlabel, hqueue⟩ := hcall x h
    unfold runOp
    rw [hlabel]
    split
    · rfl
    · exact ih hqueue _

theorem runOp_unfailing {fails : α → Bool}
    (hcall : ∀ x, fails x.answer = false → ∀ queue, call queue x = (x.answer, queue))
    (hover : ∀ s x, step s x.answer = none → ∀ queue, step s (call queue x).1 = none)
    (queue queue' : ErrorQueue) {answers : List (Answer α)} {s : σ}
    (h : failsIn step fails s answers = false) :
    (runOp step call s queue answers).1 = (runOp step call s queue' answers).1 := by
  induction answers generalizing s with
  | nil => rfl
  | cons x answers ih =>
    unfold failsIn at h
    cases hstep : step s x.answer with
    | none => simp only [runOp, hover s x hstep]
    | some s' =>
      simp only [hstep, Bool.or_eq_false_iff] at h
      simp only [runOp, hcall x h.1, hstep]
      exact ih h.2

end

theorem readCall_of_not_fails {x : Answer ReadRound} (h : readFails x.answer = false)
    (queue : ErrorQueue) : readCall queue x = (x.answer, queue) := by
  obtain ⟨⟨poll, transport⟩, appended⟩ := x
  cases transport with
  | plain r => rfl
  | tls bytes ret failure =>
    unfold readCall
    dsimp only
    split
    · rename_i hreads
      have hret : ret ≥ 1 := by simpa [readFails, hreads] using h
      rw [sslCall, if_pos hret]
    · rfl

theorem writeCall_of_not_fails {x : Answer WriteRound} (h : writeFails x.answer = false)
    (queue : ErrorQueue) : writeCall queue x = (x.answer, queue) := by
  obtain ⟨⟨poll, transport⟩, appended⟩ := x
  cases transport with
  | plain r => rfl
  | tls ret failure =>
    unfold writeCall
    dsimp only
    split
    · rename_i hready
      have hret : ret ≥ 1 := by simpa [writeFails, hready] using h
      rw [sslCall, if_pos hret]
    · rfl

theorem readStep_readCall {maxRetries size : Nat} {l : ReadLoop} {x : Answer ReadRound}
    (h : readStep true maxRetries size l x.answer = none) (queue : ErrorQueue) :
    readStep true maxRetries size l (readCall queue x).1 = none := by
  obtain ⟨⟨poll, transport⟩, appended⟩ := x
  cases transport with
  | plain r => exact h
  | tls bytes ret failure =>
    unfold readCall
    dsimp only
    split
    · simp only [readStep, ClientReadReturn.fits] at h ⊢
      split
      · rfl
      · rename_i hrunning
        rw [if_neg hrunning] at h
        split <;> simp_all
    · exact h

theorem writeStep_writeCall {maxRetries size : Nat} {l : WriteLoop} {x : Answer WriteRound}
    (h : writeStep true maxRetries size l x.answer = none) (queue : ErrorQueue) :
    writeStep true maxRetries size l (writeCall queue x).1 = none := by
  obtain ⟨⟨poll, transport⟩, appended⟩ := x
  cases transport with
  | plain r => exact h
  | tls ret failure =>
    unfold writeCall
    dsimp only
    split
    · simp only [writeStep, ClientWriteReturn.fits] at h ⊢
      split
      · rfl
      · rename_i hrunning
        rw [if_neg hrunning] at h
        split <;> simp_all
    · exact h

/-! ### Connecting -/

variable {maxRetries : Nat}

theorem not_handshaken_concat {calls : List ConnectCall} (h : ¬ Handshaken calls)
    {call : ConnectCall} (hcall : ∀ ret failure, call ≠ .handshake (.tls ret failure)) :
    ¬ Handshaken (calls ++ [call]) := by
  rintro ⟨failure, hmem⟩
  rcases List.mem_append.mp hmem with hmem | hmem
  · exact h ⟨failure, hmem⟩
  · exact hcall 1 failure (List.mem_singleton.mp hmem).symm

theorem PastHandshake.no_probe {calls : List ConnectCall} {pc : ConnectPc}
    (h : PastHandshake maxRetries calls pc) (hnone : ¬ Handshaken calls) (r : ProbeReturn) :
    connectStep true maxRetries pc (.probe r) = none := by
  cases pc with
  | probing => exact absurd h hnone
  | _ => rfl

theorem connectCall_probe (queue : ErrorQueue) (r : ProbeReturn) (appended : ErrorQueue) :
    ∃ r', (connectCall queue ⟨.probe r, appended⟩).1 = .probe r' := by
  cases r with
  | plain => exact ⟨_, rfl⟩
  | notTls13 => exact ⟨_, rfl⟩
  | peek ret failure => exact ⟨_, rfl⟩

/-- What `connect` comes to does not depend on the queue it finds: `SSL_connect` empties it, and
    without `SSL_connect` there is no probe. -/
theorem runOp_connect (hmax : 0 < maxRetries) (answers : List (Answer ConnectCall))
    {calls : List ConnectCall} {pc : ConnectPc} (h : PastHandshake maxRetries calls pc)
    (hnone : ¬ Handshaken calls) (queue queue' : ErrorQueue) :
    (runOp (connectStep true maxRetries) connectCall pc queue answers).1 =
      (runOp (connectStep true maxRetries) connectCall pc queue' answers).1 := by
  induction answers generalizing calls pc queue queue' with
  | nil => rfl
  | cons x answers ih =>
    obtain ⟨answer, appended⟩ := x
    -- a call that is the same for both queues, and that is not `SSL_connect`
    have hsame : ∀ call : ConnectCall, (∀ ret failure, call ≠ .handshake (.tls ret failure)) →
        (∀ q, (connectCall q ⟨answer, appended⟩).1 = call) →
        (runOp (connectStep true maxRetries) connectCall pc queue (⟨answer, appended⟩ :: answers)).1 =
          (runOp (connectStep true maxRetries) connectCall pc queue'
            (⟨answer, appended⟩ :: answers)).1 := by
      intro call hcall hlabel
      simp only [runOp, hlabel]
      cases hstep : connectStep true maxRetries pc call with
      | none => rfl
      | some pc' =>
        exact ih (h.step hmax (connectStep_cases hstep)) (not_handshaken_concat hnone hcall) _ _
    cases answer with
    | connect r => exact hsame (.connect r) (by simp) fun _ => rfl
    | poll ret => exact hsame (.poll ret) (by simp) fun _ => rfl
    | handshake r =>
      cases r with
      | plain => exact hsame (.handshake .plain) (by simp) fun _ => rfl
      | setFdFailed => exact hsame (.handshake .setFdFailed) (by simp) fun _ => rfl
      | tls ret failure =>
        have hcleared : connectCall queue ⟨.handshake (.tls ret failure), appended⟩ =
            connectCall queue' ⟨.handshake (.tls ret failure), appended⟩ := rfl
        unfold runOp
        rw [hcleared]
        split <;> rfl
    | probe r =>
      obtain ⟨r₁, hr₁⟩ := connectCall_probe queue r appended
      obtain ⟨r₂, hr₂⟩ := connectCall_probe queue' r appended
      simp only [runOp, hr₁, hr₂, h.no_probe hnone]

/-! ### The thread -/

variable {library : OpenSslDefaults} {a b c : TlsClient}

theorem runOp_connectStart (answers : List (Answer ConnectCall)) (queue queue' : ErrorQueue) :
    (runOp (connectStep true maxRetries) connectCall (connectStart maxRetries) queue answers).1 =
      (runOp (connectStep true maxRetries) connectCall (connectStart maxRetries) queue'
        answers).1 := by
  rcases Nat.eq_zero_or_pos maxRetries with rfl | hmax
  · cases answers with
    | nil => rfl
    | cons x answers => rfl
  · have hnone : ¬ Handshaken [] := fun ⟨_, hmem⟩ => absurd hmem List.not_mem_nil
    exact runOp_connect hmax answers (pastHandshake_start hmax) hnone queue queue'

/-- An operation returns the same over queues that begin alike, and over any two queues unless an
    `SSL_read` or `SSL_write` of it fails. -/
theorem run_code_congr {op : ClientOp} {queue queue' : ErrorQueue}
    (h : op.fails c = true → queue.head? = queue'.head?) :
    (op.run library c queue).1 = (op.run library c queue').1 := by
  cases op with
  | open_ answer appended failed => rfl
  | close shutdown => rfl
  | connect answers => exact congrArg ConnectPc.code (runOp_connectStart answers queue queue')
  | read size answers =>
    have hloop : (runOp (readStep true c.maxRetries size) readCall {} queue answers).1 =
        (runOp (readStep true c.maxRetries size) readCall {} queue' answers).1 := by
      cases hfails : (ClientOp.read size answers).fails c with
      | true => exact runOp_alike readCall_alike (h hfails) answers _
      | false =>
        exact runOp_unfailing (fun _ => readCall_of_not_fails) (fun _ _ => readStep_readCall)
          queue queue' hfails
    simp only [ClientOp.run, hloop]
  | write size answers =>
    have hloop : (runOp (writeStep true c.maxRetries size) writeCall {} queue answers).1 =
        (runOp (writeStep true c.maxRetries size) writeCall {} queue' answers).1 := by
      cases hfails : (ClientOp.write size answers).fails c with
      | true => exact runOp_alike writeCall_alike (h hfails) answers _
      | false =>
        exact runOp_unfailing (fun _ => writeCall_of_not_fails) (fun _ _ => writeStep_writeCall)
          queue queue' hfails
    simp only [ClientOp.run, hloop]

/-- **Two clients on one thread.**  In a schedule where the queue begins as it does without the
    operations of `b` whenever an `SSL_read` or `SSL_write` of `a` fails, every operation of `a`
    returns the code it returns without them. -/
theorem codes_eq_alone {schedule : List (Party × ClientOp)}
    (h : Meets (beside (Thread.perform library a b) ofA) (Unpolluted a) ({}, {}) schedule) :
    (Thread.run library a b {} schedule).codes =
      (Thread.run library a b {} (alone schedule)).codes := by
  refine related_of_unwinding (R := fun t u => t.codes = u.codes) ?_ ?_ h rfl
  · rintro t u ⟨party, op⟩ hcodes hguard hkept
    cases party with
    | a =>
      have hcode := @run_code_congr library a op _ _ (hguard rfl)
      simp only [Thread.perform, hcodes, hcode]
    | b => cases hkept
  · rintro t u ⟨party, op⟩ hcodes hguard hleft
    cases party with
    | a => cases hleft
    | b => exact hcodes

def twin : TlsClient where
  maxRetries := 1
  configuration := .make { checked with
    useClientCertificate := true
    clientCertFilePath := some "client.crt".toList
    clientKeyFilePath := some "client.key".toList }
  host := "host".toList

def openWithKey (decrypted : Bool) : ClientOp :=
  .open_ { allSucceed with
    succeeds := fun call => decrypted || call != .usePrivateKeyFile "client.key".toList }
    (fun _ => [.other]) []

def connectSmoothly : ClientOp :=
  .connect ((smooth SocketTLSVersion.tls1_3.number).map fun call => { answer := call })

def readPartRecord : ClientOp :=
  .read 4
    [{ answer := { poll := .ready { pollin := true } none, transport := .tls [] (-1) wantsRead } }]

/-- The key of `b` cannot be decrypted, before `a` is connected. -/
def badKeyBefore : List (Party × ClientOp) :=
  [(.b, openWithKey false), (.a, openWithKey true), (.a, connectSmoothly), (.a, readPartRecord),
    (.b, connectSmoothly), (.b, readPartRecord), (.a, .close []), (.b, .close [])]

theorem badKeyBefore_codes :
    (Thread.run sampleLibrary twin twin {} badKeyBefore).codes =
      (Thread.run sampleLibrary twin twin {} (alone badKeyBefore)).codes :=
  codes_eq_alone (by decide)

/-- It cannot be decrypted, after `a` has been connected. -/
def badKeyAfter : List (Party × ClientOp) :=
  [(.a, openWithKey true), (.a, connectSmoothly), (.b, openWithKey false), (.a, readPartRecord)]

theorem badKeyAfter_codes :
    (Thread.run sampleLibrary twin twin {} badKeyAfter).codes =
        [some .success, some .success, some .sslProtocolError] ∧
      (Thread.run sampleLibrary twin twin {} (alone badKeyAfter)).codes =
        [some .success, some .success, some .socketConnectionNeedToBeBlocked] := by
  decide

end SocketClient

end SecuritySocket
