import SecuritySocket.ActiveSocket
import SecuritySocket.SocketEvent

/-!
# Receive queues

What the system knows about one direction of a connection: the bytes that have arrived, and
whether the peer has closed, after which nothing more arrives.  The bytes not yet read are
the receive queue.  `recv` takes from its front, and returns zero at the end of the stream
or when it is asked for nothing; on a TLS socket the bytes are those inside the records.
-/

namespace SecuritySocket

open FixedWidth

structure ReceiveQueue where
  arrived : List UInt8 := []
  ended : Bool := false
deriving DecidableEq, Repr

namespace ReceiveQueue

def arrive (q : ReceiveQueue) (bytes : List UInt8) : Option ReceiveQueue :=
  if q.ended then none else some { q with arrived := q.arrived ++ bytes }

def finish (q : ReceiveQueue) : ReceiveQueue := { q with ended := true }

def unread (q : ReceiveQueue) (consumed : List UInt8) : List UInt8 :=
  q.arrived.drop consumed.length

def atEnd (q : ReceiveQueue) (consumed : List UInt8) : Bool :=
  q.ended && (q.unread consumed).isEmpty

/-- The returns of a `recv` of `length` bytes. -/
def answers (q : ReceiveQueue) (consumed : List UInt8) (length : Nat) : RecvReturn → Bool
  | .data bytes => bytes.isPrefixOf (q.unread consumed)
  | .closed => length == 0 || q.atEnd consumed
  | .error _ => true

/-- The returns of the transport call in a client's `read` of `size` bytes. -/
def answersClient (q : ReceiveQueue) (consumed : List UInt8) (size : Nat) :
    ClientReadReturn → Bool
  | .plain r => q.answers consumed (narrow size) r
  | .tls bytes ret _ =>
    bytes.isPrefixOf (q.unread consumed) && (ret != 0 || narrow size == 0 || q.atEnd consumed)

/-- poll reports a hangup only once nothing more arrives. -/
def polls (q : ReceiveQueue) (revents : Revents) : Bool := !revents.hangup || q.ended

theorem unread_eq_nil_of_isZero {q : ReceiveQueue} {consumed : List UInt8} {size : Nat}
    {r : ClientReadReturn} (h : q.answersClient consumed size r) (hzero : r.isZero = true)
    (hsize : narrow size ≠ 0) : q.unread consumed = [] := by
  have hend : q.atEnd consumed = true := by
    cases r with
    | plain r =>
      simp only [ClientReadReturn.isZero, beq_iff_eq] at hzero
      subst hzero
      simpa [answersClient, answers, hsize] using h
    | tls bytes ret failure =>
      simp only [ClientReadReturn.isZero, beq_iff_eq] at hzero
      simp only [answersClient, hzero, bne_self_eq_false, Bool.false_or, Bool.and_eq_true,
        Bool.or_eq_true, beq_iff_eq, hsize, false_or] at h
      exact h.2
  simp only [atEnd, Bool.and_eq_true, List.isEmpty_iff] at hend
  exact hend.2

end ReceiveQueue

end SecuritySocket
