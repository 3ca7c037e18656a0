import SecuritySocket.Kernel

/-!
# Passive sockets (`PassiveSocket.cpp`)

Both servers open their listening socket in the same four steps: create it, resolve the
address, `bind`, `listen`.  The socket lives in a container that belongs to the server;
opening replaces its bytes, and neither the assignment nor a destructor closes the socket
that was there.
-/

namespace SecuritySocket

/-- `PassiveSocket`, with the result that `valid` returns. -/
structure PassiveSocket where
  result : SocketResult := {}
  socket : Int := 0
deriving DecidableEq, Repr

/-- What `getaddrinfo` returns. -/
inductive AddrInfoReturn where
  | ok
  | again
  | fail
  | memory
  | noName
  | service
  | other
deriving DecidableEq, Repr

/-- The result of a `SocketAddress`: the errors it does not name leave it a success. -/
def SocketAddress.result : AddrInfoReturn → SocketResult
  | .again | .fail | .memory | .noName | .service => { code := .addressNotAvailable }
  | .ok | .other => {}

/-- What `::socket`, `getaddrinfo`, `::bind` and `::listen` return, with the `errno` a failed
    one leaves. -/
structure OpenAnswer where
  socket : Int
  address : AddrInfoReturn := .ok
  bind : Int := 0
  listen : Int := 0
  errno : Errno := .other 0
deriving DecidableEq, Repr

namespace PassiveSocket

def make (ret : Int) (errno : Errno) : PassiveSocket :=
  if ret < 0 then { result := createResult ret errno, socket := ret } else { socket := ret }

def callResult (ret : Int) (errno : Errno) : SocketResult :=
  if ret < 0 then createResult ret errno else {}

end PassiveSocket

/-- `::socket` returns a descriptor that is not open, or a negative number. -/
def OpenAnswer.fits (a : OpenAnswer) (kernel : Kernel) : Bool :=
  decide (a.socket < 0) || (kernel.fdTable a.socket).isNone

def Kernel.socket (kernel : Kernel) (ret : Int) : Kernel :=
  if ret < 0 then kernel
  else { kernel with fdTable := Function.update kernel.fdTable ret (some .listening) }

/-- The steps with which `open` of either server begins: the result is that of the first
    step that fails. -/
def openPassive (a : OpenAnswer) : SocketResult :=
  let socket := PassiveSocket.make a.socket a.errno
  if socket.result.code ≠ .success then socket.result
  else if (SocketAddress.result a.address).code ≠ .success then SocketAddress.result a.address
  else if (PassiveSocket.callResult a.bind a.errno).code ≠ .success then
    PassiveSocket.callResult a.bind a.errno
  else PassiveSocket.callResult a.listen a.errno

/-! ### What the steps leave -/

namespace PassiveSocket

variable {ret : Int} {errno : Errno}

@[simp] theorem make_socket : (make ret errno).socket = ret := by
  unfold make
  split <;> rfl

theorem make_result_code : (make ret errno).result.code = .success ↔ 0 ≤ ret := by
  unfold make
  split
  · rename_i hneg
    rw [createResult_code_eq_success]
    omega
  · rename_i hnonneg
    simpa using hnonneg

end PassiveSocket

theorem openPassive_of_neg {a : OpenAnswer} (h : a.socket < 0) :
    (openPassive a).code ≠ .success := by
  have hcode : (PassiveSocket.make a.socket a.errno).result.code ≠ .success := by
    rw [ne_eq, PassiveSocket.make_result_code]
    omega
  simp only [openPassive, hcode, ne_eq, not_false_eq_true, if_true]

theorem Kernel.socket_of_nonneg {kernel : Kernel} {ret : Int} (h : 0 ≤ ret) :
    kernel.socket ret =
      { kernel with fdTable := Function.update kernel.fdTable ret (some .listening) } :=
  if_neg (Int.not_lt.mpr h)

theorem Kernel.socket_of_neg {kernel : Kernel} {ret : Int} (h : ret < 0) :
    kernel.socket ret = kernel :=
  if_pos h

end SecuritySocket
