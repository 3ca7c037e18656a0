import SecuritySocket.CStrings
import SecuritySocket.TlsConfiguration

/-!
# The lists of cipher suites in memory (`appendCipherString`, `generateTLS12CipherSuiteImpl`)

The caller gives a buffer of 512 bytes, and the lists are written into it name by name behind a
running offset, without a look at the end of the buffer.  Here the same on memory: the text of
`TlsConfiguration` is what the buffer holds at every point, the names leave room for the NUL,
and nothing behind the buffer is written.
-/

namespace SecuritySocket

open CStrings

namespace CipherBuffer

/-- `appendCipherString`: the new offset, and the memory that begins with `dest`. -/
def appendCipherString (cipherStr : CString) (offset : Nat) (dest : List Char) : Nat × List Char :=
  let (offset, dest) := if offset ≠ 0 then (offset + 1, dest.set offset ':') else (offset, dest)
  let dest := memcpyAt dest offset cipherStr
  let offset := offset + cipherStr.length
  (offset, dest.set offset nul)

section

variable {α : Type} (flag : α → Nat) (name : α → CString)

def appendCipherSuites (suites : List α) (suitesBitmap : Nat) (written : Nat × List Char) :
    Nat × List Char :=
  suites.foldl (fun (offset, ret) suite =>
    if suitesBitmap &&& flag suite ≠ 0 then appendCipherString (name suite) offset ret
    else (offset, ret)) written

/-- `generateTLS12CipherSuiteImpl` and `generateTLS13CipherSuiteImpl`. -/
def generateCipherSuites (suites : List α) (suitesBitmap : Nat) (ret : List Char) : List Char :=
  let ret := ret.set 0 nul
  if suitesBitmap = 0 then ret
  else (appendCipherSuites flag name suites suitesBitmap (0, ret)).2

end

def generateTLS12CipherSuiteImpl (suitesBitmap : Nat) (ret : List Char) : List Char :=
  generateCipherSuites SocketTLS1_2CipherSuite.flag SocketTLS1_2CipherSuite.name
    SocketTLS1_2CipherSuite.all suitesBitmap ret

def generateTLS13CipherSuiteImpl (suitesBitmap : Nat) (ret : List Char) : List Char :=
  generateCipherSuites SocketTLS1_3CipherSuite.flag SocketTLS1_3CipherSuite.name
    SocketTLS1_3CipherSuite.all suitesBitmap ret

variable {size : Nat} {text behind memory : List Char}

/-- **Step lemma.**  One more name in memory is one more name in the list, if there is room. -/
theorem holds_appendCipherString (h : Holds size text behind memory) {cipherStr : CString}
    (hproper : nul ∉ cipherStr)
    (hroom : (SecuritySocket.appendCipherString cipherStr text).length < size) :
    (appendCipherString cipherStr text.length memory).1 =
        (SecuritySocket.appendCipherString cipherStr text).length ∧
      Holds size (SecuritySocket.appendCipherString cipherStr text) behind
        (appendCipherString cipherStr text.length memory).2 := by
  obtain ⟨rest, hmemory, -⟩ := h.split
  by_cases hempty : text.length = 0
  · have happended : SecuritySocket.appendCipherString cipherStr text = text ++ cipherStr := by
      simp [SecuritySocket.appendCipherString, hempty]
    rw [happended] at hroom ⊢
    have hholds := h.append hproper hroom
    simp only [appendCipherString, hempty, ne_eq, not_true_eq_false, if_false]
    rw [List.length_append, hempty] at hholds ⊢
    exact ⟨rfl, hholds⟩
  · have happended : SecuritySocket.appendCipherString cipherStr text =
        text ++ ':' :: cipherStr := by
      simp [SecuritySocket.appendCipherString, hempty]
    have hseparated : nul ∉ ':' :: cipherStr := by
      rw [List.mem_cons, not_or]
      exact ⟨by decide, hproper⟩
    rw [happended] at hroom ⊢
    have hholds := h.append hseparated hroom
    have hlength : text.length + 1 + cipherStr.length = (text ++ ':' :: cipherStr).length := by
      rw [List.length_append, List.length_cons]
      omega
    simp only [appendCipherString, ne_eq, hempty, not_false_eq_true, if_true, hlength]
    refine ⟨trivial, ?_⟩
    rw [hmemory] at hholds ⊢
    rw [memcpyAt_cons]
    exact hholds

section

variable {α : Type} {flag : α → Nat} {name : α → CString}

def listed (flag : α → Nat) (name : α → CString) (suites : List α) (suitesBitmap : Nat)
    (text : CString) : CString :=
  suites.foldl (fun ret suite =>
    if suitesBitmap &&& flag suite ≠ 0 then SecuritySocket.appendCipherString (name suite) ret
    else ret) text

theorem length_listed_le (suites : List α) (suitesBitmap : Nat) (text : CString) :
    (listed flag name suites suitesBitmap text).length ≤
      text.length + (suites.map fun suite => (name suite).length + 1).sum := by
  induction suites generalizing text with
  | nil => simp [listed]
  | cons suite suites ih =>
    rw [listed, List.foldl_cons, List.map_cons, List.sum_cons]
    refine Nat.le_trans (ih _) ?_
    split
    · have hone : (SecuritySocket.appendCipherString (name suite) text).length ≤
          text.length + ((name suite).length + 1) := by
        unfold SecuritySocket.appendCipherString
        split
        · simp only [List.length_append, List.length_singleton]
          omega
        · rw [List.length_append]
          omega
      omega
    · omega

/-- **Loop lemma.**  As long as there is room for all names, memory holds the list so far. -/
theorem holds_appendCipherSuites (hproper : ∀ suite, nul ∉ name suite) (suites : List α)
    (suitesBitmap : Nat)
    (hroom : text.length + (suites.map fun suite => (name suite).length + 1).sum < size)
    (h : Holds size text behind memory) :
    Holds size (listed flag name suites suitesBitmap text) behind
      (appendCipherSuites flag name suites suitesBitmap (text.length, memory)).2 := by
  induction suites generalizing text memory with
  | nil => exact h
  | cons suite suites ih =>
    rw [List.map_cons, List.sum_cons] at hroom
    rw [listed, appendCipherSuites, List.foldl_cons, List.foldl_cons]
    by_cases hpresent : suitesBitmap &&& flag suite ≠ 0
    · have hone := @length_listed_le _ flag name [suite] suitesBitmap text
      simp only [listed, List.foldl_cons, List.foldl_nil, if_pos hpresent, List.map_cons,
        List.map_nil, List.sum_cons, List.sum_nil] at hone
      obtain ⟨hoffset, hholds⟩ :=
        holds_appendCipherString h (hproper suite) (by omega)
      have hrest := ih (by omega) hholds
      rw [← hoffset] at hrest
      simp only [if_pos hpresent]
      exact hrest
    · simp only [if_neg hpresent]
      exact ih (by omega) h

theorem holds_generateCipherSuites (hproper : ∀ suite, nul ∉ name suite) (suites : List α)
    (suitesBitmap : Nat)
    (hroom : (suites.map fun suite => (name suite).length + 1).sum < size) {field : List Char}
    (hfield : field.length = size) :
    Holds size (SecuritySocket.generateCipherSuites flag name suites suitesBitmap) behind
      (generateCipherSuites flag name suites suitesBitmap (field ++ behind)) := by
  have hempty := @holds_nil field size behind hfield (Nat.lt_of_le_of_lt (Nat.zero_le _) hroom)
  unfold SecuritySocket.generateCipherSuites generateCipherSuites
  split
  · exact hempty
  · exact holds_appendCipherSuites hproper suites suitesBitmap (by simpa using hroom) hempty

end

theorem nul_not_mem_tls12 (suite : SocketTLS1_2CipherSuite) : nul ∉ suite.name := by
  cases suite <;> decide

theorem nul_not_mem_tls13 (suite : SocketTLS1_3CipherSuite) : nul ∉ suite.name := by
  cases suite <;> decide

/-- What is in the buffer of 512 bytes, whatever was in it before. -/
structure Written (names : CString → Prop) (before after : List Char) : Prop where
  names : ∀ n, n ∈ cipherNames (read after) ↔ names n
  terminated : (read after).length < 512
  length : after.length = before.length
  behind : after.drop 512 = before.drop 512

theorem written_of_holds {names : CString → Prop} {text before after : List Char}
    (hbefore : 512 ≤ before.length) (h : Holds 512 text (before.drop 512) after)
    (hnames : ∀ n, n ∈ cipherNames text ↔ names n) : Written names before after := by
  have hread := h.read
  refine ⟨fun n => hread.symm ▸ hnames n, hread.symm ▸ h.length_lt, ?_, h.drop⟩
  rw [h.length, List.length_drop]
  omega

/-- **The lists reach OpenSSL.**  Whatever suites a configuration is given, in any order and any
    number of times, and whatever is in the buffers: the names that OpenSSL takes out of the two
    buffers are those of the suites, and no byte outside of the buffers is written. -/
theorem written_generateCipherSuites (a : TlsClientArguments) {cipherList ciphersuites : List Char}
    (hlist : 512 ≤ cipherList.length) (hsuites : 512 ≤ ciphersuites.length) :
    Written (fun n => ∃ s ∈ a.tls12CipherSuites, s.name = n) cipherList
        (generateTLS12CipherSuiteImpl (SocketTLSClientConfiguration.make a).tls12CipherSuites
          cipherList) ∧
      Written (fun n => ∃ s ∈ a.tls13CipherSuites, s.name = n) ciphersuites
        (generateTLS13CipherSuiteImpl (SocketTLSClientConfiguration.make a).tls13CipherSuites
          ciphersuites) := by
  constructor
  · refine written_of_holds hlist ?_
      fun n => SocketTLSClientConfiguration.mem_cipherNames_tls12 a
    have hholds := @holds_generateCipherSuites 512 (cipherList.drop 512) _
      SocketTLS1_2CipherSuite.flag _ nul_not_mem_tls12 SocketTLS1_2CipherSuite.all
      (SocketTLSClientConfiguration.make a).tls12CipherSuites (by decide) (cipherList.take 512)
      (List.length_take_of_le hlist)
    rw [List.take_append_drop] at hholds
    exact hholds
  · refine written_of_holds hsuites ?_
      fun n => SocketTLSClientConfiguration.mem_cipherNames_tls13 a
    have hholds := @holds_generateCipherSuites 512 (ciphersuites.drop 512) _
      SocketTLS1_3CipherSuite.flag _ nul_not_mem_tls13 SocketTLS1_3CipherSuite.all
      (SocketTLSClientConfiguration.make a).tls13CipherSuites (by decide)
      (ciphersuites.take 512) (List.length_take_of_le hsuites)
    rw [List.take_append_drop] at hholds
    exact hholds

/-- Suites of both versions, one of them twice, over what another list left. -/
def someSuites : TlsClientArguments where
  tls12CipherSuites := [.ecdheRsaChacha20Poly1305, .ecdheEcdsaAes256GcmSha384,
    .ecdheRsaChacha20Poly1305]
  tls13CipherSuites := [.tlsAes128Ccm8Sha256]

theorem written_someSuites :
    Written (fun n => ∃ s ∈ someSuites.tls12CipherSuites, s.name = n) (List.replicate 600 'x')
      (generateTLS12CipherSuiteImpl 9 (List.replicate 600 'x')) := by
  have hlong : 512 ≤ (List.replicate 600 'x').length := by
    rw [List.length_replicate]
    decide
  exact (written_generateCipherSuites someSuites hlong hlong).1

end CipherBuffer

end SecuritySocket
