import Mathlib.Data.Nat.Bitwise
import Mathlib.Tactic.Common

/-!
# TLS client configurations (`SecuritySocket.hpp`, `SecuritySocket.cpp`)

A configuration keeps the versions and cipher suites it is given as bitmaps.  They are read
back bit by bit: a version when it is asked for, the suites as the colon-separated list of
names in which OpenSSL takes them.  A C string is the list of its characters.
-/

namespace SecuritySocket

abbrev CString := List Char

/-! ### Bitmaps -/

namespace Bitmap

variable {α : Type*}

/-- `bitmap |= flag`, for each flag of a list. -/
def ofFlags (flag : α → Nat) (flags : List α) : Nat :=
  flags.foldl (fun bitmap a => bitmap ||| flag a) 0

theorem and_shiftLeft_ne_zero {bitmap i : Nat} : bitmap &&& 1 <<< i ≠ 0 ↔ bitmap.testBit i = true := by
  rw [Nat.one_shiftLeft, Nat.and_two_pow]
  cases bitmap.testBit i <;> simp

theorem testBit_foldl (index : α → Nat) (flags : List α) (bitmap i : Nat) :
    (flags.foldl (fun bitmap a => bitmap ||| 1 <<< index a) bitmap).testBit i = true ↔
      bitmap.testBit i = true ∨ ∃ a ∈ flags, index a = i := by
  induction flags generalizing bitmap with
  | nil => simp
  | cons a flags ih =>
    rw [List.foldl_cons, ih, Nat.testBit_or, Nat.one_shiftLeft, Nat.testBit_two_pow]
    simp [or_assoc]

/-- The flag of an element is set exactly if the element is in the list. -/
theorem ofFlags_and_ne_zero {index : α → Nat} (hindex : Function.Injective index) (flags : List α)
    (a : α) : ofFlags (fun a => 1 <<< index a) flags &&& 1 <<< index a ≠ 0 ↔ a ∈ flags := by
  rw [and_shiftLeft_ne_zero, ofFlags, testBit_foldl]
  simp [hindex.eq_iff]

end Bitmap

/-! ### Versions and cipher suites -/

inductive SocketTLSVersion where
  | tls1_2
  | tls1_3
deriving DecidableEq, Repr

inductive SocketTLS1_2CipherSuite where
  | ecdheEcdsaAes256GcmSha384
  | ecdheRsaAes256GcmSha384
  | ecdheEcdsaChacha20Poly1305
  | ecdheRsaChacha20Poly1305
deriving DecidableEq, Repr

inductive SocketTLS1_3CipherSuite where
  | tlsAes128GcmSha256
  | tlsAes256GcmSha384
  | tlsChacha20Poly1305Sha256
  | tlsAes128CcmSha256
  | tlsAes128Ccm8Sha256
deriving DecidableEq, Repr

namespace SocketTLSVersion

def index : SocketTLSVersion → Nat
  | tls1_2 => 0
  | tls1_3 => 1

def flag (version : SocketTLSVersion) : Nat := 1 <<< version.index

def number : SocketTLSVersion → Nat
  | tls1_2 => 0x0303
  | tls1_3 => 0x0304

theorem index_injective : Function.Injective index := by
  intro a b h
  cases a <;> cases b <;> first | rfl | cases h

end SocketTLSVersion

namespace SocketTLS1_2CipherSuite

def index : SocketTLS1_2CipherSuite → Nat
  | ecdheEcdsaAes256GcmSha384 => 0
  | ecdheRsaAes256GcmSha384 => 1
  | ecdheEcdsaChacha20Poly1305 => 2
  | ecdheRsaChacha20Poly1305 => 3

def flag (suite : SocketTLS1_2CipherSuite) : Nat := 1 <<< suite.index

/-- The name OpenSSL has for the suite. -/
def name : SocketTLS1_2CipherSuite → CString
  | ecdheEcdsaAes256GcmSha384 => "ECDHE-ECDSA-AES256-GCM-SHA384".toList
  | ecdheRsaAes256GcmSha384 => "ECDHE-RSA-AES256-GCM-SHA384".toList
  | ecdheEcdsaChacha20Poly1305 => "ECDHE-ECDSA-CHACHA20-POLY1305".toList
  | ecdheRsaChacha20Poly1305 => "ECDHE-RSA-CHACHA20-POLY1305".toList

/-- The order in which the suites are looked for. -/
def all : List SocketTLS1_2CipherSuite :=
  [ecdheEcdsaAes256GcmSha384, ecdheRsaAes256GcmSha384, ecdheEcdsaChacha20Poly1305,
    ecdheRsaChacha20Poly1305]

theorem index_injective : Function.Injective index := by
  intro a b h
  cases a <;> cases b <;> first | rfl | cases h

theorem mem_all (suite : SocketTLS1_2CipherSuite) : suite ∈ all := by
  cases suite <;> decide

theorem name_proper (suite : SocketTLS1_2CipherSuite) : suite.name ≠ [] ∧ ':' ∉ suite.name := by
  cases suite <;> decide

end SocketTLS1_2CipherSuite

namespace SocketTLS1_3CipherSuite

def index : SocketTLS1_3CipherSuite → Nat
  | tlsAes128GcmSha256 => 0
  | tlsAes256GcmSha384 => 1
  | tlsChacha20Poly1305Sha256 => 2
  | tlsAes128CcmSha256 => 3
  | tlsAes128Ccm8Sha256 => 4

def flag (suite : SocketTLS1_3CipherSuite) : Nat := 1 <<< suite.index

def name : SocketTLS1_3CipherSuite → CString
  | tlsAes128GcmSha256 => "TLS_AES_128_GCM_SHA256".toList
  | tlsAes256GcmSha384 => "TLS_AES_256_GCM_SHA384".toList
  | tlsChacha20Poly1305Sha256 => "TLS_CHACHA20_POLY1305_SHA256".toList
  | tlsAes128CcmSha256 => "TLS_AES_128_CCM_SHA256".toList
  | tlsAes128Ccm8Sha256 => "TLS_AES_128_CCM_8_SHA256".toList

def all : List SocketTLS1_3CipherSuite :=
  [tlsAes128GcmSha256, tlsAes256GcmSha384, tlsChacha20Poly1305Sha256, tlsAes128CcmSha256,
    tlsAes128Ccm8Sha256]

theorem index_injective : Function.Injective index := by
  intro a b h
  cases a <;> cases b <;> first | rfl | cases h

theorem mem_all (suite : SocketTLS1_3CipherSuite) : suite ∈ all := by
  cases suite <;> decide

theorem name_proper (suite : SocketTLS1_3CipherSuite) : suite.name ≠ [] ∧ ':' ∉ suite.name := by
  cases suite <;> decide

end SocketTLS1_3CipherSuite

/-! ### Lists of names -/

/-- `appendCipherString`; the offset is the length of what `dest` holds. -/
def appendCipherString (cipherStr dest : CString) : CString :=
  (if dest.length ≠ 0 then dest ++ [':'] else dest) ++ cipherStr

variable {α : Type*}

/-- `generateTLS12CipherSuiteImpl` and `generateTLS13CipherSuiteImpl`: one test and one append for
    each suite there is. -/
def generateCipherSuites (flag : α → Nat) (name : α → CString) (suites : List α)
    (suitesBitmap : Nat) : CString :=
  if suitesBitmap = 0 then []
  else
    suites.foldl (fun ret suite =>
      if suitesBitmap &&& flag suite ≠ 0 then appendCipherString (name suite) ret else ret) []

def generateTLS12CipherSuiteImpl (suitesBitmap : Nat) : CString :=
  generateCipherSuites SocketTLS1_2CipherSuite.flag SocketTLS1_2CipherSuite.name
    SocketTLS1_2CipherSuite.all suitesBitmap

def generateTLS13CipherSuiteImpl (suitesBitmap : Nat) : CString :=
  generateCipherSuites SocketTLS1_3CipherSuite.flag SocketTLS1_3CipherSuite.name
    SocketTLS1_3CipherSuite.all suitesBitmap

/-- The names in a list of suites, as OpenSSL takes it apart. -/
def cipherNames (list : CString) : List CString := if list = [] then [] else list.splitOn ':'

theorem intercalate_concat (c : Char) {names : List CString} (hnames : names ≠ []) (name : CString) :
    [c].intercalate (names ++ [name]) = [c].intercalate names ++ c :: name := by
  induction names with
  | nil => exact absurd rfl hnames
  | cons first names ih =>
    cases names with
    | nil => simp
    | cons second names =>
      have hrest := ih (List.cons_ne_nil second names)
      rw [List.cons_append] at hrest
      rw [List.cons_append, List.cons_append, List.intercalate_cons_cons, hrest,
        List.intercalate_cons_cons]
      simp only [List.append_assoc]

theorem intercalate_ne_nil (c : Char) {names : List CString} (hnames : names ≠ [])
    (hproper : ∀ name ∈ names, name ≠ []) : [c].intercalate names ≠ [] := by
  cases names with
  | nil => exact absurd rfl hnames
  | cons first names =>
    have hfirst := hproper first (by simp)
    cases names with
    | nil => simpa using hfirst
    | cons second names => simp

theorem appendCipherString_intercalate {names : List CString} (hproper : ∀ name ∈ names, name ≠ [])
    (name : CString) : appendCipherString name ([':'].intercalate names) =
      [':'].intercalate (names ++ [name]) := by
  unfold appendCipherString
  cases names with
  | nil => simp
  | cons first names =>
    have hne := intercalate_ne_nil ':' (by simp) hproper
    rw [if_pos (by simpa using hne), intercalate_concat ':' (by simp)]
    simp

theorem foldl_appendCipherString (present : α → Prop) [DecidablePred present] {name : α → CString}
    (hproper : ∀ a, name a ≠ []) (suites : List α) {names : List CString}
    (hnames : ∀ n ∈ names, n ≠ []) :
    suites.foldl (fun ret suite => if present suite then appendCipherString (name suite) ret else ret)
      ([':'].intercalate names) =
      [':'].intercalate (names ++ (suites.filter present).map name) := by
  induction suites generalizing names with
  | nil => simp
  | cons suite suites ih =>
    rw [List.foldl_cons]
    by_cases hpresent : present suite
    · rw [if_pos hpresent, appendCipherString_intercalate hnames, ih, List.filter_cons_of_pos
        (by simpa using hpresent)]
      · simp
      · intro n hn
        rcases List.mem_append.mp hn with hn | hn
        · exact hnames n hn
        · rw [List.mem_singleton.mp hn]
          exact hproper suite
    · rw [if_neg hpresent, ih hnames, List.filter_cons_of_neg (by simpa using hpresent)]

section

variable {index : α → Nat} {name : α → CString} {all : List α}

/-- The names of the suites that are listed, one after the other and each once. -/
theorem generateCipherSuites_eq [DecidableEq α] (hindex : Function.Injective index)
    (hname : ∀ a, name a ≠ []) (listed : List α) :
    generateCipherSuites (fun a => 1 <<< index a) name all
        (Bitmap.ofFlags (fun a => 1 <<< index a) listed) =
      [':'].intercalate ((all.filter (· ∈ listed)).map name) := by
  have hpresent : ∀ a, Bitmap.ofFlags (fun a => 1 <<< index a) listed &&& 1 <<< index a ≠ 0 ↔
      a ∈ listed := Bitmap.ofFlags_and_ne_zero hindex listed
  unfold generateCipherSuites
  split
  · rename_i hzero
    have hnone : all.filter (· ∈ listed) = [] := by
      rw [List.filter_eq_nil_iff]
      intro a _ ha
      apply (hpresent a).mpr (by simpa using ha)
      rw [hzero, Nat.zero_and]
    rw [hnone]
    rfl
  · have hfold := @foldl_appendCipherString α (fun a => a ∈ listed) _ name hname all [] (by simp)
    rw [List.intercalate_nil, List.nil_append] at hfold
    rw [← hfold]
    congr 1
    funext ret a
    exact if_congr (hpresent a) rfl rfl

/-- What OpenSSL reads out of the generated list is what was listed. -/
theorem mem_cipherNames [DecidableEq α] (hindex : Function.Injective index) (hall : ∀ a, a ∈ all)
    (hname : ∀ a, name a ≠ [] ∧ ':' ∉ name a) {listed : List α} {n : CString} :
    n ∈ cipherNames (generateCipherSuites (fun a => 1 <<< index a) name all
        (Bitmap.ofFlags (fun a => 1 <<< index a) listed)) ↔ ∃ a ∈ listed, name a = n := by
  rw [generateCipherSuites_eq hindex (fun a => (hname a).1)]
  have hnames : ∀ m ∈ (all.filter (· ∈ listed)).map name, m ≠ [] ∧ ':' ∉ m := by
    intro m hm
    obtain ⟨a, _, rfl⟩ := List.mem_map.mp hm
    exact hname a
  unfold cipherNames
  by_cases hnil : (all.filter (· ∈ listed)).map name = []
  · rw [hnil, List.intercalate_nil, if_pos rfl]
    rw [List.map_eq_nil_iff, List.filter_eq_nil_iff] at hnil
    simp only [List.not_mem_nil, false_iff, not_exists, not_and]
    intro a ha
    exact absurd (by simpa using ha) (hnil a (hall a))
  · rw [if_neg (intercalate_ne_nil ':' hnil fun m hm => (hnames m hm).1),
      List.splitOn_intercalate ':' (fun m hm => (hnames m hm).2) hnil]
    simp [hall]

theorem generateCipherSuites_eq_nil [DecidableEq α] (hindex : Function.Injective index)
    (hall : ∀ a, a ∈ all) (hname : ∀ a, name a ≠ []) {listed : List α} :
    generateCipherSuites (fun a => 1 <<< index a) name all
        (Bitmap.ofFlags (fun a => 1 <<< index a) listed) = [] ↔ listed = [] := by
  rw [generateCipherSuites_eq hindex hname]
  constructor
  · intro hnil
    by_contra hlisted
    obtain ⟨a, ha⟩ := List.exists_mem_of_ne_nil _ hlisted
    refine intercalate_ne_nil ':' ?_ ?_ hnil
    · rw [ne_eq, List.map_eq_nil_iff, List.filter_eq_nil_iff]
      exact fun hnone => hnone a (hall a) (by simpa using ha)
    · intro m hm
      obtain ⟨b, _, rfl⟩ := List.mem_map.mp hm
      exact hname b
  · rintro rfl
    rw [List.filter_eq_nil_iff.mpr (by simp)]
    rfl

end

/-! ### The configuration -/

/-- The arguments of the constructor; a path may be the null pointer. -/
structure TlsClientArguments where
  supportVersions : List SocketTLSVersion := []
  tls12CipherSuites : List SocketTLS1_2CipherSuite := []
  tls13CipherSuites : List SocketTLS1_3CipherSuite := []
  verifyServer : Bool := false
  verifyHostname : Bool := false
  serverTrustStorePath : Option CString := none
  useClientCertificate : Bool := false
  clientCertFilePath : Option CString := none
  clientKeyFilePath : Option CString := none
  clientKeyPassword : Option CString := none
deriving DecidableEq, Repr

/-- `SocketTLSClientConfiguration`, less the callback for diagnostic messages. -/
structure SocketTLSClientConfiguration where
  tlsVersions : Nat := 0
  tls12CipherSuites : Nat := 0
  tls13CipherSuites : Nat := 0
  verifyServer : Bool := false
  verifyHostname : Bool := false
  useClientCertificate : Bool := false
  serverTrustStorePath : CString := []
  clientCertFilePath : CString := []
  clientKeyFilePath : CString := []
  clientKeyPassword : CString := []
deriving DecidableEq, Repr

namespace SocketTLSClientConfiguration

/-- `snprintf` into a field of 256 bytes; a null pointer leaves the field empty. -/
def pathField (path : Option CString) : CString := (path.getD []).take 255

def make (a : TlsClientArguments) : SocketTLSClientConfiguration where
  tlsVersions := Bitmap.ofFlags SocketTLSVersion.flag a.supportVersions
  tls12CipherSuites := Bitmap.ofFlags SocketTLS1_2CipherSuite.flag a.tls12CipherSuites
  tls13CipherSuites := Bitmap.ofFlags SocketTLS1_3CipherSuite.flag a.tls13CipherSuites
  verifyServer := a.verifyServer
  verifyHostname := a.verifyHostname
  useClientCertificate := a.useClientCertificate
  serverTrustStorePath := pathField a.serverTrustStorePath
  clientCertFilePath := pathField a.clientCertFilePath
  clientKeyFilePath := pathField a.clientKeyFilePath
  clientKeyPassword := pathField a.clientKeyPassword

variable (c : SocketTLSClientConfiguration)

def valid : Bool := c.tlsVersions != 0

def isVersionSupported (version : SocketTLSVersion) : Bool := c.tlsVersions &&& version.flag != 0

def generateTLS12CipherSuites : CString := generateTLS12CipherSuiteImpl c.tls12CipherSuites

def generateTLS13CipherSuites : CString := generateTLS13CipherSuiteImpl c.tls13CipherSuites

variable (a : TlsClientArguments)

/-! What is read back is what was given. -/

theorem isVersionSupported_make (version : SocketTLSVersion) :
    (make a).isVersionSupported version = true ↔ version ∈ a.supportVersions := by
  rw [isVersionSupported, bne_iff_ne]
  exact Bitmap.ofFlags_and_ne_zero SocketTLSVersion.index_injective a.supportVersions version

theorem valid_make : (make a).valid = true ↔ a.supportVersions ≠ [] := by
  rw [valid, bne_iff_ne]
  constructor
  · rintro hvalid hnil
    apply hvalid
    show Bitmap.ofFlags SocketTLSVersion.flag a.supportVersions = 0
    rw [hnil]
    rfl
  · intro hne hzero
    obtain ⟨version, hversion⟩ := List.exists_mem_of_ne_nil _ hne
    have hset := (isVersionSupported_make a version).mpr hversion
    rw [isVersionSupported, hzero, Nat.zero_and] at hset
    cases hset

theorem mem_cipherNames_tls12 {n : CString} :
    n ∈ cipherNames (make a).generateTLS12CipherSuites ↔ ∃ s ∈ a.tls12CipherSuites, s.name = n :=
  mem_cipherNames SocketTLS1_2CipherSuite.index_injective SocketTLS1_2CipherSuite.mem_all
    SocketTLS1_2CipherSuite.name_proper

theorem mem_cipherNames_tls13 {n : CString} :
    n ∈ cipherNames (make a).generateTLS13CipherSuites ↔ ∃ s ∈ a.tls13CipherSuites, s.name = n :=
  mem_cipherNames SocketTLS1_3CipherSuite.index_injective SocketTLS1_3CipherSuite.mem_all
    SocketTLS1_3CipherSuite.name_proper

theorem generateTLS12CipherSuites_eq_nil :
    (make a).generateTLS12CipherSuites = [] ↔ a.tls12CipherSuites = [] :=
  generateCipherSuites_eq_nil SocketTLS1_2CipherSuite.index_injective
    SocketTLS1_2CipherSuite.mem_all fun s => (s.name_proper).1

theorem generateTLS13CipherSuites_eq_nil :
    (make a).generateTLS13CipherSuites = [] ↔ a.tls13CipherSuites = [] :=
  generateCipherSuites_eq_nil SocketTLS1_3CipherSuite.index_injective
    SocketTLS1_3CipherSuite.mem_all fun s => (s.name_proper).1

end SocketTLSClientConfiguration

end SecuritySocket
