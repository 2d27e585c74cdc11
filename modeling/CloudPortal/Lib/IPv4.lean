/-
CloudPortal/Lib/IPv4.lean

Addresses and networks of the internet protocol, version 4, with the texts that the Python
library `ipaddress` reads and writes.

An address is a number below `2 ^ 32`.  Reading is strict about the text of an octet (no
leading zeros, three digits at most), and a network may be given by the length of its prefix,
by a netmask or by a hostmask.  What is written can be read back (`parse_str`,
`parseNetwork_str`), so two addresses with one text are one address.
-/
import Mathlib.Algebra.Order.Ring.Nat
import Mathlib.Data.Fin.Basic

namespace IPv4

/-! ### Addresses -/

/-- An address, as a number. -/
abbrev Address := Fin (2 ^ 32)

instance neZero_addresses : NeZero (2 ^ 32) := ⟨by decide⟩

/-- The number of octets of an address. -/
def ofOctets (a b c d : ℕ) : Address := Fin.ofNat (2 ^ 32) (a * 2 ^ 24 + b * 2 ^ 16 + c * 2 ^ 8 + d)

def octets (address : Address) : List ℕ :=
  [address.val / 2 ^ 24, address.val / 2 ^ 16 % 256, address.val / 2 ^ 8 % 256, address.val % 256]

/-- The number of decimal digits. -/
def digitsValue (text : List Char) : ℕ := text.foldl (fun n c => 10 * n + (c.toNat - '0'.toNat)) 0

/-- `_parse_octet`. -/
def parseOctet (text : List Char) : Option ℕ :=
  if text = [] ∨ ¬text.all Char.isDigit ∨ 3 < text.length then none
  else if text ≠ ['0'] ∧ text.head? = some '0' then none
  else if 255 < digitsValue text then none
  else some (digitsValue text)

/-- The address of a text. -/
def parseChars (text : List Char) : Option Address :=
  match (text.splitOn '.').mapM parseOctet with
  | some [a, b, c, d] => some (ofOctets a b c d)
  | _ => none

/-- `ip_address` of a text, for this version. -/
def parse (text : String) : Option Address := parseChars text.toList

def chars (address : Address) : List Char :=
  ['.'].intercalate ((octets address).map (Nat.toDigits 10))

/-- `str` of an address. -/
def str (address : Address) : String := String.ofList (chars address)

variable {n : ℕ}

theorem parseOctet_toDigits (hn : n < 256) : parseOctet (Nat.toDigits 10 n) = some n := by
  have ha : ∀ n : Fin 256, parseOctet (Nat.toDigits 10 n) = some n.val := by decide +kernel
  exact ha ⟨n, hn⟩

theorem not_mem_toDigits (hn : n < 256) {c : Char} (hc : c.isDigit = false) :
    c ∉ Nat.toDigits 10 n := by
  have ha : ∀ n : Fin 256, (Nat.toDigits 10 n).all Char.isDigit = true := by decide +kernel
  intro hm
  rw [List.all_eq_true.1 (ha ⟨n, hn⟩) c hm] at hc
  cases hc

theorem octets_lt (addr : Address) : ∀ n ∈ octets addr, n < 256 := by
  have hlt := addr.isLt
  intro n hn
  simp only [octets, List.mem_cons, List.not_mem_nil, or_false] at hn
  omega

theorem parseChars_chars (addr : Address) : parseChars (chars addr) = some addr := by
  have hsplit : (chars addr).splitOn '.' = (octets addr).map (Nat.toDigits 10) := by
    refine List.splitOn_intercalate '.' ?_ (by simp [octets])
    intro text ht
    obtain ⟨n, hn, rfl⟩ := List.mem_map.1 ht
    exact not_mem_toDigits (octets_lt addr n hn) rfl
  have hparse (n : ℕ) (hn : n ∈ octets addr) : parseOctet (Nat.toDigits 10 n) = some n :=
    parseOctet_toDigits (octets_lt addr n hn)
  have hlt := addr.isLt
  unfold parseChars
  rw [hsplit]
  simp only [octets, List.map_cons, List.map_nil, List.mapM_cons, List.mapM_nil]
  rw [hparse _ (by simp [octets]), hparse _ (by simp [octets]), hparse _ (by simp [octets]),
    hparse _ (by simp [octets])]
  refine congrArg some (Fin.ext ?_)
  show (_ : ℕ) % 2 ^ 32 = addr.val
  omega

/-- What is written can be read. -/
theorem parse_str (addr : Address) : parse (str addr) = some addr := by
  unfold parse str
  rw [String.toList_ofList, parseChars_chars]

/-! ### Networks -/

/-- A network: its first address and the length of its prefix. -/
structure Network where
  address : Address
  prefixlen : ℕ
  prefixlen_le : prefixlen ≤ 32
  aligned : address.val % 2 ^ (32 - prefixlen) = 0
  deriving DecidableEq

namespace Network

/-- `num_addresses`. -/
def size (network : Network) : ℕ := 2 ^ (32 - network.prefixlen)

theorem size_pos (net : Network) : 0 < net.size := Nat.two_pow_pos _

theorem dvd_address (net : Network) : net.size ∣ net.address.val :=
  Nat.dvd_of_mod_eq_zero net.aligned

theorem address_add_size_le (net : Network) : net.address.val + net.size ≤ 2 ^ 32 := by
  obtain ⟨k, hk⟩ := net.dvd_address
  obtain ⟨m, hm⟩ : net.size ∣ 2 ^ 32 := Nat.pow_dvd_pow 2 (Nat.sub_le 32 _)
  have hlt : net.size * k < net.size * m := by
    rw [← hk, ← hm]
    exact net.address.isLt
  have hle : k + 1 ≤ m := Nat.lt_of_mul_lt_mul_left hlt
  calc net.address.val + net.size = net.size * (k + 1) := by rw [hk, Nat.mul_succ]
    _ ≤ net.size * m := Nat.mul_le_mul_left _ hle
    _ = 2 ^ 32 := hm.symm

/-- `broadcast_address`. -/
def broadcast (network : Network) : Address :=
  ⟨network.address.val + network.size - 1, by
    have hle := network.address_add_size_le
    have hpos := network.size_pos
    omega⟩

/-- `address in network`. -/
def contains (network : Network) (address : Address) : Bool :=
  address.val - address.val % network.size = network.address.val

/-- `subnet_of`. -/
def subnetOf (network other : Network) : Bool :=
  other.address ≤ network.address && network.broadcast ≤ other.broadcast

/-- `overlaps`. -/
def overlaps (network other : Network) : Bool :=
  network.contains other.address || network.contains other.broadcast
    || other.contains network.address || other.contains network.broadcast

/-- The network of an address. -/
def host (address : Address) : Network := ⟨address, 32, le_refl 32, Nat.mod_one _⟩

end Network

/-- The length of the prefix that a netmask or a hostmask stands for. -/
def prefixOfMask (mask : Address) : Option ℕ :=
  ((List.range 33).find? fun n => mask.val + 2 ^ (32 - n) = 2 ^ 32)
    <|> (List.range 33).find? fun n => mask.val + 1 = 2 ^ (32 - n)

/-- `_make_netmask`. -/
def parsePrefix (text : List Char) : Option ℕ :=
  if text ≠ [] ∧ text.all Char.isDigit ∧ digitsValue text ≤ 32 then some (digitsValue text)
  else (parseChars text).bind prefixOfMask

/-- The network of an address; a strict one has no bits of a host. -/
def networkOf (strict : Bool) (address : Address) (prefixlen : ℕ) : Option Network :=
  if hle : prefixlen ≤ 32 then
    if strict ∧ address.val % 2 ^ (32 - prefixlen) ≠ 0 then none
    else some {
      address := ⟨address.val - address.val % 2 ^ (32 - prefixlen),
        Nat.lt_of_le_of_lt (Nat.sub_le _ _) address.isLt⟩
      prefixlen, prefixlen_le := hle
      aligned := Nat.mod_eq_zero_of_dvd (Nat.dvd_sub_mod _) }
  else none

/-- `ip_network` of a text, for this version. -/
def parseNetwork (strict : Bool) (text : String) : Option Network :=
  match text.toList.splitOn '/' with
  | [address] => (parseChars address).bind (networkOf strict · 32)
  | [address, mask] => do networkOf strict (← parseChars address) (← parsePrefix mask)
  | _ => none

/-- `str` of a network. -/
def Network.str (network : Network) : String :=
  String.ofList (['/'].intercalate [chars network.address, Nat.toDigits 10 network.prefixlen])

theorem not_mem_chars (addr : Address) : '/' ∉ chars addr := by
  have hdigits (n : ℕ) (hn : n ∈ octets addr) : '/' ∉ Nat.toDigits 10 n :=
    not_mem_toDigits (octets_lt addr n hn) rfl
  simp only [octets, List.mem_cons, List.not_mem_nil, or_false, forall_eq_or_imp, forall_eq]
    at hdigits
  simpa [chars, octets, List.intercalate] using hdigits

theorem parsePrefix_toDigits (hn : n ≤ 32) : parsePrefix (Nat.toDigits 10 n) = some n := by
  have ha : ∀ n : Fin 33, parsePrefix (Nat.toDigits 10 n) = some n.val := by decide +kernel
  exact ha ⟨n, Nat.lt_succ_of_le hn⟩

theorem networkOf_self (strict : Bool) (net : Network) :
    networkOf strict net.address net.prefixlen = some net := by
  unfold networkOf
  rw [dif_pos net.prefixlen_le, if_neg (by simp [net.aligned])]
  simp [net.aligned]

theorem parseNetwork_str (strict : Bool) (net : Network) :
    parseNetwork strict net.str = some net := by
  have hsplit : net.str.toList.splitOn '/'
      = [chars net.address, Nat.toDigits 10 net.prefixlen] := by
    unfold Network.str
    rw [String.toList_ofList]
    refine List.splitOn_intercalate '/' ?_ (by simp)
    intro text ht
    simp only [List.mem_cons, List.not_mem_nil, or_false] at ht
    rcases ht with rfl | rfl
    · exact not_mem_chars net.address
    · exact not_mem_toDigits (by have := net.prefixlen_le; omega) rfl
  unfold parseNetwork
  rw [hsplit]
  show (parseChars _).bind (fun a => (parsePrefix _).bind fun n => networkOf strict a n) = _
  rw [parseChars_chars, Option.bind_some, parsePrefix_toDigits net.prefixlen_le,
    Option.bind_some, networkOf_self]

end IPv4
