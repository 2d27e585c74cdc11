/-
CloudPortal/Ipam/Integrity.lean

Nobody gets an address twice, and nobody gets an address that is not one of the pool.

`Inv` is what the calls keep: pools and allocations hold canonical texts, the active
allocations of a pool are for distinct addresses that the pool may hand out, and the offset at
which the search goes on is that of a host.  `pool_integrity` reads the statement about
addresses off from it, for every run.

The search for a free address is complete.  `allocate_address` walks over the hosts of the
network in cyclic order, from the next offset of the pool on.  It meets each of them once, so it
finds a free one from wherever it starts, and gives up only if there is none.
-/
import CloudPortal.Ipam.Pool
import CloudPortal.Lib.Fallible
import Mathlib.Data.Nat.ModEq

namespace CloudPortal.Ipam

open RowStore Transition IPv4

/-! ### Addresses that may be handed out -/

/-- The address is one of the hosts of the network, and neither the gateway nor excluded. -/
structure Allocatable (gateway : Option String) (values : List String) (network : Network)
    (address : Address) : Prop where
  inside : network.contains address = true
  notNetwork : address ≠ network.address
  notBroadcast : address ≠ network.broadcast
  notGateway : ∀ text, gateway = some text → parse text ≠ some address
  notExcluded : ∀ raw ∈ values, ∀ item, parseExclusion raw = some item →
    item.contains address = false

/-- The text is one that an address is written as. -/
def Canonical (gateway : Option String) : Prop :=
  ∀ text, gateway = some text → ∃ address, text = IPv4.str address

section Candidates

variable {gateway : Option String} {values : List String} {net : Network} {addr : Address}

theorem isExcluded_eq_false (ho : isExcluded gateway values addr = .ok false) :
    (∀ text, gateway = some text → text = "" ∨ IPv4.str addr ≠ text)
      ∧ ∀ raw ∈ values, ∀ item, parseExclusion raw = some item →
        item.contains addr = false := by
  unfold isExcluded at ho
  split at ho
  · cases ho
  next hgateway =>
  obtain ⟨items, hitems, ho⟩ := bind_eq_ok.1 ho
  refine ⟨?_, fun raw hraw item hi => ?_⟩
  · rintro text rfl
    simp only [Option.any_some, Bool.and_eq_true, decide_eq_true_iff, not_and] at hgateway
    by_cases hempty : text = ""
    · exact .inl hempty
    · exact .inr (hgateway hempty)
  · obtain ⟨item', hm, hi'⟩ := Fallible.ok_of_mem_mapM hitems hraw
    rw [hi] at hi'
    obtain rfl : item = item' := Except.ok.inj hi'
    have hany : items.any (·.contains addr) = false := Except.ok.inj ho
    exact Bool.eq_false_iff.2 (List.any_eq_false.1 hany item hm)

theorem allocatable_of_validCandidate (hc : Canonical gateway)
    (ho : validCandidate gateway values net addr = .ok true) :
    Allocatable gateway values net addr := by
  unfold validCandidate at ho
  split at ho
  · next husable =>
    obtain ⟨isExcluded, hexcluded, ho⟩ := bind_eq_ok.1 ho
    obtain rfl : isExcluded = false := by
      have hnot : (!isExcluded) = true := Except.ok.inj ho
      simpa using hnot
    obtain ⟨hgateway, hexclusions⟩ := isExcluded_eq_false hexcluded
    simp only [usable, Bool.and_eq_true, decide_eq_true_iff] at husable
    refine ⟨husable.1.1, husable.1.2, husable.2, fun text ht hparse => ?_, hexclusions⟩
    obtain ⟨other, rfl⟩ := hc text ht
    rw [parse_str] at hparse
    obtain rfl := Option.some.inj hparse
    rcases hgateway _ ht with hempty | hne
    · have hn := parse_str other
      rw [hempty] at hn
      cases hn
    · exact hne rfl
  · cases ho

end Candidates

/-! ### The search -/

section Search

variable {db : Database} {pid : ℕ} {pool : IPPool} {net : Network}

theorem searchFrom_spec {used : List Address} {start offset : ℕ} {indices : List ℕ}
    {addr : Address} (hhosts : 0 < net.size - 2)
    (ho : searchFrom pool net used start indices = .ok (some (addr, offset))) :
    validCandidate pool.gateway pool.excludedAddresses net addr = .ok true
      ∧ addr ∉ used ∧ offset ≤ net.size - 2 := by
  induction indices with
  | nil => cases ho
  | cons index indices ih =>
    unfold searchFrom at ho
    simp only at ho
    obtain ⟨valid, hv, ho⟩ := bind_eq_ok.1 ho
    split at ho
    · next hf =>
      cases ho
      simp only [Bool.and_eq_true, decide_eq_true_iff] at hf
      obtain ⟨rfl, hunused⟩ := hf
      exact ⟨hv, hunused, Nat.mod_lt _ hhosts⟩
    · exact ih ho

/-- The chosen address can be handed out and is not taken; the next offset is that of a host. -/
theorem chooseAddress_spec {preferred : Option String} {addr : Address} {nextOffset : ℕ}
    (hhosts : 0 < net.size - 2)
    (ho : chooseAddress db pid pool net preferred = .ok (addr, nextOffset)) :
    validCandidate pool.gateway pool.excludedAddresses net addr = .ok true
      ∧ (∀ entry ∈ db.active pid, entry.2.address ≠ IPv4.str addr)
      ∧ (nextOffset = pool.nextOffset ∨ 1 ≤ nextOffset ∧ nextOffset ≤ net.size - 2) := by
  cases preferred with
  | some preferred =>
    unfold chooseAddress at ho
    simp only at ho
    split at ho
    · cases ho
    next candidate _ =>
    obtain ⟨valid, hv, ho⟩ := bind_eq_ok.1 ho
    split at ho
    · cases ho
    next hyes =>
    split at ho
    · cases ho
    next hf =>
    cases ho
    simp only [Bool.not_eq_true', Bool.not_eq_false] at hyes
    subst hyes
    refine ⟨hv, fun entry hentry he => hf ?_, .inl rfl⟩
    exact List.any_eq_true.2 ⟨entry, hentry, decide_eq_true he⟩
  | none =>
    unfold chooseAddress at ho
    obtain ⟨used, hused, ho⟩ := bind_eq_ok.1 ho
    obtain ⟨found, hfound, ho⟩ := bind_eq_ok.1 ho
    cases found with
    | none => cases ho
    | some found =>
      obtain ⟨candidate, offset⟩ := found
      cases ho
      obtain ⟨hv, hunused, hle⟩ := searchFrom_spec hhosts hfound
      refine ⟨hv, fun entry hentry he => hunused ?_, .inr ⟨Nat.succ_pos _, ?_⟩⟩
      · obtain ⟨other, hm, hother⟩ := Fallible.ok_of_mem_mapM hused hentry
        simp only [storedAddress, he, parse_str] at hother
        obtain rfl := Except.ok.inj hother
        exact hm
      · exact Nat.mod_lt _ hhosts

end Search

/-! ### The invariant -/

/-- A pool as the calls write it. -/
structure Stored (pool : IPPool) (network : Network) : Prop where
  cidr : pool.cidr = network.str
  prefixlen : network.prefixlen ≤ 30
  gateway : Canonical pool.gateway
  offset : 1 ≤ pool.nextOffset ∧ pool.nextOffset ≤ network.size - 2

/-- What holds of a pool and its allocations. -/
structure Kept (db : Database) (poolId : ℕ) (pool : IPPool) (network : Network) : Prop where
  stored : Stored pool network
  allocatable : ∀ id row, db.allocations.find? id = some row → row.poolId = poolId →
    row.isActive = true → ∃ address, row.address = IPv4.str address
      ∧ Allocatable pool.gateway pool.excludedAddresses network address
  distinct : ∀ id id' row row', id ≠ id' → db.allocations.find? id = some row →
    db.allocations.find? id' = some row' → row.poolId = poolId → row'.poolId = poolId →
      row.isActive = true → row'.isActive = true → row.address ≠ row'.address

structure Inv (db : Database) : Prop where
  pools : ∀ poolId pool, db.pools.find? poolId = some pool → ∃ network, Kept db poolId pool network
  owned : ∀ id row, db.allocations.find? id = some row →
    ∃ pool, db.pools.find? row.poolId = some pool

/-- Distinct addresses of the pool, and an offset of one of its hosts. -/
structure Integrity (db : Database) (poolId : ℕ) (pool : IPPool) (network : Network) : Prop where
  distinct : ∀ id id' row row', id ≠ id' → db.allocations.find? id = some row →
    db.allocations.find? id' = some row' → row.poolId = poolId → row'.poolId = poolId →
      row.isActive = true → row'.isActive = true → parse row.address ≠ parse row'.address
  allocatable : ∀ id row, db.allocations.find? id = some row → row.poolId = poolId →
    row.isActive = true → ∃ address, parse row.address = some address
      ∧ Allocatable pool.gateway pool.excludedAddresses network address
  offset : 1 ≤ pool.nextOffset ∧ pool.nextOffset ≤ network.size - 2

theorem Kept.integrity {db : Database} {pid : ℕ} {pool : IPPool} {net : Network}
    (hk : Kept db pid pool net) : Integrity db pid pool net where
  distinct := by
    intro id id' row row' hn hf hf' hp hp' ha ha' he
    obtain ⟨addr, hadd, -⟩ := hk.allocatable id row hf hp ha
    obtain ⟨addr', hadd', -⟩ := hk.allocatable id' row' hf' hp' ha'
    rw [hadd, hadd', parse_str, parse_str] at he
    refine hk.distinct id id' row row' hn hf hf' hp hp' ha ha' ?_
    rw [hadd, hadd', Option.some.inj he]
  allocatable := by
    intro id row hf hp ha
    obtain ⟨addr, hadd, hall⟩ := hk.allocatable id row hf hp ha
    exact ⟨addr, by rw [hadd, parse_str], hall⟩
  offset := hk.stored.offset

variable {row : IPAllocation} {data : IPPoolInput} {id : ℕ}

section Steps

variable {db db' : Database} {nw : Network} {pid : ℕ}

theorem hosts_pos (hle : nw.prefixlen ≤ 30) : 2 ≤ nw.size - 2 := by
  have hpow : 2 ^ 2 ≤ 2 ^ (32 - nw.prefixlen) := Nat.pow_le_pow_right (by decide) (by omega)
  show 2 ≤ 2 ^ (32 - nw.prefixlen) - 2
  omega

/-- What the validators let pass, in canonical texts. -/
theorem validate_spec {valid : IPPoolInput} (ho : validate data = .ok valid) :
    ∃ nw : Network, valid.cidr = nw.str ∧ nw.prefixlen ≤ 30
      ∧ Canonical valid.gateway
      ∧ ∃ exclusions : List Network, valid.excludedAddresses = exclusions.map Network.str := by
  simp only [validate, bind_eq_ok] at ho
  obtain ⟨nw, hnet, gateway, -, exclusions, -, ⟨⟩, -, ho⟩ := ho
  cases ho
  refine ⟨nw, rfl, ?_, fun text ht => ?_, exclusions, rfl⟩
  · unfold validCidr at hnet
    split at hnet
    · cases hnet
    split at hnet
    · cases hnet
    cases hnet
    omega
  · obtain ⟨addr, -, rfl⟩ := Option.map_eq_some_iff.1 ht
    exact ⟨addr, rfl⟩

theorem mem_active :
    (id, row) ∈ db.active pid ↔ db.allocations.find? id = some row ∧ row.poolId = pid
      ∧ row.isActive = true := by
  unfold Database.active
  rw [Table.mem_select, Bool.and_eq_true, decide_eq_true_iff]

/-- A write leaves the other pools where they are. -/
theorem exists_find?_put {pools : Table ℕ IPPool} (pool : IPPool)
    (ho : ∃ old, pools.find? pid = some old) :
    ∃ new, (pools.put id pool).find? pid = some new := by
  obtain ⟨old, ho⟩ := ho
  by_cases he : pid = id
  · exact ⟨pool, Table.find?_put_eq_some.2 (.inl ⟨he, rfl⟩)⟩
  · exact ⟨old, Table.find?_put_eq_some.2 (.inr ⟨he, ho⟩)⟩

theorem Inv.createPool (hinv : Inv db) (ho : Ipam.createPool db data = .ok db') : Inv db' := by
  unfold Ipam.createPool at ho
  obtain ⟨valid, hv, ho⟩ := bind_eq_ok.1 ho
  obtain ⟨⟨⟩, -, ho⟩ := bind_eq_ok.1 ho
  cases ho
  -- no allocation is of a pool that did not exist
  have hn (id : ℕ) (row : IPAllocation) (hf : db.allocations.find? id = some row) :
      row.poolId ≠ db.pools.fresh := by
    intro he
    obtain ⟨pool, hp⟩ := hinv.owned id row hf
    rw [he, Table.find?_fresh] at hp
    cases hp
  refine ⟨fun pid pool hp => ?_, fun id row hf => ?_⟩
  · rcases Table.find?_put_eq_some.1 hp with ⟨rfl, rfl⟩ | ⟨-, hp⟩
    · obtain ⟨nw, hcidr, hprefix, hgateway, -⟩ := validate_spec hv
      refine ⟨nw, ⟨hcidr, hprefix, hgateway, le_refl 1, ?_⟩, ?_, ?_⟩
      · exact le_trans (by decide : 1 ≤ 2) (hosts_pos hprefix)
      · intro id row hf hp
        exact absurd hp (hn id row hf)
      · intro id id' row row' _ hf _ hp
        exact absurd hp (hn id row hf)
    · obtain ⟨nw, hk⟩ := hinv.pools pid pool hp
      exact ⟨nw, hk.stored, hk.allocatable, hk.distinct⟩
  · exact exists_find?_put _ (hinv.owned id row hf)

theorem changeCidr_spec {row upd : IPPool} (ho : changeCidr db id row data = .ok upd) :
    upd = row ∧ row.cidr = data.cidr ∨ upd = { row with nextOffset := 1 } := by
  unfold changeCidr at ho
  split at ho
  · split at ho
    · cases ho
    obtain ⟨⟨⟩, -, ho⟩ := bind_eq_ok.1 ho
    cases ho
    exact .inr rfl
  · next hs =>
    cases ho
    exact .inl ⟨rfl, not_not.1 hs⟩

theorem fits_of_ensure (hcidr : data.cidr = nw.str)
    (ho : ensureActiveAllocationsFit db pid data = .ok ())
    (hr : (id, row) ∈ db.active pid) : fits data nw row = .ok true := by
  unfold ensureActiveAllocationsFit at ho
  rw [hcidr, parseNetwork_str] at ho
  have hround := Fallible.ok_of_mem_forM ho hr
  obtain ⟨fit, hfit, hround⟩ := bind_eq_ok.1 hround
  cases fit with
  | true => exact hfit
  | false => cases hround

theorem Inv.updatePool (hinv : Inv db) (ho : Ipam.updatePool db id data = .ok db') : Inv db' := by
  unfold Ipam.updatePool at ho
  obtain ⟨valid, hv, ho⟩ := bind_eq_ok.1 ho
  split at ho
  · cases ho
  next row hr =>
  obtain ⟨upd, hupdated, ho⟩ := bind_eq_ok.1 ho
  obtain ⟨⟨⟩, hfit, ho⟩ := bind_eq_ok.1 ho
  cases ho
  refine ⟨fun pid pool hp => ?_, fun allocationId alloc hf => ?_⟩
  · rcases Table.find?_put_eq_some.1 hp with ⟨rfl, rfl⟩ | ⟨-, hp⟩
    · obtain ⟨nw, hcidr, hprefix, hgateway, -⟩ := validate_spec hv
      obtain ⟨old, hk⟩ := hinv.pools pid row hr
      refine ⟨nw, ⟨hcidr, hprefix, hgateway, ?_⟩, ?_, hk.distinct⟩
      · -- the network is the same, or the search starts again
        rcases changeCidr_spec hupdated with ⟨rfl, hs⟩ | rfl
        · have hnet : parseNetwork true old.str = parseNetwork true nw.str := by
            rw [← hk.stored.cidr, hs, hcidr]
          rw [parseNetwork_str, parseNetwork_str] at hnet
          obtain rfl := Option.some.inj hnet
          exact hk.stored.offset
        · exact ⟨le_refl 1, le_trans (by decide : 1 ≤ 2) (hosts_pos hprefix)⟩
      intro allocationId alloc hf hp ha
      obtain ⟨addr, hadd, -⟩ := hk.allocatable allocationId alloc hf hp
        ha
      have hfits := fits_of_ensure hcidr hfit (mem_active.2 ⟨hf, hp, ha⟩)
      have hstored : storedAddress alloc = .ok addr := by simp only [storedAddress, hadd, parse_str]
      obtain ⟨addr', hadd', hv⟩ := bind_eq_ok.1 hfits
      obtain rfl := Except.ok.inj (hstored.symm.trans hadd')
      exact ⟨addr, hadd, allocatable_of_validCandidate hgateway hv⟩
    · obtain ⟨nw, hk⟩ := hinv.pools pid pool hp
      exact ⟨nw, hk.stored, hk.allocatable, hk.distinct⟩
  · exact exists_find?_put _ (hinv.owned allocationId alloc hf)

theorem Inv.deletePool (hinv : Inv db) (ho : Ipam.deletePool db id = .ok db') : Inv db' := by
  unfold Ipam.deletePool at ho
  split at ho
  · cases ho
  split at ho
  · cases ho
  next hunused =>
  cases ho
  have hn (allocationId : ℕ) (row : IPAllocation)
      (hf : db.allocations.find? allocationId = some row) : row.poolId ≠ id := by
    intro he
    exact hunused (List.any_eq_true.2 ⟨_, Table.mem_rows.2 hf, decide_eq_true he⟩)
  refine ⟨fun pid pool hp => ?_, fun allocationId row hf => ?_⟩
  · have hp : (db.pools.erase id).find? pid = some pool := hp
    rw [Table.find?_erase] at hp
    split at hp
    · cases hp
    obtain ⟨nw, hk⟩ := hinv.pools pid pool hp
    exact ⟨nw, hk.stored, hk.allocatable, hk.distinct⟩
  · obtain ⟨pool, hp⟩ := hinv.owned allocationId row hf
    exact ⟨pool, (Table.find?_erase_of_ne _ (hn allocationId row hf)).trans hp⟩

/-- A pool hands out an address that is free. -/
theorem Kept.add {nextOffset : ℕ} {pool : IPPool} (hk : Kept db pid pool nw)
    (hoffset : 1 ≤ nextOffset ∧ nextOffset ≤ nw.size - 2) {addr : Address}
    (hadd : row.address = IPv4.str addr)
    (hall : Allocatable pool.gateway pool.excludedAddresses nw addr)
    (hfree : ∀ entry ∈ db.active pid, entry.2.address ≠ IPv4.str addr)
    (pools : Table ℕ IPPool) :
    Kept ⟨pools, db.allocations.put db.allocations.fresh row⟩ pid { pool with nextOffset }
      nw where
  stored := ⟨hk.stored.cidr, hk.stored.prefixlen, hk.stored.gateway, hoffset⟩
  allocatable := by
    intro id other hf hpoolId ha
    rcases Table.find?_put_eq_some.1 hf with ⟨-, rfl⟩ | ⟨-, hf⟩
    · exact ⟨addr, hadd, hall⟩
    · exact hk.allocatable id other hf hpoolId ha
  distinct := by
    intro id id' row₁ row₂ hn hf hf' hpoolId hpoolId' ha ha'
    rcases Table.find?_put_eq_some.1 hf with ⟨rfl, rfl⟩ | ⟨-, hf⟩
    · rcases Table.find?_put_eq_some.1 hf' with ⟨rfl, -⟩ | ⟨-, hf'⟩
      · exact absurd rfl hn
      rw [hadd]
      exact (hfree _ (mem_active.2 ⟨hf', hpoolId', ha'⟩)).symm
    · rcases Table.find?_put_eq_some.1 hf' with ⟨rfl, rfl⟩ | ⟨-, hf'⟩
      · rw [hadd]
        exact hfree _ (mem_active.2 ⟨hf, hpoolId, ha⟩)
      · exact hk.distinct id id' row₁ row₂ hn hf hf' hpoolId hpoolId' ha ha'

/-- Allocations that come from ones before need no new look. -/
theorem Kept.of_rows {pool : IPPool} (hk : Kept db pid pool nw)
    (ho : ∀ id row, db'.allocations.find? id = some row → row.poolId = pid →
      row.isActive = true → ∃ old, db.allocations.find? id = some old ∧ old.poolId = pid
        ∧ row.address = old.address ∧ old.isActive = true) : Kept db' pid pool nw where
  stored := hk.stored
  allocatable := by
    intro id row hf hp ha
    obtain ⟨old, hf, hp, hadd, ha⟩ := ho id row hf hp ha
    rw [hadd]
    exact hk.allocatable id old hf hp ha
  distinct := by
    intro id id' row row' hn hf hf' hp hp' ha ha'
    obtain ⟨old, hf, hp, hadd, ha⟩ := ho id row hf hp ha
    obtain ⟨old', hf', hp', hadd', ha'⟩ := ho id' row' hf' hp' ha'
    rw [hadd, hadd']
    exact hk.distinct id id' old old' hn hf hf' hp hp' ha ha'

/-- The other pools do not notice. -/
theorem Kept.other {pool : IPPool} (hk : Kept db pid pool nw) (hn : row.poolId ≠ pid)
    (pools : Table ℕ IPPool) : Kept ⟨pools, db.allocations.put id row⟩ pid pool nw := by
  refine hk.of_rows fun id' row' hf hpoolId ha => ?_
  rcases Table.find?_put_eq_some.1 hf with ⟨-, rfl⟩ | ⟨-, hf⟩
  · exact absurd hpoolId hn
  · exact ⟨row', hf, hpoolId, rfl, ha⟩

section

variable (hinv : Inv db) {hostname : Option String}
include hinv

theorem Inv.allocateAddress {preferred : Option String}
    (ho : Ipam.allocateAddress db pid preferred hostname = .ok db') : Inv db' := by
  unfold Ipam.allocateAddress at ho
  split at ho
  · cases ho
  next pool hp =>
  obtain ⟨hp, -⟩ := Option.filter_eq_some_iff.1 hp
  obtain ⟨nw, hk⟩ := hinv.pools pid pool hp
  obtain ⟨nw', hnet, ho⟩ := bind_eq_ok.1 ho
  obtain rfl : nw = nw' := by
    rw [networkFor, hk.stored.cidr, parseNetwork_str] at hnet
    exact Except.ok.inj hnet
  simp only at ho
  split at ho
  · cases ho
  obtain ⟨⟨address, nextOffset⟩, hchoose, ho⟩ := bind_eq_ok.1 ho
  cases ho
  have hhosts := hosts_pos hk.stored.prefixlen
  obtain ⟨hv, hfree, hoffset⟩ := chooseAddress_spec (by omega) hchoose
  have ha := allocatable_of_validCandidate hk.stored.gateway hv
  have hoffset' : 1 ≤ nextOffset ∧ nextOffset ≤ nw.size - 2 := by
    rcases hoffset with rfl | hoffset
    · exact hk.stored.offset
    · exact hoffset
  refine ⟨fun otherId other hother => ?_, fun id row hf => ?_⟩
  · rcases Table.find?_put_eq_some.1 hother with ⟨rfl, rfl⟩ | ⟨hn, hother⟩
    · exact ⟨nw, hk.add hoffset' rfl ha hfree _⟩
    obtain ⟨otherNetwork, hothe⟩ := hinv.pools otherId other hother
    exact ⟨otherNetwork, hothe.other hn.symm _⟩
  · rcases Table.find?_put_eq_some.1 hf with ⟨-, rfl⟩ | ⟨-, hf⟩
    · exact ⟨_, Table.find?_put_self _ _ _⟩
    · exact exists_find?_put _ (hinv.owned id row hf)

/-- An allocation keeps its pool and its address, and is not taken up again. -/
theorem Inv.put {upd : IPAllocation} (hr : db.allocations.find? id = some row)
    (hp : upd.poolId = row.poolId) (hadd : upd.address = row.address)
    (ha : upd.isActive = true → row.isActive = true) :
    Inv { db with allocations := db.allocations.put id upd } := by
  refine ⟨fun pid pool hf => ?_, fun id' row' hf => ?_⟩
  · obtain ⟨nw, hk⟩ := hinv.pools pid pool hf
    refine ⟨nw, hk.of_rows fun id' row' hf hpool ha' => ?_⟩
    rcases Table.find?_put_eq_some.1 hf with ⟨rfl, rfl⟩ | ⟨-, hf⟩
    · exact ⟨row, hr, hp.symm.trans hpool, hadd, ha ha'⟩
    · exact ⟨row', hf, hpool, rfl, ha'⟩
  · rcases Table.find?_put_eq_some.1 hf with ⟨rfl, rfl⟩ | ⟨-, hf⟩
    · rw [hp]
      exact hinv.owned id' row hr
    · exact hinv.owned id' row' hf

theorem Inv.assign {resourceId : String}
    (ho : Ipam.assign db id resourceId hostname = .ok db') : Inv db' := by
  unfold Ipam.assign at ho
  split at ho
  · cases ho
  next row hr =>
  split at ho
  · cases ho
  next hres =>
  cases ho
  refine hinv.put hr rfl rfl fun _ => ?_
  simp [IPAllocation.isActive, not_not.1 hres]

theorem Inv.release {now : ℤ} (ho : Ipam.release db id now = .ok db') : Inv db' := by
  unfold Ipam.release at ho
  split at ho
  · cases ho
  next row hr =>
  split at ho
  · cases ho
  cases ho
  exact hinv.put hr rfl rfl nofun

theorem Inv.cleanupReleased (cutoff : ℤ) :
    Inv (Ipam.cleanupReleased db cutoff) where
  pools := by
    intro pid pool hp
    obtain ⟨nw, hk⟩ := hinv.pools pid pool hp
    exact ⟨nw, hk.of_rows fun id row hf hp ha =>
      ⟨row, (Table.find?_discard.1 hf).1, hp, rfl, ha⟩⟩
  owned := fun id row hf => hinv.owned id row (Table.find?_discard.1 hf).1

theorem Inv.perform {call : Call} (ho : Ipam.perform db call = .ok db') : Inv db' := by
  cases call with
  | createPool data => exact hinv.createPool ho
  | updatePool id data => exact hinv.updatePool ho
  | deletePool id => exact hinv.deletePool ho
  | allocate pid preferred hostname => exact hinv.allocateAddress ho
  | assign id resourceId hostname => exact hinv.assign ho
  | release id now => exact hinv.release ho
  | cleanup cutoff =>
    cases ho
    exact hinv.cleanupReleased cutoff

end

end Steps

/-- After every run from empty tables every pool has its addresses in order. -/
theorem pool_integrity (calls : List Call) (poolId : ℕ) (pool : IPPool)
    (hpool : (run (attempt perform) {} calls).pools.find? poolId = some pool) :
    ∃ network, parseNetwork true pool.cidr = some network
      ∧ Integrity (run (attempt perform) {} calls) poolId pool network := by
  have hinv : Inv (run (attempt perform) {} calls) := by
    refine run_invariant (fun db call hinv => attempt_invariant hinv fun db' ho =>
      hinv.perform ho) ⟨?_, ?_⟩ calls
    · intro poolId pool hpool
      cases hpool
    · intro id row hf
      cases hf
  obtain ⟨network, hk⟩ := hinv.pools poolId pool hpool
  exact ⟨network, by rw [hk.stored.cidr, parseNetwork_str], hk.integrity⟩

/-- The one address of a small pool beside its gateway is handed out once. -/
def smallPoolCalls : List Call := [
  .createPool { name := "lab", cidr := "10.0.0.0/30", gateway := some "10.0.0.1" },
  .allocate 1 none none,
  .allocate 1 (some "10.0.0.2") none,
  .assign 1 "vm-1" none,
  .updatePool 1 { name := "lab", cidr := "10.0.0.0/30", gateway := some "10.0.0.2" }]

theorem pool_integrity_smallPool :
    (run (attempt perform) {} smallPoolCalls).allocations.rows.map (·.2.address) = ["10.0.0.2"]
      ∧ ∃ pool, (run (attempt perform) {} smallPoolCalls).pools.find? 1 = some pool
        ∧ ∃ network, parseNetwork true pool.cidr = some network
          ∧ Integrity (run (attempt perform) {} smallPoolCalls) 1 pool network := by
  have hs : ((run (attempt perform) {} smallPoolCalls).pools.find? 1).isSome = true := by
    decide +kernel
  obtain ⟨pool, hp⟩ := Option.isSome_iff_exists.1 hs
  exact ⟨by decide +kernel, pool, hp, pool_integrity smallPoolCalls 1 pool hp⟩

/-- The offset that the search looks at in its round `i`. -/
def offsetAt (network : Network) (nextOffset i : ℕ) : ℕ :=
  (max 1 nextOffset - 1 + i) % (network.size - 2) + 1

/-- The host at this offset. -/
def hostAt (network : Network) (nextOffset i : ℕ) : Address :=
  offsetAddress network (offsetAt network nextOffset i)

/-- The address is excluded or the gateway, as `is_excluded` says, or actively allocated. -/
def Taken (db : Database) (poolId : ℕ) (pool : IPPool) (address : Address) : Prop :=
  isExcluded pool.gateway pool.excludedAddresses address = .ok true
    ∨ ∃ entry ∈ db.active poolId, entry.2.address = IPv4.str address

/-- The tables after the host of round `i` was handed out. -/
def Database.handOut (db : Database) (poolId : ℕ) (pool : IPPool) (network : Network)
    (hostname : Option String) (i : ℕ) : Database where
  pools := db.pools.put poolId { pool with
    nextOffset := offsetAt network pool.nextOffset i % (network.size - 2) + 1 }
  allocations := db.allocations.put db.allocations.fresh {
    poolId, address := IPv4.str (hostAt network pool.nextOffset i)
    prefixLength := network.prefixlen, gateway := pool.gateway, hostname }

/-! ### The hosts in cyclic order -/

section Hosts

variable {net : Network} {off i j offset : ℕ} {addr : Address}

theorem offsetAddress_val (hlt : offset < net.size) :
    (offsetAddress net offset).val = net.address.val + offset := by
  have hle := net.address_add_size_le
  exact Nat.mod_eq_of_lt (by omega)

theorem usable_iff : usable net addr
    ↔ ∃ offset, 1 ≤ offset ∧ offset ≤ net.size - 2 ∧ offsetAddress net offset = addr := by
  have hpos := net.size_pos
  have hle := net.address_add_size_le
  obtain ⟨k, hk⟩ := net.dvd_address
  simp only [usable, Network.contains, Network.broadcast, Bool.and_eq_true, decide_eq_true_eq,
    ne_eq, Fin.ext_iff (a := addr)]
  constructor
  · rintro ⟨⟨hinside, hf⟩, hl⟩
    have hlt := Nat.mod_lt addr.val hpos
    have hs := Nat.mod_le addr.val net.size
    refine ⟨addr.val % net.size, by omega, by omega, Fin.ext ?_⟩
    rw [offsetAddress_val hlt]
    omega
  · rintro ⟨offset, hmin, hmax, rfl⟩
    rw [offsetAddress_val (by omega), hk, Nat.mul_add_mod, Nat.mod_eq_of_lt (by omega)]
    omega

variable (hhosts : 0 < net.size - 2)
include hhosts

theorem hostAt_usable : usable net (hostAt net off i) :=
  usable_iff.2 ⟨_, Nat.succ_pos _, Nat.mod_lt _ hhosts, rfl⟩

/-- No host is met twice. -/
theorem hostAt_inj (hi : i < net.size - 2) (hj : j < net.size - 2)
    (he : hostAt net off i = hostAt net off j) : i = j := by
  have hlt (i : ℕ) : offsetAt net off i < net.size := by
    have hmod := Nat.mod_lt (max 1 off - 1 + i) hhosts
    unfold offsetAt
    omega
  have hv := congrArg Fin.val he
  simp only [hostAt, offsetAddress_val (hlt _)] at hv
  have hmod : Nat.ModEq (net.size - 2) (max 1 off - 1 + i) (max 1 off - 1 + j) := by
    unfold offsetAt at hv
    show _ % _ = _ % _
    omega
  exact (hmod.add_left_cancel' _).eq_of_lt_of_lt hi hj

/-- Every host is met. -/
theorem exists_hostAt (off : ℕ) (husable : usable net addr) :
    ∃ i < net.size - 2, hostAt net off i = addr := by
  obtain ⟨offset, hmin, hmax, rfl⟩ := usable_iff.1 husable
  unfold hostAt offsetAt
  generalize net.size - 2 = size, max 1 off - 1 = start at hhosts hmax ⊢
  have hlt := Nat.mod_lt start hhosts
  have hdiv := Nat.div_add_mod start size
  refine ⟨(offset - 1 + (size - start % size)) % size, Nat.mod_lt _ hhosts, ?_⟩
  have hround : (start + (offset - 1 + (size - start % size)) % size) % size = offset - 1 := by
    rw [Nat.add_mod_mod]
    calc (start + (offset - 1 + (size - start % size))) % size
        = (size * (start / size + 1) + (offset - 1)) % size := by
          rw [Nat.mul_succ]
          exact congrArg (· % size) (by omega)
      _ = offset - 1 := by rw [Nat.mul_add_mod, Nat.mod_eq_of_lt (by omega)]
  rw [hround, Nat.sub_add_cancel hmin]

end Hosts

/-! ### The search -/

section Search

variable {db : Database} {pid off : ℕ} {pool : IPPool} {net : Network}
  {exclusions : List Network} {used : List Address}

/-- The exclusions that the validators keep can be read. -/
theorem isExcluded_ok (gateway : Option String) (exclusions : List Network) (addr : Address) :
    ∃ answer, isExcluded gateway (exclusions.map Network.str) addr = .ok answer := by
  obtain ⟨items, hitems⟩ : ∃ items, excluded (exclusions.map Network.str) = .ok items := by
    refine Fallible.exists_mapM fun raw hraw => ?_
    obtain ⟨item, -, rfl⟩ := List.mem_map.1 hraw
    rw [parseExclusion, parseNetwork_str]
    exact ⟨item, rfl⟩
  rw [isExcluded, hitems]
  split
  · exact ⟨true, rfl⟩
  · exact ⟨_, rfl⟩

open Classical in
/-- The search takes the first round in which the host is not taken. -/
theorem searchFrom_eq (hp : pool.excludedAddresses = exclusions.map Network.str)
    (hused : ∀ addr, addr ∈ used ↔ ∃ ent ∈ db.active pid, ent.2.address = IPv4.str addr)
    (hhosts : 0 < net.size - 2) (indices : List ℕ) :
    searchFrom pool net used (max 1 off) indices
      = .ok ((indices.find? fun i => ¬Taken db pid pool (hostAt net off i)).map fun i =>
        (hostAt net off i, offsetAt net off i)) := by
  induction indices with
  | nil => rfl
  | cons i indices ih =>
    obtain ⟨answer, hanswer⟩ := isExcluded_ok pool.gateway exclusions (hostAt net off i)
    rw [← hp] at hanswer
    have hvalid : validCandidate pool.gateway pool.excludedAddresses net
        (hostAt net off i) = .ok !answer := by
      rw [validCandidate, if_pos (hostAt_usable hhosts), hanswer]
      rfl
    have htaken : (!answer && hostAt net off i ∉ used) = true
        ↔ ¬Taken db pid pool (hostAt net off i) := by
      rw [Taken, ← hused, hanswer]
      simp
    show (validCandidate _ _ _ (hostAt net off i) >>= _) = _
    rw [hvalid, List.find?_cons]
    by_cases hhost : Taken db pid pool (hostAt net off i)
    · rw [show decide (¬Taken db pid pool (hostAt net off i)) = false by simpa using hhost]
      exact (if_neg fun hf => htaken.1 hf hhost).trans ih
    · rw [decide_eq_true hhost]
      exact if_pos (htaken.2 hhost)

/-- The addresses of the active allocations, if they can be read. -/
theorem exists_used (hrows : ∀ ent ∈ db.active pid, ∃ addr, ent.2.address = IPv4.str addr) :
    ∃ used, (db.active pid).mapM (fun ent => storedAddress ent.2) = .ok used
      ∧ ∀ addr, addr ∈ used ↔ ∃ ent ∈ db.active pid, ent.2.address = IPv4.str addr := by
  have hstored (ent : ℕ × IPAllocation) (addr : Address)
      (heq : ent.2.address = IPv4.str addr) : storedAddress ent.2 = .ok addr := by
    rw [storedAddress, heq, parse_str]
  obtain ⟨used, hr⟩ := Fallible.exists_mapM fun ent he =>
    (hrows ent he).imp fun addr => hstored ent addr
  refine ⟨used, hr, fun addr => ⟨fun hm => ?_, fun hentry => ?_⟩⟩
  · obtain ⟨ent, he, hok⟩ := Fallible.mem_of_mapM hr hm
    obtain ⟨own, ho⟩ := hrows ent he
    cases (hstored ent own ho).symm.trans hok
    exact ⟨ent, he, ho⟩
  · obtain ⟨ent, he, heq⟩ := hentry
    obtain ⟨other, hm, hok⟩ := Fallible.ok_of_mem_mapM hr he
    cases (hstored ent addr heq).symm.trans hok
    exact hm

end Search

/-- **The search for an address is complete.**  For every pool whose columns the validators let
pass, with any next offset and any active allocations of addresses, the search meets each host
of the network once; it fails as exhausted if and only if each of them is excluded, the gateway or
actively allocated, and else it takes the first free one in cyclic order, from the next offset
on, and goes on behind it the next time. -/
theorem address_search_complete {db : Database} {poolId : ℕ} {pool : IPPool}
    {data valid : IPPoolInput} (hvalid : validate data = .ok valid)
    (hcolumns : valid.apply pool = pool) (hpool : db.pools.find? poolId = some pool)
    (hactive : pool.isActive = true)
    (hrows : ∀ entry ∈ db.active poolId, ∃ address, entry.2.address = IPv4.str address)
    (hostname : Option String) :
    ∃ network, parseNetwork true pool.cidr = some network
      ∧ Set.BijOn (hostAt network pool.nextOffset) (Set.Iio (network.size - 2))
        {address | usable network address}
      ∧ (allocateAddress db poolId none hostname = .error ⟨409, "IPAM pool is exhausted"⟩
        ↔ ∀ address, usable network address → Taken db poolId pool address)
      ∧ ((¬∀ address, usable network address → Taken db poolId pool address) →
        ∃ i < network.size - 2, ¬Taken db poolId pool (hostAt network pool.nextOffset i)
          ∧ (∀ j < i, Taken db poolId pool (hostAt network pool.nextOffset j))
          ∧ allocateAddress db poolId none hostname
            = .ok (db.handOut poolId pool network hostname i)) := by
  obtain ⟨network, hcidr, hp, -, exclusions, hexclusions⟩ := validate_spec hvalid
  have hhosts : 0 < network.size - 2 := lt_of_lt_of_le two_pos (hosts_pos hp)
  have hnet : parseNetwork true pool.cidr = some network := by
    rw [← hcolumns, ← parseNetwork_str true network, ← hcidr]
    rfl
  rw [← show pool.excludedAddresses = valid.excludedAddresses by rw [← hcolumns]; rfl]
    at hexclusions
  obtain ⟨used, hr, hused⟩ := exists_used hrows
  have hsearch := @searchFrom_eq db poolId pool.nextOffset pool network exclusions used hexclusions
    hused hhosts (List.range (network.size - 2))
  refine ⟨network, hnet, ⟨fun i _ => hostAt_usable hhosts,
    fun i hi j hj => hostAt_inj hhosts hi hj, fun _ => exists_hostAt hhosts _⟩, ?_⟩
  generalize hfound : List.find? _ _ = found at hsearch
  have hallo : allocateAddress db poolId none hostname
      = found.elim (.error ⟨409, "IPAM pool is exhausted"⟩) fun i =>
        .ok (db.handOut poolId pool network hostname i) := by
    rw [allocateAddress, hpool, Option.filter_some, if_pos hactive]
    simp only [networkFor, hnet, chooseAddress, hr, Option.filter_none]
    refine (if_neg (Nat.not_lt.2 hhosts)).trans ?_
    show ((searchFrom _ _ _ _ _ >>= _) >>= _) = _
    rw [hsearch]
    cases found <;> rfl
  rw [hallo]
  cases found with
  | none =>
    have htaken (address : Address) (husable : usable network address) :
        Taken db poolId pool address := by
      obtain ⟨i, hi, rfl⟩ := exists_hostAt hhosts pool.nextOffset husable
      simpa using List.find?_eq_none.1 hfound i (List.mem_range.2 hi)
    exact ⟨iff_of_true rfl htaken, fun hn => absurd htaken hn⟩
  | some i =>
    obtain ⟨hf, hi, hb⟩ := List.find?_range_eq_some.1 hfound
    simp only [decide_eq_true_eq, List.mem_range, Bool.not_eq_true', decide_eq_false_iff_not,
      not_not] at hf hi hb
    exact ⟨iff_of_false (by simp) fun ha => hf (ha _ (hostAt_usable hhosts)),
      fun _ => ⟨i, hi, hf, hb, rfl⟩⟩

/-- Six hosts, of which the first is the gateway. -/
def smallPool : IPPoolInput where
  name := "lab"
  cidr := "10.0.0.0/29"
  gateway := some "10.0.0.1"

/-- The second host is allocated. -/
def allocatedOnce : Database where
  pools := Table.empty.put 1 smallPool.pool
  allocations := Table.empty.put 1
    { poolId := 1, address := "10.0.0.2", prefixLength := 29, gateway := smallPool.gateway }

/-- The search passes the gateway and the allocated host, and hands the third one out. -/
theorem address_search_complete_smallPool :
    ∃ network i, parseNetwork true smallPool.cidr = some network
      ∧ (∀ j < i, Taken allocatedOnce 1 smallPool.pool (hostAt network 1 j))
      ∧ allocateAddress allocatedOnce 1 none none
        = .ok (allocatedOnce.handOut 1 smallPool.pool network none i)
      ∧ IPv4.str (hostAt network 1 i) = "10.0.0.3" := by
  have hused : ∀ entry ∈ allocatedOnce.active 1, entry.2.address = "10.0.0.2" := by decide
  obtain ⟨network, hnet, -, -, hfirst⟩ := @address_search_complete allocatedOnce 1 smallPool.pool
    smallPool smallPool rfl rfl rfl rfl
    (fun entry he => ⟨ofOctets 10 0 0 2, (hused entry he).trans (by decide +kernel)⟩) none
  have hfree : ¬∀ address, usable network address → Taken allocatedOnce 1 smallPool.pool address := by
    intro hall
    have husable : (parseNetwork true smallPool.cidr).all (usable · (ofOctets 10 0 0 3)) := by
      decide +kernel
    rw [show parseNetwork true smallPool.cidr = some network from hnet] at husable
    rcases hall _ husable with h | ⟨entry, he, h⟩
    · exact absurd h (by decide +kernel)
    · exact absurd ((hused entry he).symm.trans h) (by decide +kernel)
  obtain ⟨i, -, -, htaken, hi⟩ := hfirst hfree
  have haddresses : (allocateAddress allocatedOnce 1 none none).map
      (fun db => db.allocations.rows.map (·.2.address)) = .ok ["10.0.0.2", "10.0.0.3"] := by
    decide +kernel
  rw [hi] at haddresses
  exact ⟨network, i, hnet, htaken, hi,
    (List.cons.inj (List.cons.inj (Except.ok.inj haddresses)).2).1⟩

end CloudPortal.Ipam
