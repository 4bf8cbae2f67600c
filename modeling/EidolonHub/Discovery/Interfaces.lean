import Mathlib.Data.Finset.Sort
import Mathlib.Data.Prod.Lex
import Mathlib.Data.String.Basic

/-!
# EidolonHub.Discovery.Interfaces

**What the Hub can be reached at**, as one observation of the operating system has it: the
addresses on the links the product is on, each with the interface that has it.
-/

namespace EidolonHub.Discovery

/-- `address.version`. -/
inductive IpVersion where
  | v4
  | v6
deriving DecidableEq

/-- What `ipaddress.ip_address` makes of a text. -/
structure IpAddress where
  text : String
  version : IpVersion
  packed : List UInt8
  isLoopback : Bool
  isUnspecified : Bool
  isMulticast : Bool
  isLinkLocal : Bool

/-- An address of an adapter, as the operating system lists it. -/
structure AdapterIp where
  raw : String
  networkPrefix : Nat

/-- A network adapter with the addresses it has. -/
structure Adapter where
  name : String
  index : Nat
  ips : List AdapterIp

/-- What parses an address, and what tells the links of the product from those of the operator. -/
structure Links where
  ipAddress : String → Option IpAddress
  onProductLink : IpAddress → Bool

/-- The name and the index of an interface, an address, and the prefix of its network. -/
abbrev Entry := String ×ₗ Nat ×ₗ String ×ₗ Nat

/-- An entry of the snapshot. Snapshots are compared in the order of these parts. -/
def entry (name : String) (index : Nat) (address : String) (networkPrefix : Nat) : Entry :=
  toLex (name, toLex (index, toLex (address, networkPrefix)))

/-- The address of an entry. -/
def Entry.address (e : Entry) : String := (ofLex (ofLex (ofLex e).2).2).1

/-- The text before a scope: `raw.split("%", 1)[0]`. -/
def unscoped (raw : String) : String := String.ofList (raw.toList.takeWhile (· ≠ '%'))

/-- An address the product is reached at. -/
def usable (links : Links) (address : IpAddress) : Bool :=
  !(address.isLoopback || address.isUnspecified || address.isMulticast || address.isLinkLocal) &&
    links.onProductLink address

/-- What one listed address adds to the observation. -/
def observe (links : Links) (adapter : Adapter) (item : AdapterIp) : Option Entry :=
  match links.ipAddress (unscoped item.raw) with
  | none => none
  | some address =>
    if usable links address then some (entry adapter.name adapter.index address.text item.networkPrefix)
    else none

/-- Every listed address that can be used, with its interface. -/
def observations (links : Links) (adapters : List Adapter) : List Entry :=
  adapters.flatMap fun adapter => adapter.ips.filterMap (observe links adapter)

/-- `interface_snapshot`. -/
def interfaceSnapshot (links : Links) (adapters : List Adapter) : List Entry :=
  (observations links adapters).toFinset.sort (· ≤ ·)

/-- `tuple(sorted({entry[2] for entry in snapshot}))`. -/
def addressesOf (snapshot : List Entry) : List String :=
  (snapshot.map Entry.address).toFinset.sort (· ≤ ·)

variable {links : Links} {adapters adapters' : List Adapter} {e : Entry} {address : String}

theorem mem_interfaceSnapshot : e ∈ interfaceSnapshot links adapters ↔
    ∃ adapter ∈ adapters, ∃ item ∈ adapter.ips, observe links adapter item = some e := by
  simp [interfaceSnapshot, observations]

theorem mem_addressesOf {snapshot : List Entry} :
    address ∈ addressesOf snapshot ↔ ∃ e ∈ snapshot, e.address = address := by
  simp [addressesOf]

/-- **Every address of an observation is usable**: it was listed by some adapter, it is on a link of
the product, and it is none that only this machine or this link can reach. -/
theorem usable_of_mem (h : address ∈ addressesOf (interfaceSnapshot links adapters)) :
    ∃ adapter ∈ adapters, ∃ item ∈ adapter.ips, ∃ ip, links.ipAddress (unscoped item.raw) = some ip ∧
      usable links ip = true ∧ ip.text = address := by
  obtain ⟨e, he, rfl⟩ := mem_addressesOf.mp h
  obtain ⟨adapter, hadapter, item, hitem, hobserve⟩ := mem_interfaceSnapshot.mp he
  refine ⟨adapter, hadapter, item, hitem, ?_⟩
  unfold observe at hobserve
  split at hobserve
  · cases hobserve
  · next ip hip =>
    split_ifs at hobserve with husable
    cases hobserve
    exact ⟨ip, hip, husable, rfl⟩

end EidolonHub.Discovery
