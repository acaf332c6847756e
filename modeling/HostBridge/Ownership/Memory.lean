import HostBridge.Ownership.Book

/-!
# Memory

The blocks of bytes that are allocated at a moment, on either side of the boundary. Where the next
block goes is left open: a `Placement` is any rule that keeps off the null address and off the
blocks in use, so it may hand out an address again once its block was freed.
-/

namespace HostBridge

/-- The blocks that are allocated, each at the address of its first byte. -/
structure Memory where
  blocks : Book (List UInt8)
  /-- How many blocks have been allocated so far. -/
  issued : Nat
  deriving DecidableEq, Repr

namespace Memory

/-- Memory without blocks. -/
def empty : Memory := ⟨∅, 0⟩

/-- The addresses in use. -/
def addresses (memory : Memory) : List Nat := memory.blocks.keys

/-- The bytes of the block at an address. -/
def block? (memory : Memory) (address : Nat) : Option (List UInt8) :=
  memory.blocks[address]?

/-- Allocates a block at an address. -/
def allocate (memory : Memory) (address : Nat) (bytes : List UInt8) : Memory :=
  ⟨memory.blocks.insert address bytes, memory.issued + 1⟩

/-- Frees the block at an address. -/
def free (memory : Memory) (address : Nat) : Memory :=
  { memory with blocks := memory.blocks.erase address }

/-- Puts other bytes into the block at an address. -/
def store (memory : Memory) (address : Nat) (bytes : List UInt8) : Memory :=
  { memory with blocks := memory.blocks.modify address fun _ => bytes }

@[simp] theorem addresses_empty : empty.addresses = [] := rfl

/-- A block is added in a place where there was none. -/
theorem addresses_allocate_perm {memory : Memory} {address : Nat} (h : address ∉ memory.addresses)
    (bytes : List UInt8) :
    (memory.allocate address bytes).addresses.Perm (address :: memory.addresses) :=
  Book.keys_insert_perm h bytes

@[simp] theorem addresses_free (memory : Memory) (address : Nat) :
    (memory.free address).addresses = memory.addresses.erase address :=
  Book.keys_erase ..

@[simp] theorem addresses_store (memory : Memory) (address : Nat) (bytes : List UInt8) :
    (memory.store address bytes).addresses = memory.addresses :=
  Book.keys_modify ..

/-- A block that is allocated is found, and no other is touched. -/
theorem block?_allocate (memory : Memory) (address : Nat) (bytes : List UInt8) (other : Nat) :
    (memory.allocate address bytes).block? other =
      if other = address then some bytes else memory.block? other := by
  simp [block?, allocate, Std.ExtTreeMap.getElem?_insert, @eq_comm _ other address]

/-- A block that is freed is found no more, and no other is touched. -/
theorem block?_free (memory : Memory) (address other : Nat) :
    (memory.free address).block? other = if other = address then none else memory.block? other := by
  simp [block?, free, Std.ExtTreeMap.getElem?_erase, @eq_comm _ other address]

/-- Other bytes are found where there was a block before, and no other block is touched. -/
theorem block?_store (memory : Memory) (address : Nat) (bytes : List UInt8) (other : Nat) :
    (memory.store address bytes).block? other =
      if other = address then (memory.block? address).map fun _ => bytes else memory.block? other :=
  by
  simp [block?, store, Std.ExtTreeMap.getElem?_modify, @eq_comm _ other address]

/-- Where there is a block, there are its bytes. -/
theorem mem_addresses_of_block? {memory : Memory} {address : Nat} {bytes : List UInt8}
    (h : memory.block? address = some bytes) : address ∈ memory.addresses :=
  Book.isSome_getElem?_iff.1 (Option.isSome_of_eq_some h)

end Memory

/-- A rule for where the next block goes. -/
structure Placement where
  place : Memory → Nat
  /-- No block is null. -/
  place_ne_zero : ∀ memory, place memory ≠ 0
  /-- No two blocks are in the same place. -/
  place_not_mem : ∀ memory, place memory ∉ memory.addresses

namespace Placement

/-- The greatest address bounds all of them, and the bound it started from. -/
theorem le_foldl_max {addresses : List Nat} {bound address : Nat}
    (h : address ≤ bound ∨ address ∈ addresses) : address ≤ addresses.foldl max bound := by
  induction addresses generalizing bound with
  | nil => simpa using h
  | cons head rest ih =>
    refine ih ?_
    rcases h with h | h
    · exact .inl (by omega)
    · rcases List.mem_cons.1 h with rfl | h
      · exact .inl (by omega)
      · exact .inr h

/-- One address after the other, none of them twice. -/
def ascending : Placement where
  place memory := memory.addresses.foldl max memory.issued + 1
  place_ne_zero _ := Nat.succ_ne_zero _
  place_not_mem memory h := by
    have hle : _ ≤ memory.addresses.foldl max memory.issued := le_foldl_max (.inr h)
    omega

end Placement

end HostBridge
