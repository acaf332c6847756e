import Std.Data.ExtTreeMap

/-!
# Books

What is noted under addresses, at most one thing under each. The memory and the ledgers are kept in
books, so that an address is found in at most one place of them. A book is a map of the library, with
the library's laws. What a change does to the list of the addresses that have a note is added here.
-/

namespace HostBridge

/-- Something noted under addresses. -/
abbrev Book (α : Type) := Std.ExtTreeMap Nat α

namespace Book

open Std.ExtTreeMap

variable {α : Type} {book : Book α} {address : Nat}

/-- Something is found under the addresses that have a note. -/
theorem isSome_getElem?_iff : book[address]?.isSome ↔ address ∈ book.keys := by
  rw [mem_keys, mem_iff_isSome_getElem?]

/-- An address without a note can be struck out without a change. -/
theorem erase_of_getElem?_eq_none (h : book[address]? = none) : book.erase address = book := by
  refine ext_getElem? fun other => ?_
  rw [getElem?_erase]
  split
  · next heq => rw [← Std.compare_eq_iff_eq.1 heq, h]
  · rfl

/-- A new note that is struck out leaves nothing behind, nor what it replaced. -/
theorem erase_insert (book : Book α) (address : Nat) (content : α) :
    (book.insert address content).erase address = book.erase address := by
  refine ext_getElem? fun other => ?_
  rw [getElem?_erase, getElem?_erase, getElem?_insert]
  split <;> rfl

/-! ## Addresses -/

/-- A book lists its addresses in ascending order, and there is one such list. -/
theorem keys_eq_of_mem_iff {addresses : List Nat} (hmem : ∀ other, other ∈ book ↔ other ∈ addresses)
    (hordered : addresses.Pairwise (compare · · = .lt)) : book.keys = addresses := by
  have hnodup : addresses.Nodup := hordered.imp fun hlt heq => by simp [heq] at hlt
  have hperm : book.keys.Perm addresses :=
    (List.perm_ext_iff_of_nodup nodup_keys hnodup).2 fun other => mem_keys.trans (hmem other)
  refine hperm.eq_of_pairwise (fun address other _ _ hlt hgt => ?_) ordered_keys hordered
  exact absurd (Nat.compare_eq_lt.1 hlt) (Nat.lt_asymm (Nat.compare_eq_lt.1 hgt))

/-- A note under a new address adds this address, and no other. -/
theorem keys_insert_perm (h : address ∉ book.keys) (content : α) :
    (book.insert address content).keys.Perm (address :: book.keys) := by
  have hnodup : (address :: book.keys).Nodup := List.nodup_cons.2 ⟨h, nodup_keys⟩
  refine (List.perm_ext_iff_of_nodup nodup_keys hnodup).2 fun other => ?_
  rw [mem_keys, mem_insert, List.mem_cons, mem_keys, Std.compare_eq_iff_eq, eq_comm]

/-- An address that is struck out is taken out of the list. -/
theorem keys_erase (book : Book α) (address : Nat) :
    (book.erase address).keys = book.keys.erase address := by
  refine keys_eq_of_mem_iff (fun other => ?_) (ordered_keys.sublist List.erase_sublist)
  rw [mem_erase, nodup_keys.mem_erase_iff, mem_keys, ne_eq, Std.compare_eq_iff_eq, eq_comm]

/-- A note that is replaced stays where it is. -/
theorem keys_modify (book : Book α) (address : Nat) (change : α → α) :
    (book.modify address change).keys = book.keys :=
  keys_eq_of_mem_iff (fun _ => mem_modify.trans mem_keys.symm) ordered_keys

end Book

end HostBridge
