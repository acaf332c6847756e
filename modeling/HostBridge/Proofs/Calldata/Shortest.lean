import HostBridge.Proofs.Calldata.RoundTrip

/-!
# The shortest form of calldata

Calldata may be read from many forms: numbers padded with zeros, either tag of the unit, a marker
where none is needed, either marker for eight to fifteen items. The form that is written is one of
them, and none is shorter (`encode_shortest`).
-/

namespace HostBridge.Calldata

variable {item : Immediate} {items : List Immediate} {word bytes : List UInt8}

/-! ## Items -/

/-- A number is written in no more bytes than any payload that stands for it. -/
theorem length_encodeShortest_le {payload : List UInt8} (tag : UInt8)
    (hpos : 1 ≤ payload.length) :
    (encodeShortest tag (BigEndian.ofBytes payload)).length ≤ payload.length + 1 := by
  have hwidth : BigEndian.minimalWidth (BigEndian.ofBytes payload) ≤ payload.length :=
    BigEndian.minimalWidth_le hpos (BigEndian.ofBytes_lt payload)
  unfold encodeShortest
  rw [List.length_cons, BigEndian.length_toBytes]
  exact Nat.succ_le_succ hwidth

/-- Of the words that spell an item, none is shorter than the one that is written. -/
theorem length_encodeItem_le (h : Spells item word) : (encodeItem item).length ≤ word.length := by
  cases h with
  | i32 hpos _ hvalue | u32 hpos _ hvalue | i64 hpos _ hvalue | u64 hpos _ hvalue
  | amount hpos _ hvalue =>
    rw [encodeItem, ← hvalue, List.length_cons]
    exact length_encodeShortest_le _ hpos
  | _ => simp [encodeItem]

/-! ## Sequences -/

/-- Whatever words stand for the items, those that are written are no longer. -/
theorem length_flatMap_encodeItem_le_of_row (h : Row Spells items bytes) :
    (items.flatMap encodeItem).length ≤ bytes.length := by
  induction h with
  | nil => exact Nat.le_refl 0
  | cons hspells _ ih =>
    have hitem := length_encodeItem_le hspells
    rw [List.flatMap_cons, List.length_append, List.length_append]
    exact Nat.add_le_add hitem ih

/-- No marker declares more items than the encoder can mark. -/
theorem Marks.le_maxItems {marker : UInt8} {count : Nat} (h : Marks marker count) :
    count ≤ maxItems := by
  have hlt : marker.toNat < 256 := marker.toNat_lt
  have hcount := (marks_iff.1 h).2
  unfold maxItems
  omega

/-- No calldata has more items than a marker can declare. -/
theorem Sentence.length_le_maxItems (h : Sentence items bytes) : items.length ≤ maxItems := by
  cases h with
  | nothing => exact Nat.zero_le _
  | alone hspells => exact Nat.succ_le_succ (Nat.zero_le _)
  | counted hmarks _ => exact hmarks.le_maxItems

/-- Items that need no marker are written without one, the others behind a single byte, as they
have to be. -/
theorem Sentence.length_encode_le (h : Sentence items bytes) {shortest : List UInt8}
    (hencode : encode items = .ok shortest) : shortest.length ≤ bytes.length := by
  obtain rfl := Except.ok.inj ((encode_of_le h.length_le_maxItems).symm.trans hencode)
  cases h with
  | nothing => exact Nat.le_refl 0
  | @alone item _ hspells =>
    have halone : [item].length ≤ 1 := Nat.le_refl 1
    rw [if_pos halone, List.flatMap_singleton]
    exact length_encodeItem_le hspells
  | counted _ hrow =>
    have hbody := length_flatMap_encodeItem_le_of_row hrow
    split
    · exact Nat.le_succ_of_le hbody
    · exact Nat.succ_le_succ hbody

/-- **What is written is the shortest form of what was read.** Calldata that can be read holds no
more items than can be written again; they are written in a form that reads the same, and that is
no longer than the one they were read from. -/
theorem encode_shortest (h : decode bytes = .ok items) :
    items.length ≤ 23 ∧ ∃ shortest, encode items = .ok shortest ∧
      decode shortest = .ok items ∧ shortest.length ≤ bytes.length := by
  have hsentence : Sentence items bytes := decode_eq_ok_iff.1 h
  have hcount := hsentence.length_le_maxItems
  obtain ⟨shortest, hencode, -⟩ := exists_encode_eq_ok hcount
  exact ⟨hcount, shortest, hencode, decode_of_encode hencode, hsentence.length_encode_le hencode⟩

/-- Two padded numbers behind a marker, one of them negative, and the other tag of the unit. -/
theorem shortest_of_padded :
    decode [0x36, 0x30, 0x33, 0, 0, 0, 5, 0x74, 255, 255, 255, 255, 255, 255, 255, 254] =
      .ok [.unit, .i32 5, .i64 (-2)] ∧
    ∃ shortest, encode [.unit, .i32 5, .i64 (-2)] = .ok shortest ∧
      decode shortest = .ok [.unit, .i32 5, .i64 (-2)] ∧ shortest.length ≤ 16 := by
  have hdecode : decode
      [0x36, 0x30, 0x33, 0, 0, 0, 5, 0x74, 255, 255, 255, 255, 255, 255, 255, 254] =
      .ok [.unit, .i32 5, .i64 (-2)] := rfl
  exact ⟨hdecode, (encode_shortest hdecode).2⟩

end HostBridge.Calldata
