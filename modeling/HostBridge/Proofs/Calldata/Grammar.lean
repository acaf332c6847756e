import HostBridge.Calldata.Codec
import HostBridge.Proofs.Wire.Reading
import Mathlib.Data.List.Basic
import Mathlib.Tactic.IntervalCases

/-!
# The grammar of calldata

What byte strings are calldata, told without a reader. `Spells` is the table of tags: one item and
the words that stand for it, of which numbers have many, for leading zeros are not dropped. A
`Sentence` is nothing, an item alone, or items behind a marker that counts them (`Marks`).
`decode_eq_ok_iff` says that the reader accepts the sentences and nothing else.
-/

namespace HostBridge.Calldata

/-! ## Words -/

/-- The tag of a number that takes `width` bytes. -/
def wideTag (low : UInt8) (width : Nat) : UInt8 := low ||| UInt8.ofNat (width - 1) <<< 4

/-- The words that stand for an item: its tag, and its payload. The payload of a number is its bit
pattern, zeros in front or not. -/
inductive Spells : Immediate → List UInt8 → Prop where
  | no : Spells (.bool false) [0x00]
  | yes : Spells (.bool true) [0x10]
  | unit : Spells .unit [0x20]
  | unitAgain : Spells .unit [0x30]
  | address (value : Address) : Spells (.address value) (0x40 :: value.toList)
  | i8 (value : Int8) : Spells (.i8 value) [0x02, value.toUInt8]
  | u8 (value : UInt8) : Spells (.u8 value) [0x12, value]
  | i16 {value : Int16} {high low : UInt8} :
    BigEndian.ofBytes [high, low] = value.toUInt16.toNat → Spells (.i16 value) [0x22, high, low]
  | u16 {value : UInt16} {high low : UInt8} :
    BigEndian.ofBytes [high, low] = value.toNat → Spells (.u16 value) [0x32, high, low]
  | i32 {value : Int32} {payload : List UInt8} :
    1 ≤ payload.length → payload.length ≤ 4 →
    BigEndian.ofBytes payload = value.toUInt32.toNat →
    Spells (.i32 value) (wideTag 0x03 payload.length :: payload)
  | u32 {value : UInt32} {payload : List UInt8} :
    1 ≤ payload.length → payload.length ≤ 4 →
    BigEndian.ofBytes payload = value.toNat →
    Spells (.u32 value) (wideTag 0x43 payload.length :: payload)
  | i64 {value : Int64} {payload : List UInt8} :
    1 ≤ payload.length → payload.length ≤ 8 →
    BigEndian.ofBytes payload = value.toUInt64.toNat →
    Spells (.i64 value) (wideTag 0x04 payload.length :: payload)
  | u64 {value : UInt64} {payload : List UInt8} :
    1 ≤ payload.length → payload.length ≤ 8 →
    BigEndian.ofBytes payload = value.toNat →
    Spells (.u64 value) (wideTag 0x05 payload.length :: payload)
  | amount {value : UInt64} {payload : List UInt8} :
    1 ≤ payload.length → payload.length ≤ 8 →
    BigEndian.ofBytes payload = value.toNat →
    Spells (.amount value) (wideTag 0x01 payload.length :: payload)

/-- The tags of items. -/
def itemTags : List UInt8 :=
  [0x00, 0x10, 0x20, 0x30, 0x40, 0x02, 0x12, 0x22, 0x32] ++
  [0x03, 0x13, 0x23, 0x33] ++ [0x43, 0x53, 0x63, 0x73] ++
  [0x04, 0x14, 0x24, 0x34, 0x44, 0x54, 0x64, 0x74] ++
  [0x05, 0x15, 0x25, 0x35, 0x45, 0x55, 0x65, 0x75] ++
  [0x01, 0x11, 0x21, 0x31, 0x41, 0x51, 0x61, 0x71]

/-- A marker and the count of items that it declares. -/
def Marks (marker : UInt8) (count : Nat) : Prop :=
  (marker &&& 0x0F = 0x06 ∨ marker &&& 0x0F = 0x07) ∧
    count = (marker >>> 4).toNat + 8 * (marker &&& 1).toNat

/-- The byte strings that are calldata, with their items. -/
inductive Sentence : List Immediate → List UInt8 → Prop where
  | nothing : Sentence [] []
  | alone {item : Immediate} {word : List UInt8} :
    Spells item word → Sentence [item] word
  | counted {marker : UInt8} {items : List Immediate} {body : List UInt8} :
    Marks marker items.length → Row Spells items body → Sentence items (marker :: body)

/-! ## Tags -/

/-- The kind of item that a tag stands for, and how many bytes follow. -/
inductive Selects : UInt8 → Kind → Nat → Prop where
  | no : Selects 0x00 .bool 0
  | yes : Selects 0x10 .bool 0
  | unit : Selects 0x20 .unit 0
  | unitAgain : Selects 0x30 .unit 0
  | address : Selects 0x40 .address 20
  | i8 : Selects 0x02 .i8 1
  | u8 : Selects 0x12 .u8 1
  | i16 : Selects 0x22 .i16 2
  | u16 : Selects 0x32 .u16 2
  | i32 {width : Nat} : 1 ≤ width → width ≤ 4 → Selects (wideTag 0x03 width) .i32 width
  | u32 {width : Nat} : 1 ≤ width → width ≤ 4 → Selects (wideTag 0x43 width) .u32 width
  | i64 {width : Nat} : 1 ≤ width → width ≤ 8 → Selects (wideTag 0x04 width) .i64 width
  | u64 {width : Nat} : 1 ≤ width → width ≤ 8 → Selects (wideTag 0x05 width) .u64 width
  | amount {width : Nat} : 1 ≤ width → width ≤ 8 → Selects (wideTag 0x01 width) .amount width

section tags

variable {tag : UInt8} {kind : Kind} {width : Nat} {payload : List UInt8} {item : Immediate}

/-- The high half of a tag counts the bytes behind it, but for the first of them. -/
theorem toNat_wideTag_of_le_four : ∀ low ∈ [0x03, 0x43], ∀ more < 4,
    (wideTag low (more + 1)).toNat = more * 16 + low.toNat := by
  decide +kernel

/-- The tag of a number, as a number: the width less one in the high half, the family in the low
one. -/
theorem toNat_wideTag_of_le_eight : ∀ low ∈ [0x04, 0x05, 0x01], ∀ more < 8,
    (wideTag low (more + 1)).toNat = more * 16 + low.toNat := by
  decide +kernel

/-- A tag that stands for a kind of item is understood so. -/
theorem select_of_selects (h : Selects tag kind width) : select tag = .ok (kind, width) := by
  cases h with
  | i32 hwidth hwidth' => interval_cases width <;> rfl
  | u32 hwidth hwidth' => interval_cases width <;> rfl
  | i64 hwidth hwidth' => interval_cases width <;> rfl
  | u64 hwidth hwidth' => interval_cases width <;> rfl
  | amount hwidth hwidth' => interval_cases width <;> rfl
  | _ => rfl

/-- A tag is understood only as what it stands for. -/
theorem selects_of_select (h : select tag = .ok (kind, width)) : Selects tag kind width := by
  have hparts : tag.toNat = tag.toNat / 16 * 16 + tag.toNat % 16 := by omega
  have hbyte : ∀ n, tag.toNat = n → tag = UInt8.ofNat n := fun n hn => by
    rw [← hn, UInt8.ofNat_toNat]
  have hfour : ∀ low ∈ [0x03, 0x43], ∀ more < 4, tag.toNat = more * 16 + low.toNat →
      tag = wideTag low (more + 1) := fun low hlow more hmore htag =>
    UInt8.toNat_inj.1 (htag.trans (toNat_wideTag_of_le_four low hlow more hmore).symm)
  have height : ∀ low ∈ [0x04, 0x05, 0x01], ∀ more < 8, tag.toNat = more * 16 + low.toNat →
      tag = wideTag low (more + 1) := fun low hlow more hmore htag =>
    UInt8.toNat_inj.1 (htag.trans (toNat_wideTag_of_le_eight low hlow more hmore).symm)
  simp only [select] at h
  generalize tag.toNat % 16 = low at h hparts
  generalize tag.toNat / 16 = high at h hparts
  split at h
  · split at h
    · cases h
      obtain rfl | rfl : high = 0 ∨ high = 1 := by omega
      · exact hbyte 0x00 (by omega) ▸ .no
      · exact hbyte 0x10 (by omega) ▸ .yes
    split at h
    · cases h
      obtain rfl | rfl : high = 2 ∨ high = 3 := by omega
      · exact hbyte 0x20 (by omega) ▸ .unit
      · exact hbyte 0x30 (by omega) ▸ .unitAgain
    split at h
    · cases h
      exact hbyte 0x40 (by omega) ▸ .address
    · cases h
  split at h
  · split at h
    · cases h
      exact hbyte 0x02 (by omega) ▸ .i8
    split at h
    · cases h
      exact hbyte 0x12 (by omega) ▸ .u8
    split at h
    · cases h
      exact hbyte 0x22 (by omega) ▸ .i16
    split at h
    · cases h
      exact hbyte 0x32 (by omega) ▸ .u16
    · cases h
  split at h
  · cases h
  split at h
  · split at h
    · cases h
      exact hfour 0x03 (by simp) high (by omega) (by simp; omega) ▸ .i32 (by omega) (by omega)
    · cases h
      obtain ⟨more, rfl⟩ : ∃ more, high = more + 4 := ⟨high - 4, by omega⟩
      exact hfour 0x43 (by simp) more (by omega) (by simp; omega) ▸ .u32 (by omega) (by omega)
  split at h
  · cases h
    exact height 0x04 (by simp) high (by omega) (by simp; omega) ▸ .i64 (by omega) (by omega)
  split at h
  · cases h
    exact height 0x05 (by simp) high (by omega) (by simp; omega) ▸ .u64 (by omega) (by omega)
  split at h
  · cases h
    exact height 0x01 (by simp) high (by omega) (by simp; omega) ▸ .amount (by omega) (by omega)
  · cases h

/-! ## Items -/

/-- One byte spells its own number. -/
theorem ofBytes_singleton (byte : UInt8) : BigEndian.ofBytes [byte] = byte.toNat := by
  simp [BigEndian.ofBytes]

/-- A tag and a payload spell the item that the reader makes of them. -/
theorem spells_of_selects (h : Selects tag kind payload.length) :
    Spells (itemOfPayload kind tag payload) (tag :: payload) := by
  have hlt : ∀ {size}, payload.length ≤ size →
      BigEndian.ofBytes payload < BigEndian.capacity size := BigEndian.ofBytes_lt_of_length_le
  generalize hlength : payload.length = width at h hlt
  cases h with
  | no =>
    obtain rfl := List.eq_nil_of_length_eq_zero hlength
    exact .no
  | yes =>
    obtain rfl := List.eq_nil_of_length_eq_zero hlength
    exact .yes
  | unit =>
    obtain rfl := List.eq_nil_of_length_eq_zero hlength
    exact .unit
  | unitAgain =>
    obtain rfl := List.eq_nil_of_length_eq_zero hlength
    exact .unitAgain
  | address =>
    have hvalue : (Octets.ofBytes payload : Address).toList = payload :=
      Octets.toList_ofBytes_of_length hlength
    have hspells := Spells.address (Octets.ofBytes payload)
    rwa [hvalue] at hspells
  | i8 =>
    obtain ⟨byte, rfl⟩ := List.length_eq_one_iff.1 hlength
    have hspells := Spells.i8 byte.toInt8
    simpa [itemOfPayload, ofBytes_singleton] using hspells
  | u8 =>
    obtain ⟨byte, rfl⟩ := List.length_eq_one_iff.1 hlength
    simpa [itemOfPayload, ofBytes_singleton] using Spells.u8 byte
  | i16 =>
    obtain ⟨high, low, rfl⟩ := List.length_eq_two.1 hlength
    exact .i16 (UInt16.toNat_ofNat_of_lt' (hlt (Nat.le_refl 2))).symm
  | u16 =>
    obtain ⟨high, low, rfl⟩ := List.length_eq_two.1 hlength
    exact .u16 (UInt16.toNat_ofNat_of_lt' (hlt (Nat.le_refl 2))).symm
  | i32 hwidth hwidth' =>
    subst hlength
    exact .i32 hwidth hwidth' (UInt32.toNat_ofNat_of_lt' (hlt hwidth')).symm
  | u32 hwidth hwidth' =>
    subst hlength
    exact .u32 hwidth hwidth' (UInt32.toNat_ofNat_of_lt' (hlt hwidth')).symm
  | i64 hwidth hwidth' =>
    subst hlength
    exact .i64 hwidth hwidth' (UInt64.toNat_ofNat_of_lt' (hlt hwidth')).symm
  | u64 hwidth hwidth' =>
    subst hlength
    exact .u64 hwidth hwidth' (UInt64.toNat_ofNat_of_lt' (hlt hwidth')).symm
  | amount hwidth hwidth' =>
    subst hlength
    exact .amount hwidth hwidth' (UInt64.toNat_ofNat_of_lt' (hlt hwidth')).symm

/-- What the reader makes of a word is the item that it spells. -/
theorem selects_of_spells (h : Spells item (tag :: payload)) :
    Selects tag item.kind payload.length ∧ itemOfPayload item.kind tag payload = item := by
  cases h with
  | no => exact ⟨.no, rfl⟩
  | yes => exact ⟨.yes, rfl⟩
  | unit => exact ⟨.unit, rfl⟩
  | unitAgain => exact ⟨.unitAgain, rfl⟩
  | address value =>
    refine ⟨?_, congrArg Immediate.address (Octets.ofBytes_toList value)⟩
    rw [value.length_toList]
    exact .address
  | i8 value =>
    refine ⟨.i8, ?_⟩
    simp [itemOfPayload, Immediate.kind, ofBytes_singleton]
  | u8 value =>
    refine ⟨.u8, ?_⟩
    simp [itemOfPayload, Immediate.kind, ofBytes_singleton]
  | i16 hvalue =>
    refine ⟨.i16, ?_⟩
    simp [itemOfPayload, Immediate.kind, hvalue]
  | u16 hvalue =>
    refine ⟨.u16, ?_⟩
    simp [itemOfPayload, Immediate.kind, hvalue]
  | i32 hwidth hwidth' hvalue =>
    refine ⟨.i32 hwidth hwidth', ?_⟩
    simp [itemOfPayload, Immediate.kind, hvalue]
  | u32 hwidth hwidth' hvalue =>
    refine ⟨.u32 hwidth hwidth', ?_⟩
    simp [itemOfPayload, Immediate.kind, hvalue]
  | i64 hwidth hwidth' hvalue =>
    refine ⟨.i64 hwidth hwidth', ?_⟩
    simp [itemOfPayload, Immediate.kind, hvalue]
  | u64 hwidth hwidth' hvalue =>
    refine ⟨.u64 hwidth hwidth', ?_⟩
    simp [itemOfPayload, Immediate.kind, hvalue]
  | amount hwidth hwidth' hvalue =>
    refine ⟨.amount hwidth hwidth', ?_⟩
    simp [itemOfPayload, Immediate.kind, hvalue]

/-- No item is spelled by no bytes. -/
theorem exists_of_spells {word : List UInt8} (h : Spells item word) :
    ∃ tag payload, word = tag :: payload := by
  cases h <;> exact ⟨_, _, rfl⟩

/-! ## Markers -/

/-- The low half of a byte is what is left of it modulo sixteen. -/
theorem toNat_lowHalf (byte : UInt8) : (byte &&& 0x0F).toNat = byte.toNat % 16 := by
  rw [UInt8.toNat_and]
  exact Nat.and_two_pow_sub_one_eq_mod byte.toNat 4

/-- The low bit of a byte says whether it is odd. -/
theorem toNat_lowBit (byte : UInt8) : (byte &&& 1).toNat = byte.toNat % 2 := by
  rw [UInt8.toNat_and]
  exact Nat.and_two_pow_sub_one_eq_mod byte.toNat 1

/-- The high half of a byte is how often sixteen goes into it. -/
theorem toNat_highHalf (byte : UInt8) : (byte >>> 4).toNat = byte.toNat / 16 := by
  rw [UInt8.toNat_shiftRight]
  exact Nat.shiftRight_eq_div_pow byte.toNat 4

/-- Markers in numbers. -/
theorem marks_iff {marker : UInt8} {count : Nat} :
    Marks marker count ↔ (marker.toNat % 16 = 6 ∨ marker.toNat % 16 = 7) ∧
      count = marker.toNat / 16 + 8 * (marker.toNat % 2) := by
  unfold Marks
  rw [← UInt8.toNat_inj, ← UInt8.toNat_inj, toNat_lowHalf, toNat_lowBit, toNat_highHalf]
  rfl

/-- A byte is taken for a marker just if it is one, with the count that it declares. -/
theorem markedCount?_eq_some_iff {byte : UInt8} {count : Nat} :
    markedCount? byte = some count ↔ Marks byte count := by
  rw [marks_iff]
  simp only [markedCount?]
  split
  · next h => simp [h]; omega
  split
  · next h => simp [h]; omega
  · next h h' => simp [h, h']

/-- A marker that ends in six counts up to fifteen items. -/
theorem exists_marks_six_iff {count : Nat} :
    (∃ marker, marker &&& 0x0F = 0x06 ∧ Marks marker count) ↔ count ≤ 15 := by
  constructor
  · rintro ⟨marker, hlow, hmarks⟩
    have hlow' : marker.toNat % 16 = 6 := by rw [← toNat_lowHalf, hlow]; rfl
    have hlt : marker.toNat < 256 := marker.toNat_lt
    have hcount := (marks_iff.1 hmarks).2
    omega
  · intro hcount
    have hbyte : (UInt8.ofNat (count * 16 + 6)).toNat = count * 16 + 6 :=
      UInt8.toNat_ofNat_of_lt' (by simp [UInt8.size]; omega)
    refine ⟨UInt8.ofNat (count * 16 + 6), ?_, marks_iff.2 ⟨.inl ?_, ?_⟩⟩
    · rw [← UInt8.toNat_inj, toNat_lowHalf, hbyte]
      change (count * 16 + 6) % 16 = 6
      omega
    · omega
    · omega

/-- A marker that ends in seven counts eight to twenty-three. -/
theorem exists_marks_seven_iff {count : Nat} :
    (∃ marker, marker &&& 0x0F = 0x07 ∧ Marks marker count) ↔ 8 ≤ count ∧ count ≤ 23 := by
  constructor
  · rintro ⟨marker, hlow, hmarks⟩
    have hlow' : marker.toNat % 16 = 7 := by rw [← toNat_lowHalf, hlow]; rfl
    have hlt : marker.toNat < 256 := marker.toNat_lt
    have hcount := (marks_iff.1 hmarks).2
    omega
  · intro hcount
    have hbyte : (UInt8.ofNat ((count - 8) * 16 + 7)).toNat = (count - 8) * 16 + 7 :=
      UInt8.toNat_ofNat_of_lt' (by simp [UInt8.size]; omega)
    refine ⟨UInt8.ofNat ((count - 8) * 16 + 7), ?_, marks_iff.2 ⟨.inr ?_, ?_⟩⟩
    · rw [← UInt8.toNat_inj, toNat_lowHalf, hbyte]
      change ((count - 8) * 16 + 7) % 16 = 7
      omega
    · omega
    · omega

/-! ## Reading -/

/-- `read_immediate` takes just the words that stand for items. -/
theorem obeys_readItem : readItem.Obeys Spells := by
  unfold readItem
  refine (Read.obeys_u8.bind fun tag => (Read.Obeys.lift (select tag)).bind fun selected =>
    (Read.Obeys.bytes selected.2).bind_pure (itemOfPayload selected.1 tag)).mono fun item word => ?_
  constructor
  · rintro ⟨tag, _, _, rfl, ⟨⟨kind, width⟩, _, payload, ⟨hselect, rfl⟩,
      ⟨_, ⟨rfl, hlength⟩, rfl⟩, rfl⟩, rfl⟩
    exact spells_of_selects (hlength ▸ selects_of_select hselect)
  · intro hspells
    obtain ⟨tag, payload, rfl⟩ := exists_of_spells hspells
    obtain ⟨hselects, hitem⟩ := selects_of_spells hspells
    exact ⟨tag, [tag], payload, rfl, ⟨(item.kind, payload.length), [], payload,
      ⟨select_of_selects hselects, rfl⟩, ⟨payload, ⟨rfl, rfl⟩, hitem.symm⟩, rfl⟩, rfl⟩

/-- Behind a marker there are as many items as it declares. -/
theorem obeys_readItems {first : UInt8} :
    (readItems first).Obeys fun items word =>
      (∃ count marker body, markedCount? first = some count ∧ word = marker :: body ∧
        items.length = count ∧ Row Spells items body) ∨
      markedCount? first = none ∧ ∃ item, items = [item] ∧ Spells item word := by
  unfold readItems
  cases hmarked : markedCount? first with
  | some count =>
    refine (Read.obeys_u8.bind fun _ => obeys_readItem.replicate count).mono fun items word => ?_
    constructor
    · rintro ⟨marker, _, body, rfl, ⟨hcount, hrow⟩, rfl⟩
      exact .inl ⟨count, marker, body, rfl, rfl, hcount, hrow⟩
    · rintro (⟨_, marker, body, ⟨⟩, rfl, hcount, hrow⟩ | ⟨⟨⟩, -⟩)
      exact ⟨marker, [marker], body, rfl, ⟨hcount, hrow⟩, rfl⟩
  | none =>
    refine (obeys_readItem.replicate 1).mono fun items word => ?_
    constructor
    · rintro ⟨hcount, hrow⟩
      obtain ⟨item, rfl⟩ := List.length_eq_one_iff.1 hcount
      cases hrow with
      | cons hspells hnil =>
        cases hnil
        exact .inr ⟨rfl, item, rfl, by rwa [List.append_nil]⟩
    · rintro (⟨_, _, _, ⟨⟩, -⟩ | ⟨-, item, rfl, hspells⟩)
      exact ⟨rfl, by simpa using Row.cons hspells .nil⟩

/-- The tags that the reader knows. -/
theorem mem_itemTags_of_selects (h : Selects tag kind width) : tag ∈ itemTags := by
  cases h with
  | i32 hwidth hwidth' => interval_cases width <;> decide
  | u32 hwidth hwidth' => interval_cases width <;> decide
  | i64 hwidth hwidth' => interval_cases width <;> decide
  | u64 hwidth hwidth' => interval_cases width <;> decide
  | amount hwidth hwidth' => interval_cases width <;> decide
  | _ => decide

/-- All tags of items are understood. -/
theorem isOk_select : ∀ tag ∈ itemTags, (select tag).isOk := by
  decide +kernel

/-- The tags of items are the tags that some item is spelled with. -/
theorem mem_itemTags_iff : tag ∈ itemTags ↔ ∃ item payload, Spells item (tag :: payload) := by
  constructor
  · intro hmem
    cases hselect : select tag with
    | error error =>
      have hok := isOk_select tag hmem
      rw [hselect] at hok
      cases hok
    | ok selected =>
      obtain ⟨kind, width⟩ := selected
      obtain ⟨payload, rfl⟩ : ∃ payload : List UInt8, payload.length = width :=
        ⟨List.replicate width 0, List.length_replicate ..⟩
      exact ⟨_, payload, spells_of_selects (selects_of_select hselect)⟩
  · rintro ⟨item, payload, hspells⟩
    exact mem_itemTags_of_selects (selects_of_spells hspells).1

/-- No marker is the tag of an item. -/
theorem markedCount?_of_mem_itemTags : ∀ tag ∈ itemTags, markedCount? tag = none := by
  decide +kernel

/-- The reader accepts the sentences of the grammar. -/
theorem decode_eq_ok_iff {bytes : List UInt8} {items : List Immediate} :
    decode bytes = .ok items ↔ Sentence items bytes := by
  cases bytes with
  | nil =>
    constructor
    · rintro ⟨⟩
      exact .nothing
    · rintro (_ | hspells)
      · rfl
      · cases hspells
  | cons first rest =>
    have hread : decode (first :: rest) = .ok items ↔ _ := obeys_readItems.all_eq_ok_iff
    rw [hread]
    constructor
    · rintro (⟨count, marker, body, hmarked, ⟨⟩, rfl, hrow⟩ | ⟨-, item, rfl, hspells⟩)
      · exact .counted (markedCount?_eq_some_iff.1 hmarked) hrow
      · exact .alone hspells
    · rintro (_ | hspells | ⟨hmarks, hrow⟩)
      · have hmem := mem_itemTags_iff.2 ⟨_, _, hspells⟩
        exact .inr ⟨markedCount?_of_mem_itemTags first hmem, _, rfl, hspells⟩
      · exact .inl ⟨_, _, _, markedCount?_eq_some_iff.2 hmarks, rfl, rfl, hrow⟩

end tags

/-- **Calldata is what the grammar says.** The reader accepts the sentences and makes of each the
items that it stands for. No other byte begins an item than the forty-one tags, none of them is a
marker, so nothing nests; and either marker serves for eight to fifteen items. -/
theorem decode_follows_grammar :
    (∀ bytes items, decode bytes = .ok items ↔ Sentence items bytes) ∧
    (∀ tag, tag ∈ itemTags ↔ ∃ item payload, Spells item (tag :: payload)) ∧
    (∀ tag count, Marks tag count → tag ∉ itemTags) ∧
    (∀ count, (∃ marker, marker &&& 0x0F = 0x06 ∧ Marks marker count) ↔ count ≤ 15) ∧
    (∀ count, (∃ marker, marker &&& 0x0F = 0x07 ∧ Marks marker count) ↔
      8 ≤ count ∧ count ≤ 23) := by
  refine ⟨fun _ _ => decode_eq_ok_iff, fun _ => mem_itemTags_iff, fun tag count hmarks hmem => ?_,
    fun _ => exists_marks_six_iff, fun _ => exists_marks_seven_iff⟩
  have hmarked := markedCount?_eq_some_iff.2 hmarks
  rw [markedCount?_of_mem_itemTags tag hmem] at hmarked
  cases hmarked

end HostBridge.Calldata
