import HostBridge.Proofs.Calldata.Grammar

/-!
# Calldata read back

What is written is one of the sentences of the grammar, so it is read back as it was. A caller who
declares the kinds of the items gets the same bytes, or one of the refusals that `Refused` lists.
-/

namespace HostBridge.Calldata

variable {tag : UInt8} {item : Immediate} {items : List Immediate} {bytes : List UInt8}
  {name : String} {names : List String} {error : EncodeError}

/-! ## Items -/

/-- A number that fits into `most` bytes is written in that many at most, behind a tag that counts
them. -/
theorem exists_encodeShortest_eq {most n : Nat} (hmost : 0 < most)
    (hn : n < BigEndian.capacity most)
    (htag : ∀ more < most, (wideTag tag (more + 1)).toNat = more * 16 + tag.toNat) :
    ∃ payload, encodeShortest tag n = wideTag tag payload.length :: payload ∧
      1 ≤ payload.length ∧ payload.length ≤ most ∧ BigEndian.ofBytes payload = n := by
  have hle : BigEndian.minimalWidth n ≤ most := BigEndian.minimalWidth_le hmost hn
  have hvalue := BigEndian.ofBytes_toBytes_of_lt (BigEndian.lt_of_minimalWidth n)
  obtain ⟨more, hmore⟩ : ∃ more, BigEndian.minimalWidth n = more + 1 :=
    Nat.exists_eq_add_one.2 (BigEndian.minimalWidth_pos n)
  refine ⟨BigEndian.toBytes (BigEndian.minimalWidth n) n, ?_, ?_, ?_, hvalue⟩
  · rw [BigEndian.length_toBytes, encodeShortest, hmore, Nat.add_sub_cancel,
      ← htag more (by omega), UInt8.ofNat_toNat]
  · rw [BigEndian.length_toBytes]
    exact BigEndian.minimalWidth_pos n
  · rw [BigEndian.length_toBytes]
    exact hle

/-- An item is written as one of the words that spell it. -/
theorem spells_encodeItem (item : Immediate) : Spells item (encodeItem item) := by
  have hfour : ∀ low ∈ [0x03, 0x43], ∀ n < UInt32.size, ∃ payload,
      encodeShortest low n = wideTag low payload.length :: payload ∧
      1 ≤ payload.length ∧ payload.length ≤ 4 ∧ BigEndian.ofBytes payload = n :=
    fun low hlow _ hn => exists_encodeShortest_eq (by decide) hn (toNat_wideTag_of_le_four low hlow)
  have height : ∀ low ∈ [0x04, 0x05, 0x01], ∀ n < UInt64.size, ∃ payload,
      encodeShortest low n = wideTag low payload.length :: payload ∧
      1 ≤ payload.length ∧ payload.length ≤ 8 ∧ BigEndian.ofBytes payload = n :=
    fun low hlow _ hn => exists_encodeShortest_eq (by decide) hn
      (toNat_wideTag_of_le_eight low hlow)
  cases item with
  | bool value =>
    cases value with
    | false => exact .no
    | true => exact .yes
  | unit => exact .unit
  | address value => exact .address value
  | i8 value => exact .i8 value
  | u8 value => exact .u8 value
  | i16 value =>
    obtain ⟨high, low, hbytes, hvalue⟩ := BigEndian.exists_toBytes_two value.toUInt16.toNat_lt
    rw [encodeItem, hbytes]
    exact .i16 hvalue
  | u16 value =>
    obtain ⟨high, low, hbytes, hvalue⟩ := BigEndian.exists_toBytes_two value.toNat_lt
    rw [encodeItem, hbytes]
    exact .u16 hvalue
  | i32 value =>
    obtain ⟨payload, hbytes, hpos, hmost, hvalue⟩ :=
      hfour 0x03 (by simp) value.toUInt32.toNat value.toUInt32.toNat_lt
    rw [encodeItem, hbytes]
    exact .i32 hpos hmost hvalue
  | u32 value =>
    obtain ⟨payload, hbytes, hpos, hmost, hvalue⟩ := hfour 0x43 (by simp) value.toNat value.toNat_lt
    rw [encodeItem, hbytes]
    exact .u32 hpos hmost hvalue
  | i64 value =>
    obtain ⟨payload, hbytes, hpos, hmost, hvalue⟩ :=
      height 0x04 (by simp) value.toUInt64.toNat value.toUInt64.toNat_lt
    rw [encodeItem, hbytes]
    exact .i64 hpos hmost hvalue
  | u64 value =>
    obtain ⟨payload, hbytes, hpos, hmost, hvalue⟩ :=
      height 0x05 (by simp) value.toNat value.toNat_lt
    rw [encodeItem, hbytes]
    exact .u64 hpos hmost hvalue
  | amount value =>
    obtain ⟨payload, hbytes, hpos, hmost, hvalue⟩ :=
      height 0x01 (by simp) value.toNat value.toNat_lt
    rw [encodeItem, hbytes]
    exact .amount hpos hmost hvalue

/-- No word is longer than an address behind its tag. -/
theorem length_le_of_spells {word : List UInt8} (h : Spells item word) : word.length ≤ 21 := by
  cases h with
  | address value => rw [List.length_cons, value.length_toList]
  | i32 _ hmost _ | u32 _ hmost _ | i64 _ hmost _ | u64 _ hmost _ | amount _ hmost _ =>
    rw [List.length_cons]
    omega
  | _ => simp

/-! ## Sequences -/

/-- Items that are written one after the other are a row of the words that stand for them. -/
theorem row_flatMap_encodeItem (items : List Immediate) :
    Row Spells items (items.flatMap encodeItem) := by
  induction items with
  | nil => exact .nil
  | cons item items ih => exact .cons (spells_encodeItem item) ih

/-- The marker of a count declares that count. -/
theorem markedCount?_marker : ∀ count < 24, markedCount? (marker count) = some count := by
  decide

/-- Up to twenty-three items are written, behind a marker if there are several. -/
theorem encode_of_le (h : items.length ≤ maxItems) :
    encode items = .ok (if items.length ≤ 1 then items.flatMap encodeItem
      else marker items.length :: items.flatMap encodeItem) :=
  if_pos h

/-- What is written is a sentence of the grammar. -/
theorem exists_encode_eq_ok (h : items.length ≤ maxItems) :
    ∃ bytes, encode items = .ok bytes ∧ Sentence items bytes := by
  refine ⟨_, encode_of_le h, ?_⟩
  match items, h with
  | [], _ => exact .nothing
  | [item], _ =>
    change Sentence [item] (encodeItem item ++ [])
    rw [List.append_nil]
    exact .alone (spells_encodeItem item)
  | first :: second :: items, h =>
    have hmany : ¬ (first :: second :: items).length ≤ 1 := by simp
    rw [if_neg hmany]
    exact .counted (markedCount?_eq_some_iff.1 (markedCount?_marker _ (Nat.lt_succ_of_le h)))
      (row_flatMap_encodeItem _)

/-- More items than a marker can declare are refused, with their count. -/
theorem encode_of_lt (h : maxItems < items.length) :
    encode items = .error (.tooManyItems items.length maxItems) :=
  if_neg (Nat.not_le.2 h)

/-- The count is all that there is to refuse. -/
theorem encode_eq_error_iff : encode items = .error error ↔
    maxItems < items.length ∧ error = .tooManyItems items.length maxItems := by
  rw [encode, Wire.ite_eq_error_iff, Nat.not_le]
  simp only [reduceCtorEq, and_false, false_or]

/-- What was written has no more items than a marker can declare. -/
theorem length_le_of_encode_eq_ok (h : encode items = .ok bytes) : items.length ≤ maxItems :=
  (Wire.ite_eq_ok_iff.1 h).1

/-- What was written is read back. -/
theorem decode_of_encode (h : encode items = .ok bytes) : decode bytes = .ok items := by
  by_cases hlength : items.length ≤ maxItems
  · obtain ⟨bytes', hencode, hsentence⟩ := exists_encode_eq_ok hlength
    obtain rfl : bytes = bytes' := by
      rw [h] at hencode
      exact Except.ok.inj hencode
    exact decode_eq_ok_iff.2 hsentence
  · rw [encode_of_lt (Nat.lt_of_not_le hlength)] at h
    cases h

/-- No item takes more bytes than an address with its tag. -/
theorem length_flatMap_encodeItem_le (items : List Immediate) :
    (items.flatMap encodeItem).length ≤ 21 * items.length := by
  induction items with
  | nil => exact Nat.le_refl 0
  | cons item items ih =>
    have hitem := length_le_of_spells (spells_encodeItem item)
    rw [List.flatMap_cons, List.length_append, List.length_cons]
    omega

/-- No sequence is longer than the longest items behind a marker. -/
theorem length_le_of_encode (h : encode items = .ok bytes) : bytes.length ≤ 1 + 21 * 23 := by
  unfold encode at h
  split at h
  · next hcount =>
    have hbody := length_flatMap_encodeItem_le items
    have hmost : 21 * items.length ≤ 21 * 23 := Nat.mul_le_mul_left 21 hcount
    cases h
    split
    · omega
    · rw [List.length_cons]
      omega
  · cases h

/-! ## Declared kinds -/

/-- Why an item does not fit a declaration: there is no kind of that name, or it is not the kind of
the item. -/
inductive Misfit : String → Immediate → EncodeError → Prop where
  | unknown {name : String} {item : Immediate} :
    (∀ kind : Kind, kind.name ≠ name) → Misfit name item (.unknownType name)
  | other {declared : Kind} {item : Immediate} :
    declared ≠ item.kind → Misfit declared.name item (.typeMismatch declared (.item item.kind))

/-- The leftmost item that does not fit, behind items that do. -/
inductive LeftmostMisfit : List String → List Immediate → EncodeError → Prop where
  | here {name : String} {names : List String} {item : Immediate} {items : List Immediate}
    {error : EncodeError} :
    Misfit name item error → LeftmostMisfit (name :: names) (item :: items) error
  | behind {names : List String} {item : Immediate} {items : List Immediate}
    {error : EncodeError} :
    LeftmostMisfit names items error →
    LeftmostMisfit (item.kind.name :: names) (item :: items) error

/-- Why a declared sequence is refused. The counts come first, then the items from the left. -/
inductive Refused (names : List String) (items : List Immediate) : EncodeError → Prop where
  | arity : names.length ≠ items.length →
    Refused names items (.arityMismatch names.length items.length)
  | misfit {error : EncodeError} : names.length = items.length →
    LeftmostMisfit names items error → Refused names items error
  | count : names = items.map (·.kind.name) → 23 < items.length →
    Refused names items (.tooManyItems items.length 23)

/-- A name that no kind has is unknown. -/
theorem Kind.ofName_of_unknown (h : ∀ kind : Kind, kind.name ≠ name) :
    Kind.ofName name = .error (.unknownType name) := by
  cases hfound : Kind.ofName? name with
  | none => simp [Kind.ofName, hfound]
  | some kind => exact absurd (Kind.name_of_ofName? hfound) (h kind)

/-- An item passes under the name of its own kind. -/
theorem checkDeclared_of_fits : checkDeclared item.kind.name item = .ok () := by
  simp [checkDeclared, pure, Except.pure, bind, Except.bind]

/-- An item that does not fit its declaration is refused for that reason. -/
theorem checkDeclared_of_misfit (h : Misfit name item error) :
    checkDeclared name item = .error error := by
  cases h with
  | unknown hnone => simp [checkDeclared, Kind.ofName_of_unknown hnone, bind, Except.bind]
  | other hne => simp [checkDeclared, hne, bind, Except.bind, throw, throwThe, MonadExceptOf.throw]

/-- An item fits its declaration, or there is a reason why it does not. -/
theorem fits_or_misfit (name : String) (item : Immediate) :
    name = item.kind.name ∨ ∃ error, Misfit name item error := by
  by_cases hknown : ∃ kind : Kind, kind.name = name
  · obtain ⟨kind, rfl⟩ := hknown
    by_cases hkind : kind = item.kind
    · exact .inl (congrArg Kind.name hkind)
    · exact .inr ⟨_, .other hkind⟩
  · exact .inr ⟨_, .unknown fun kind hkind => hknown ⟨kind, hkind⟩⟩

/-- The items, checked from the left. -/
def checkEach : List String → List Immediate → Except EncodeError Unit
  | name :: names, item :: items => checkDeclared name item >>= fun _ => checkEach names items
  | _, _ => .ok ()

/-- The loop over the declarations and the items is the check from the left. -/
theorem forIn_checkDeclared (names : List String) (items : List Immediate) :
    (forIn (names.zip items) PUnit.unit fun pair _ =>
      checkDeclared pair.1 pair.2 >>= fun _ => pure (ForInStep.yield PUnit.unit)) =
      checkEach names items := by
  induction names generalizing items with
  | nil => rfl
  | cons name names ih =>
    cases items with
    | nil => rfl
    | cons item items =>
      rw [List.zip_cons_cons, List.forIn_cons, checkEach]
      cases checkDeclared name item with
      | error error => rfl
      | ok fits => exact ih items

/-- Items pass under the names of their own kinds. -/
theorem checkEach_of_fits (items : List Immediate) :
    checkEach (items.map (·.kind.name)) items = .ok () := by
  induction items with
  | nil => rfl
  | cons item items ih =>
    rw [List.map_cons, checkEach, checkDeclared_of_fits]
    exact ih

/-- Where the counts agree, the items are checked and then written. -/
theorem encodeDeclared_of_length_eq (h : names.length = items.length) :
    encodeDeclared names items = checkEach names items >>= fun _ => encode items := by
  rw [← forIn_checkDeclared]
  exact if_neg (not_not_intro h)

/-- Under the names of their own kinds, items are written as they are without names. -/
theorem encodeDeclared_of_fits (items : List Immediate) :
    encodeDeclared (items.map (·.kind.name)) items = encode items := by
  rw [encodeDeclared_of_length_eq (List.length_map ..), checkEach_of_fits]
  rfl

/-- Counts that differ are refused before any item is looked at. -/
theorem encodeDeclared_of_length_ne (h : names.length ≠ items.length) :
    encodeDeclared names items = .error (.arityMismatch names.length items.length) :=
  if_pos h

/-- The leftmost item that does not fit decides what the complaint is. -/
theorem checkEach_of_leftmostMisfit (h : LeftmostMisfit names items error) :
    checkEach names items = .error error := by
  induction h with
  | here hmisfit =>
    rw [checkEach, checkDeclared_of_misfit hmisfit]
    rfl
  | behind _ ih =>
    rw [checkEach, checkDeclared_of_fits]
    exact ih

/-- As many names as items: all fit, or one is the leftmost that does not. -/
theorem fit_or_leftmostMisfit (h : names.length = items.length) :
    names = items.map (·.kind.name) ∨ ∃ error, LeftmostMisfit names items error := by
  induction names generalizing items with
  | nil =>
    obtain rfl := List.eq_nil_of_length_eq_zero h.symm
    exact .inl rfl
  | cons name names ih =>
    cases items with
    | nil => cases h
    | cons item items =>
      obtain rfl | ⟨error, hmisfit⟩ := fits_or_misfit name item
      · obtain rfl | ⟨error, hmisfit⟩ := ih (Nat.succ.inj h)
        · exact .inl rfl
        · exact .inr ⟨error, .behind hmisfit⟩
      · exact .inr ⟨error, .here hmisfit⟩

/-- A refused sequence is answered with the reason. -/
theorem encodeDeclared_of_refused (h : Refused names items error) :
    encodeDeclared names items = .error error := by
  cases h with
  | arity hne => exact encodeDeclared_of_length_ne hne
  | misfit heq hmisfit =>
    rw [encodeDeclared_of_length_eq heq, checkEach_of_leftmostMisfit hmisfit]
    rfl
  | count hfit hlt =>
    subst hfit
    rw [encodeDeclared_of_fits]
    exact encode_of_lt hlt

/-- A sequence is as declared and short enough, or there is a reason to refuse it. -/
theorem fits_or_refused (names : List String) (items : List Immediate) :
    names = items.map (·.kind.name) ∧ items.length ≤ 23 ∨ ∃ error, Refused names items error := by
  by_cases hlength : names.length = items.length
  · obtain hfit | ⟨error, hmisfit⟩ := fit_or_leftmostMisfit hlength
    · by_cases hcount : items.length ≤ 23
      · exact .inl ⟨hfit, hcount⟩
      · exact .inr ⟨_, .count hfit (Nat.lt_of_not_le hcount)⟩
    · exact .inr ⟨error, .misfit hlength hmisfit⟩
  · exact .inr ⟨_, .arity hlength⟩

/-- **Calldata is read back as it was written.** Items are written exactly if a marker can count
them, and then they are read back. With declared kinds the bytes are the same, and are written
exactly if the kinds are those of the items; otherwise the answer is the one reason to refuse. -/
theorem encode_round_trip (names : List String) (items : List Immediate) :
    (items.length ≤ 23 ∧ (∃ bytes, encode items = .ok bytes ∧ decode bytes = .ok items) ∨
      23 < items.length ∧ encode items = .error (.tooManyItems items.length 23)) ∧
    (∀ bytes, encodeDeclared names items = .ok bytes ↔
      names = items.map (·.kind.name) ∧ items.length ≤ 23 ∧ encode items = .ok bytes) ∧
    (∀ error, encodeDeclared names items = .error error ↔ Refused names items error) := by
  refine ⟨?_, fun bytes => ⟨fun h => ?_, ?_⟩, fun error => ⟨fun h => ?_, encodeDeclared_of_refused⟩⟩
  · by_cases hcount : items.length ≤ 23
    · obtain ⟨bytes, hencode, -⟩ := exists_encode_eq_ok hcount
      exact .inl ⟨hcount, bytes, hencode, decode_of_encode hencode⟩
    · exact .inr ⟨Nat.lt_of_not_le hcount, encode_of_lt (Nat.lt_of_not_le hcount)⟩
  · obtain ⟨rfl, hcount⟩ | ⟨error, hrefused⟩ := fits_or_refused names items
    · rw [encodeDeclared_of_fits] at h
      exact ⟨rfl, hcount, h⟩
    · rw [encodeDeclared_of_refused hrefused] at h
      cases h
  · rintro ⟨rfl, -, hencode⟩
    rw [encodeDeclared_of_fits, hencode]
  · obtain ⟨rfl, hcount⟩ | ⟨error', hrefused⟩ := fits_or_refused names items
    · obtain ⟨bytes, hencode, -⟩ := exists_encode_eq_ok hcount
      rw [encodeDeclared_of_fits, hencode] at h
      cases h
    · rw [encodeDeclared_of_refused hrefused] at h
      cases h
      exact hrefused

end HostBridge.Calldata
