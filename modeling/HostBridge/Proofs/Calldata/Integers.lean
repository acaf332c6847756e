import HostBridge.Proofs.Calldata.RoundTrip

/-!
# Integers as calldata

A caller may hand over bare integers with the names of the kinds that they are meant to have. An
integer is an item of a kind exactly if that item is of the kind and stands for the integer
(`itemOf_eq_ok_iff`), so nothing is cut off and no sign is lost on the way there, and calldata that
is read back tells the integers that went in (`encodeInts_faithful`).
-/

namespace HostBridge.Calldata

variable {kind : Kind} {item : Immediate} {items : List Immediate} {name : String}
  {names : List String} {value : Int} {values : List Int} {error : EncodeError}

/-! ## Ranges -/

/-- The least and the greatest number of a kind. The unit and addresses are no numbers. -/
def Kind.range? : Kind → Option (Int × Int)
  | .bool => some (0, 1)
  | .unit => none
  | .address => none
  | .i8 => some (-128, 127)
  | .u8 => some (0, 255)
  | .i16 => some (-32768, 32767)
  | .u16 => some (0, 65535)
  | .i32 => some (-2147483648, 2147483647)
  | .u32 => some (0, 4294967295)
  | .i64 => some (-9223372036854775808, 9223372036854775807)
  | .u64 => some (0, 18446744073709551615)
  | .amount => some (0, 18446744073709551615)

/-- Whether a kind has a number. -/
inductive Kind.Holds (kind : Kind) (value : Int) : Prop where
  | within {least greatest : Int} :
    kind.range? = some (least, greatest) → least ≤ value → value ≤ greatest → Holds kind value

/-- The kind of that name has the number. -/
def Declares (name : String) (value : Int) : Prop :=
  ∃ kind : Kind, kind.name = name ∧ kind.Holds value

/-- Why an integer is no item of the kind of that name. -/
inductive Unfit : String → Int → EncodeError → Prop where
  | unknown {name : String} {value : Int} :
    (∀ kind : Kind, kind.name ≠ name) → Unfit name value (.unknownType name)
  | noNumber {kind : Kind} {value : Int} :
    kind.range? = none → Unfit kind.name value (.typeMismatch kind .integer)
  | outOfRange {kind : Kind} {value least greatest : Int} :
    kind.range? = some (least, greatest) → value < least ∨ greatest < value →
    Unfit kind.name value (.outOfRange kind value)

/-- Why integers are refused. The counts come first, then the leftmost integer that does not fit,
then the count of all that fit. -/
inductive IntsRefused (names : List String) (values : List Int) : EncodeError → Prop where
  | arity : names.length ≠ values.length →
    IntsRefused names values (.arityMismatch names.length values.length)
  | unfit {front back : List (String × Int)} {name : String} {value : Int} {error : EncodeError} :
    names.length = values.length → names.zip values = front ++ (name, value) :: back →
    (∀ pair ∈ front, Declares pair.1 pair.2) → Unfit name value error →
    IntsRefused names values error
  | count : names.length = values.length → (∀ pair ∈ names.zip values, Declares pair.1 pair.2) →
    23 < values.length → IntsRefused names values (.tooManyItems values.length 23)

/-! ## One integer -/

/-- Kinds are told apart by their names. -/
theorem Kind.name_inj {kind other : Kind} : kind.name = other.name ↔ kind = other := by
  refine ⟨fun h => ?_, fun h => congrArg Kind.name h⟩
  have hname := Kind.ofName?_name kind
  rw [h, Kind.ofName?_name] at hname
  exact (Option.some.inj hname).symm

/-- The items of a kind are the numbers from `least` to `greatest`, in the type `α`. -/
structure Kind.Numbers {α : Type} (kind : Kind) (make : α → Immediate) (ofInt : Int → α)
    (toInt : α → Int) (least greatest : Int) : Prop where
  range_eq : kind.range? = some (least, greatest)
  ofInt_eq : ∀ value, kind.ofInt value =
    if least ≤ value ∧ value ≤ greatest then .ok (make (ofInt value))
    else .error (.outOfRange kind value)
  exists_eq : ∀ item : Immediate, item.kind = kind → ∃ a, item = make a
  kind_make : ∀ a, (make a).kind = kind
  toInt_make : ∀ a, (make a).toInt? = some (toInt a)
  within : ∀ a, least ≤ toInt a ∧ toInt a ≤ greatest
  toInt_ofInt : ∀ value, least ≤ value → value ≤ greatest → toInt (ofInt value) = value
  ofInt_toInt : ∀ a, ofInt (toInt a) = a

/-- A kind of numbers in two's complement. -/
theorem Kind.numbers_signed {α : Type} {make : α → Immediate} {ofInt : Int → α} {toInt : α → Int}
    {half : Int} (hrange : kind.range? = some (-half, half - 1))
    (hofInt : ∀ value, kind.ofInt value = if -half ≤ value ∧ value ≤ half - 1
      then .ok (make (ofInt value)) else .error (.outOfRange kind value))
    (hexists : ∀ item : Immediate, item.kind = kind → ∃ a, item = make a)
    (hkind : ∀ a, (make a).kind = kind) (htoInt : ∀ a, (make a).toInt? = some (toInt a))
    (hle : ∀ a, -half ≤ toInt a) (hlt : ∀ a, toInt a < half)
    (hround : ∀ {value}, -half ≤ value → value < half → toInt (ofInt value) = value)
    (hback : ∀ a, ofInt (toInt a) = a) :
    kind.Numbers make ofInt toInt (-half) (half - 1) where
  range_eq := hrange
  ofInt_eq := hofInt
  exists_eq := hexists
  kind_make := hkind
  toInt_make := htoInt
  within a := ⟨hle a, Int.le_sub_one_of_lt (hlt a)⟩
  toInt_ofInt _ hleast hgreatest := hround hleast (Int.lt_of_le_sub_one hgreatest)
  ofInt_toInt := hback

/-- A kind of numbers from zero on. -/
theorem Kind.numbers_unsigned {α : Type} {make : α → Immediate} {ofNat : Nat → α} {toNat : α → Nat}
    {size : Nat} (hrange : kind.range? = some (0, (size : Int) - 1))
    (hofInt : ∀ value, kind.ofInt value = if 0 ≤ value ∧ value ≤ (size : Int) - 1
      then .ok (make (ofNat value.toNat)) else .error (.outOfRange kind value))
    (hexists : ∀ item : Immediate, item.kind = kind → ∃ a, item = make a)
    (hkind : ∀ a, (make a).kind = kind) (htoInt : ∀ a, (make a).toInt? = some (toNat a : Int))
    (hlt : ∀ a, toNat a < size) (hround : ∀ {n}, n < size → toNat (ofNat n) = n)
    (hback : ∀ a, ofNat (toNat a) = a) :
    kind.Numbers make (fun value => ofNat value.toNat) (fun a => toNat a) 0 (size - 1) where
  range_eq := hrange
  ofInt_eq := hofInt
  exists_eq := hexists
  kind_make := hkind
  toInt_make := htoInt
  within a := ⟨Int.natCast_nonneg _, Int.le_sub_one_of_lt (Int.ofNat_lt.2 (hlt a))⟩
  toInt_ofInt value hleast hgreatest := by
    rw [hround (by omega : value.toNat < size), Int.toNat_of_nonneg hleast]
  ofInt_toInt a := by rw [Int.toNat_natCast, hback]

/-- Truth values are the numbers zero and one. -/
theorem Kind.numbers_bool : Kind.bool.Numbers Immediate.bool (fun value => value ≠ 0)
    (fun truth => if truth then 1 else 0) 0 1 where
  range_eq := rfl
  ofInt_eq _ := rfl
  exists_eq item h := by
    cases item <;> cases h
    exact ⟨_, rfl⟩
  kind_make _ := rfl
  toInt_make _ := rfl
  within := by decide
  toInt_ofInt value hleast hgreatest := by
    rcases (by omega : value = 0 ∨ value = 1) with rfl | rfl <;> rfl
  ofInt_toInt := by decide

/-- A kind of number, or one whose items stand for none. -/
theorem Kind.numbers_or_none (kind : Kind) :
    (∃ (α : Type) (make : α → Immediate) (ofInt : Int → α) (toInt : α → Int) (least greatest : Int),
      kind.Numbers make ofInt toInt least greatest) ∨
    kind.range? = none ∧ (∀ value, kind.ofInt value = .error (.typeMismatch kind .integer)) ∧
      ∀ item : Immediate, item.kind = kind → item.toInt? = none := by
  cases kind with
  | bool => exact .inl ⟨Bool, .bool, _, _, 0, 1, Kind.numbers_bool⟩
  | unit | address =>
    refine .inr ⟨rfl, fun _ => rfl, fun item h => ?_⟩
    cases item <;> cases h
    rfl
  | i8 =>
    exact .inl ⟨Int8, .i8, Int8.ofInt, Int8.toInt, _, _, Kind.numbers_signed rfl (fun _ => rfl)
      (fun item h => by cases item <;> cases h; exact ⟨_, rfl⟩) (fun _ => rfl) (fun _ => rfl)
      Int8.le_toInt Int8.toInt_lt Int8.toInt_ofInt_of_le Int8.ofInt_toInt⟩
  | u8 =>
    exact .inl ⟨UInt8, .u8, _, _, _, _, Kind.numbers_unsigned rfl (fun _ => rfl)
      (fun item h => by cases item <;> cases h; exact ⟨_, rfl⟩) (fun _ => rfl) (fun _ => rfl)
      UInt8.toNat_lt UInt8.toNat_ofNat_of_lt' (fun _ => UInt8.ofNat_toNat)⟩
  | i16 =>
    exact .inl ⟨Int16, .i16, Int16.ofInt, Int16.toInt, _, _, Kind.numbers_signed rfl (fun _ => rfl)
      (fun item h => by cases item <;> cases h; exact ⟨_, rfl⟩) (fun _ => rfl) (fun _ => rfl)
      Int16.le_toInt Int16.toInt_lt Int16.toInt_ofInt_of_le Int16.ofInt_toInt⟩
  | u16 =>
    exact .inl ⟨UInt16, .u16, _, _, _, _, Kind.numbers_unsigned rfl (fun _ => rfl)
      (fun item h => by cases item <;> cases h; exact ⟨_, rfl⟩) (fun _ => rfl) (fun _ => rfl)
      UInt16.toNat_lt UInt16.toNat_ofNat_of_lt' (fun _ => UInt16.ofNat_toNat)⟩
  | i32 =>
    exact .inl ⟨Int32, .i32, Int32.ofInt, Int32.toInt, _, _, Kind.numbers_signed rfl (fun _ => rfl)
      (fun item h => by cases item <;> cases h; exact ⟨_, rfl⟩) (fun _ => rfl) (fun _ => rfl)
      Int32.le_toInt Int32.toInt_lt Int32.toInt_ofInt_of_le Int32.ofInt_toInt⟩
  | u32 =>
    exact .inl ⟨UInt32, .u32, _, _, _, _, Kind.numbers_unsigned rfl (fun _ => rfl)
      (fun item h => by cases item <;> cases h; exact ⟨_, rfl⟩) (fun _ => rfl) (fun _ => rfl)
      UInt32.toNat_lt UInt32.toNat_ofNat_of_lt' (fun _ => UInt32.ofNat_toNat)⟩
  | i64 =>
    exact .inl ⟨Int64, .i64, Int64.ofInt, Int64.toInt, _, _, Kind.numbers_signed rfl (fun _ => rfl)
      (fun item h => by cases item <;> cases h; exact ⟨_, rfl⟩) (fun _ => rfl) (fun _ => rfl)
      Int64.le_toInt Int64.toInt_lt Int64.toInt_ofInt_of_le Int64.ofInt_toInt⟩
  | u64 =>
    exact .inl ⟨UInt64, .u64, _, _, _, _, Kind.numbers_unsigned rfl (fun _ => rfl)
      (fun item h => by cases item <;> cases h; exact ⟨_, rfl⟩) (fun _ => rfl) (fun _ => rfl)
      UInt64.toNat_lt UInt64.toNat_ofNat_of_lt' (fun _ => UInt64.ofNat_toNat)⟩
  | amount =>
    exact .inl ⟨UInt64, .amount, _, _, _, _, Kind.numbers_unsigned rfl (fun _ => rfl)
      (fun item h => by cases item <;> cases h; exact ⟨_, rfl⟩) (fun _ => rfl) (fun _ => rfl)
      UInt64.toNat_lt UInt64.toNat_ofNat_of_lt' (fun _ => UInt64.ofNat_toNat)⟩

/-- An integer is an item of a kind if that item stands for it, and only then. -/
theorem ofInt_eq_ok_iff :
    kind.ofInt value = .ok item ↔ item.kind = kind ∧ item.toInt? = some value := by
  rcases kind.numbers_or_none with ⟨α, make, ofInt, toInt, least, greatest, h⟩ | ⟨-, hofInt, hnone⟩
  · rw [h.ofInt_eq]
    constructor
    · intro hok
      obtain ⟨⟨hleast, hgreatest⟩, hitem⟩ := Wire.ite_eq_ok_iff.1 hok
      cases hitem
      exact ⟨h.kind_make _, by rw [h.toInt_make, h.toInt_ofInt value hleast hgreatest]⟩
    · rintro ⟨hkind, hvalue⟩
      obtain ⟨a, rfl⟩ := h.exists_eq item hkind
      rw [h.toInt_make, Option.some.injEq] at hvalue
      subst hvalue
      rw [if_pos (h.within a), h.ofInt_toInt]
  · rw [hofInt]
    constructor
    · intro hok
      cases hok
    · rintro ⟨hkind, hvalue⟩
      rw [hnone item hkind] at hvalue
      cases hvalue

/-- A kind has just the numbers that are items of it. -/
theorem exists_ofInt_iff : (∃ item, kind.ofInt value = .ok item) ↔ kind.Holds value := by
  rcases kind.numbers_or_none with ⟨α, make, ofInt, toInt, least, greatest, h⟩ | ⟨hrange, hofInt, -⟩
  · rw [h.ofInt_eq]
    refine ⟨fun hok => ?_, fun hholds => ?_⟩
    · obtain ⟨item, hitem⟩ := hok
      obtain ⟨⟨hleast, hgreatest⟩, -⟩ := Wire.ite_eq_ok_iff.1 hitem
      exact .within h.range_eq hleast hgreatest
    · obtain ⟨hrange, hleast, hgreatest⟩ := hholds
      cases h.range_eq.symm.trans hrange
      exact ⟨_, if_pos ⟨hleast, hgreatest⟩⟩
  · rw [hofInt]
    refine ⟨fun hok => ?_, fun hholds => ?_⟩
    · obtain ⟨item, hitem⟩ := hok
      cases hitem
    · obtain ⟨hrange', -, -⟩ := hholds
      cases hrange.symm.trans hrange'

/-- A complaint about an integer says why it is no item of the kind. -/
theorem unfit_of_ofInt (h : kind.ofInt value = .error error) : Unfit kind.name value error := by
  rcases kind.numbers_or_none with ⟨α, make, ofInt, toInt, least, greatest, hnum⟩ | ⟨hrange, hofInt, -⟩
  · rw [hnum.ofInt_eq] at h
    rcases Wire.ite_eq_error_iff.1 h with ⟨-, hok⟩ | ⟨hout, rfl⟩
    · cases hok
    · exact .outOfRange hnum.range_eq (by omega)
  · rw [hofInt] at h
    cases h
    exact .noNumber hrange

/-- Kinds without numbers have no item for any integer. -/
theorem ofInt_of_noNumber (h : kind.range? = none) :
    kind.ofInt value = .error (.typeMismatch kind .integer) := by
  rcases kind.numbers_or_none with ⟨α, make, ofInt, toInt, least, greatest, hnum⟩ | ⟨-, hofInt, -⟩
  · cases h.symm.trans hnum.range_eq
  · exact hofInt value

/-- An integer outside the range of its kind is refused. -/
theorem ofInt_of_outOfRange {least greatest : Int} (h : kind.range? = some (least, greatest))
    (hout : value < least ∨ greatest < value) :
    kind.ofInt value = .error (.outOfRange kind value) := by
  rcases kind.numbers_or_none with ⟨α, make, ofInt, toInt, least', greatest', hnum⟩ | ⟨hnone, -, -⟩
  · cases h.symm.trans hnum.range_eq
    rw [hnum.ofInt_eq, if_neg (by omega)]
  · cases h.symm.trans hnone

/-- The item of the kind of that name that stands for an integer. -/
def itemOf (name : String) (value : Int) : Except EncodeError Immediate :=
  Kind.ofName name >>= fun kind => kind.ofInt value

/-- Under the name of a kind, an integer becomes an item of that kind. -/
theorem itemOf_name : itemOf kind.name value = kind.ofInt value := by
  rw [itemOf, Kind.ofName_name]
  rfl

/-- There is no kind of that name, or one that all is asked of. -/
theorem exists_name_or_unknown (name : String) :
    (∃ kind : Kind, kind.name = name) ∨ ∀ kind : Kind, kind.name ≠ name := by
  by_cases h : ∃ kind : Kind, kind.name = name
  · exact .inl h
  · exact .inr fun kind hkind => h ⟨kind, hkind⟩

/-- Under any other name there is no item. -/
theorem itemOf_of_unknown (h : ∀ kind : Kind, kind.name ≠ name) :
    itemOf name value = .error (.unknownType name) := by
  rw [itemOf, Kind.ofName_of_unknown h]
  rfl

/-- The item that stands for an integer is the one of the named kind that has its number. -/
theorem itemOf_eq_ok_iff :
    itemOf name value = .ok item ↔ item.kind.name = name ∧ item.toInt? = some value := by
  rcases exists_name_or_unknown name with ⟨kind, rfl⟩ | hunknown
  · rw [itemOf_name, ofInt_eq_ok_iff, Kind.name_inj]
  · rw [itemOf_of_unknown hunknown]
    refine ⟨fun h => ?_, fun h => ?_⟩
    · cases h
    · exact absurd h.1 (hunknown _)

/-- There is such an item just if the named kind has the number. -/
theorem exists_itemOf_iff : (∃ item, itemOf name value = .ok item) ↔ Declares name value := by
  rcases exists_name_or_unknown name with ⟨kind, rfl⟩ | hunknown
  · rw [itemOf_name, exists_ofInt_iff]
    refine ⟨fun h => ⟨kind, rfl, h⟩, fun h => ?_⟩
    obtain ⟨kind', hname, hholds⟩ := h
    rwa [← Kind.name_inj.1 hname]
  · rw [itemOf_of_unknown hunknown]
    refine ⟨fun h => ?_, fun h => ?_⟩
    · obtain ⟨item, hitem⟩ := h
      cases hitem
    · obtain ⟨kind, hname, -⟩ := h
      exact absurd hname (hunknown kind)

/-- Where there is none, the complaint says why. -/
theorem itemOf_eq_error_iff : itemOf name value = .error error ↔ Unfit name value error := by
  refine ⟨fun h => ?_, fun h => ?_⟩
  · rcases exists_name_or_unknown name with ⟨kind, rfl⟩ | hunknown
    · rw [itemOf_name] at h
      exact unfit_of_ofInt h
    · rw [itemOf_of_unknown hunknown] at h
      cases h
      exact .unknown hunknown
  · cases h with
    | unknown hunknown => exact itemOf_of_unknown hunknown
    | noNumber hrange => rw [itemOf_name, ofInt_of_noNumber hrange]
    | outOfRange hrange hout => rw [itemOf_name, ofInt_of_outOfRange hrange hout]

/-! ## Integers in a row -/

/-- The items that stand for integers, each of the kind that is named for it. -/
def itemsOf (names : List String) (values : List Int) : Except EncodeError (List Immediate) :=
  (names.zip values).mapM fun pair => itemOf pair.1 pair.2

/-- Names and integers that are not equally many are refused before anything else. -/
theorem encodeInts_of_length_ne (h : names.length ≠ values.length) :
    encodeInts names values = .error (.arityMismatch names.length values.length) :=
  if_pos h

/-- Where they are equally many, all integers are made items, and the items are written. -/
theorem encodeInts_of_length_eq (h : names.length = values.length) :
    encodeInts names values = itemsOf names values >>= encode :=
  if_neg (not_not_intro h)

/-- As many names as integers: the items are those of the named kinds that stand for them. -/
theorem itemsOf_eq_ok_iff (h : names.length = values.length) : itemsOf names values = .ok items ↔
    items.map (·.kind.name) = names ∧ items.map (·.toInt?) = values.map some := by
  induction names generalizing values items with
  | nil =>
    obtain rfl := List.eq_nil_of_length_eq_zero h.symm
    cases items <;> simp [itemsOf, pure, Except.pure]
  | cons name names ih =>
    cases values with
    | nil => cases h
    | cons value values =>
    have ih := fun items => @ih items values (Nat.succ.inj h)
    have hstep : itemsOf (name :: names) (value :: values) = itemOf name value >>= fun item =>
        itemsOf names values >>= fun items => pure (item :: items) := by
      rw [itemsOf, List.zip_cons_cons, List.mapM_cons]
      rfl
    rw [hstep]
    refine ⟨fun hok => ?_, fun hitems => ?_⟩
    · obtain ⟨item, hitem, hok⟩ := Wire.exists_of_bind_eq_ok hok
      obtain ⟨rest, hrest, hok⟩ := Wire.exists_of_bind_eq_ok hok
      cases hok
      obtain ⟨hname, hvalue⟩ := itemOf_eq_ok_iff.1 hitem
      obtain ⟨hnames, hvalues⟩ := (ih rest).1 hrest
      simp [hname, hvalue, hnames, hvalues]
    · cases items with
      | nil => cases hitems.1
      | cons item rest =>
      obtain ⟨hname, hnames⟩ := List.cons.inj hitems.1
      obtain ⟨hvalue, hvalues⟩ := List.cons.inj hitems.2
      rw [itemOf_eq_ok_iff.2 ⟨hname, hvalue⟩, (ih rest).2 ⟨hnames, hvalues⟩]
      rfl

/-- All integers become items just if each of them is a number of the kind that is named for it. -/
theorem exists_itemsOf_iff : (∃ items, itemsOf names values = .ok items) ↔
    ∀ pair ∈ names.zip values, Declares pair.1 pair.2 := by
  simp only [itemsOf, Wire.exists_mapM_eq_ok_iff, exists_itemOf_iff]

/-- The leftmost integer that does not fit says why there are no items. -/
theorem itemsOf_eq_error_iff : itemsOf names values = .error error ↔
    ∃ front name value back, names.zip values = front ++ (name, value) :: back ∧
      (∀ pair ∈ front, Declares pair.1 pair.2) ∧ Unfit name value error := by
  simp only [itemsOf, Wire.mapM_eq_error_iff, exists_itemOf_iff, itemOf_eq_error_iff, Prod.exists]

/-- There are as many items as integers. -/
theorem length_of_map_toInt? (h : items.map (·.toInt?) = values.map some) :
    items.length = values.length := by
  simpa using congrArg List.length h

/-- Integers are written exactly as the items that they stand for. -/
theorem encodeInts_eq_ok_iff {bytes : List UInt8} : encodeInts names values = .ok bytes ↔
    ∃ items, items.map (·.kind.name) = names ∧ items.map (·.toInt?) = values.map some ∧
      encode items = .ok bytes := by
  by_cases hlength : names.length = values.length
  · rw [encodeInts_of_length_eq hlength]
    refine ⟨fun h => ?_, fun h => ?_⟩
    · obtain ⟨items, hitems, hencode⟩ := Wire.exists_of_bind_eq_ok h
      obtain ⟨hnames, hvalues⟩ := (itemsOf_eq_ok_iff hlength).1 hitems
      exact ⟨items, hnames, hvalues, hencode⟩
    · obtain ⟨items, hnames, hvalues, hencode⟩ := h
      rw [(itemsOf_eq_ok_iff hlength).2 ⟨hnames, hvalues⟩]
      exact hencode
  · rw [encodeInts_of_length_ne hlength]
    refine ⟨fun h => ?_, fun h => ?_⟩
    · cases h
    · obtain ⟨items, rfl, hvalues, -⟩ := h
      exact absurd ((List.length_map _).trans (length_of_map_toInt? hvalues)) hlength

/-- Integers are written if each of them fits, and a marker can count them. -/
theorem exists_encodeInts_iff : (∃ bytes, encodeInts names values = .ok bytes) ↔
    names.length = values.length ∧ (∀ pair ∈ names.zip values, Declares pair.1 pair.2) ∧
      values.length ≤ 23 := by
  rw [← exists_itemsOf_iff]
  refine ⟨fun h => ?_, fun h => ?_⟩
  · obtain ⟨bytes, hbytes⟩ := h
    obtain ⟨items, hnames, hvalues, hencode⟩ := encodeInts_eq_ok_iff.1 hbytes
    have hcount := length_of_map_toInt? hvalues
    have hlength : names.length = values.length := by rw [← hnames, List.length_map, hcount]
    refine ⟨hlength, ⟨items, (itemsOf_eq_ok_iff hlength).2 ⟨hnames, hvalues⟩⟩, ?_⟩
    exact hcount ▸ length_le_of_encode_eq_ok hencode
  · obtain ⟨hlength, ⟨items, hitems⟩, hle⟩ := h
    obtain ⟨hnames, hvalues⟩ := (itemsOf_eq_ok_iff hlength).1 hitems
    rw [← length_of_map_toInt? hvalues] at hle
    obtain ⟨bytes, hencode, -⟩ := exists_encode_eq_ok hle
    exact ⟨bytes, encodeInts_eq_ok_iff.2 ⟨items, hnames, hvalues, hencode⟩⟩

/-- There is one reason to refuse integers that cannot be written. -/
theorem encodeInts_eq_error_iff :
    encodeInts names values = .error error ↔ IntsRefused names values error := by
  by_cases hlength : names.length = values.length
  · rw [encodeInts_of_length_eq hlength, Wire.bind_eq_error_iff, itemsOf_eq_error_iff]
    refine ⟨fun h => ?_, fun h => ?_⟩
    · rcases h with ⟨front, name, value, back, hzip, hfront, hunfit⟩ | ⟨items, hitems, hencode⟩
      · exact .unfit hlength hzip hfront hunfit
      · obtain ⟨hlt, rfl⟩ := encode_eq_error_iff.1 hencode
        rw [length_of_map_toInt? ((itemsOf_eq_ok_iff hlength).1 hitems).2] at hlt ⊢
        exact .count hlength (exists_itemsOf_iff.1 ⟨items, hitems⟩) hlt
    · cases h with
      | arity hne => exact absurd hlength hne
      | unfit _ hzip hfront hunfit => exact .inl ⟨_, _, _, _, hzip, hfront, hunfit⟩
      | count _ hall hlt =>
        obtain ⟨items, hitems⟩ := exists_itemsOf_iff.2 hall
        have hcount := length_of_map_toInt? ((itemsOf_eq_ok_iff hlength).1 hitems).2
        refine .inr ⟨items, hitems, ?_⟩
        rw [← hcount] at hlt ⊢
        exact encode_of_lt hlt
  · rw [encodeInts_of_length_ne hlength]
    refine ⟨fun h => ?_, fun h => ?_⟩
    · cases h
      exact .arity hlength
    · cases h with
      | arity _ => rfl
      | unfit heq _ _ _ => exact absurd heq hlength
      | count heq _ _ => exact absurd heq hlength

/-- **Integers go through calldata unchanged.** They are written exactly if there are as many names
as integers, every integer is in the range of the kind that is named for it, and a marker can count
them. Read back, the bytes are items of just the named kinds that stand for just these integers, and
the same bytes are written of these items under the same names. Otherwise the answer is the one
reason to refuse. -/
theorem encodeInts_faithful (names : List String) (values : List Int) :
    ((∃ bytes, encodeInts names values = .ok bytes) ↔
      names.length = values.length ∧ (∀ pair ∈ names.zip values, Declares pair.1 pair.2) ∧
        values.length ≤ 23) ∧
    (∀ bytes, encodeInts names values = .ok bytes ↔
      ∃ items, items.map (·.kind.name) = names ∧ items.map (·.toInt?) = values.map some ∧
        decode bytes = .ok items ∧ encodeDeclared names items = .ok bytes) ∧
    (∀ error, encodeInts names values = .error error ↔ IntsRefused names values error) := by
  refine ⟨exists_encodeInts_iff, fun bytes => ?_, fun error => encodeInts_eq_error_iff⟩
  rw [encodeInts_eq_ok_iff]
  refine exists_congr fun items => and_congr_right fun hnames => and_congr_right fun _ => ?_
  subst hnames
  rw [encodeDeclared_of_fits]
  exact ⟨fun h => ⟨decode_of_encode h, h⟩, fun h => h.2⟩

end HostBridge.Calldata
