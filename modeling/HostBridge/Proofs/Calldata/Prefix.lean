import HostBridge.Proofs.Calldata.Grammar
import HostBridge.Proofs.Wire.Stream

/-!
# Calldata that is cut or prolonged

An item is read from its front to its end and no byte behind it is looked at, so no calldata begins
other calldata (`decode_prefixFree`). Where an item is cut it can be completed, as its tag says how
long it is, and the items that a marker still waits for can be any.
-/

namespace HostBridge.Calldata

/-- What bytes at the place of an item are refused, and why: there are none, no item has this tag,
or the payload is too short. -/
inductive NoItem : List UInt8 → DecodeError → Prop where
  | nothing : NoItem [] (.unexpectedEof 1 0)
  | tag {tag : UInt8} {rest : List UInt8} : tag ∉ itemTags → NoItem (tag :: rest) (.invalidValue tag)
  | payload {tag : UInt8} {kind : Kind} {width : Nat} {payload : List UInt8} :
    Selects tag kind width → payload.length < width →
    NoItem (tag :: payload) (.unexpectedEof width payload.length)

/-- The flaw that calldata can have: a tag that no item has. -/
def UnknownTag (error : DecodeError) : Prop := ∃ tag, error = .invalidValue tag

variable {tag : UInt8} {bytes : List UInt8} {error : DecodeError}

/-! ## Items -/

/-- All that a tag is refused for is that no item has it. -/
theorem select_eq_error_iff :
    select tag = .error error ↔ tag ∉ itemTags ∧ error = .invalidValue tag := by
  have herror : ∀ found, select tag = .error found → found = .invalidValue tag := by
    grind [select]
  cases hselect : select tag with
  | ok selected =>
    have hmem : tag ∈ itemTags := mem_itemTags_of_selects (selects_of_select hselect)
    constructor
    · rintro ⟨⟩
    · rintro ⟨hnot, -⟩
      exact absurd hmem hnot
  | error found =>
    obtain rfl := herror found hselect
    have hmem : tag ∉ itemTags := by
      intro hmem
      have hok := isOk_select tag hmem
      rw [hselect] at hok
      cases hok
    rw [Except.error.injEq, eq_comm, and_iff_right hmem]

/-- `read_immediate` stops at the end of an item, and has a reason for what it refuses: an unknown tag,
or bytes that are missing. -/
theorem streams_readItem : readItem.Streams Spells NoItem UnknownTag where
  obeys := obeys_readItem
  refuses := by
    unfold readItem
    refine (Read.Refuses.bind Read.obeys_u8 .u8 fun tag => .bind (.lift (select tag))
      (.lift (select tag)) fun selected =>
        (Read.Refuses.bytes selected.2).bind_pure (itemOfPayload selected.1 tag)).mono
      fun bytes error => ⟨?_, fun h => ?_⟩
    · rintro (⟨rfl, rfl⟩ | ⟨tag, _, rest, rfl, rfl, hselect | ⟨⟨kind, width⟩, _, payload,
        ⟨hselect, rfl⟩, rfl, hlt, rfl⟩⟩)
      · exact .nothing
      · obtain ⟨hmem, rfl⟩ := select_eq_error_iff.1 hselect
        exact .tag hmem
      · exact .payload (selects_of_select hselect) hlt
    · cases h with
      | nothing => exact .inl ⟨rfl, rfl⟩
      | tag hmem => exact .inr ⟨_, _, _, rfl, rfl, .inl (select_eq_error_iff.2 ⟨hmem, rfl⟩)⟩
      | payload hselects hlt =>
        exact .inr ⟨_, _, _, rfl, rfl, .inr ⟨_, [], _, ⟨select_of_selects hselects, rfl⟩, rfl, hlt,
          rfl⟩⟩
  reason := by
    intro bytes error h
    cases h with
    | nothing => exact .cut (.bool false) [0x00] Nat.one_pos .no
    | tag hmem => exact .flaw ⟨_, rfl⟩ fun more => .tag hmem
    | @payload tag kind width payload hselects hlt =>
      refine .cut (itemOfPayload kind tag (payload ++ List.replicate (width - payload.length) 0))
        (List.replicate (width - payload.length) 0) hlt (spells_of_selects ?_)
      rwa [List.length_append, List.length_replicate, Nat.add_sub_of_le (Nat.le_of_lt hlt)]

/-! ## Sequences -/

/-- Behind a first byte, the items that it announces begin no longer row of items. -/
theorem prefixFree_readItems (first : UInt8) (bytes : List UInt8) :
    PrefixFree (readItems first).all UnknownTag bytes := by
  have hflaw : ∀ expected given, ¬ UnknownTag (.unexpectedEof expected given) := by
    rintro _ _ ⟨_, ⟨⟩⟩
  have hitems := streams_readItem.replicate Spells.no
  unfold readItems
  cases markedCount? first with
  | some count =>
    have hcount : ∃ items word, items.length = count ∧ Row Spells items word :=
      ⟨_, _, List.length_replicate, .replicate Spells.no count⟩
    exact (Read.Streams.u8.bind (fun _ => hitems count) fun _ => hcount).prefixFree hflaw bytes
  | none => exact (hitems 1).prefixFree hflaw bytes

/-- **No calldata begins other calldata.** Whatever is behind items that can be read is left over;
a tag that no item has is told whatever comes behind it, and so is where the items end in front of
bytes that are left over. Bytes are missing, fewer than the item needs, just where more of them
would make calldata. -/
theorem decode_prefixFree (h : bytes ≠ []) :
    PrefixFree decode UnknownTag bytes := by
  cases bytes with
  | nil => exact absurd rfl h
  | cons first rest =>
    have hitems := prefixFree_readItems first (first :: rest)
    exact ⟨hitems.prolonged, hitems.cut_iff⟩

/-- Two items behind a marker for three, the second of which is cut. -/
theorem prefixFree_of_cut :
    [0x36, 0x20, 0x33, 0, 0] ≠ ([] : List UInt8) ∧
    decode [0x36, 0x20, 0x33, 0, 0] = .error (.unexpectedEof 4 2) ∧
    PrefixFree decode UnknownTag [0x36, 0x20, 0x33, 0, 0] :=
  ⟨nofun, rfl, decode_prefixFree nofun⟩

end HostBridge.Calldata
