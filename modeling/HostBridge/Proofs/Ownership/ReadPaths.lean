import HostBridge.Proofs.Ownership.Actions

/-!
# Ways to read a buffer

A buffer is read by copying it, as a whole, byte by byte, or by its length. `Holdings.run_reads`
says that these agree for every buffer that the host can come to hold, but for one kind. A null
buffer may be taken over with any length, and this length is what is said of it and what its places
are checked against, though it has no bytes.
-/

namespace HostBridge

variable {boundary : Boundary} {raw : RawBuffer}

namespace Boundary

/-- A null buffer shows what it has, which is nothing, just if it claims nothing. -/
theorem shows_nil_iff (h : raw.isNull = true) : boundary.Shows raw [] ↔ raw.length = 0 := by
  rw [shows_iff, contents_of_isNull h]
  simp

/-- Where a null buffer claims a byte, there is nothing to see. -/
theorem look_of_isNull (h : raw.isNull = true) {index : Nat} (hindex : index < raw.length) :
    boundary.look raw index = .nothing := by
  rw [look, contents_of_isNull h, if_neg (by omega)]
  rfl

end Boundary

namespace Holdings

variable {history : List Event} {holdings : Holdings} {number : Nat} {buffer : Buffer}

/-- How the buffer under a number can be read, if `bytes` are what a copy of it has. -/
inductive ReadPaths (history : List Event) (boundary : Boundary) (number : Nat) (raw : RawBuffer)
    (bytes : List UInt8) : Prop where
  /-- All other ways show the same bytes. -/
  | agree : boundary.Shows raw bytes → ReadPaths history boundary number raw bytes
  /-- There are no bytes. But some are claimed, and to look at one of them is to look where nothing
  is. -/
  | hollow : Hollow history number → raw.isNull = true → 0 < raw.length →
      bytes = [] → boundary.contents raw = [] →
      (∀ index, index < raw.length → boundary.look raw index = .nothing) →
      ReadPaths history boundary number raw bytes

/-- A copy of a buffer has what stands behind the buffer. -/
theorem perform_copy {bytes : List UInt8} (h : holdings.item number = .held buffer)
    (hbacks : holdings.boundary.Backs buffer bytes) :
    holdings.perform (.copy number) = holdings.add holdings.boundary (.copy bytes) := by
  simp only [perform, h, Buffer.contents, hbacks.contents_eq]

/-- All ways to read a buffer show what stands behind it, unless the buffer is hollow. -/
theorem Kept.readPaths (h : Kept history holdings) {bytes : List UInt8}
    (hbuffer : holdings.buffer? number = some buffer)
    (hbacks : holdings.boundary.Backs buffer bytes) :
    ReadPaths history holdings.boundary number buffer.raw bytes := by
  have hcontents := hbacks.contents_eq
  by_cases hhollow : Hollow history number
  · cases hbacks with
    | block _ _ hlength => exact .agree (Boundary.shows_iff.2 ⟨hcontents, hlength⟩)
    | null hnull =>
      rcases Nat.eq_zero_or_pos buffer.raw.length with hzero | hpos
      · exact .agree ((Boundary.shows_nil_iff hnull).2 hzero)
      · exact .hollow hhollow hnull hpos rfl hcontents fun _ => Boundary.look_of_isNull hnull
  · exact .agree (Boundary.shows_iff.2 ⟨hcontents, h.length_eq hbuffer hhollow hbacks⟩)

/-- **All ways to read a buffer agree**, whatever was done before, unless the buffer is a null
buffer that was taken over with a length. -/
theorem run_reads (placement : Placement) (actions : List Action)
    (h : (run placement actions).2.item number = .held buffer) :
    ∃ bytes,
      (run placement actions).2.perform (.copy number) =
        (run placement actions).2.add (run placement actions).2.boundary (.copy bytes) ∧
      ReadPaths (run placement actions).1 (run placement actions).2.boundary number buffer.raw
        bytes := by
  have hkept := kept_run placement actions
  have hbuffer := buffer?_of_item h
  obtain ⟨bytes, -, hbacks⟩ := (hkept.stands number).backs hbuffer
  exact ⟨bytes, perform_copy h hbacks, hkept.readPaths hbuffer hbacks⟩

/-- A buffer of the VM's that was written to. -/
theorem reads_of_written :
    let past := run .ascending [.ofBytes .vm [5, 6], .write 0 1 [7]]
    past.2.item 0 = .held ⟨.vm, ⟨1, 2, 2⟩⟩ ∧
      ∃ bytes,
        past.2.perform (.copy 0) = past.2.add past.2.boundary (.copy bytes) ∧
        ReadPaths past.1 past.2.boundary 0 ⟨1, 2, 2⟩ bytes := by
  intro past
  have hitem : past.2.item 0 = .held ⟨.vm, ⟨1, 2, 2⟩⟩ := rfl
  exact ⟨hitem, run_reads .ascending [.ofBytes .vm [5, 6], .write 0 1 [7]] hitem⟩

/-- A null buffer that is taken over with the length seven has no bytes, claims to have some, and is
looked at where nothing is. -/
theorem reads_of_null :
    let holdings := (run .ascending [.adoptNull 7 0]).2
    holdings.item 0 = .held ⟨.vm, ⟨0, 7, 0⟩⟩ ∧
      holdings.boundary.contents ⟨0, 7, 0⟩ = [] ∧
      RawBuffer.isEmpty ⟨0, 7, 0⟩ = false ∧
      holdings.boundary.look ⟨0, 7, 0⟩ 0 = .nothing ∧
      ¬ ∃ bytes, holdings.boundary.Shows ⟨0, 7, 0⟩ bytes :=
  ⟨rfl, rfl, rfl, rfl, fun ⟨_, hshows⟩ => hshows.look_ne_nothing 0 rfl⟩

end Holdings

end HostBridge
