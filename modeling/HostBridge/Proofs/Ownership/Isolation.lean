import HostBridge.Proofs.Ownership.Actions

/-!
# Isolation

Buffers and copies do not touch one another. After every run, each has the bytes that were told of
it and each view of a buffer shows them (`Holdings.run_isolated`), however the blocks lie in memory.
What can be done next takes effect, so the bytes that are told of a longer run are known as well.
-/

namespace HostBridge.Holdings

variable {history : List Event} {holdings : Holdings} {number : Nat}

/-- A range does not run past a limit just if its end, in machine words, lies between its start and
the limit. -/
theorem end_le_iff_words {offset length limit : Nat} (hoffset : offset < UInt64.size)
    (hlength : length < UInt64.size) (hlimit : limit < UInt64.size) :
    offset + length ≤ limit ↔ offset ≤ (offset + length) % UInt64.size ∧
      (offset + length) % UInt64.size ≤ limit := by
  unfold UInt64.size at *
  omega

/-- Everything has bytes of its own, which change by what is written to it and by nothing else. -/
structure Isolated (history : List Event) (holdings : Holdings) : Prop where
  /-- What is not released has the bytes that it came up with, under the writes made to it. -/
  bytes?_eq : ∀ number, holdings.bytes? number = told history number
  /-- A buffer and all views of it have these bytes, and show them in every way to read them. -/
  views_eq : ∀ number buffer, holdings.buffer? number = some buffer →
    ∃ bytes, told history number = some bytes ∧
      ∀ view, view = buffer.raw ∨ (number, view) ∈ holdings.views →
        holdings.boundary.contents view = bytes ∧
          (¬ Hollow history number → holdings.boundary.Shows view bytes)
  /-- A write is done just if it does not run past the end. -/
  write_done_iff : ∀ number offset patch bytes, told history number = some bytes →
    (∀ buffer, holdings.item number ≠ .away buffer) →
      ((holdings.perform (.write number offset patch)).1 = .done ↔
        offset + patch.length ≤ bytes.length)
  /-- In machine words the end of a range may wrap around. It lies before the start then, and the
  write is not done either. -/
  write_done_iff_words : ∀ number offset patch bytes, told history number = some bytes →
    (∀ buffer, holdings.item number ≠ .away buffer) → offset < UInt64.size →
      patch.length < UInt64.size → bytes.length < UInt64.size →
        ((holdings.perform (.write number offset patch)).1 = .done ↔
          offset ≤ (offset + patch.length) % UInt64.size ∧
            (offset + patch.length) % UInt64.size ≤ bytes.length)
  /-- A write that is not done changes nothing. -/
  write_refused : ∀ number offset patch,
    (holdings.perform (.write number offset patch)).1 ≠ .done →
      holdings.perform (.write number offset patch) = (.refused, holdings)
  /-- A write changes nothing under another number, done or not. -/
  write_apart : ∀ number offset patch other, other ≠ number →
    (holdings.perform (.write number offset patch)).2.bytes? other = holdings.bytes? other
  /-- What can be done takes effect. -/
  effect : ∀ action, holdings.Feasible action →
    Effect holdings action (holdings.perform action)
  /-- What cannot be done is refused and changes nothing. -/
  refused : ∀ action, ¬ holdings.Feasible action →
    holdings.perform action = (.refused, holdings)
  /-- No allocator has ever objected. -/
  unbroken : ∀ action violation, (action, .breach violation) ∉ history

namespace Kept

/-- What is in the host's hands is written to just if there is room. -/
theorem write_done_iff_le (h : Kept history holdings) {bytes : List UInt8}
    (hbytes : told history number = some bytes)
    (haway : ∀ buffer, holdings.item number ≠ .away buffer) (offset : Nat) (patch : List UInt8) :
    (holdings.perform (.write number offset patch)).1 = .done ↔
      offset + patch.length ≤ bytes.length := by
  have hopen : (holdings.item number).open? holdings.boundary = some bytes :=
    ((h.stands number).open?_eq haway).trans hbytes
  rw [h.write_done_iff]
  constructor
  · rintro ⟨before, hbefore, hle⟩
    obtain rfl := Option.some.inj (hopen.symm.trans hbefore)
    exact hle
  · exact fun hle => ⟨bytes, hopen, hle⟩

/-- The bytes under another number are as they were after a write, done or not. -/
theorem bytes?_write (h : Kept history holdings) (offset : Nat) (patch : List UInt8) {other : Nat}
    (hne : other ≠ number) :
    (holdings.perform (.write number offset patch)).2.bytes? other = holdings.bytes? other := by
  by_cases hfeasible : holdings.Feasible (.write number offset patch)
  · have hdone := h.done hfeasible
    have hafter := (hdone.kept.stands other).bytes?_eq
    rw [hdone.effect.outcome_write] at hafter
    exact (hafter.trans (Function.update_of_ne hne ..)).trans (h.stands other).bytes?_eq.symm
  · rw [perform_of_not_feasible hfeasible]

/-- What the invariant comes to for those who read and write. -/
theorem isolated (h : Kept history holdings) : Isolated history holdings where
  bytes?_eq number := (h.stands number).bytes?_eq
  views_eq number buffer hbuffer := by
    obtain ⟨bytes, hbytes, hbacks⟩ := (h.stands number).backs hbuffer
    refine ⟨bytes, hbytes, fun view hview => ?_⟩
    obtain rfl : view = buffer.raw := by
      rcases hview with rfl | hmem
      · rfl
      · exact (h.view_eq _ hmem buffer hbuffer).symm
    exact ⟨hbacks.contents_eq, fun hhollow =>
      Boundary.shows_iff.2 ⟨hbacks.contents_eq, h.length_eq hbuffer hhollow hbacks⟩⟩
  write_done_iff _ offset patch _ hbytes haway := h.write_done_iff_le hbytes haway offset patch
  write_done_iff_words _ offset patch _ hbytes haway hoffset hpatch hlength :=
    (h.write_done_iff_le hbytes haway offset patch).trans (end_le_iff_words hoffset hpatch hlength)
  write_refused number offset patch hne :=
    perform_of_not_feasible fun hfeasible => hne (h.write_done_iff.2 hfeasible)
  write_apart number offset patch other hne := h.bytes?_write offset patch hne
  effect action hfeasible := (h.done hfeasible).effect
  refused action hnot := perform_of_not_feasible hnot
  unbroken := h.unbroken

end Kept

/-- **Buffers and copies are isolated.** Whatever is done, in any order and wherever the blocks go:
everything has the bytes that it came up with, under the writes made to it, every view of a buffer
shows what the buffer has, and the next action takes effect where it can be done. -/
theorem run_isolated (placement : Placement) (actions : List Action) :
    Isolated (run placement actions).1 (run placement actions).2 :=
  (kept_run placement actions).isolated

/-- A copy, a clone and a view of one buffer, which then is written to, and once past its end. -/
example :
    let holdings := (run .ascending [.ofBytes .host [1, 2, 3], .copy 0, .cloneInto 0 .vm, .view 0,
      .write 0 1 [7], .write 0 2 [8, 9]]).2
    (holdings.bytes? 0, holdings.bytes? 1, holdings.bytes? 2) =
        (some [1, 7, 3], some [1, 2, 3], some [1, 2, 3]) ∧
      holdings.views.map (holdings.boundary.lookAll ·.2) = [[1, 7, 3]] := by
  decide

end HostBridge.Holdings
