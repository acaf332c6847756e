/-!
# Big-endian numbers

A natural number as a fixed count of bytes, most significant first, and bytes read back as a
number. `ofBytes_toBytes` and `toBytes_ofBytes` say that the two are inverse at each width, and
`lt_of_minimalWidth` that `minimalWidth` leaves room for the number it measures.
-/

namespace HostBridge.BigEndian

/-- The low `width` bytes of `n`, most significant first. Higher bits are dropped. -/
def toBytes : Nat → Nat → List UInt8
  | 0, _ => []
  | width + 1, n => toBytes width (n / 256) ++ [UInt8.ofNat n]

/-- The number whose big-endian digits are `bytes`. -/
def ofBytes (bytes : List UInt8) : Nat :=
  bytes.foldl (fun n byte => n * 256 + byte.toNat) 0

/-- How many numbers `width` bytes can tell apart. -/
def capacity : Nat → Nat
  | 0 => 1
  | width + 1 => 256 * capacity width

/-- The fewest bytes that hold `n` (`minimal_width`); zero still takes one. -/
def minimalWidth (n : Nat) : Nat := n.log2 / 8 + 1

@[simp] theorem length_toBytes (width n : Nat) : (toBytes width n).length = width := by
  induction width generalizing n with
  | zero => rfl
  | succ width ih => simp [toBytes, ih]

@[simp] theorem ofBytes_nil : ofBytes [] = 0 := rfl

/-- One byte more is one digit more, the lowest one. -/
theorem ofBytes_concat (bytes : List UInt8) (byte : UInt8) :
    ofBytes (bytes ++ [byte]) = ofBytes bytes * 256 + byte.toNat := by
  simp [ofBytes]

/-- The digits that are written spell the number, less what does not fit into the width. -/
theorem ofBytes_toBytes (width n : Nat) : ofBytes (toBytes width n) = n % capacity width := by
  induction width generalizing n with
  | zero => simp [toBytes, capacity, Nat.mod_one]
  | succ width ih =>
    rw [toBytes, ofBytes_concat, ih, capacity, Nat.mod_mul, UInt8.toNat_ofNat']
    omega

/-- A number that fits into the width is read back from its digits. -/
theorem ofBytes_toBytes_of_lt {width n : Nat} (h : n < capacity width) :
    ofBytes (toBytes width n) = n := by
  rw [ofBytes_toBytes, Nat.mod_eq_of_lt h]

/-- A number in two bytes. -/
theorem exists_toBytes_two {n : Nat} (h : n < capacity 2) :
    ∃ high low, toBytes 2 n = [high, low] ∧ ofBytes [high, low] = n :=
  ⟨_, _, rfl, ofBytes_toBytes_of_lt h⟩

/-- Bytes are the digits, in their own width, of the number they spell. -/
theorem toBytes_ofBytes (bytes : List UInt8) :
    toBytes bytes.length (ofBytes bytes) = bytes := by
  generalize h : bytes.length = width
  induction width generalizing bytes with
  | zero => simp [List.eq_nil_of_length_eq_zero h, toBytes]
  | succ width ih =>
    have hne : bytes ≠ [] := by intro hnil; simp [hnil] at h
    obtain ⟨front, last, rfl⟩ : ∃ front last, bytes = front ++ [last] :=
      ⟨bytes.dropLast, bytes.getLast hne, (List.dropLast_concat_getLast hne).symm⟩
    have hfront : front.length = width := by simpa using h
    have hlast := last.toNat_lt
    rw [toBytes, ofBytes_concat]
    have hdiv : (ofBytes front * 256 + last.toNat) / 256 = ofBytes front := by omega
    rw [hdiv, ih front hfront]
    congr 1
    rw [List.cons.injEq]
    refine ⟨?_, rfl⟩
    apply UInt8.toNat_inj.1
    rw [UInt8.toNat_ofNat']
    omega

/-- Of a number only what fits into the bytes is written. -/
theorem toBytes_mod (width n : Nat) : toBytes width (n % capacity width) = toBytes width n := by
  have hbytes := toBytes_ofBytes (toBytes width n)
  rwa [length_toBytes, ofBytes_toBytes] at hbytes

/-- Every width has room for zero. -/
theorem capacity_pos (width : Nat) : 0 < capacity width := by
  induction width with
  | zero => exact Nat.one_pos
  | succ width ih => rw [capacity]; omega

/-- What bytes spell fits into their own width. -/
theorem ofBytes_lt (bytes : List UInt8) : ofBytes bytes < capacity bytes.length := by
  have h := ofBytes_toBytes bytes.length (ofBytes bytes)
  rw [toBytes_ofBytes] at h
  rw [h]
  exact Nat.mod_lt _ (capacity_pos _)

/-- A greater width has room for more numbers. -/
theorem capacity_le {width greater : Nat} (h : width ≤ greater) :
    capacity width ≤ capacity greater := by
  induction h with
  | refl => exact Nat.le_refl _
  | step _ ih => rw [capacity]; omega

/-- What bytes spell fits into every width that has room for the bytes. -/
theorem ofBytes_lt_of_length_le {bytes : List UInt8} {width : Nat} (h : bytes.length ≤ width) :
    ofBytes bytes < capacity width :=
  Nat.lt_of_lt_of_le (ofBytes_lt bytes) (capacity_le h)

/-- Even zero takes one byte. -/
theorem minimalWidth_pos (n : Nat) : 0 < minimalWidth n := Nat.succ_pos _

/-- The numbers that fit into a width are those of eight bits for each byte. -/
theorem capacity_eq_shiftLeft (width : Nat) : capacity width = 1 <<< (8 * width) := by
  induction width with
  | zero => rfl
  | succ width ih =>
    rw [capacity, ih, Nat.mul_succ, Nat.shiftLeft_add, Nat.shiftLeft_eq (1 <<< _) 8]
    omega

/-- A number whose highest bit is within a width fits into it. -/
theorem lt_capacity_of_log2_lt {width n : Nat} (h : n.log2 < 8 * width) : n < capacity width := by
  rw [capacity_eq_shiftLeft, Nat.one_shiftLeft]
  by_cases hn : n = 0
  · subst hn
    exact Nat.two_pow_pos _
  · exact (Nat.log2_lt hn).1 h

/-- The fewest bytes that hold a number are no more than any that do. -/
theorem minimalWidth_le {width n : Nat} (hwidth : 0 < width) (h : n < capacity width) :
    minimalWidth n ≤ width := by
  have hlog : n.log2 < 8 * width := by
    by_cases hn : n = 0
    · subst hn
      exact Nat.mul_pos (by decide) hwidth
    · rw [capacity_eq_shiftLeft, Nat.one_shiftLeft] at h
      exact (Nat.log2_lt hn).2 h
  unfold minimalWidth
  omega

/-- A number fits into its own width. -/
theorem lt_of_minimalWidth (n : Nat) : n < capacity (minimalWidth n) :=
  lt_capacity_of_log2_lt (by unfold minimalWidth; omega)

end HostBridge.BigEndian
