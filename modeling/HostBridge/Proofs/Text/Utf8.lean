import HostBridge.Text.Utf8

/-!
# Text survives its bytes

The bytes of a text spell that text again, read strictly (`decode?_encode`) or with stand-ins for
what is ill formed (`decodeLossy_encode`). Both follow from `pieces_encode`: the reader is done with
each character just where the bytes of the next one start.
-/

namespace HostBridge.Utf8

namespace Scan

variable {found : List (Option Char)} {byte low high : UInt8} {more bits : Nat}

/-! ## Single bytes -/

/-- An ASCII byte between characters is a character. -/
theorem step_one (h : byte.toNat < 0x80) :
    step ⟨found, .between⟩ byte = ⟨some (Char.ofNat byte.toNat) :: found, .between⟩ := by
  simp [step, first, UInt8.lt_iff_toNat_lt, h]

/-- A byte that starts a character of two bytes. -/
theorem step_two (h : 0xC2 ≤ byte.toNat) (h' : byte.toNat < 0xE0) :
    step ⟨found, .between⟩ byte = ⟨found, .inside 0 0x80 0xBF (byte.toNat - 0xC0)⟩ := by
  have h₁ : ¬ byte.toNat < 0x80 := by omega
  have h₂ : ¬ byte.toNat < 0xC2 := by omega
  simp [step, first, UInt8.lt_iff_toNat_lt, h₁, h₂, h']

/-- A byte that starts a character of three bytes. -/
theorem step_three (h : 0xE0 ≤ byte.toNat) (h' : byte.toNat < 0xF0) :
    step ⟨found, .between⟩ byte =
      ⟨found, .inside 1 (if byte = 0xE0 then 0xA0 else 0x80) (if byte = 0xED then 0x9F else 0xBF)
        (byte.toNat - 0xE0)⟩ := by
  have h₁ : ¬ byte.toNat < 0x80 := by omega
  have h₂ : ¬ byte.toNat < 0xC2 := by omega
  have h₃ : ¬ byte.toNat < 0xE0 := by omega
  simp [step, first, UInt8.lt_iff_toNat_lt, h₁, h₂, h₃, h']

/-- A byte that starts a character of four bytes. -/
theorem step_four (h : 0xF0 ≤ byte.toNat) (h' : byte.toNat < 0xF5) :
    step ⟨found, .between⟩ byte =
      ⟨found, .inside 2 (if byte = 0xF0 then 0x90 else 0x80) (if byte = 0xF4 then 0x8F else 0xBF)
        (byte.toNat - 0xF0)⟩ := by
  have h₁ : ¬ byte.toNat < 0x80 := by omega
  have h₂ : ¬ byte.toNat < 0xC2 := by omega
  have h₃ : ¬ byte.toNat < 0xE0 := by omega
  have h₄ : ¬ byte.toNat < 0xF0 := by omega
  simp [step, first, UInt8.lt_iff_toNat_lt, h₁, h₂, h₃, h₄, h']

/-- The last byte of a character. -/
theorem step_last (h : low.toNat ≤ byte.toNat) (h' : byte.toNat ≤ high.toNat) :
    step ⟨found, .inside 0 low high bits⟩ byte =
      ⟨some (Char.ofNat (bits * 64 + (byte.toNat - 0x80))) :: found, .between⟩ := by
  simp [step, UInt8.le_iff_toNat_le, h, h']

/-- A byte inside a character that is not its last. -/
theorem step_inside (h : low.toNat ≤ byte.toNat) (h' : byte.toNat ≤ high.toNat) :
    step ⟨found, .inside (more + 1) low high bits⟩ byte =
      ⟨found, .inside more 0x80 0xBF (bits * 64 + (byte.toNat - 0x80))⟩ := by
  simp [step, UInt8.le_iff_toNat_le, h, h']

/-! ## Characters -/

/-- A number that fits into a byte is its number. -/
theorem toNat_byte {n : Nat} (h : n < 256) : (UInt8.ofNat n).toNat = n :=
  UInt8.toNat_ofNat_of_lt' h

/-- A byte behind the first two stands for six bits. -/
theorem step_tail (n : Nat) :
    step ⟨found, .inside (more + 1) 0x80 0xBF bits⟩ (UInt8.ofNat (n % 64 + 128)) =
      ⟨found, .inside more 0x80 0xBF (bits * 64 + n % 64)⟩ := by
  have hbyte : (UInt8.ofNat (n % 64 + 128)).toNat = n % 64 + 128 := toNat_byte (by omega)
  rw [step_inside (by rw [hbyte]; exact Nat.le_add_left ..) (by rw [hbyte]; simp; omega), hbyte,
    Nat.add_sub_cancel]

/-- The last byte that a character lacks completes it. -/
theorem step_tail_last (n : Nat) :
    step ⟨found, .inside 0 0x80 0xBF bits⟩ (UInt8.ofNat (n % 64 + 128)) =
      ⟨some (Char.ofNat (bits * 64 + n % 64)) :: found, .between⟩ := by
  have hbyte : (UInt8.ofNat (n % 64 + 128)).toNat = n % 64 + 128 := toNat_byte (by omega)
  rw [step_last (by rw [hbyte]; exact Nat.le_add_left ..) (by rw [hbyte]; simp; omega), hbyte,
    Nat.add_sub_cancel]

/-- A lower bound that depends on the byte before. -/
theorem toNat_ite_le {start mark narrow wide : UInt8} {n : Nat}
    (hnarrow : start.toNat = mark.toNat → narrow.toNat ≤ n) (hwide : wide.toNat ≤ n) :
    (if start = mark then narrow else wide).toNat ≤ n := by
  split
  · next heq => exact hnarrow (congrArg UInt8.toNat heq)
  · exact hwide

/-- An upper bound that depends on the byte before. -/
theorem le_toNat_ite {start mark narrow wide : UInt8} {n : Nat}
    (hnarrow : start.toNat = mark.toNat → n ≤ narrow.toNat) (hwide : n ≤ wide.toNat) :
    n ≤ (if start = mark then narrow else wide).toNat := by
  split
  · next heq => exact hnarrow (congrArg UInt8.toNat heq)
  · exact hwide

section sizes

variable {n : Nat}

/-- A character of one byte is found. -/
theorem foldl_one (h : n < 0x80) :
    [UInt8.ofNat n].foldl step ⟨found, .between⟩ = ⟨some (Char.ofNat n) :: found, .between⟩ := by
  have hbyte : (UInt8.ofNat n).toNat = n := toNat_byte (by omega)
  rw [List.foldl_cons, step_one (by omega), hbyte, List.foldl_nil]

/-- A character of two bytes is found. -/
theorem foldl_two (h : 0x80 ≤ n) (h' : n < 0x800) :
    [UInt8.ofNat (n / 64 % 32 + 192), UInt8.ofNat (n % 64 + 128)].foldl step ⟨found, .between⟩ =
      ⟨some (Char.ofNat n) :: found, .between⟩ := by
  have hfirst : (UInt8.ofNat (n / 64 % 32 + 192)).toNat = n / 64 % 32 + 192 :=
    toNat_byte (by omega)
  have hbits : (n / 64 % 32 + 192 - 0xC0) * 64 + n % 64 = n := by omega
  rw [List.foldl_cons, step_two (by omega) (by omega), List.foldl_cons, step_tail_last, hfirst,
    hbits, List.foldl_nil]

/-- No character has a shorter spelling, and none is a surrogate. -/
theorem foldl_three (h : 0x800 ≤ n) (h' : n < 0x10000) (hvalid : n < 0xD800 ∨ 0xDFFF < n) :
    [UInt8.ofNat (n / 4096 % 16 + 224), UInt8.ofNat (n / 64 % 64 + 128),
        UInt8.ofNat (n % 64 + 128)].foldl step ⟨found, .between⟩ =
      ⟨some (Char.ofNat n) :: found, .between⟩ := by
  have hfirst : (UInt8.ofNat (n / 4096 % 16 + 224)).toNat = n / 4096 % 16 + 224 :=
    toNat_byte (by omega)
  have hsecond : (UInt8.ofNat (n / 64 % 64 + 128)).toNat = n / 64 % 64 + 128 :=
    toNat_byte (by omega)
  generalize UInt8.ofNat (n / 4096 % 16 + 224) = start at hfirst
  generalize UInt8.ofNat (n / 64 % 64 + 128) = second at hsecond
  have hlow : (if start = 0xE0 then 0xA0 else 0x80 : UInt8).toNat ≤ second.toNat :=
    toNat_ite_le (fun heq => by simp at heq ⊢; omega) (by simp; omega)
  have hhigh : second.toNat ≤ (if start = 0xED then 0x9F else 0xBF : UInt8).toNat :=
    le_toNat_ite (fun heq => by simp at heq ⊢; omega) (by simp; omega)
  have hbits : ((start.toNat - 0xE0) * 64 + (second.toNat - 0x80)) * 64 + n % 64 = n := by omega
  rw [List.foldl_cons, step_three (by omega) (by omega), List.foldl_cons,
    step_inside hlow hhigh, List.foldl_cons, step_tail_last, hbits, List.foldl_nil]

/-- A character of four bytes is found. -/
theorem foldl_four (h : 0x10000 ≤ n) (h' : n < 0x110000) :
    [UInt8.ofNat (n / 262144 % 8 + 240), UInt8.ofNat (n / 4096 % 64 + 128),
        UInt8.ofNat (n / 64 % 64 + 128), UInt8.ofNat (n % 64 + 128)].foldl step
      ⟨found, .between⟩ = ⟨some (Char.ofNat n) :: found, .between⟩ := by
  have hfirst : (UInt8.ofNat (n / 262144 % 8 + 240)).toNat = n / 262144 % 8 + 240 :=
    toNat_byte (by omega)
  have hsecond : (UInt8.ofNat (n / 4096 % 64 + 128)).toNat = n / 4096 % 64 + 128 :=
    toNat_byte (by omega)
  generalize UInt8.ofNat (n / 262144 % 8 + 240) = start at hfirst
  generalize UInt8.ofNat (n / 4096 % 64 + 128) = second at hsecond
  have hlow : (if start = 0xF0 then 0x90 else 0x80 : UInt8).toNat ≤ second.toNat :=
    toNat_ite_le (fun heq => by simp at heq ⊢; omega) (by simp; omega)
  have hhigh : second.toNat ≤ (if start = 0xF4 then 0x8F else 0xBF : UInt8).toNat :=
    le_toNat_ite (fun heq => by simp at heq ⊢; omega) (by simp; omega)
  have hbits : (((start.toNat - 0xF0) * 64 + (second.toNat - 0x80)) * 64 + n / 64 % 64) * 64 +
      n % 64 = n := by omega
  rw [List.foldl_cons, step_four (by omega) (by omega), List.foldl_cons,
    step_inside hlow hhigh, List.foldl_cons, step_tail, List.foldl_cons, step_tail_last, hbits,
    List.foldl_nil]

end sizes

/-- The bytes of a character are read as that character. -/
theorem foldl_step_encodeChar (char : Char) (found : List (Option Char)) :
    (String.utf8EncodeChar char).foldl step ⟨found, .between⟩ = ⟨some char :: found, .between⟩ := by
  have hvalid : char.toNat < 0xD800 ∨ 0xDFFF < char.toNat ∧ char.toNat < 0x110000 := char.valid
  have hchar : Char.ofNat char.toNat = char := Char.ofNat_toNat char
  have hval : char.val.toNat = char.toNat := rfl
  simp only [String.utf8EncodeChar, hval]
  generalize char.toNat = n at hvalid hchar
  rw [← hchar]
  split
  · exact foldl_one (by omega)
  split
  · exact foldl_two (by omega) (by omega)
  split
  · exact foldl_three (by omega) (by omega) (by omega)
  · exact foldl_four (by omega) (by omega)

/-- The characters of a text are found one after the other in its bytes. -/
theorem foldl_step_encode (chars : List Char) (found : List (Option Char)) :
    (chars.flatMap String.utf8EncodeChar).foldl step ⟨found, .between⟩ =
      ⟨(chars.map some).reverse ++ found, .between⟩ := by
  induction chars generalizing found with
  | nil => rfl
  | cons char chars ih =>
    rw [List.flatMap_cons, List.foldl_append, foldl_step_encodeChar, ih]
    simp

end Scan

/-! ## Texts -/

/-- The bytes of a text are cut into its characters. -/
theorem pieces_encode (text : String) : pieces (encode text) = text.toList.map some := by
  rw [pieces, encode, Scan.foldl_step_encode]
  simp [Scan.finish]

@[simp] theorem decode?_encode (text : String) : decode? (encode text) = some text := by
  simp [decode?, pieces_encode]

@[simp] theorem decodeLossy_encode (text : String) : decodeLossy (encode text) = text := by
  have hmap : (text.toList.map some).map (·.getD '\uFFFD') = text.toList := by
    rw [List.map_map]
    exact List.map_id _
  rw [decodeLossy, pieces_encode, hmap, String.ofList_toList]

/-- Only the empty text has no bytes. -/
theorem encode_eq_nil_iff {text : String} : encode text = [] ↔ text = "" := by
  constructor
  · intro h
    have htext := decode?_encode text
    rw [h] at htext
    exact (Option.some.inj htext).symm
  · rintro rfl
    rfl

/-- A text behind another one has its bytes behind those of the other one. -/
theorem encode_append (text other : String) :
    encode (text ++ other) = encode text ++ encode other := by
  rw [encode, String.toList_append, List.flatMap_append]
  rfl

end HostBridge.Utf8
