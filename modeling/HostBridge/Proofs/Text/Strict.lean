import HostBridge.Proofs.Text.Utf8

/-!
# Bytes survive their text

Bytes that are read strictly are the bytes of the text they spell, so no text has two spellings
(`decode?_eq_some_iff`). The reader keeps, at every byte, that what it has read is the bytes of the
characters it has found and the first bytes of the character under way (`Scan.Spelled`), unless it
has found an ill-formed piece, which it never forgets.
-/

namespace HostBridge.Utf8

/-! ## Characters of each size -/

section sizes

variable {n : Nat}

/-- The character of a valid number has that number. -/
theorem toNat_ofNat_of_valid (h : n.isValidChar) : (Char.ofNat n).val.toNat = n := by
  rw [Char.ofNat, dif_pos h]
  exact UInt32.toNat_ofNatLT ..

/-- Characters below `0x80` take one byte. -/
theorem encodeChar_one (h : n < 0x80) :
    String.utf8EncodeChar (Char.ofNat n) = [UInt8.ofNat n] := by
  have hvalid : n.isValidChar := .inl (by omega)
  rw [String.utf8EncodeChar, toNat_ofNat_of_valid hvalid, if_pos (by omega)]

/-- Characters below `0x800` take two bytes. -/
theorem encodeChar_two (h : 0x80 ≤ n) (h' : n < 0x800) :
    String.utf8EncodeChar (Char.ofNat n) =
      [UInt8.ofNat (n / 64 % 32 + 192), UInt8.ofNat (n % 64 + 128)] := by
  have hvalid : n.isValidChar := .inl (by omega)
  simp only [String.utf8EncodeChar, toNat_ofNat_of_valid hvalid]
  rw [if_neg (by omega), if_pos (by omega)]

/-- The other characters below `0x10000` take three bytes. -/
theorem encodeChar_three (h : 0x800 ≤ n) (h' : n < 0x10000) (hvalid : n.isValidChar) :
    String.utf8EncodeChar (Char.ofNat n) = [UInt8.ofNat (n / 4096 % 16 + 224),
      UInt8.ofNat (n / 64 % 64 + 128), UInt8.ofNat (n % 64 + 128)] := by
  simp only [String.utf8EncodeChar, toNat_ofNat_of_valid hvalid]
  rw [if_neg (by omega), if_neg (by omega), if_pos (by omega)]

/-- All others take four bytes. -/
theorem encodeChar_four (h : 0x10000 ≤ n) (h' : n < 0x110000) :
    String.utf8EncodeChar (Char.ofNat n) = [UInt8.ofNat (n / 262144 % 8 + 240),
      UInt8.ofNat (n / 4096 % 64 + 128), UInt8.ofNat (n / 64 % 64 + 128),
      UInt8.ofNat (n % 64 + 128)] := by
  have hvalid : n.isValidChar := .inr ⟨by omega, h'⟩
  simp only [String.utf8EncodeChar, toNat_ofNat_of_valid hvalid]
  rw [if_neg (by omega), if_neg (by omega), if_neg (by omega)]

/-- A byte is known by its number. -/
theorem ofNat_eq_of_toNat (byte : UInt8) (h : n = byte.toNat) : UInt8.ofNat n = byte := by
  rw [h, UInt8.ofNat_toNat]

end sizes

namespace Scan

/-! ## Characters under way -/

/-- `word` opens a character that lacks `more + 1` bytes, the next of them from `low` to `high`:
whatever bytes complete it, together they are the bytes of the character that is found. -/
def Opens : Nat → UInt8 → UInt8 → Nat → List UInt8 → Prop
  | 0, low, high, bits, word => ∀ byte, low ≤ byte → byte ≤ high →
    String.utf8EncodeChar (Char.ofNat (bits * 64 + (byte.toNat - 0x80))) = word ++ [byte]
  | more + 1, low, high, bits, word => ∀ byte, low ≤ byte → byte ≤ high →
    Opens more 0x80 0xBF (bits * 64 + (byte.toNat - 0x80)) (word ++ [byte])

variable {byte second last : UInt8}

/-- A byte behind the first two has the bounds of no character in particular. -/
theorem tail_bounds (h : 0x80 ≤ last) (h' : last ≤ 0xBF) : 0x80 ≤ last.toNat ∧ last.toNat ≤ 0xBF :=
  ⟨UInt8.le_iff_toNat_le.1 h, UInt8.le_iff_toNat_le.1 h'⟩

/-- Above a lower bound that depends on the byte before. -/
theorem le_toNat_of_ite_le {mark narrow wide : UInt8} (hle : wide.toNat ≤ narrow.toNat)
    (h : (if byte = mark then narrow else wide) ≤ second) :
    wide.toNat ≤ second.toNat ∧ (byte.toNat = mark.toNat → narrow.toNat ≤ second.toNat) := by
  rw [UInt8.le_iff_toNat_le] at h
  split at h
  · exact ⟨Nat.le_trans hle h, fun _ => h⟩
  · next hne => exact ⟨h, fun heq => absurd (UInt8.toNat_inj.1 heq) hne⟩

/-- Below an upper bound that depends on the byte before. -/
theorem toNat_le_of_le_ite {mark narrow wide : UInt8} (hle : narrow.toNat ≤ wide.toNat)
    (h : second ≤ (if byte = mark then narrow else wide)) :
    second.toNat ≤ wide.toNat ∧ (byte.toNat = mark.toNat → second.toNat ≤ narrow.toNat) := by
  rw [UInt8.le_iff_toNat_le] at h
  split at h
  · exact ⟨Nat.le_trans h hle, fun _ => h⟩
  · next hne => exact ⟨h, fun heq => absurd (UInt8.toNat_inj.1 heq) hne⟩

/-- These bytes open a character of two bytes. -/
theorem opens_two (h : 0xC2 ≤ byte.toNat) (h' : byte.toNat < 0xE0) :
    Opens 0 0x80 0xBF (byte.toNat - 0xC0) [byte] := by
  intro last hlow hhigh
  have ⟨_, _⟩ := tail_bounds hlow hhigh
  rw [encodeChar_two (by omega) (by omega), ofNat_eq_of_toNat byte (by omega),
    ofNat_eq_of_toNat last (by omega)]
  rfl

/-- The bounds on the second byte leave no shorter spelling and no surrogate. -/
theorem opens_three (h : 0xE0 ≤ byte.toNat) (h' : byte.toNat < 0xF0) :
    Opens 1 (if byte = 0xE0 then 0xA0 else 0x80) (if byte = 0xED then 0x9F else 0xBF)
      (byte.toNat - 0xE0) [byte] := by
  intro second hlow hhigh last hlow' hhigh'
  have ⟨_, _⟩ := tail_bounds hlow' hhigh'
  have hsecond : 0x80 ≤ second.toNat ∧ (byte.toNat = 0xE0 → 0xA0 ≤ second.toNat) :=
    le_toNat_of_ite_le (by decide) hlow
  have hsecond' : second.toNat ≤ 0xBF ∧ (byte.toNat = 0xED → second.toNat ≤ 0x9F) :=
    toNat_le_of_le_ite (by decide) hhigh
  generalize hn : ((byte.toNat - 0xE0) * 64 + (second.toNat - 0x80)) * 64 + (last.toNat - 0x80) = n
  have hvalid : n.isValidChar := by
    unfold Nat.isValidChar
    omega
  rw [encodeChar_three (by omega) (by omega) hvalid, ofNat_eq_of_toNat byte (by omega),
    ofNat_eq_of_toNat second (by omega), ofNat_eq_of_toNat last (by omega)]
  rfl

/-- The bounds on the second byte leave no shorter spelling and nothing beyond the last
character. -/
theorem opens_four (h : 0xF0 ≤ byte.toNat) (h' : byte.toNat < 0xF5) :
    Opens 2 (if byte = 0xF0 then 0x90 else 0x80) (if byte = 0xF4 then 0x8F else 0xBF)
      (byte.toNat - 0xF0) [byte] := by
  intro second hlow hhigh third hlow' hhigh' last hlow'' hhigh''
  have ⟨_, _⟩ := tail_bounds hlow' hhigh'
  have ⟨_, _⟩ := tail_bounds hlow'' hhigh''
  have hsecond : 0x80 ≤ second.toNat ∧ (byte.toNat = 0xF0 → 0x90 ≤ second.toNat) :=
    le_toNat_of_ite_le (by decide) hlow
  have hsecond' : second.toNat ≤ 0xBF ∧ (byte.toNat = 0xF4 → second.toNat ≤ 0x8F) :=
    toNat_le_of_le_ite (by decide) hhigh
  generalize hn : (((byte.toNat - 0xF0) * 64 + (second.toNat - 0x80)) * 64 +
    (third.toNat - 0x80)) * 64 + (last.toNat - 0x80) = n
  rw [encodeChar_four (by omega) (by omega), ofNat_eq_of_toNat byte (by omega),
    ofNat_eq_of_toNat second (by omega), ofNat_eq_of_toNat third (by omega),
    ofNat_eq_of_toNat last (by omega)]
  rfl

/-! ## Readings under way -/

/-- What has been read of the character under way. -/
def Pending : Progress → List UInt8 → Prop
  | .between, word => word = []
  | .inside more low high bits, word => Opens more low high bits word

/-- What has been read is the bytes of the characters found and the first bytes of the one that is
under way. -/
inductive Spelled : Scan → List UInt8 → Prop where
  | mk {chars : List Char} {progress : Progress} {word : List UInt8} :
    Pending progress word →
    Spelled ⟨(chars.map some).reverse, progress⟩ (chars.flatMap String.utf8EncodeChar ++ word)

variable {scan : Scan} {chars : List Char} {found : List (Option Char)} {word bytes : List UInt8}

/-- With its last byte a character is found. -/
theorem Spelled.between {char : Char} (h : String.utf8EncodeChar char = word) :
    Spelled ⟨some char :: (chars.map some).reverse, .between⟩
      (chars.flatMap String.utf8EncodeChar ++ word) := by
  have hspelled : Spelled ⟨((chars ++ [char]).map some).reverse, .between⟩
      ((chars ++ [char]).flatMap String.utf8EncodeChar ++ []) := .mk rfl
  simpa [h] using hspelled

/-- Pieces that were found are kept. -/
theorem mem_first {piece : Option Char} (h : piece ∈ found) (byte : UInt8) :
    piece ∈ (first found byte).found := by
  unfold first
  repeat' split
  all_goals simp [h]

/-- What has been found stays found. -/
theorem mem_step {piece : Option Char} (h : piece ∈ scan.found) (byte : UInt8) :
    piece ∈ (step scan byte).found := by
  unfold step
  split
  · exact mem_first h byte
  · split
    · split
      · exact .tail _ h
      · exact h
    · exact mem_first (.tail _ h) byte

/-- A byte that starts a character is that character, or opens it, or is an ill-formed piece. -/
theorem spelled_first (chars : List Char) (byte : UInt8) :
    none ∈ (first (chars.map some).reverse byte).found ∨
      Spelled (first (chars.map some).reverse byte)
        (chars.flatMap String.utf8EncodeChar ++ [byte]) := by
  unfold first
  simp only [UInt8.lt_iff_toNat_lt]
  split
  · next h =>
    refine .inr (.between ?_)
    rw [encodeChar_one h, UInt8.ofNat_toNat]
  split
  · exact .inl (.head _)
  split
  · next h h' => exact .inr (.mk (opens_two (Nat.le_of_not_lt h) h'))
  split
  · next h h' => exact .inr (.mk (opens_three (Nat.le_of_not_lt h) h'))
  split
  · next h h' => exact .inr (.mk (opens_four (Nat.le_of_not_lt h) h'))
  · exact .inl (.head _)

/-- One byte more is either a mistake for good, or part of what is spelled. -/
theorem spelled_step (h : Spelled scan bytes) (byte : UInt8) :
    none ∈ (step scan byte).found ∨ Spelled (step scan byte) (bytes ++ [byte]) := by
  obtain @⟨chars, progress, word, hpending⟩ := h
  unfold step
  cases progress with
  | between =>
    obtain rfl := hpending
    rw [List.append_nil]
    exact spelled_first chars byte
  | inside more low high bits =>
    rw [List.append_assoc]
    by_cases hbounds : low ≤ byte ∧ byte ≤ high
    · cases more with
      | zero =>
        simp only [hbounds, and_self, if_true]
        exact .inr (.between (hpending byte hbounds.1 hbounds.2))
      | succ more =>
        simp only [hbounds, and_self, if_true]
        exact .inr (.mk (hpending byte hbounds.1 hbounds.2))
    · simp only [hbounds, if_false]
      exact .inl (mem_first (.head _) byte)

/-- At every byte what has been read is spelled, or an ill-formed piece has been found. -/
theorem spelled_foldl (bytes : List UInt8) (h : none ∈ scan.found ∨ Spelled scan word) :
    none ∈ (bytes.foldl step scan).found ∨ Spelled (bytes.foldl step scan) (word ++ bytes) := by
  induction bytes generalizing scan word with
  | nil => rwa [List.append_nil]
  | cons byte bytes ih =>
    have hstep : none ∈ (step scan byte).found ∨ Spelled (step scan byte) (word ++ [byte]) :=
      h.elim (fun hmem => .inl (mem_step hmem byte)) fun hspelled => spelled_step hspelled byte
    have hrest := ih hstep
    rwa [List.append_assoc] at hrest

/-- Pieces that were found are handed out at the end. -/
theorem mem_finish {piece : Option Char} (h : piece ∈ scan.found) : piece ∈ scan.finish := by
  unfold finish
  split
  · exact List.mem_reverse.2 h
  · exact List.mem_reverse.2 (.tail _ h)

end Scan

/-! ## Texts -/

variable {bytes : List UInt8} {text : String} {chars : List Char}

/-- Where every piece is a character, the bytes are those of the characters. -/
theorem flatMap_of_pieces (h : pieces bytes = chars.map some) :
    chars.flatMap String.utf8EncodeChar = bytes := by
  have hnone : none ∉ pieces bytes := by simp [h]
  have hstart : Scan.Spelled ⟨([].map some).reverse, .between⟩ ([].flatMap _ ++ []) := .mk rfl
  obtain hmem | hspelled := Scan.spelled_foldl bytes (.inr hstart)
  · exact absurd (Scan.mem_finish hmem) hnone
  · unfold pieces at h hnone
    change Scan.Spelled (bytes.foldl Scan.step ⟨[], .between⟩) bytes at hspelled
    generalize bytes.foldl Scan.step ⟨[], .between⟩ = scan at *
    obtain @⟨found, progress, word, hpending⟩ := hspelled
    cases progress with
    | between =>
      obtain rfl := hpending
      have hfound : found.map some = chars.map some := by
        rw [← h, Scan.finish, List.reverse_reverse]
      rw [List.append_nil, (List.map_inj_right fun _ _ => Option.some.inj).1 hfound]
    | inside more low high bits => exact absurd (List.mem_reverse.2 (.head _)) hnone

/-- Bytes that spell a text are the bytes of that text. -/
theorem decode?_eq_some_iff : decode? bytes = some text ↔ bytes = encode text := by
  constructor
  · intro h
    simp only [decode?, Option.ite_none_right_eq_some, Option.some.injEq] at h
    obtain ⟨hall, rfl⟩ := h
    have hpieces : pieces bytes = ((pieces bytes).filterMap id).map some := by
      rw [List.map_filterMap_some_eq_filter_map_isSome, List.map_id]
      exact (List.filter_eq_self.2 (List.all_eq_true.1 hall)).symm
    rw [encode, String.toList_ofList, flatMap_of_pieces hpieces]
  · rintro rfl
    exact decode?_encode text

end HostBridge.Utf8
