import IssuePlanner.Text.Utf8
import Mathlib.Tactic.Common

/-! Bytes that are UTF-8. A character is read exactly where its encoding stands (`piece_eq_char`), so bytes without a
fault are the encoding of some text, and reading gives that text (`decode?_eq_ok_iff`). -/

namespace IssuePlanner.Text.Utf8

variable {a b c d : UInt8}

/-! ### One character -/

theorem val_ofNat {n : Nat} (h : n.isValidChar) : (Char.ofNat n).val.toNat = n := by
  rw [Char.ofNat, dif_pos h]
  rfl

theorem ofNat_eq {n : Nat} (h : n = b.toNat) : UInt8.ofNat n = b := by
  rw [h, UInt8.ofNat_toNat]

theorem isTail_iff : isTail b = true ↔ 0x80 ≤ b.toNat ∧ b.toNat < 0xc0 := by
  simp [isTail, UInt8.le_iff_toNat_le, UInt8.lt_iff_toNat_lt]

/-- The second byte rules out forms that are too long, surrogates and numbers that are too great. -/
theorem fits_iff : fits a b = true ↔ (0x80 ≤ b.toNat ∧ b.toNat < 0xc0) ∧ (a.toNat = 0xe0 → 0xa0 ≤ b.toNat) ∧
    (a.toNat = 0xed → b.toNat < 0xa0) ∧ (a.toNat = 0xf0 → 0x90 ≤ b.toNat) ∧ (a.toNat = 0xf4 → b.toNat < 0x90) := by
  simp [fits, isTail_iff, UInt8.le_iff_toNat_le, UInt8.lt_iff_toNat_lt, ← UInt8.toNat_inj, imp_iff_not_or, and_assoc]

theorem utf8EncodeChar_one (ha : a.toNat < 0x80) : String.utf8EncodeChar (Char.ofNat a.toNat) = [a] := by
  have hval := val_ofNat (n := a.toNat) (.inl (by omega))
  simp only [String.utf8EncodeChar, hval]
  rw [if_pos (by omega), UInt8.ofNat_toNat]

theorem utf8EncodeChar_two (ha : 0xc2 ≤ a.toNat) (ha' : a.toNat < 0xe0) (hb : isTail b = true) :
    String.utf8EncodeChar (Char.ofNat (a.toNat % 32 * 64 + low b)) = [a, b] := by
  rw [isTail_iff] at hb
  unfold low
  have hval := val_ofNat (n := a.toNat % 32 * 64 + b.toNat % 64) (.inl (by omega))
  simp only [String.utf8EncodeChar, hval]
  rw [if_neg (by omega), if_pos (by omega), ofNat_eq (b := a) (by omega), ofNat_eq (b := b) (by omega)]

theorem utf8EncodeChar_three (ha : 0xe0 ≤ a.toNat) (ha' : a.toNat < 0xf0) (hb : fits a b = true)
    (hc : isTail c = true) :
    String.utf8EncodeChar (Char.ofNat (a.toNat % 16 * 4096 + low b * 64 + low c)) = [a, b, c] := by
  rw [isTail_iff] at hc
  rw [fits_iff] at hb
  unfold low
  have hval := val_ofNat (n := a.toNat % 16 * 4096 + b.toNat % 64 * 64 + c.toNat % 64)
    (by unfold Nat.isValidChar; omega)
  simp only [String.utf8EncodeChar, hval]
  rw [if_neg (by omega), if_neg (by omega), if_pos (by omega), ofNat_eq (b := a) (by omega),
    ofNat_eq (b := b) (by omega), ofNat_eq (b := c) (by omega)]

theorem utf8EncodeChar_four (ha : 0xf0 ≤ a.toNat) (ha' : a.toNat < 0xf5) (hb : fits a b = true)
    (hc : isTail c = true) (hd : isTail d = true) :
    String.utf8EncodeChar (Char.ofNat (a.toNat % 8 * 262144 + low b * 4096 + low c * 64 + low d)) = [a, b, c, d] := by
  rw [isTail_iff] at hc hd
  rw [fits_iff] at hb
  unfold low
  have hval := val_ofNat (n := a.toNat % 8 * 262144 + b.toNat % 64 * 4096 + c.toNat % 64 * 64 + d.toNat % 64)
    (by unfold Nat.isValidChar; omega)
  simp only [String.utf8EncodeChar, hval]
  rw [if_neg (by omega), if_neg (by omega), if_neg (by omega), ofNat_eq (b := a) (by omega),
    ofNat_eq (b := b) (by omega), ofNat_eq (b := c) (by omega), ofNat_eq (b := d) (by omega)]

theorem piece_eq_char {rest : List UInt8} {x : Char} {n : Nat} (h : piece a rest = .char x n) :
    a :: rest = String.utf8EncodeChar x ++ rest.drop (n - 1) := by
  unfold piece at h
  simp only [UInt8.lt_iff_toNat_lt] at h
  split_ifs at h with h₁ h₂ h₃ h₄ h₅
  · cases h
    rw [utf8EncodeChar_one h₁]
    rfl
  · split at h
    · cases h
    · next b rest =>
      split_ifs at h with hb
      cases h
      rw [utf8EncodeChar_two (by simpa using h₂) h₃ hb]
      rfl
  · split at h
    · cases h
    · next b rest =>
      split_ifs at h with hb
      split at h
      · cases h
      · next c rest =>
        split_ifs at h with hc
        cases h
        rw [utf8EncodeChar_three (by simpa using h₃) h₄ (by simpa using hb) hc]
        rfl
  · split at h
    · cases h
    · next b rest =>
      split_ifs at h with hb
      split at h
      · cases h
      · next c rest =>
        split_ifs at h with hc
        split at h
        · cases h
        · next d rest =>
          split_ifs at h with hd
          cases h
          rw [utf8EncodeChar_four (by simpa using h₄) h₅ (by simpa using hb) (by simpa using hc) hd]
          rfl

/-! ### Whole texts -/

theorem exists_of_firstFault_eq_none {position skip : Nat} {bytes : List UInt8}
    (h : firstFault position skip bytes = none) :
    ∃ cs : List Char, bytes.drop skip = cs.flatMap String.utf8EncodeChar := by
  induction bytes generalizing position skip with
  | nil => exact ⟨[], by simp⟩
  | cons a rest ih =>
    cases skip with
    | succ n => exact ih h
    | zero =>
      rw [firstFault] at h
      cases hpiece : piece a rest with
      | fault reason n => simp [hpiece] at h
      | char x n =>
        simp only [hpiece] at h
        obtain ⟨cs, hcs⟩ := ih h
        refine ⟨x :: cs, ?_⟩
        rw [List.drop_zero, List.flatMap_cons, piece_eq_char hpiece, hcs]

theorem toList_loop (bytes : ByteArray) (i : Nat) (out : List UInt8) :
    ByteArray.toList.loop bytes i out = out.reverse ++ bytes.data.toList.drop i := by
  fun_induction ByteArray.toList.loop bytes i out with
  | case1 i out hi ih =>
    have hlt : i < bytes.data.toList.length := by simpa using hi
    rw [ih, List.drop_eq_getElem_cons hlt]
    simp [ByteArray.get!, hi]
  | case2 i out hi =>
    rw [List.drop_eq_nil_of_le (by simpa using hi), List.append_nil]

theorem isValidUTF8_of_firstFault {bytes : ByteArray} (h : firstFault 0 0 bytes.toList = none) :
    bytes.IsValidUTF8 := by
  obtain ⟨cs, hcs⟩ := exists_of_firstFault_eq_none h
  rw [List.drop_zero, ByteArray.toList, toList_loop, List.reverse_nil, List.nil_append, List.drop_zero] at hcs
  refine ⟨cs, ByteArray.ext ?_⟩
  rw [List.utf8Encode, ← hcs, List.data_toByteArray]

/-- Reading gives the text whose encoding the bytes are, and fails if there is none. -/
theorem decode?_eq_ok_iff {bytes : ByteArray} {s : String} : decode? bytes = .ok s ↔ bytes = s.toUTF8 := by
  constructor
  · intro h
    unfold decode? at h
    split at h
    · next t ht =>
      cases h
      unfold String.fromUTF8? at ht
      split_ifs at ht with hvalid
      cases ht
      rfl
    · next hnone =>
      -- without a fault the bytes are valid, so the first reading would have been taken
      split at h
      · cases h
      · next hfault =>
        rw [String.fromUTF8?, dif_pos (isValidUTF8_of_firstFault hfault)] at hnone
        cases hnone
  · rintro rfl
    have hread : String.fromUTF8? s.toUTF8 = some s := by
      rw [String.fromUTF8?, dif_pos (show s.toUTF8.IsValidUTF8 from s.isValidUTF8)]
      rfl
    rw [decode?, hread]

end IssuePlanner.Text.Utf8
