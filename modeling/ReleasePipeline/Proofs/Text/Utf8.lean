import ReleasePipeline.Text.Utf8

/-
  This file proves that UTF-8 is read back as it was written.
  A character is read in the steps in which its bytes stand:
  the first byte announces the number of those that follow,
  and each of these adds six bits to the value.  It also
  proves which texts have as many bytes as characters.

  Main declarations:
    * `Utf8.scanFrom_tail`, `Utf8.scanFrom_last`
    * `Utf8.scan_encodeChars`
    * `Utf8.decode_encode`
    * `Utf8.width_eq_length_iff`
-/

------------------------------------------------------------
-- Bytes of a Character
------------------------------------------------------------

namespace ReleasePipeline

namespace Utf8

/- The values of characters leave out the surrogates. -/
theorem toNat_cases (c : Char) :
    c.toNat < 0xD800 ∨ 0xDFFF < c.toNat ∧ c.toNat < 0x110000 :=
  c.valid

variable {rest : Bytes}

/- A first byte that announces more bytes. -/
theorem scanFrom_lead
    {b : Nat}
    {p : Partial}
    (hByte : b < 256)
    (hLead : lead b = .inr p) :
    scanFrom none (UInt8.ofNat b :: rest) = scanFrom (some p) rest := by
  have hValue : (UInt8.ofNat b).toNat = b :=
    UInt8.toNat_ofNat_of_lt' hByte
  rw [scanFrom, hValue, hLead]

/- A byte in the range, with more bytes owed behind it. -/
theorem scanFrom_tail
    {b taken owed value least greatest : Nat}
    (hLeast : least ≤ b)
    (hGreatest : b ≤ greatest)
    (hByte : b < 256)
    (hOwed : 1 < owed) :
    scanFrom (some ⟨taken, owed, value, least, greatest⟩)
        (UInt8.ofNat b :: rest) =
      scanFrom
        (some ⟨taken + 1, owed - 1, value * 0x40 + (b - 0x80),
          0x80, 0xBF⟩) rest := by
  have hValue : (UInt8.ofNat b).toNat = b :=
    UInt8.toNat_ofNat_of_lt' hByte
  rw [scanFrom]
  simp only [hValue]
  rw [if_pos ⟨hLeast, hGreatest⟩, if_neg (by omega)]

/- The last byte of a character completes its value. -/
theorem scanFrom_last
    {b taken value least greatest : Nat}
    (hLeast : least ≤ b)
    (hGreatest : b ≤ greatest)
    (hByte : b < 256) :
    scanFrom (some ⟨taken, 1, value, least, greatest⟩)
        (UInt8.ofNat b :: rest) =
      .scalar (Char.ofNat (value * 0x40 + (b - 0x80))) ::
        scanFrom none rest := by
  have hValue : (UInt8.ofNat b).toNat = b :=
    UInt8.toNat_ofNat_of_lt' hByte
  rw [scanFrom]
  simp only [hValue]
  rw [if_pos ⟨hLeast, hGreatest⟩, if_pos (Nat.le_refl 1)]

------------------------------------------------------------
-- Characters
------------------------------------------------------------

/- A character of two bytes. -/
theorem scanFrom_two
    (rest : Bytes)
    (n : Nat)
    (hLeast : 0x80 ≤ n)
    (hGreatest : n < 0x800) :
    scanFrom none
        (UInt8.ofNat (0xC0 + n / 0x40) ::
          UInt8.ofNat (0x80 + n % 0x40) :: rest) =
      .scalar (Char.ofNat n) :: scanFrom none rest := by
  have hLead :
      lead (0xC0 + n / 0x40) =
        .inr ⟨1, 1, 0xC0 + n / 0x40 - 0xC0, 0x80, 0xBF⟩ := by
    unfold lead
    rw [if_neg (by omega), if_pos (by omega)]
  have hSum :
      (0xC0 + n / 0x40 - 0xC0) * 0x40 + (0x80 + n % 0x40 - 0x80) =
        n := by
    omega
  rw [scanFrom_lead (by omega) hLead,
    scanFrom_last (by omega) (by omega) (by omega), hSum]

/-
  A character of three bytes.  The range of the second byte
  leaves out overlong forms and surrogates.
-/
theorem scanFrom_three
    (rest : Bytes)
    (n : Nat)
    (hLeast : 0x800 ≤ n)
    (hGreatest : n < 0x10000)
    (hScalar : n < 0xD800 ∨ 0xDFFF < n) :
    scanFrom none
        (UInt8.ofNat (0xE0 + n / 0x1000) ::
          UInt8.ofNat (0x80 + n / 0x40 % 0x40) ::
            UInt8.ofNat (0x80 + n % 0x40) :: rest) =
      .scalar (Char.ofNat n) :: scanFrom none rest := by
  have hLead :
      ∃ least greatest,
        lead (0xE0 + n / 0x1000) =
            .inr ⟨1, 2, n / 0x1000, least, greatest⟩ ∧
          least ≤ 0x80 + n / 0x40 % 0x40 ∧
          0x80 + n / 0x40 % 0x40 ≤ greatest := by
    unfold lead
    rw [if_neg (by omega), if_neg (by omega)]
    by_cases hFirst : n < 0x1000
    · have hZero : n / 0x1000 = 0 := by omega
      refine ⟨0xA0, 0xBF, ?_, by omega, by omega⟩
      rw [hZero]
      rfl
    · by_cases hNear : n / 0x1000 = 0xD
      · refine ⟨0x80, 0x9F, ?_, by omega, by omega⟩
        rw [hNear]
        rfl
      · refine ⟨0x80, 0xBF, ?_, by omega, by omega⟩
        rw [if_neg (by omega), if_neg (by omega), if_pos (by omega),
          Nat.add_sub_cancel_left]
  rcases hLead with ⟨least, greatest, hLead, hSecond, hSecond'⟩
  have hSum :
      (n / 0x1000 * 0x40 + (0x80 + n / 0x40 % 0x40 - 0x80)) * 0x40 +
          (0x80 + n % 0x40 - 0x80) =
        n := by
    omega
  rw [scanFrom_lead (by omega) hLead,
    scanFrom_tail hSecond hSecond' (by omega) (by omega),
    scanFrom_last (by omega) (by omega) (by omega), hSum]

/-
  A character of four bytes.  The range of the second byte
  leaves out overlong forms and what lies beyond U+10FFFF.
-/
theorem scanFrom_four
    (rest : Bytes)
    (n : Nat)
    (hLeast : 0x10000 ≤ n)
    (hGreatest : n < 0x110000) :
    scanFrom none
        (UInt8.ofNat (0xF0 + n / 0x40000) ::
          UInt8.ofNat (0x80 + n / 0x1000 % 0x40) ::
            UInt8.ofNat (0x80 + n / 0x40 % 0x40) ::
              UInt8.ofNat (0x80 + n % 0x40) :: rest) =
      .scalar (Char.ofNat n) :: scanFrom none rest := by
  have hLead :
      ∃ least greatest,
        lead (0xF0 + n / 0x40000) =
            .inr ⟨1, 3, n / 0x40000, least, greatest⟩ ∧
          least ≤ 0x80 + n / 0x1000 % 0x40 ∧
          0x80 + n / 0x1000 % 0x40 ≤ greatest := by
    unfold lead
    rw [if_neg (by omega), if_neg (by omega), if_neg (by omega),
      if_neg (by omega), if_neg (by omega)]
    by_cases hFirst : n < 0x40000
    · have hZero : n / 0x40000 = 0 := by omega
      refine ⟨0x90, 0xBF, ?_, by omega, by omega⟩
      rw [hZero]
      rfl
    · by_cases hLast : n / 0x40000 = 4
      · refine ⟨0x80, 0x8F, ?_, by omega, by omega⟩
        rw [hLast]
        rfl
      · refine ⟨0x80, 0xBF, ?_, by omega, by omega⟩
        rw [if_neg (by omega), if_pos (by omega),
          Nat.add_sub_cancel_left]
  rcases hLead with ⟨least, greatest, hLead, hSecond, hSecond'⟩
  have hSum :
      ((n / 0x40000 * 0x40 + (0x80 + n / 0x1000 % 0x40 - 0x80)) * 0x40 +
            (0x80 + n / 0x40 % 0x40 - 0x80)) * 0x40 +
          (0x80 + n % 0x40 - 0x80) =
        n := by
    omega
  rw [scanFrom_lead (by omega) hLead,
    scanFrom_tail hSecond hSecond' (by omega) (by omega),
    scanFrom_tail (by omega) (by omega) (by omega) (by omega),
    scanFrom_last (by omega) (by omega) (by omega), hSum]

/- The bytes of a character are read as that character. -/
theorem scanFrom_encodeChar
    (c : Char)
    (rest : Bytes) :
    scanFrom none (encodeChar c ++ rest) =
      .scalar c :: scanFrom none rest := by
  have hCases := toNat_cases c
  have hChar : Char.ofNat c.toNat = c := Char.ofNat_toNat c
  unfold encodeChar
  dsimp only
  split
  · next hOne =>
      have hByte : c.toNat < 256 := by omega
      have hValue : (UInt8.ofNat c.toNat).toNat = c.toNat :=
        UInt8.toNat_ofNat_of_lt' hByte
      have hLead : lead c.toNat = .inl (.scalar c) := by
        unfold lead
        rw [if_pos hOne, hChar]
      rw [List.singleton_append, scanFrom, hValue, hLead]
  · split
    · have hRead :=
        scanFrom_two rest c.toNat (by omega) (by omega)
      rw [hChar] at hRead
      exact hRead
    · split
      · have hRead :=
          scanFrom_three rest c.toNat (by omega) (by omega) (by omega)
        rw [hChar] at hRead
        exact hRead
      · have hRead :=
          scanFrom_four rest c.toNat (by omega) (by omega)
        rw [hChar] at hRead
        exact hRead

------------------------------------------------------------
-- Texts
------------------------------------------------------------

/- Written characters are read one after another. -/
theorem scan_encodeChars (cs : List Char) :
    scan (encodeChars cs) = cs.map Piece.scalar := by
  induction cs with
  | nil => rfl
  | cons c cs ih =>
      have hFirst := scanFrom_encodeChar c (encodeChars cs)
      rw [List.map_cons, ← ih]
      exact hFirst

theorem scalars?_map_scalar (cs : List Char) :
    scalars? (cs.map Piece.scalar) = some cs := by
  induction cs with
  | nil => rfl
  | cons c cs ih => rw [List.map_cons, scalars?, ih, Option.map_some]

/- A text is read back from its bytes. -/
theorem decode_encode (s : String) :
    decode (encode s) = some s := by
  unfold decode encode
  rw [scan_encodeChars, scalars?_map_scalar, Option.map_some,
    String.ofList_toList]

------------------------------------------------------------
-- Widths
------------------------------------------------------------

theorem length_encodeChar_pos (c : Char) :
    0 < (encodeChar c).length := by
  unfold encodeChar
  dsimp only
  repeat' split
  all_goals simp

/- A character takes a single byte if and only if it is in ASCII. -/
theorem length_encodeChar_eq_one_iff (c : Char) :
    (encodeChar c).length = 1 ↔ c.toNat < 0x80 := by
  unfold encodeChar
  dsimp only
  repeat' split
  all_goals simp_all

theorem width_cons
    (c : Char)
    (cs : List Char) :
    width (c :: cs) = (encodeChar c).length + width cs := by
  unfold width encodeChars
  rw [List.flatMap_cons, List.length_append]

/- Every character takes a byte. -/
theorem length_le_width (cs : List Char) : cs.length ≤ width cs := by
  induction cs with
  | nil => exact Nat.le_refl 0
  | cons c cs ih =>
      have hChar := length_encodeChar_pos c
      rw [width_cons, List.length_cons]
      omega

/- Only texts in ASCII have as many bytes as characters. -/
theorem width_eq_length_iff (cs : List Char) :
    width cs = cs.length ↔ ∀ c ∈ cs, c.toNat < 0x80 := by
  induction cs with
  | nil => exact iff_of_true rfl nofun
  | cons c cs ih =>
      have hChar := length_encodeChar_pos c
      have hRest := length_le_width cs
      rw [width_cons, List.length_cons, List.forall_mem_cons, ← ih,
        ← length_encodeChar_eq_one_iff]
      omega

end Utf8

end ReleasePipeline
