import ContentGraph.Text.Escape

/-!
# What percent-encoded texts stand for

An encoded text is read byte by byte: a percent sign with two hexadecimal digits stands for the byte
that they write, any other byte for itself.  The bytes that come out may be those of no text; then
the encoded text stands for itself.

* `HexDigit` with `hexByte?_eq_some_iff` — bytes that are hexadecimal digits, and their values;
* `PercentDecodes` with `percentDecodes_iff` — the bytes that encoded bytes stand for;
* `IsPercentDecoding` with `isPercentDecoding_iff` — the text that an encoded one stands for.
-/

namespace ContentGraph.Text

/-! ### Hexadecimal digits -/

/-- A byte is the code of a hexadecimal digit, whose letters are of either case, and has its
value. -/
inductive HexDigit (byte : UInt8) : Nat → Prop
  | decimal {n : Nat} (small : n < 10) (code : byte.toNat = '0'.toNat + n) : HexDigit byte n
  | lower {n : Nat} (small : n < 6) (code : byte.toNat = 'a'.toNat + n) : HexDigit byte (10 + n)
  | upper {n : Nat} (small : n < 6) (code : byte.toNat = 'A'.toNat + n) : HexDigit byte (10 + n)

/-- The values of the characters of one byte. -/
theorem hexValue?_ofNat : ∀ n < 256, hexValue? (Char.ofNat n) =
    if 48 ≤ n ∧ n ≤ 57 then some (n - 48)
    else if 97 ≤ n ∧ n ≤ 102 then some (n - 87)
    else if 65 ≤ n ∧ n ≤ 70 then some (n - 55)
    else none := by
  decide +kernel

/-- The value that is found is the digit's. -/
theorem hexValue?_eq_some_iff {byte : UInt8} {value : Nat} :
    hexValue? (Char.ofNat byte.toNat) = some value ↔ HexDigit byte value := by
  rw [hexValue?_ofNat byte.toNat byte.toNat_lt]
  constructor
  · intro h
    split at h
    · cases h
      exact .decimal (by omega) (by show _ = 48 + _; omega)
    · split at h
      · cases h
        have hlower : HexDigit byte (10 + (byte.toNat - 97)) :=
          .lower (by omega) (by show _ = 97 + _; omega)
        rwa [show 10 + (byte.toNat - 97) = byte.toNat - 87 by omega] at hlower
      · split at h
        · cases h
          have hupper : HexDigit byte (10 + (byte.toNat - 65)) :=
            .upper (by omega) (by show _ = 65 + _; omega)
          rwa [show 10 + (byte.toNat - 65) = byte.toNat - 55 by omega] at hupper
        · cases h
  · intro h
    cases h with
    | decimal small code =>
      have hcode : byte.toNat = 48 + value := code
      rw [if_pos (by omega), hcode, Nat.add_sub_cancel_left]
    | @lower n small code =>
      have hcode : byte.toNat = 97 + n := code
      rw [if_neg (by omega), if_pos (by omega), show byte.toNat - 87 = 10 + n by omega]
    | @upper n small code =>
      have hcode : byte.toNat = 65 + n := code
      rw [if_neg (by omega), if_neg (by omega), if_pos (by omega),
        show byte.toNat - 55 = 10 + n by omega]

/-! ### Bytes -/

/-- Bytes that start with a percent sign, which has the code 37, and two hexadecimal digits. -/
def StartsEscape (bytes : List UInt8) : Prop :=
  ∃ high low rest h l, bytes = 37 :: high :: low :: rest ∧ HexDigit high h ∧ HexDigit low l

/-- **The bytes that encoded bytes stand for**: an escape for the byte of its two digits, any other
byte for itself. -/
inductive PercentDecodes : List UInt8 → List UInt8 → Prop
  | nil : PercentDecodes [] []
  | escape {high low : UInt8} {h l : Nat} {rest decoded : List UInt8} (high_value : HexDigit high h)
      (low_value : HexDigit low l) (more : PercentDecodes rest decoded) :
      PercentDecodes (37 :: high :: low :: rest) (UInt8.ofNat (16 * h + l) :: decoded)
  | plain {byte : UInt8} {rest decoded : List UInt8} (other : ¬StartsEscape (byte :: rest))
      (more : PercentDecodes rest decoded) : PercentDecodes (byte :: rest) (byte :: decoded)

theorem hexByte?_of_hexDigit {byte : UInt8} {value : Nat} (h : HexDigit byte value) :
    hexByte? byte = some (UInt8.ofNat value) := by
  rw [hexByte?, hexValue?_eq_some_iff.mpr h, Option.map_some]

theorem exists_hexDigit_of_hexByte? {byte value : UInt8} (h : hexByte? byte = some value) :
    ∃ n, HexDigit byte n ∧ value = UInt8.ofNat n := by
  obtain ⟨n, hn, rfl⟩ := Option.map_eq_some_iff.mp h
  exact ⟨n, hexValue?_eq_some_iff.mp hn, rfl⟩

theorem ofNat_digits (h l : Nat) : UInt8.ofNat h * 16 + UInt8.ofNat l =
    UInt8.ofNat (16 * h + l) := by
  rw [UInt8.ofNat_add, UInt8.ofNat_mul, UInt8.mul_comm]
  rfl

/-- What is decoded of bytes is what they stand for. -/
theorem percentDecodes_percentBytes (bytes : List UInt8) :
    PercentDecodes bytes (percentBytes bytes) := by
  fun_induction percentBytes bytes with
  | case1 high low rest h l hlow hhigh ih =>
    obtain ⟨m, hm, rfl⟩ := exists_hexDigit_of_hexByte? hhigh
    obtain ⟨n, hn, rfl⟩ := exists_hexDigit_of_hexByte? hlow
    rw [ofNat_digits]
    exact .escape hm hn ih
  | case2 high low rest hdigits ih =>
    refine .plain ?_ ih
    rintro ⟨_, _, _, m, n, heq, hm, hn⟩
    cases heq
    exact hdigits _ _ (hexByte?_of_hexDigit hm) (hexByte?_of_hexDigit hn)
  | case3 byte rest hshort ih =>
    refine .plain ?_ ih
    rintro ⟨high, low, after, m, n, heq, -, -⟩
    cases heq
    exact hshort _ _ _ rfl rfl
  | case4 => exact .nil

/-- Bytes stand for one row of bytes only. -/
theorem PercentDecodes.unique {bytes decoded other : List UInt8} (h : PercentDecodes bytes decoded)
    (hother : PercentDecodes bytes other) : decoded = other := by
  induction h generalizing other with
  | nil =>
    cases hother
    rfl
  | escape hhigh hlow more ih =>
    cases hother with
    | escape hhigh' hlow' more' =>
      have hsame := (hexByte?_of_hexDigit hhigh).symm.trans (hexByte?_of_hexDigit hhigh')
      have hsameLow := (hexByte?_of_hexDigit hlow).symm.trans (hexByte?_of_hexDigit hlow')
      rw [Option.some_inj] at hsame hsameLow
      rw [ih more', ← ofNat_digits, ← ofNat_digits, hsame, hsameLow]
    | plain hplain more' => exact absurd ⟨_, _, _, _, _, rfl, hhigh, hlow⟩ hplain
  | plain hplain more ih =>
    cases hother with
    | escape hhigh hlow more' => exact absurd ⟨_, _, _, _, _, rfl, hhigh, hlow⟩ hplain
    | plain hplain' more' => rw [ih more']

/-- **Decoding finds what bytes stand for.** -/
theorem percentDecodes_iff {bytes decoded : List UInt8} :
    PercentDecodes bytes decoded ↔ percentBytes bytes = decoded :=
  ⟨fun h => (percentDecodes_percentBytes bytes).unique h,
    fun h => h ▸ percentDecodes_percentBytes bytes⟩

/-! ### Texts -/

/-- **The text that an encoded one stands for**: the text of the bytes that its own bytes stand for
or, when no text has those bytes, the encoded text itself. -/
def IsPercentDecoding (encoded decoded : String) : Prop :=
  ∃ bytes : List UInt8, PercentDecodes encoded.toUTF8.toList bytes ∧
    (decoded.toUTF8 = ⟨bytes.toArray⟩ ∨
      (∀ text : String, text.toUTF8 ≠ ⟨bytes.toArray⟩) ∧ decoded = encoded)

/-- What reads as UTF-8 is a text of those bytes, and every text has bytes that read as it. -/
theorem fromUTF8?_eq_some_iff {bytes : ByteArray} {text : String} :
    String.fromUTF8? bytes = some text ↔ text.toUTF8 = bytes := by
  constructor
  · intro h
    rw [String.fromUTF8?] at h
    split at h
    · cases h
      rfl
    · cases h
  · rintro rfl
    rw [String.fromUTF8?]
    exact dif_pos text.isValidUTF8

/-- **Decoding finds the text that an encoded one stands for.** -/
theorem isPercentDecoding_iff {encoded decoded : String} :
    IsPercentDecoding encoded decoded ↔ percentDecode encoded = decoded := by
  let bytes : List UInt8 := percentBytes encoded.toUTF8.toList
  have hiff : IsPercentDecoding encoded decoded ↔ decoded.toUTF8 = ⟨bytes.toArray⟩ ∨
      (∀ text : String, text.toUTF8 ≠ ⟨bytes.toArray⟩) ∧ decoded = encoded := by
    simp only [IsPercentDecoding, percentDecodes_iff, exists_eq_left']
    exact Iff.rfl
  rw [hiff, percentDecode]
  cases hdecoded : percentDecode? encoded with
  | some text =>
    have htext : text.toUTF8 = ⟨bytes.toArray⟩ := fromUTF8?_eq_some_iff.mp hdecoded
    rw [Option.getD_some]
    constructor
    · rintro (h | ⟨hnone, -⟩)
      · exact String.toByteArray_inj.mp (htext.trans h.symm)
      · exact absurd htext (hnone text)
    · rintro rfl
      exact Or.inl htext
  | none =>
    have hnone : ∀ text : String, text.toUTF8 ≠ ⟨bytes.toArray⟩ := by
      intro text htext
      have hsome : percentDecode? encoded = some text := fromUTF8?_eq_some_iff.mpr htext
      rw [hdecoded] at hsome
      cases hsome
    rw [Option.getD_none]
    constructor
    · rintro (h | ⟨-, hsame⟩)
      · exact absurd h (hnone decoded)
      · exact hsame.symm
    · exact fun hsame => Or.inr ⟨hnone, hsame.symm⟩

end ContentGraph.Text
