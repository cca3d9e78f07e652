import ContentGraph.Text.Units
import Mathlib.Data.List.Basic

/-!
# Texts cut between code units

A text is found again from its code units, and from parts of them that are read one by one, as long
as no cut goes between the two halves of a surrogate pair.

* `charsOfUnits_units` — the units of a text stand for its characters;
* `charsOfUnits_append` — units read in two parts;
* `SplitsPair` with `charsOfUnits_slice_append` — two neighbouring slices of a text.
-/

namespace ContentGraph.Text

/-! ### Units and characters -/

theorem isHigh_iff {unit : UInt16} :
    isHigh unit = true ↔ 0xD800 ≤ unit.toNat ∧ unit.toNat < 0xDC00 := by
  rw [isHigh, Bool.and_eq_true, decide_eq_true_eq, decide_eq_true_eq, UInt16.le_iff_toNat_le,
    UInt16.lt_iff_toNat_lt]
  rfl

theorem isLow_iff {unit : UInt16} : isLow unit = true ↔
    0xDC00 ≤ unit.toNat ∧ unit.toNat < 0xE000 := by
  rw [isLow, Bool.and_eq_true, decide_eq_true_eq, decide_eq_true_eq, UInt16.le_iff_toNat_le,
    UInt16.lt_iff_toNat_lt]
  rfl

/-- A unit that is no half of a pair stands for a character. -/
theorem charsOfUnits_cons {unit : UInt16} (hhigh : isHigh unit = false) (hlow : isLow unit = false)
    (rest : List UInt16) :
    charsOfUnits (unit :: rest) = Char.ofNat unit.toNat :: charsOfUnits rest := by
  cases rest with
  | nil => simp [charsOfUnits, hhigh, hlow]
  | cons next rest => simp [charsOfUnits, hhigh, hlow]

/-- A pair stands for a character. -/
theorem charsOfUnits_pair {high low : UInt16} (hhigh : isHigh high = true) (hlow : isLow low = true)
    (rest : List UInt16) :
    charsOfUnits (high :: low :: rest) = pairChar high low :: charsOfUnits rest := by
  simp [charsOfUnits, hhigh, hlow]

/-- The halves of the pair that stands for a number beyond the first plane. -/
theorem pairChar_halves {n : Nat} (hn : n < 0x100000) :
    pairChar (UInt16.ofNat (0xD800 + n / 0x400)) (UInt16.ofNat (0xDC00 + n % 0x400)) =
      Char.ofNat (0x10000 + n) := by
  have hhigh : (UInt16.ofNat (0xD800 + n / 0x400)).toNat = 0xD800 + n / 0x400 :=
    UInt16.toNat_ofNat_of_lt' (by simp only [UInt16.size]; omega)
  have hlow : (UInt16.ofNat (0xDC00 + n % 0x400)).toNat = 0xDC00 + n % 0x400 :=
    UInt16.toNat_ofNat_of_lt' (by simp only [UInt16.size]; omega)
  have hsum : 0x10000 + (0xD800 + n / 0x400 - 0xD800) * 0x400 + (0xDC00 + n % 0x400 - 0xDC00) =
      0x10000 + n := by omega
  rw [pairChar, hhigh, hlow, hsum]

/-- **The units of a character** stand for it. -/
theorem charsOfUnits_unitsOfChar (c : Char) (rest : List UInt16) :
    charsOfUnits (unitsOfChar c ++ rest) = c :: charsOfUnits rest := by
  have hvalid : c.toNat < 0xD800 ∨ 0xDFFF < c.toNat ∧ c.toNat < 0x110000 := c.valid
  unfold unitsOfChar
  split
  · next hsmall =>
    have hunit : (UInt16.ofNat c.toNat).toNat = c.toNat := UInt16.toNat_ofNat_of_lt' hsmall
    have hhigh : isHigh (UInt16.ofNat c.toNat) = false := by
      rw [Bool.eq_false_iff, Ne, isHigh_iff, hunit]
      omega
    have hlow : isLow (UInt16.ofNat c.toNat) = false := by
      rw [Bool.eq_false_iff, Ne, isLow_iff, hunit]
      omega
    rw [List.singleton_append, charsOfUnits_cons hhigh hlow, hunit, Char.ofNat_toNat]
  · next hlarge =>
    have hrest : c.toNat - 0x10000 < 0x100000 := by omega
    have hhigh : isHigh (UInt16.ofNat (0xD800 + (c.toNat - 0x10000) / 0x400)) = true := by
      rw [isHigh_iff, UInt16.toNat_ofNat_of_lt' (by simp only [UInt16.size]; omega)]
      omega
    have hlow : isLow (UInt16.ofNat (0xDC00 + (c.toNat - 0x10000) % 0x400)) = true := by
      rw [isLow_iff, UInt16.toNat_ofNat_of_lt' (by simp only [UInt16.size]; omega)]
      omega
    have hsum : 0x10000 + (c.toNat - 0x10000) = c.toNat := by omega
    show charsOfUnits (_ :: _ :: rest) = c :: charsOfUnits rest
    rw [charsOfUnits_pair hhigh hlow, pairChar_halves hrest, hsum, Char.ofNat_toNat]

/-- **The units of a text** stand for its characters. -/
theorem charsOfUnits_units (text : String) : charsOfUnits (units text) = text.toList := by
  rw [units]
  induction text.toList with
  | nil => rfl
  | cons c rest ih => rw [List.flatMap_cons, charsOfUnits_unitsOfChar, ih]

/-! ### Units in two parts -/

/-- **Units in two parts** stand for the characters of each, unless a pair is cut. -/
theorem charsOfUnits_append {x y : List UInt16}
    (h : ∀ high ∈ x.getLast?, ∀ low ∈ y.head?, ¬ (isHigh high = true ∧ isLow low = true)) :
    charsOfUnits (x ++ y) = charsOfUnits x ++ charsOfUnits y := by
  fun_induction charsOfUnits x with
  | case1 => rfl
  | case2 unit =>
    cases y with
    | nil => simp [charsOfUnits]
    | cons next rest =>
      have hpair := h unit rfl next rfl
      cases hhigh : isHigh unit <;> cases hlow : isLow unit <;> simp_all [charsOfUnits]
  | case3 unit next rest hhigh hlow ih =>
    rw [List.cons_append, List.cons_append, charsOfUnits_pair hhigh hlow, List.cons_append]
    congr 1
    apply ih
    intro high hlast
    cases rest with
    | nil => cases hlast
    | cons first others => exact h high (by simpa using hlast)
  | case4 unit next rest hhigh hlow ih =>
    have hrest := ih (by simpa using h)
    simp_all [charsOfUnits]
  | case5 unit next rest hhigh hlow ih =>
    have hrest := ih (by simpa using h)
    simp_all [charsOfUnits]
  | case6 unit next rest hhigh hlow ih =>
    have hrest := ih (by simpa using h)
    simp_all [charsOfUnits]

/-- An offset between the two halves of a surrogate pair. -/
def SplitsPair (units : List UInt16) (offset : Nat) : Prop :=
  0 < offset ∧ units[offset - 1]?.any isHigh = true ∧ units[offset]?.any isLow = true

instance (units : List UInt16) (offset : Nat) : Decidable (SplitsPair units offset) :=
  inferInstanceAs (Decidable (_ ∧ _))

/-- A text has no pair behind its end. -/
theorem not_splitsPair_length (units : List UInt16) : ¬ SplitsPair units units.length := by
  rintro ⟨-, -, hlow⟩
  rw [List.getElem?_length] at hlow
  cases hlow

/-- Neighbouring slices make up a longer one. -/
theorem slice_append (units : List UInt16) {start middle stop : Nat} (hstart : start ≤ middle)
    (hstop : middle ≤ stop) :
    slice units start middle ++ slice units middle stop = slice units start stop := by
  have hlength : stop - start = (middle - start) + (stop - middle) := by omega
  have hdrop : start + (middle - start) = middle := by omega
  rw [slice, slice, slice, hlength, List.take_add, List.drop_drop, hdrop]

theorem slice_self (units : List UInt16) (offset : Nat) : slice units offset offset = [] := by
  rw [slice, Nat.sub_self, List.take_zero]

theorem slice_all (units : List UInt16) : slice units 0 units.length = units := by
  rw [slice, List.drop_zero, Nat.sub_zero, List.take_length]

/-- The first unit of a slice. -/
theorem getElem?_of_head?_slice {units : List UInt16} {start stop : Nat} {unit : UInt16}
    (h : (slice units start stop).head? = some unit) : units[start]? = some unit := by
  rw [slice, List.head?_take] at h
  split at h
  · cases h
  · rwa [List.head?_drop] at h

/-- The last unit of a slice. -/
theorem getElem?_of_getLast?_slice {units : List UInt16} {start stop : Nat} {unit : UInt16}
    (hmore : units[stop]? ≠ none) (h : (slice units start stop).getLast? = some unit) :
    0 < stop ∧ units[stop - 1]? = some unit := by
  have hlength : stop < units.length := by
    rw [Ne, List.getElem?_eq_none_iff] at hmore
    omega
  have hsize : (slice units start stop).length = stop - start := by
    rw [slice, List.length_take, List.length_drop]
    omega
  have hrange : start < stop := by
    by_contra hempty
    have hnil : slice units start stop = [] := List.length_eq_zero_iff.mp (by omega)
    rw [hnil] at h
    cases h
  rw [List.getLast?_eq_getElem?, hsize, slice, List.getElem?_take_of_lt (by omega),
    List.getElem?_drop] at h
  have hindex : start + (stop - start - 1) = stop - 1 := by omega
  rw [hindex] at h
  exact ⟨by omega, h⟩

/-- **Neighbouring slices** stand for the characters of the longer one, unless they cut a pair. -/
theorem charsOfUnits_slice_append {units : List UInt16} {start middle stop : Nat}
    (hstart : start ≤ middle) (hstop : middle ≤ stop) (hcut : ¬ SplitsPair units middle) :
    charsOfUnits (slice units start middle) ++ charsOfUnits (slice units middle stop) =
      charsOfUnits (slice units start stop) := by
  rw [← slice_append units hstart hstop]
  symm
  apply charsOfUnits_append
  intro high hhigh low hlow hpair
  have hnext := getElem?_of_head?_slice hlow
  obtain ⟨hpos, hlast⟩ :=
    getElem?_of_getLast?_slice (by rw [hnext]; exact Option.some_ne_none low) hhigh
  refine hcut ⟨hpos, ?_, ?_⟩
  · rw [hlast]
    exact hpair.1
  · rw [hnext]
    exact hpair.2

end ContentGraph.Text
