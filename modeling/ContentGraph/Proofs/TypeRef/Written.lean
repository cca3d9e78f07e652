import ContentGraph.TypeRef
import Mathlib.Data.List.DropRight

/-!
# Written type references read back

A type reference is written as its name inside wrappers, and any text may be a name.  Reading takes
the wrappers off from outside, each where it was put on, so that all depends on the name: white
space at its start is passed over, and what is left has to be letters, digits and underscores.

* `IsName` — the texts that are read as names;
* `withName` — a type reference with another name inside the same wrappers;
* `parseChars_chars` — a written reference is read as its name is, inside the same wrappers;
* `parseChars_of_ending` — how a name that ends in a name character is read;
* `parse_render` — what becomes of a written reference.
-/

namespace ContentGraph

namespace Text

/-- The text without white space at its start. -/
def trimStart (text : List Char) : List Char := text.dropWhile isBlank

theorem trim_eq (text : List Char) : trim text = trimEnd (trimStart text) := rfl

theorem trimStart_cons_of_not_blank {c : Char} (h : isBlank c = false) (text : List Char) :
    trimStart (c :: text) = c :: text := List.dropWhile_cons_of_neg (by simp [h])

theorem trimEnd_append_of_not_blank {c : Char} (h : isBlank c = false) (text : List Char) :
    trimEnd (text ++ [c]) = text ++ [c] := List.rdropWhile_concat_neg _ _ _ (by simp [h])

/-- White space at the start ends before a character that is none. -/
theorem trimStart_append_of_not_blank {c : Char} (h : isBlank c = false) (text : List Char) :
    trimStart (text ++ [c]) = trimStart text ++ [c] := by
  induction text with
  | nil => exact trimStart_cons_of_not_blank h []
  | cons first rest ih =>
    by_cases hblank : isBlank first = true
    · rw [List.cons_append, trimStart, trimStart, List.dropWhile_cons_of_pos hblank,
        List.dropWhile_cons_of_pos hblank]
      exact ih
    · rw [Bool.not_eq_true] at hblank
      rw [List.cons_append, trimStart_cons_of_not_blank hblank, trimStart_cons_of_not_blank hblank,
        List.cons_append]

/-- A text that ends in no white space is trimmed at its start only. -/
theorem trim_append_of_not_blank {c : Char} (h : isBlank c = false) (text : List Char) :
    trim (text ++ [c]) = trimStart text ++ [c] := by
  rw [trim_eq, trimStart_append_of_not_blank h, trimEnd_append_of_not_blank h]

/-- What is trimmed at its start has nothing more to trim there. -/
theorem trim_trimStart (text : List Char) : trim (trimStart text) = trim text := by
  rw [trim_eq, trim_eq, trimStart, trimStart, List.dropWhile_idempotent]

end Text

namespace TypeRef

/-! ### Wrappers -/

/-- The reference with another name inside the same wrappers. -/
def withName (name : String) : TypeRef → TypeRef
  | .named _ => .named name
  | .nonNull inner => .nonNull (inner.withName name)
  | .list inner => .list (inner.withName name)

@[simp] theorem withName_baseName (ref : TypeRef) : ref.withName ref.baseName = ref := by
  induction ref with
  | named name => rfl
  | nonNull inner ih => rw [baseName, withName, ih]
  | list inner ih => rw [baseName, withName, ih]

@[simp] theorem baseName_withName (name : String) (ref : TypeRef) :
    (ref.withName name).baseName = name := by
  induction ref with
  | named _ => rfl
  | nonNull inner ih => rw [withName, baseName, ih]
  | list inner ih => rw [withName, baseName, ih]

theorem parseChars_of_trim_nil {text : List Char} (h : Text.trim text = []) :
    parseChars text = .error ⟨""⟩ := by
  rw [parseChars]
  split
  · rfl
  · next hcons =>
    rw [h] at hcons
    cases hcons

/-- A text is read by what stands in it between white space. -/
theorem parseChars_of_trim {text rest : List Char} {first : Char}
    (h : Text.trim text = first :: rest) :
    parseChars text =
      if (first :: rest).getLast? = some '!' then (parseChars (first :: rest).dropLast).map .nonNull
      else if first = '[' then
        if rest.getLast? = some ']' then (parseChars rest.dropLast).map .list
        else .error ⟨String.ofList (first :: rest)⟩
      else if (first :: rest).all isNameChar then .ok (.named (String.ofList (first :: rest)))
      else .error ⟨String.ofList (first :: rest)⟩ := by
  rw [parseChars]
  split
  · next hnil =>
    rw [h] at hnil
    cases hnil
  · next hcons =>
    rw [h] at hcons
    cases hcons
    rfl

/-- Reading sees a text without the white space around it. -/
theorem parseChars_congr {text other : List Char} (h : Text.trim text = Text.trim other) :
    parseChars text = parseChars other := by
  cases hother : Text.trim other with
  | nil => rw [parseChars_of_trim_nil (h.trans hother), parseChars_of_trim_nil hother]
  | cons first rest => rw [parseChars_of_trim (h.trans hother), parseChars_of_trim hother]

theorem parseChars_trimStart (text : List Char) :
    parseChars (Text.trimStart text) = parseChars text :=
  parseChars_congr (Text.trim_trimStart text)

/-- **A final exclamation mark** is a non-null wrapper. -/
theorem parseChars_bang (text : List Char) :
    parseChars (text ++ ['!']) = (parseChars text).map .nonNull := by
  have htrim : Text.trim (text ++ ['!']) = Text.trimStart text ++ ['!'] :=
    Text.trim_append_of_not_blank (by decide) text
  cases hsplit : Text.trimStart text ++ ['!'] with
  | nil => simp at hsplit
  | cons first rest =>
    have hlast : (first :: rest).getLast? = some '!' := by rw [← hsplit, List.getLast?_concat]
    have hdrop : (first :: rest).dropLast = Text.trimStart text := by
      rw [← hsplit, List.dropLast_concat]
    rw [parseChars_of_trim (htrim.trans hsplit), if_pos hlast, hdrop, parseChars_trimStart]

/-- **Brackets** are a list wrapper. -/
theorem parseChars_brackets (text : List Char) :
    parseChars ('[' :: (text ++ [']'])) = (parseChars text).map .list := by
  have htrim : Text.trim ('[' :: (text ++ [']'])) = '[' :: (text ++ [']']) := by
    rw [← List.cons_append, Text.trim_append_of_not_blank (by decide),
      Text.trimStart_cons_of_not_blank (by decide)]
  have hlast : ('[' :: (text ++ [']'])).getLast? = some ']' := by
    rw [← List.cons_append, List.getLast?_concat]
  rw [parseChars_of_trim htrim, hlast, if_neg (by decide), if_pos rfl,
    List.getLast?_concat, if_pos rfl, List.dropLast_concat]

/-- **A written reference is read as its name is**, inside the same wrappers. -/
theorem parseChars_chars {ref : TypeRef} :
    (∀ name, parseChars ref.baseName.toList = .ok (.named name) →
      parseChars ref.chars = .ok (ref.withName name)) ∧
      ∀ e, parseChars ref.baseName.toList = .error e → parseChars ref.chars = .error e := by
  induction ref with
  | named name => exact ⟨fun _ h => h, fun _ h => h⟩
  | nonNull inner ih =>
    rw [baseName, chars, parseChars_bang]
    exact ⟨fun name h => by rw [ih.1 name h]; rfl, fun e h => by rw [ih.2 e h]; rfl⟩
  | list inner ih =>
    rw [baseName, chars, parseChars_brackets]
    exact ⟨fun name h => by rw [ih.1 name h]; rfl, fun e h => by rw [ih.2 e h]; rfl⟩

/-! ### Names -/

/-- One or more letters, digits and underscores. -/
def IsName (text : List Char) : Prop := text ≠ [] ∧ ∀ c ∈ text, isNameChar c = true

instance (text : List Char) : Decidable (IsName text) :=
  decidable_of_iff (text ≠ [] ∧ text.all isNameChar = true) (and_congr_right' List.all_eq_true)

/-- The text ends in a letter, a digit or an underscore. -/
def EndsInName (text : List Char) : Prop := ∃ before c, text = before ++ [c] ∧ isNameChar c = true

/-- A name ends in its last character. -/
theorem IsName.endsInName {text : List Char} (h : IsName text) : EndsInName text := by
  obtain ⟨before, c, rfl⟩ := (List.eq_nil_or_concat text).resolve_left h.1
  exact ⟨before, c, List.concat_eq_append, h.2 c (by simp)⟩

/-- Name characters are neither white space nor part of a wrapper. -/
theorem isNameChar_apart {c : Char} (h : isNameChar c = true) :
    Text.isBlank c = false ∧ c ≠ '!' ∧ c ≠ ']' ∧ c ≠ '[' := by
  refine ⟨?_, ?_, ?_, ?_⟩
  · simp only [isNameChar, Text.isAsciiAlphanumeric, Bool.or_eq_true, Bool.and_eq_true,
      decide_eq_true_eq, Char.le_def, UInt32.le_iff_toNat_le] at h
    have hnat : c.toNat = c.val.toNat := rfl
    simp only [Text.isBlank, hnat]
    rcases h with ((h | h) | h) | rfl
    · have h1 : (97 : Nat) ≤ c.val.toNat := h.1
      have h2 : c.val.toNat ≤ 122 := h.2
      simp
      omega
    · have h1 : (65 : Nat) ≤ c.val.toNat := h.1
      have h2 : c.val.toNat ≤ 90 := h.2
      simp
      omega
    · have h1 : (48 : Nat) ≤ c.val.toNat := h.1
      have h2 : c.val.toNat ≤ 57 := h.2
      simp
      omega
    · decide
  all_goals
    rintro rfl
    revert h
    decide

/-- **A name that ends in a name character** is read without the white space at its start, when the
rest is letters, digits and underscores. -/
theorem parseChars_of_ending {text : List Char} (h : EndsInName text) :
    if IsName (Text.trimStart text) then parseChars text =
      .ok (.named (String.ofList (Text.trimStart text)))
    else ∃ e, parseChars text = .error e := by
  obtain ⟨before, last, rfl, hlast⟩ := h
  obtain ⟨hblank, hbang, hclose, -⟩ := isNameChar_apart hlast
  have htrim := Text.trim_append_of_not_blank hblank before
  rw [Text.trimStart_append_of_not_blank hblank]
  cases hsplit : Text.trimStart before ++ [last] with
  | nil => simp at hsplit
  | cons first rest =>
    have hend : (first :: rest).getLast? = some last := by rw [← hsplit, List.getLast?_concat]
    have hread := parseChars_of_trim (htrim.trans hsplit)
    rw [hend, if_neg (by simpa using hbang)] at hread
    by_cases hname : IsName (first :: rest)
    · have hfirst : first ≠ '[' := (isNameChar_apart (hname.2 first List.mem_cons_self)).2.2.2
      rw [if_pos hname, hread, if_neg hfirst, if_pos (List.all_eq_true.mpr hname.2)]
    · rw [if_neg hname]
      by_cases hfirst : first = '['
      · -- brackets would have to end in a bracket
        have hopen : rest.getLast? ≠ some ']' := by
          intro hrest
          have hsame : (first :: rest).getLast? = some ']' := by rw [List.getLast?_cons, hrest]; rfl
          rw [hend, Option.some_inj] at hsame
          exact hclose hsame
        rw [if_pos hfirst, if_neg hopen] at hread
        exact ⟨_, hread⟩
      · have hall : ¬(first :: rest).all isNameChar = true := by
          intro hall
          exact hname ⟨List.cons_ne_nil _ _, List.all_eq_true.mp hall⟩
        rw [if_neg hfirst, if_neg hall] at hread
        exact ⟨_, hread⟩

/-- The reference without white space at the start of its name. -/
def trimmed (ref : TypeRef) : TypeRef :=
  ref.withName (String.ofList (Text.trimStart ref.baseName.toList))

/-- A reference whose name is made of letters, digits and underscores, white space at its start
apart. -/
def Readable (ref : TypeRef) : Prop := IsName (Text.trimStart ref.baseName.toList)

instance (ref : TypeRef) : Decidable ref.Readable := inferInstanceAs (Decidable (IsName _))

/-- **What becomes of a written reference** whose name ends in a name character. -/
theorem parse_render {ref : TypeRef} (h : EndsInName ref.baseName.toList) :
    (parse ref.render).toOption = if ref.Readable then some ref.trimmed else none := by
  have hread := parseChars_of_ending h
  rw [parse, render, String.toList_ofList]
  by_cases hreadable : IsName (Text.trimStart ref.baseName.toList)
  · rw [if_pos hreadable] at hread
    rw [if_pos (show ref.Readable from hreadable), parseChars_chars.1 _ hread]
    rfl
  · rw [if_neg hreadable] at hread
    obtain ⟨e, he⟩ := hread
    rw [if_neg (show ¬ref.Readable from hreadable), parseChars_chars.2 e he]
    rfl

/-- A name has no white space at its start. -/
theorem trimStart_of_isName {text : List Char} (h : IsName text) : Text.trimStart text = text := by
  cases text with
  | nil => exact absurd rfl h.1
  | cons c rest =>
    exact Text.trimStart_cons_of_not_blank (isNameChar_apart (h.2 c List.mem_cons_self)).1 rest

/-- A reference is read back as it was when its name, from its start, is made of letters, digits and
underscores. -/
theorem readable_and_trimmed_eq_iff {ref : TypeRef} :
    (ref.Readable ∧ ref.trimmed = ref) ↔ IsName ref.baseName.toList := by
  constructor
  · rintro ⟨hreadable, heq⟩
    have hname : String.ofList (Text.trimStart ref.baseName.toList) = ref.baseName := by
      have hbase := congrArg baseName heq
      rwa [trimmed, baseName_withName] at hbase
    rw [Readable, ← String.toList_ofList (l := Text.trimStart ref.baseName.toList), hname]
      at hreadable
    exact hreadable
  · intro h
    have hstart := trimStart_of_isName h
    refine ⟨?_, ?_⟩
    · rwa [Readable, hstart]
    · rw [trimmed, hstart, String.ofList_toList, withName_baseName]

end TypeRef

end ContentGraph
