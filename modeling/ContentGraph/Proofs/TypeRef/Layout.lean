import ContentGraph.Proofs.TypeRef.Written

/-!
# Type references and their layouts

A reference is written as a row of tokens: its name, brackets and exclamation marks.  A reader
passes over white space before and after each of them, and nowhere else.  So what is read is told by
the tokens alone, and reading and writing are inverse to each other up to the layout.

* `tokenTexts` — the tokens of a reference, which written one after the other are the reference;
* `LaidOut` — tokens with any amount of white space around each of them;
* `parseChars_of_laidOut`, `laidOut_of_parseChars` — every layout is read, and nothing else is;
* `parse_iff_laidOut` — which texts are read, as which reference, and which references are read
  back.
-/

namespace ContentGraph

namespace Text

/-! ### White space around a text -/

/-- A text of white space alone, if of anything. -/
def IsBlankText (text : List Char) : Prop := ∀ c ∈ text, isBlank c = true

theorem isBlankText_nil : IsBlankText [] := List.forall_mem_nil _

theorem IsBlankText.append {a b : List Char} (ha : IsBlankText a) (hb : IsBlankText b) :
    IsBlankText (a ++ b) :=
  List.forall_mem_append.mpr ⟨ha, hb⟩

theorem trimStart_blank_append {blank : List Char} (h : IsBlankText blank) (text : List Char) :
    trimStart (blank ++ text) = trimStart text := List.dropWhile_append_of_pos h

theorem trimEnd_append_blank {blank : List Char} (h : IsBlankText blank) (text : List Char) :
    trimEnd (text ++ blank) = trimEnd text := by
  have hreverse : ∀ c ∈ blank.reverse, isBlank c = true := fun c hc => h c (List.mem_reverse.mp hc)
  rw [trimEnd, List.reverse_append, List.dropWhile_append_of_pos hreverse, trimEnd]

theorem trim_append_blank {blank : List Char} (h : IsBlankText blank) (text : List Char) :
    trim (text ++ blank) = trim text := by
  induction text with
  | nil =>
    have hstart : trimStart blank = [] := List.dropWhile_eq_nil_iff.mpr h
    rw [List.nil_append, trim_eq, hstart]
    rfl
  | cons first rest ih =>
    by_cases hfirst : isBlank first = true
    · have hblank : IsBlankText [first] := List.forall_mem_singleton.mpr hfirst
      have hmore (more : List Char) : trim (first :: more) = trim more := by
        rw [trim_eq, ← List.singleton_append, trimStart_blank_append hblank, trim_eq]
      rw [List.cons_append, hmore, hmore, ih]
    · rw [Bool.not_eq_true] at hfirst
      rw [trim_eq, trim_eq, List.cons_append, trimStart_cons_of_not_blank hfirst,
        trimStart_cons_of_not_blank hfirst, ← List.cons_append, trimEnd_append_blank h]

/-- Trimming takes off white space and nothing else. -/
theorem exists_blank_trim (text : List Char) :
    ∃ before after, IsBlankText before ∧ IsBlankText after ∧
      text = before ++ (trim text ++ after) := by
  refine ⟨text.takeWhile isBlank, ((trimStart text).reverse.takeWhile isBlank).reverse, ?_, ?_, ?_⟩
  · exact fun c hc => List.mem_takeWhile_imp hc
  · exact fun c hc => List.mem_takeWhile_imp (List.mem_reverse.mp hc)
  · have hend : trim text ++ ((trimStart text).reverse.takeWhile isBlank).reverse =
        trimStart text := by
      rw [trim_eq, trimEnd, ← List.reverse_append, List.takeWhile_append_dropWhile,
        List.reverse_reverse]
    rw [hend, trimStart, List.takeWhile_append_dropWhile]

end Text

namespace TypeRef

open Text (IsBlankText)

/-! ### Tokens and layouts -/

/-- The tokens of a reference: the name, and the marks of the wrappers. -/
def tokenTexts : TypeRef → List (List Char)
  | .named name => [name.toList]
  | .nonNull inner => inner.tokenTexts ++ [['!']]
  | .list inner => ['['] :: (inner.tokenTexts ++ [[']']])

/-- The tokens written one after the other are the reference. -/
theorem flatten_tokenTexts (ref : TypeRef) : ref.tokenTexts.flatten = ref.render.toList := by
  rw [render, String.toList_ofList]
  induction ref with
  | named name => rw [tokenTexts, List.flatten_singleton, chars]
  | nonNull inner ih => rw [tokenTexts, List.flatten_append, ih, List.flatten_singleton, chars]
  | list inner ih =>
    rw [tokenTexts, List.flatten_cons, List.flatten_append, ih, List.flatten_singleton,
      List.singleton_append, chars]

/-- Tokens in order, with any amount of white space before and after each of them, and none
inside. -/
inductive LaidOut : List (List Char) → List Char → Prop
  | nil {blank : List Char} (h : IsBlankText blank) : LaidOut [] blank
  | cons {blank token rest : List Char} {tokens : List (List Char)} (h : IsBlankText blank)
      (more : LaidOut tokens rest) : LaidOut (token :: tokens) (blank ++ (token ++ rest))

theorem LaidOut.blank_append {blank text : List Char} {tokens : List (List Char)}
    (h : IsBlankText blank) (hlaid : LaidOut tokens text) : LaidOut tokens (blank ++ text) := by
  cases hlaid with
  | nil hblank => exact .nil (h.append hblank)
  | cons hblank more =>
    rw [← List.append_assoc]
    exact .cons (h.append hblank) more

theorem LaidOut.append {a b : List Char} {front back : List (List Char)} (ha : LaidOut front a)
    (hb : LaidOut back b) :
    LaidOut (front ++ back) (a ++ b) := by
  induction ha with
  | nil hblank => exact hb.blank_append hblank
  | cons hblank _ ih =>
    rw [List.append_assoc, List.append_assoc]
    exact .cons hblank ih

/-- A layout of two rows of tokens falls into their layouts. -/
theorem exists_of_laidOut_append {front back : List (List Char)} {text : List Char}
    (h : LaidOut (front ++ back) text) :
    ∃ a b, text = a ++ b ∧ LaidOut front a ∧ LaidOut back b := by
  induction front generalizing text with
  | nil => exact ⟨[], text, rfl, .nil Text.isBlankText_nil, h⟩
  | cons token rest ih =>
    cases h with
    | cons hblank more =>
      obtain ⟨a, b, rfl, ha, hb⟩ := ih more
      exact ⟨_, b, by rw [List.append_assoc, List.append_assoc], .cons hblank ha, hb⟩

theorem exists_of_laidOut_singleton {token text : List Char} (h : LaidOut [token] text) :
    ∃ before after, IsBlankText before ∧ IsBlankText after ∧ text = before ++ (token ++ after) := by
  cases h with
  | cons hbefore more =>
    cases more with
    | nil hafter => exact ⟨_, _, hbefore, hafter, rfl⟩

/-- Without any white space tokens are laid out as well. -/
theorem laidOut_flatten (tokens : List (List Char)) : LaidOut tokens tokens.flatten := by
  induction tokens with
  | nil => exact .nil Text.isBlankText_nil
  | cons token rest ih => exact .cons Text.isBlankText_nil ih

/-- White space around a layout belongs to the layout. -/
theorem laidOut_of_trim {tokens : List (List Char)} {text : List Char}
    (h : LaidOut tokens (Text.trim text)) :
    LaidOut tokens text := by
  obtain ⟨before, after, hbefore, hafter, htext⟩ := Text.exists_blank_trim text
  have hlaid : LaidOut (tokens ++ []) (Text.trim text ++ after) := h.append (.nil hafter)
  rw [List.append_nil] at hlaid
  rw [htext]
  exact hlaid.blank_append hbefore

/-! ### Layouts are read -/

/-- White space around a text is not seen. -/
theorem parseChars_around {before after : List Char} (hbefore : IsBlankText before)
    (hafter : IsBlankText after) (text : List Char) :
    parseChars (before ++ (text ++ after)) = parseChars text := by
  refine parseChars_congr ?_
  rw [Text.trim_eq, Text.trimStart_blank_append hbefore, ← Text.trim_eq,
    Text.trim_append_blank hafter]

theorem parseChars_append_blank {blank : List Char} (h : IsBlankText blank) (text : List Char) :
    parseChars (text ++ blank) = parseChars text := parseChars_around Text.isBlankText_nil h text

/-- A name is read as it is. -/
theorem parseChars_of_isName {text : List Char} (h : IsName text) :
    parseChars text = .ok (.named (String.ofList text)) := by
  have hread := parseChars_of_ending h.endsInName
  rwa [trimStart_of_isName h, if_pos h] at hread

/-- **A layout of a reference** whose name is one is read as the reference. -/
theorem parseChars_of_laidOut {ref : TypeRef} (hname : IsName ref.baseName.toList)
    {text : List Char} (h : LaidOut ref.tokenTexts text) : parseChars text = .ok ref := by
  induction ref generalizing text with
  | named name =>
    obtain ⟨before, after, hbefore, hafter, rfl⟩ := exists_of_laidOut_singleton h
    have hread := parseChars_of_isName hname
    rw [baseName, String.ofList_toList] at hread
    rw [parseChars_around hbefore hafter, hread]
  | nonNull inner ih =>
    obtain ⟨front, back, rfl, hfront, hback⟩ := exists_of_laidOut_append h
    obtain ⟨before, after, hbefore, hafter, rfl⟩ := exists_of_laidOut_singleton hback
    rw [← List.append_assoc, ← List.append_assoc, parseChars_append_blank hafter, parseChars_bang,
      parseChars_append_blank hbefore, ih hname hfront]
    rfl
  | list inner ih =>
    cases h with
    | cons hopen more =>
      obtain ⟨front, back, rfl, hfront, hback⟩ := exists_of_laidOut_append more
      obtain ⟨before, after, hbefore, hafter, rfl⟩ := exists_of_laidOut_singleton hback
      have hbrackets : ['['] ++ (front ++ (before ++ ([']'] ++ after))) =
          '[' :: ((front ++ before) ++ [']']) ++ after := by simp
      rw [hbrackets, parseChars_around hopen hafter, parseChars_brackets,
        parseChars_append_blank hbefore, ih hname hfront]
      rfl

/-! ### Nothing else is read -/

theorem exists_of_map_eq_ok {wrap : TypeRef → TypeRef} {read : Except ParseError TypeRef}
    {ref : TypeRef} (h : read.map wrap = .ok ref) : ∃ inner, read = .ok inner ∧
      wrap inner = ref := by
  cases read with
  | error e => cases h
  | ok inner =>
    cases h
    exact ⟨inner, rfl, rfl⟩

/-- **What is read** is a layout of the reference that it is read as. -/
theorem laidOut_of_parseChars {text : List Char} {ref : TypeRef} (h : parseChars text = .ok ref) :
    IsName ref.baseName.toList ∧ LaidOut ref.tokenTexts text := by
  fun_induction parseChars text generalizing ref with
  | case1 => cases h
  | case2 =>
    rename_i text first rest htrim trimmed hlast ih
    obtain ⟨inner, hinner, rfl⟩ := exists_of_map_eq_ok h
    obtain ⟨hname, hlaid⟩ := ih hinner
    have hbang : first :: rest = (first :: rest).dropLast ++ ['!'] :=
      (List.dropLast_append_getLast? _ hlast).symm
    refine ⟨hname, laidOut_of_trim ?_⟩
    rw [htrim, hbang]
    exact hlaid.append (laidOut_flatten [['!']])
  | case3 =>
    rename_i text rest hlast htrim trimmed hbang ih
    obtain ⟨inner, hinner, rfl⟩ := exists_of_map_eq_ok h
    obtain ⟨hname, hlaid⟩ := ih hinner
    have hclose : rest = rest.dropLast ++ [']'] := (List.dropLast_append_getLast? _ hlast).symm
    refine ⟨hname, laidOut_of_trim ?_⟩
    rw [htrim, hclose]
    exact .cons Text.isBlankText_nil (hlaid.append (laidOut_flatten [[']']]))
  | case4 => cases h
  | case5 =>
    rename_i text first rest htrim trimmed hbang hopen hall
    cases h
    refine ⟨?_, laidOut_of_trim ?_⟩
    · rw [baseName, String.toList_ofList]
      exact ⟨List.cons_ne_nil first rest, List.all_eq_true.mp hall⟩
    · rw [htrim, tokenTexts, String.toList_ofList]
      have hlaid := laidOut_flatten [first :: rest]
      rwa [List.flatten_singleton] at hlaid
  | case6 => cases h

/-! ### Reading and writing -/

/-- The characters of a text are read as a reference exactly when they are a layout of it and its
name is a name. -/
theorem parseChars_eq_ok_iff {text : List Char} {ref : TypeRef} :
    parseChars text = .ok ref ↔ IsName ref.baseName.toList ∧ LaidOut ref.tokenTexts text :=
  ⟨laidOut_of_parseChars, fun h => parseChars_of_laidOut h.1 h.2⟩

/-- A written reference is read back exactly when its name is a name. -/
theorem parse_render_eq_ok_iff {ref : TypeRef} :
    parse ref.render = .ok ref ↔ IsName ref.baseName.toList := by
  rw [parse, parseChars_eq_ok_iff, ← flatten_tokenTexts]
  exact and_iff_left (laidOut_flatten _)

/-- **Reading and writing type references are inverse up to layout.**  A reference is written as its
tokens.  A text is read as a reference exactly when it is a layout of these tokens and the name is
made of one or more letters, digits and underscores; every text that is no such layout is refused.
So a reference is read back from its own text exactly when it has such a name, and two of them that
differ are written differently. -/
theorem parse_iff_laidOut (text : String) (ref : TypeRef) :
    ref.tokenTexts.flatten = ref.render.toList ∧
      (parse text = .ok ref ↔ IsName ref.baseName.toList ∧ LaidOut ref.tokenTexts text.toList) ∧
      ((∃ e, parse text = .error e) ↔
        ∀ other : TypeRef, ¬(IsName other.baseName.toList ∧ LaidOut other.tokenTexts text.toList)) ∧
      (parse ref.render = .ok ref ↔ IsName ref.baseName.toList) ∧
      ∀ other : TypeRef, IsName ref.baseName.toList → IsName other.baseName.toList → ref ≠ other →
        ref.render ≠ other.render := by
  refine ⟨flatten_tokenTexts ref, parseChars_eq_ok_iff, ?_, parse_render_eq_ok_iff, ?_⟩
  · simp only [← parseChars_eq_ok_iff]
    rw [parse]
    cases parseChars text.toList with
    | error e => simp
    | ok found => simp
  · intro other href hother hne heq
    have hread := parse_render_eq_ok_iff.mpr href
    rw [heq, parse_render_eq_ok_iff.mpr hother, Except.ok.injEq] at hread
    exact hne hread.symm

/-- A list of required cards, with white space of several kinds wherever it may stand. -/
theorem parse_iff_laidOut_cards :
    let cards : TypeRef := .list (.nonNull (.named "Card_2"))
    let other : TypeRef := .nonNull (.list (.named "Card_2"))
    IsName cards.baseName.toList ∧ IsName other.baseName.toList ∧ cards ≠ other ∧
      parse "\t[ Card_2\u00A0! ]\n" = .ok cards ∧ cards.render ≠ other.render := by
  intro cards other
  have hname : IsName cards.baseName.toList := by decide
  have hne : cards ≠ other := by decide
  have hblank {blank : List Char} (h : blank.all Text.isBlank = true) : IsBlankText blank :=
    List.all_eq_true.mp h
  have hlaid : LaidOut cards.tokenTexts "\t[ Card_2\u00A0! ]\n".toList :=
    @LaidOut.cons ['\t'] _ _ _ (hblank rfl) (@LaidOut.cons [' '] _ _ _ (hblank rfl)
      (@LaidOut.cons ['\u00A0'] _ _ _ (hblank rfl) (@LaidOut.cons [' '] _ _ _ (hblank rfl)
        (.nil (hblank rfl)))))
  obtain ⟨-, hread, -, -, hdistinct⟩ := parse_iff_laidOut "\t[ Card_2\u00A0! ]\n" cards
  exact ⟨hname, hname, hne, hread.mpr ⟨hname, hlaid⟩, hdistinct other hname hname hne⟩

end TypeRef

end ContentGraph
