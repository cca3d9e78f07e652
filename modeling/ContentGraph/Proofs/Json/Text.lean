import ContentGraph.Json.Reader
import ContentGraph.Json.Record
import ContentGraph.Json.Writer
import Mathlib.Data.List.Basic

/-!
# Written values read back

Values without numbers are read back from either of their texts.  Both texts are written by one
function over a layout, which says what blanks stand between the tokens; reading passes over blanks.

* `readString_escape` — a string is read up to its closing quote;
* `Layout.write` with `compactChars_eq`, `prettyChars_eq` — both texts as texts in a layout;
* `PlainWithin` — a value without numbers that nests no deeper than the reader goes;
* `readValue_write` — such a value is read back, whatever follows it;
* `parse_compact`, `parse_pretty` — the whole text holds that value.
-/

namespace ContentGraph.Json

/-! ### Strings -/

/-- A control character is read back from its hexadecimal digits. -/
theorem hexUnit?_control : ∀ code < 32,
    hexUnit? '0' '0' (Text.hexDigit (code / 16)) (Text.hexDigit (code % 16)) = some code := by
  decide

/-- One escaped character is read back in front of the rest of the string. -/
theorem readString_escape_append (c : Char) (rest : List Char) :
    readString (escape c ++ rest) = (readString rest).map fun read => (c :: read.1, read.2) := by
  unfold escape
  split_ifs with hquote hslash hn hr ht hb hf hcontrol
  all_goals try (subst_vars; rfl)
  · -- a control character without a letter of its own
    have hunit := hexUnit?_control c.toNat hcontrol
    have hhigh : isHighSurrogate c.toNat = false := by simp [isHighSurrogate]; omega
    have hlow : isLowSurrogate c.toNat = false := by simp [isLowSurrogate]; omega
    simp only [List.cons_append, List.nil_append, readString, hunit, hhigh, hlow,
      Bool.false_eq_true, if_false, Char.ofNat_toNat]
  · have hplain : (decide (c.toNat < 32) || decide (c = '\\')) = false := by simp [hcontrol, hslash]
    rw [List.singleton_append]
    rw [readString]
    · rw [hplain]
      rfl
    · exact fun h => hquote h
    · rintro a b d e tail rfl
      exact absurd rfl hslash
    · rintro a tail rfl
      exact absurd rfl hslash

/-- **A string is read back** up to its closing quote. -/
theorem readString_escape (text rest : List Char) :
    readString (text.flatMap escape ++ '"' :: rest) = some (text, rest) := by
  induction text with
  | nil => rfl
  | cons c text ih =>
    rw [List.flatMap_cons, List.append_assoc, readString_escape_append, ih, Option.map_some]

/-! ### Blanks -/

theorem skipBlanks_append {blanks : List Char} (h : ∀ c ∈ blanks, isBlank c = true)
    (text : List Char) :
    skipBlanks (blanks ++ text) = skipBlanks text :=
  List.dropWhile_append_of_pos h

theorem skipBlanks_cons {c : Char} (h : isBlank c = false) (text : List Char) :
    skipBlanks (c :: text) = c :: text :=
  List.dropWhile_cons_of_neg (by simp [h])

/-! ### Both texts as one -/

/-- The blanks between the tokens of a text. -/
structure Layout where
  lineBreak : Nat → List Char
  space : List Char
  lineBreak_blank : ∀ depth, ∀ c ∈ lineBreak depth, isBlank c = true
  space_blank : ∀ c ∈ space, isBlank c = true

namespace Layout

/-- No blanks at all. -/
def dense : Layout where
  lineBreak := fun _ => []
  space := []
  lineBreak_blank := by simp
  space_blank := by simp

/-- One element or member a line. -/
def indented : Layout where
  lineBreak := Json.lineBreak
  space := [' ']
  lineBreak_blank := by
    intro depth c hc
    rcases List.mem_cons.mp hc with rfl | hspace
    · rfl
    · rw [List.eq_of_mem_replicate hspace]
      rfl
  space_blank := by simp [isBlank]

variable (layout : Layout)

mutual
/-- A value whose further lines are indented by `depth` levels. -/
def write (depth : Nat) : Json → List Char
  | .null => ['n', 'u', 'l', 'l']
  | .bool true => ['t', 'r', 'u', 'e']
  | .bool false => ['f', 'a', 'l', 's', 'e']
  | .number value => writeNumber value
  | .string text => quote text
  | .array [] => ['[', ']']
  | .array (value :: rest) =>
    '[' :: (layout.lineBreak (depth + 1) ++ writeElements (depth + 1) (value :: rest) ++
      layout.lineBreak depth ++ [']'])
  | .object [] => ['\x7b', '\x7d']
  | .object (entry :: rest) =>
    '\x7b' :: (layout.lineBreak (depth + 1) ++ writeMembers (depth + 1) (entry :: rest)
      ++ layout.lineBreak depth ++ ['\x7d'])
/-- Elements between commas. -/
def writeElements (depth : Nat) : List Json → List Char
  | [] => []
  | [value] => write depth value
  | value :: rest =>
    write depth value ++ ',' :: (layout.lineBreak depth ++ writeElements depth rest)
/-- Members between commas. -/
def writeMembers (depth : Nat) : List (String × Json) → List Char
  | [] => []
  | [(key, value)] => quote key ++ ':' :: (layout.space ++ write depth value)
  | (key, value) :: rest =>
    quote key ++ ':' :: (layout.space ++ (write depth value
      ++ ',' :: (layout.lineBreak depth ++ writeMembers depth rest)))
end

end Layout

mutual
/-- Compact text has no blanks. -/
theorem compactChars_eq (depth : Nat) : ∀ value, compactChars value = Layout.dense.write depth value
  | .null | .bool true | .bool false | .number _ | .string _ => by simp [compactChars, Layout.write]
  | .array [] => rfl
  | .array (value :: rest) => by
    rw [compactChars, Layout.write, compactElements_eq (depth + 1)]
    simp [Layout.dense]
  | .object [] => rfl
  | .object (entry :: rest) => by
    rw [compactChars, Layout.write, compactMembers_eq (depth + 1)]
    simp [Layout.dense]
theorem compactElements_eq (depth : Nat) :
    ∀ elements, compactElements elements = Layout.dense.writeElements depth elements
  | [] => rfl
  | [value] => by rw [compactElements, Layout.writeElements, compactChars_eq depth]
  | value :: next :: rest => by
    rw [compactElements, Layout.writeElements, compactChars_eq depth, compactElements_eq depth]
    · rfl
    all_goals exact List.cons_ne_nil _ _
theorem compactMembers_eq (depth : Nat) :
    ∀ members, compactMembers members = Layout.dense.writeMembers depth members
  | [] => rfl
  | [(key, value)] => by
    rw [compactMembers, Layout.writeMembers, compactChars_eq depth]
    rfl
  | (key, value) :: next :: rest => by
    rw [compactMembers, Layout.writeMembers, compactChars_eq depth, compactMembers_eq depth]
    · rfl
    all_goals exact List.cons_ne_nil _ _
end

mutual
/-- Pretty text is indented. -/
theorem prettyChars_eq (depth : Nat) :
    ∀ value, prettyChars depth value = Layout.indented.write depth value
  | .null | .bool true | .bool false | .number _ | .string _ => by simp [prettyChars, Layout.write]
  | .array [] => rfl
  | .array (value :: rest) => by
    rw [prettyChars, Layout.write, prettyElements_eq (depth + 1)]
    rfl
  | .object [] => rfl
  | .object (entry :: rest) => by
    rw [prettyChars, Layout.write, prettyMembers_eq (depth + 1)]
    rfl
theorem prettyElements_eq (depth : Nat) :
    ∀ elements, prettyElements depth elements = Layout.indented.writeElements depth elements
  | [] => rfl
  | [value] => by rw [prettyElements, Layout.writeElements, prettyChars_eq depth]
  | value :: next :: rest => by
    rw [prettyElements, Layout.writeElements, prettyChars_eq depth, prettyElements_eq depth]
    · rfl
    all_goals exact List.cons_ne_nil _ _
theorem prettyMembers_eq (depth : Nat) :
    ∀ members, prettyMembers depth members = Layout.indented.writeMembers depth members
  | [] => rfl
  | [(key, value)] => by
    rw [prettyMembers, Layout.writeMembers, prettyChars_eq depth]
    rfl
  | (key, value) :: next :: rest => by
    rw [prettyMembers, Layout.writeMembers, prettyChars_eq depth, prettyMembers_eq depth]
    · rfl
    all_goals exact List.cons_ne_nil _ _
end

/-! ### Values without numbers -/

mutual
/-- The value holds no number, and nests no deeper than `depth`. -/
def PlainWithin (depth : Nat) : Json → Prop
  | .null => True
  | .bool _ => True
  | .number _ => False
  | .string _ => True
  | .array elements => 0 < depth ∧ PlainWithinElements (depth - 1) elements
  | .object members => 0 < depth ∧ PlainWithinMembers (depth - 1) members
/-- Every element holds no number, and nests no deeper than `depth`. -/
def PlainWithinElements (depth : Nat) : List Json → Prop
  | [] => True
  | value :: rest => PlainWithin depth value ∧ PlainWithinElements depth rest
/-- Every member's value holds no number, and nests no deeper than `depth`. -/
def PlainWithinMembers (depth : Nat) : List (String × Json) → Prop
  | [] => True
  | (_, value) :: rest => PlainWithin depth value ∧ PlainWithinMembers depth rest
end

theorem plainWithinElements_iff {depth : Nat} {elements : List Json} :
    PlainWithinElements depth elements ↔ ∀ value ∈ elements, PlainWithin depth value := by
  induction elements with
  | nil => simp [PlainWithinElements]
  | cons value rest ih => rw [PlainWithinElements, ih, List.forall_mem_cons]

theorem plainWithinMembers_iff {depth : Nat} {members : List (String × Json)} :
    PlainWithinMembers depth members ↔ ∀ member ∈ members, PlainWithin depth member.2 := by
  induction members with
  | nil => simp [PlainWithinMembers]
  | cons member rest ih => rw [PlainWithinMembers, ih, List.forall_mem_cons]

mutual
/-- What nests no deeper than a depth nests no deeper than a greater one. -/
theorem PlainWithin.mono :
    ∀ (value : Json) {less more : Nat}, less ≤ more → PlainWithin less value →
    PlainWithin more value
  | .null, _, _, _, _ => trivial
  | .bool _, _, _, _, _ => trivial
  | .string _, _, _, _, _ => trivial
  | .number _, _, _, _, h => h.elim
  | .array elements, _, _, hle, h =>
    ⟨Nat.lt_of_lt_of_le h.1 hle, PlainWithinElements.mono elements (Nat.sub_le_sub_right hle 1) h.2⟩
  | .object members, _, _, hle, h =>
    ⟨Nat.lt_of_lt_of_le h.1 hle, PlainWithinMembers.mono members (Nat.sub_le_sub_right hle 1) h.2⟩
theorem PlainWithinElements.mono : ∀ (elements : List Json) {less more : Nat}, less ≤ more →
    PlainWithinElements less elements → PlainWithinElements more elements
  | [], _, _, _, _ => trivial
  | value :: rest, _, _, hle, h =>
    ⟨PlainWithin.mono value hle h.1, PlainWithinElements.mono rest hle h.2⟩
theorem PlainWithinMembers.mono :
    ∀ (members : List (String × Json)) {less more : Nat}, less ≤ more →
    PlainWithinMembers less members → PlainWithinMembers more members
  | [], _, _, _, _ => trivial
  | (_, value) :: rest, _, _, hle, h =>
    ⟨PlainWithin.mono value hle h.1, PlainWithinMembers.mono rest hle h.2⟩
end
/-- An array of strings nests once. -/
theorem plainWithin_ofStrings {depth : Nat} (h : 0 < depth) (texts : List String) :
    PlainWithin depth (ofStrings texts) := by
  refine ⟨h, plainWithinElements_iff.mpr fun value hvalue => ?_⟩
  obtain ⟨text, -, rfl⟩ := List.mem_map.mp hvalue
  trivial

/-! ### Reading what is written -/

section Blanks

variable {blanks : List Char} (h : ∀ c ∈ blanks, isBlank c = true) (fuel depth : Nat)
  (text : List Char)
include h

theorem readValue_blanks : readValue fuel depth (blanks ++ text) = readValue fuel depth text := by
  cases fuel with
  | zero => rw [readValue, readValue]
  | succ fuel => rw [readValue, readValue, skipBlanks_append h]

theorem readElements_blanks :
    readElements fuel depth (blanks ++ text) = readElements fuel depth text := by
  cases fuel with
  | zero => rw [readElements, readElements]
  | succ fuel => rw [readElements, readElements, readValue_blanks h]

theorem readMembers_blanks :
    readMembers fuel depth (blanks ++ text) = readMembers fuel depth text := by
  cases fuel with
  | zero => rw [readMembers, readMembers]
  | succ fuel => rw [readMembers, readMembers, skipBlanks_append h]

end Blanks

/-- A string is read with its quotes. -/
theorem readValue_quote (fuel depth : Nat) (text : String) (rest : List Char) :
    readValue (fuel + 1) depth (quote text ++ rest) = some (.string text, rest) := by
  have hread : readString (text.toList.flatMap escape ++ ['"'] ++ rest) =
      some (text.toList, rest) := by
    rw [List.append_assoc, List.singleton_append, readString_escape]
  rw [readValue, quote, List.cons_append, skipBlanks_cons (by decide)]
  simp only [hread, Option.map_some, String.ofList_toList]

/-- An array is read when its elements are. -/
theorem readValue_array {fuel depth : Nat} {text after : List Char} {elements : List Json}
    {c : Char} {tail : List Char} (hfirst : skipBlanks text = c :: tail) (hne : c ≠ ']')
    (h : readElements fuel depth (c :: tail) = some (elements, after)) :
    readValue (fuel + 1) (depth + 1) ('[' :: text) = some (.array elements, after) := by
  rw [readValue, skipBlanks_cons (by decide)]
  simp only [hfirst]
  split
  · next heq => exact absurd (List.cons.inj heq).1 hne
  · rw [h, Option.map_some]

/-- An object is read when its members are. -/
theorem readValue_object {fuel depth : Nat} {text after : List Char}
    {members : List (String × Json)} {c : Char} {tail : List Char}
    (hfirst : skipBlanks text = c :: tail) (hne : c ≠ '\x7d')
    (h : readMembers fuel depth (c :: tail) = some (members, after)) :
    readValue (fuel + 1) (depth + 1) ('\x7b' :: text) = some (.object members, after) := by
  rw [readValue, skipBlanks_cons (by decide)]
  simp only [hfirst]
  split
  · next heq => exact absurd (List.cons.inj heq).1 hne
  · rw [h, Option.map_some]

/-- The key of a member is found before its colon. -/
theorem key_blanks (key : String) (text : List Char) :
    skipBlanks (quote key ++ ':' :: text) =
        '"' :: (key.toList.flatMap escape ++ ['"'] ++ ':' :: text) ∧
      readString (key.toList.flatMap escape ++ ['"'] ++ ':' :: text) =
        some (key.toList, ':' :: text) ∧
      skipBlanks (':' :: text) = ':' :: text := by
  refine ⟨?_, ?_, skipBlanks_cons (by decide) text⟩
  · rw [quote, List.cons_append, skipBlanks_cons (by decide)]
  · rw [List.append_assoc, List.singleton_append, readString_escape]

/-- The last member of an object is read up to the brace. -/
theorem readMembers_last {fuel depth : Nat} {key : String} {value : Json}
    {text rest after : List Char} (h : readValue fuel depth text = some (value, rest))
    (hclose : skipBlanks rest = '\x7d' :: after) :
    readMembers (fuel + 1) depth (quote key ++ ':' :: text) = some ([(key, value)], after) := by
  obtain ⟨hstart, hread, hcolon⟩ := key_blanks key text
  simp only [readMembers, hstart, hread, hcolon, h, hclose, String.ofList_toList]

/-- A member before a comma is read, and the members after it. -/
theorem readMembers_more {fuel depth : Nat} {key : String} {value : Json}
    {members : List (String × Json)} {text rest later after : List Char}
    (h : readValue fuel depth text = some (value, rest)) (hcomma : skipBlanks rest = ',' :: later)
    (hlater : readMembers fuel depth later = some (members, after)) :
    readMembers (fuel + 1) depth (quote key ++ ':' :: text) =
      some ((key, value) :: members, after) := by
  obtain ⟨hstart, hread, hcolon⟩ := key_blanks key text
  simp only [readMembers, hstart, hread, hcolon, h, hcomma, hlater, Option.map_some,
    String.ofList_toList]

namespace Layout

variable (layout : Layout)

/-- What is written of a plain value starts with a character that is no blank and closes no
array. -/
theorem write_head {depth : Nat} (indent : Nat) {value : Json} (plain : PlainWithin depth value) :
    ∃ c tail, layout.write indent value = c :: tail ∧ isBlank c = false ∧ c ≠ ']' := by
  rcases value with _ | (_ | _) | value | text | (_ | _) | (_ | _)
  case number => exact plain.elim
  all_goals exact ⟨_, _, rfl, by decide, by decide⟩

theorem writeElements_cons (indent : Nat) (value : Json) (rest : List Json) :
    ∃ tail, layout.writeElements indent (value :: rest) = layout.write indent value ++ tail := by
  cases rest with
  | nil => exact ⟨[], by rw [writeElements, List.append_nil]⟩
  | cons next rest => exact ⟨_, rfl⟩

theorem writeMembers_cons (indent : Nat) (entry : String × Json) (rest : List (String × Json)) :
    ∃ tail, layout.writeMembers indent (entry :: rest) = '"' :: tail := by
  cases rest with
  | nil => exact ⟨_, rfl⟩
  | cons next rest => exact ⟨_, rfl⟩

mutual
/-- **A plain value is read back**, whatever follows it. -/
theorem readValue_write :
    ∀ (value : Json) (fuel depth indent : Nat) (rest : List Char), PlainWithin depth value →
    2 * (layout.write indent value).length ≤ fuel →
      readValue fuel depth (layout.write indent value ++ rest) = some (value, rest)
  | value, 0, _, indent, _, plain, hfuel => by
    obtain ⟨c, tail, hwrite, -⟩ := layout.write_head indent plain
    simp [hwrite] at hfuel
  | .null, _ + 1, _, _, _, _, _ => rfl
  | .bool true, _ + 1, _, _, _, _, _ => rfl
  | .bool false, _ + 1, _, _, _, _, _ => rfl
  | .number _, _ + 1, _, _, _, plain, _ => plain.elim
  | .string text, fuel + 1, depth, _, rest, _, _ => readValue_quote fuel depth text rest
  | .array _, _ + 1, 0, _, _, plain, _ => absurd plain.1 (Nat.lt_irrefl 0)
  | .array [], _ + 1, _ + 1, _, _, _, _ => rfl
  | .array (value :: others), fuel + 1, depth + 1, indent, rest, plain, hfuel => by
    obtain ⟨c, tail, hwrite, hblank, hne⟩ := layout.write_head (indent + 1) plain.2.1
    obtain ⟨more, hmore⟩ := layout.writeElements_cons (indent + 1) value others
    have hlength : 2 * (layout.writeElements (indent + 1) (value :: others)).length + 1 ≤ fuel := by
      simp only [write, List.length_cons, List.length_append, List.length_nil] at hfuel
      omega
    have helements :=
      readElements_write value others fuel depth (indent + 1) (layout.lineBreak indent) rest plain.2
      (layout.lineBreak_blank indent) hlength
    have hhead : layout.writeElements (indent + 1) (value :: others) = c :: (tail ++ more) := by
      rw [hmore, hwrite, List.cons_append]
    simp only [write, List.cons_append, List.append_assoc, List.nil_append]
    rw [hhead] at helements ⊢
    refine readValue_array ?_ hne helements
    rw [skipBlanks_append (layout.lineBreak_blank _)]
    exact skipBlanks_cons hblank _
  | .object _, _ + 1, 0, _, _, plain, _ => absurd plain.1 (Nat.lt_irrefl 0)
  | .object [], _ + 1, _ + 1, _, _, _, _ => rfl
  | .object (entry :: others), fuel + 1, depth + 1, indent, rest, plain, hfuel => by
    obtain ⟨tail, hhead⟩ := layout.writeMembers_cons (indent + 1) entry others
    have hlength : 2 * (layout.writeMembers (indent + 1) (entry :: others)).length + 1 ≤ fuel := by
      simp only [write, List.length_cons, List.length_append, List.length_nil] at hfuel
      omega
    have hmembers :=
      readMembers_write entry others fuel depth (indent + 1) (layout.lineBreak indent) rest plain.2
      (layout.lineBreak_blank indent) hlength
    simp only [write, List.cons_append, List.append_assoc, List.nil_append]
    rw [hhead] at hmembers ⊢
    refine readValue_object ?_ (by decide) hmembers
    rw [skipBlanks_append (layout.lineBreak_blank _)]
    exact skipBlanks_cons (by decide) _
termination_by structural _ fuel => fuel
/-- Plain elements are read back up to the bracket that closes them. -/
theorem readElements_write :
    ∀ (value : Json) (others : List Json) (fuel depth indent : Nat) (blanks rest : List Char),
    PlainWithinElements depth (value :: others) → (∀ c ∈ blanks, isBlank c = true) →
    2 * (layout.writeElements indent (value :: others)).length + 1 ≤ fuel →
      readElements fuel depth (layout.writeElements indent (value :: others) ++
        (blanks ++ ']' :: rest)) =
        some (value :: others, rest)
  | value, [], fuel + 1, depth, indent, blanks, rest, plain, hblanks, hfuel => by
    have hvalue := readValue_write value fuel depth indent (blanks ++ ']' :: rest) plain.1 (by
      simpa only [writeElements, Nat.add_le_add_iff_right] using hfuel)
    have hclose : skipBlanks (blanks ++ ']' :: rest) = ']' :: rest := by
      rw [skipBlanks_append hblanks, skipBlanks_cons (by decide)]
    rw [writeElements, readElements, hvalue]
    simp only [hclose]
  | value, next :: others, fuel + 1, depth, indent, blanks, rest, plain, hblanks, hfuel => by
    have hlength : (layout.writeElements indent (value :: next :: others)).length =
        (layout.write indent value).length + 1 + (layout.lineBreak indent).length +
          (layout.writeElements indent (next :: others)).length := by
      simp only [writeElements, List.length_cons, List.length_append]
      omega
    let after :=
      layout.lineBreak indent ++ (layout.writeElements indent (next :: others) ++
        (blanks ++ ']' :: rest))
    have hvalue := readValue_write value fuel depth indent (',' :: after) plain.1 (by omega)
    have hothers :=
      readElements_write next others fuel depth indent blanks rest plain.2 hblanks (by omega)
    have hcomma : skipBlanks (',' :: after) = ',' :: after := skipBlanks_cons (by decide) _
    have hsplit : layout.writeElements indent (value :: next :: others) ++ (blanks ++ ']' :: rest) =
        layout.write indent value ++ ',' :: after := by
      simp [writeElements, after]
    rw [hsplit, readElements, hvalue]
    simp only [hcomma, after, readElements_blanks (layout.lineBreak_blank indent), hothers,
      Option.map_some]
termination_by structural _ _ fuel => fuel
/-- Plain members are read back up to the brace that closes them. -/
theorem readMembers_write :
    ∀ (entry : String × Json) (others : List (String × Json)) (fuel depth indent : Nat)
    (blanks rest : List Char), PlainWithinMembers depth (entry :: others) →
      (∀ c ∈ blanks, isBlank c = true) →
    2 * (layout.writeMembers indent (entry :: others)).length + 1 ≤ fuel →
      readMembers fuel depth (layout.writeMembers indent (entry :: others) ++
        (blanks ++ '\x7d' :: rest)) =
        some (entry :: others, rest)
  | (key, value), [], fuel + 1, depth, indent, blanks, rest, plain, hblanks, hfuel => by
    have hvalue := readValue_write value fuel depth indent (blanks ++ '\x7d' :: rest) plain.1 (by
      simp only [writeMembers, List.length_append, List.length_cons] at hfuel
      omega)
    have hclose : skipBlanks (blanks ++ '\x7d' :: rest) = '\x7d' :: rest := by
      rw [skipBlanks_append hblanks, skipBlanks_cons (by decide)]
    rw [← readValue_blanks layout.space_blank] at hvalue
    simp only [writeMembers, List.append_assoc, List.cons_append]
    exact readMembers_last hvalue hclose
  | (key, value), next :: others, fuel + 1, depth, indent, blanks, rest, plain, hblanks, hfuel => by
    have hlength : (layout.writeMembers indent ((key, value) :: next :: others)).length =
        (quote key).length + 1 + layout.space.length + (layout.write indent value).length + 1 +
          (layout.lineBreak indent).length + (layout.writeMembers indent
            (next :: others)).length := by
      simp only [writeMembers, List.length_cons, List.length_append]
      omega
    let after :=
      layout.lineBreak indent ++ (layout.writeMembers indent (next :: others) ++
        (blanks ++ '\x7d' :: rest))
    have hvalue := readValue_write value fuel depth indent (',' :: after) plain.1 (by omega)
    have hothers :=
      readMembers_write next others fuel depth indent blanks rest plain.2 hblanks (by omega)
    have hcomma : skipBlanks (',' :: after) = ',' :: after := skipBlanks_cons (by decide) _
    have hsplit :
        layout.writeMembers indent ((key, value) :: next :: others) ++ (blanks ++ '\x7d' :: rest) =
        quote key ++ ':' :: (layout.space ++ (layout.write indent value ++ ',' :: after)) := by
      simp [writeMembers, after]
    rw [← readValue_blanks layout.space_blank] at hvalue
    rw [← readMembers_blanks (layout.lineBreak_blank indent)] at hothers
    rw [hsplit]
    exact readMembers_more hvalue hcomma hothers
termination_by structural _ _ fuel => fuel
end

/-- The whole text of a plain value holds that value. -/
theorem parse_write {value : Json} (plain : PlainWithin maxDepth value) :
    parse (String.ofList (layout.write 0 value)) = some value := by
  have hread :=
    layout.readValue_write value (2 * (layout.write 0 value).length + 2) maxDepth 0
      [] plain (by omega)
  rw [List.append_nil] at hread
  rw [parse, String.toList_ofList]
  simp only [hread]
  rfl

end Layout

/-- **Compact text is read back.** -/
theorem parse_compact {value : Json} (plain : PlainWithin maxDepth value) :
    parse value.compact = some value := by
  rw [compact, compactChars_eq 0]
  exact Layout.dense.parse_write plain

/-- **Pretty text is read back.** -/
theorem parse_pretty {value : Json} (plain : PlainWithin maxDepth value) :
    parse value.pretty = some value := by
  rw [pretty, prettyChars_eq 0]
  exact Layout.indented.parse_write plain

end ContentGraph.Json
