import ContentGraph.Proofs.RichText.Grouping
import ContentGraph.Proofs.RichText.Nesting
import ContentGraph.Proofs.Text.Units

/-!
# The text that markup shows

Markup is read the way a page shows it: tags are passed over, but a line break is read as one, and
entities stand for their characters.  Spans cut a text at arbitrary offsets, and nest, overlap and
overrun; still the markup of a block shows the text of the block, as long as no span cuts a
character in two.

* `plainChars`, `plainText` — the text that markup shows;
* `Shows` with `Shows.append`, `Shows.wrap` — markup that shows a text wherever it stands;
* `shows_textMarkup`, `exists_shows_nodes`, `exists_shows_block` — runs of text, spans and blocks;
* `plainText_asHtml` — the default markup of blocks of text shows their texts.
-/

namespace ContentGraph.RichText

/-! ### Reading markup -/

mutual
/-- The text that is shown from inside a tag on, whose characters so far are `tag` in reverse. -/
def plainCharsInTag (tag : List Char) : List Char → List Char
  | [] => []
  | c :: rest =>
    if c = '>' then (if tag.reverse = "br /".toList then '\n' :: plainChars rest
      else plainChars rest)
    else plainCharsInTag (c :: tag) rest
/-- The text that characters of markup show: tags are not shown, except for line breaks, and
entities stand for their characters. -/
def plainChars : List Char → List Char
  | [] => []
  | '<' :: rest => plainCharsInTag [] rest
  | '&' :: 'a' :: 'm' :: 'p' :: ';' :: rest => '&' :: plainChars rest
  | '&' :: 'l' :: 't' :: ';' :: rest => '<' :: plainChars rest
  | '&' :: 'g' :: 't' :: ';' :: rest => '>' :: plainChars rest
  | '&' :: 'q' :: 'u' :: 'o' :: 't' :: ';' :: rest => '"' :: plainChars rest
  | c :: rest => c :: plainChars rest
end

/-- The text that markup shows. -/
def plainText (html : String) : String := String.ofList (plainChars html.toList)

/-- A tag is passed over up to its end. -/
theorem plainCharsInTag_append {part : List Char} (h : '>' ∉ part) (tag rest : List Char) :
    plainCharsInTag tag (part ++ '>' :: rest) =
      if tag.reverse ++ part = "br /".toList then '\n' :: plainChars rest else plainChars rest := by
  induction part generalizing tag with
  | nil => rw [List.nil_append, plainCharsInTag, if_pos rfl, List.append_nil]
  | cons c part ih =>
    rw [List.mem_cons, not_or] at h
    rw [List.cons_append, plainCharsInTag, if_neg (Ne.symm h.1), ih h.2, List.reverse_cons,
      List.append_assoc]
    rfl

/-- A character that starts neither a tag nor an entity is shown as it is. -/
theorem plainChars_cons {c : Char} (hlt : c ≠ '<') (hamp : c ≠ '&') (rest : List Char) :
    plainChars (c :: rest) = c :: plainChars rest := by
  rw [plainChars.eq_def]
  split <;> simp_all

/-! ### Markup that shows a text -/

/-- The markup shows the text, whatever follows it. -/
def Shows (html : String) (text : List Char) : Prop :=
  ∀ rest, plainChars (html.toList ++ rest) = text ++ plainChars rest

theorem Shows.plainText_eq {html : String} {text : List Char} (h : Shows html text) :
    plainText html = String.ofList text := by
  have hall := h []
  rw [List.append_nil, plainChars, List.append_nil] at hall
  rw [plainText, hall]

theorem shows_nil : Shows "" [] := fun _ => rfl

/-- **Markup after markup** shows one text after the other. -/
theorem Shows.append {html more : String} {text others : List Char} (h : Shows html text)
    (hmore : Shows more others) :
    Shows (html ++ more) (text ++ others) := by
  intro rest
  rw [String.toList_append, List.append_assoc, h, hmore, List.append_assoc]

theorem Shows.of_toList {html other : String} {text : List Char} (h : Shows html text)
    (same : other.toList = html.toList) : Shows other text := by
  rwa [String.toList_inj.mp same]

/-- An escaped text has none of the characters that it may not have. -/
theorem IsEscaped.not_mem {marks text : List Char} (h : IsEscaped marks text) {c : Char}
    (hc : c ∈ marks) (hentities : ∀ entity ∈ entities, c ∉ entity) : c ∉ text := by
  induction h with
  | nil => exact List.not_mem_nil
  | char plain _ ih =>
    rw [List.mem_cons, not_or]
    refine ⟨?_, ih⟩
    rintro rfl
    exact plain (List.mem_cons_of_mem _ hc)
  | entity known _ ih =>
    rw [List.mem_append, not_or]
    exact ⟨hentities _ known, ih⟩

/-- Attributes do not end the tag that they stand in. -/
theorem IsAttributes.not_mem {attributes : String} (h : IsAttributes attributes) :
    '>' ∉ attributes.toList := by
  induction h with
  | nil => decide
  | @cons name value rest known escaped _ ih =>
    have hname : ∀ name ∈ attributeNames, '>' ∉ name.toList := by decide
    have hvalue : '>' ∉ value.toList := escaped.not_mem (by decide) (by decide)
    have hspace : '>' ∉ " ".toList := by decide
    have hopen : '>' ∉ "=\"".toList := by decide
    have hclose : '>' ∉ "\"".toList := by decide
    simp only [String.toList_append, List.mem_append, not_or]
    exact ⟨⟨⟨⟨⟨hspace, hname name known⟩, hopen⟩, hvalue⟩, hclose⟩, ih⟩

/-- **A tag** that is no line break shows nothing. -/
theorem shows_tag {tag : String} (hend : '>' ∉ tag.toList) (hbreak : tag ≠ "br /") :
    Shows ("<" ++ tag ++ ">") [] := by
  intro rest
  have hsplit : ("<" ++ tag ++ ">").toList ++ rest = '<' :: (tag.toList ++ '>' :: rest) := by
    simp [String.toList_append]
  rw [hsplit, plainChars, plainCharsInTag_append hend, if_neg]
  · rfl
  · intro htag
    exact hbreak (String.toList_inj.mp htag)

/-- No element is a line break. -/
theorem elementTag_append_ne {tag : String} (known : tag ∈ elementTags) (attributes : String) :
    tag ++ attributes ≠ "br /" := by
  have hhead : ∀ tag ∈ elementTags, tag.toList ≠ [] ∧ tag.toList.head? ≠ some 'b' := by decide
  obtain ⟨hsome, hne⟩ := hhead tag known
  intro heq
  have hfirst : (tag ++ attributes).toList.head? = tag.toList.head? := by
    rw [String.toList_append, List.head?_append_of_ne_nil _ hsome]
  rw [heq] at hfirst
  exact hne hfirst.symm

/-- **An element** shows what is inside. -/
theorem Shows.wrap {tag attributes inner : String} {text : List Char} (known : tag ∈ elementTags)
    (attributed : IsAttributes attributes) (h : Shows inner text) :
    Shows ("<" ++ tag ++ attributes ++ ">" ++ inner ++ ("</" ++ tag ++ ">")) text := by
  have htag : ∀ tag ∈ elementTags, '>' ∉ tag.toList := by decide
  have hopen : '>' ∉ (tag ++ attributes).toList := by
    rw [String.toList_append, List.mem_append, not_or]
    exact ⟨htag tag known, attributed.not_mem⟩
  have hclose : '>' ∉ ("/" ++ tag).toList := by
    rw [String.toList_append, List.mem_append, not_or]
    exact ⟨by decide, htag tag known⟩
  have hslash : "/" ++ tag ≠ "br /" := by
    intro heq
    have hfirst := congrArg (fun s : String => s.toList.head?) heq
    simp [String.toList_append] at hfirst
  have hshown :=
    ((shows_tag hopen (elementTag_append_ne known attributes)).append h).append
      (shows_tag hclose hslash)
  rw [List.nil_append, List.append_nil] at hshown
  exact hshown.of_toList (by simp [String.toList_append])

/-! ### Runs of text -/

namespace Renderer

/-- A character of a text is shown. -/
theorem shows_textChar (c : Char) : Shows (String.ofList (textChar c)) [c] := by
  intro rest
  rw [String.toList_ofList, textChar]
  split
  · next hbreak =>
    subst hbreak
    show plainChars ('<' :: ("br /".toList ++ '>' :: rest)) = _
    rw [plainChars, plainCharsInTag_append (by decide)]
    rfl
  · unfold Text.escapeTextChar
    split_ifs with hamp hlt hgt
    · subst hamp
      rfl
    · subst hlt
      rfl
    · subst hgt
      rfl
    · exact plainChars_cons hlt hamp rest

/-- **A run of text** shows the text. -/
theorem shows_textMarkup (text : String) : Shows (textMarkup text) text.toList := by
  rw [textMarkup]
  induction text.toList with
  | nil => exact shows_nil
  | cons c rest ih =>
    rw [List.flatMap_cons, String.ofList_append]
    exact (shows_textChar c).append ih

/-! ### Spans -/

section

variable {field : FieldContext} {resolveLink : LinkResolver}

/-- A link has an address where the resolver does not fail. -/
theorem exists_href (hlinks : ∀ link, ∃ address, resolveLink field link = .ok address)
    (link : Json) :
    ∃ address, href ⟨field, resolveLink, defaultMarkup⟩ link = .ok address := by
  rw [href, Link.url]
  split
  · obtain ⟨address, haddress⟩ := hlinks link
    refine ⟨Text.attributeValue (address.getD ""), ?_⟩
    simp only [haddress]
    rfl
  · exact ⟨_, rfl⟩

/-- **A hyperlink** shows what is inside, whatever its target is. -/
theorem shows_hyperlink {address children : String} {shown : List Char} (target : Option String)
    (haddress : IsEscaped valueMarks address.toList) (h : Shows children shown) :
    Shows (hyperlink address target children) shown := by
  unfold hyperlink
  cases target with
  | none =>
    have hlink :=
      h.wrap (by decide : "a" ∈ elementTags) (.cons
        (by decide : "href" ∈ attributeNames) haddress .nil)
    exact hlink.of_toList (by simp)
  | some target =>
    have hrel : IsEscaped valueMarks "noopener".toList := isEscaped_attributeValue "noopener"
    have hlink :=
      h.wrap (by decide : "a" ∈ elementTags) (.cons (by decide : "href" ∈ attributeNames) haddress
      (.cons (by decide : "target" ∈ attributeNames) (isEscaped_attributeValue target)
        (.cons (by decide : "rel" ∈ attributeNames) hrel .nil)))
    exact hlink.of_toList (by simp)

/-- **A span** shows what is inside, whatever its type, its label and its link are. -/
theorem exists_shows_span (hlinks : ∀ link, ∃ address, resolveLink field link = .ok address)
    (span : Span) (text : String) {children : String} {shown : List Char}
    (h : Shows children shown) :
    ∃ html, Renderer.span ⟨field, resolveLink, defaultMarkup⟩ span text children = .ok html ∧
      Shows html shown := by
  simp only [Renderer.span]
  split_ifs
  · have hstrong := h.wrap (by decide : "strong" ∈ elementTags) .nil
    exact ⟨_, rfl, hstrong.of_toList (by simp)⟩
  · have hem := h.wrap (by decide : "em" ∈ elementTags) .nil
    exact ⟨_, rfl, hem.of_toList (by simp)⟩
  · have hlabel :=
      h.wrap (by decide : "span" ∈ elementTags) (.cons (by decide : "class" ∈ attributeNames)
      (isEscaped_attributeValue (((span.node.get? "data").getD .null).getText "label")) .nil)
    exact ⟨_, rfl, hlabel.of_toList (by simp)⟩
  · obtain ⟨address, haddress⟩ := exists_href hlinks ((span.node.get? "data").getD .null)
    rw [haddress]
    exact ⟨_, rfl, shows_hyperlink _ (isEscaped_href haddress) h⟩
  · exact ⟨_, rfl, h⟩

/-- **Nodes that cover a range** show the characters of its units, as long as no pair of units is
cut. -/
theorem exists_shows_nodes (hlinks : ∀ link, ∃ address, resolveLink field link = .ok address)
    (units : List UInt16) {start stop : Nat} {nodes : List SpanNode}
    (h : Tiles (fun offset => ¬ Text.SplitsPair units offset) start stop nodes) :
    ∃ html, Renderer.nodes ⟨field, resolveLink, defaultMarkup⟩ units nodes = .ok html ∧
      Shows html (Text.charsOfUnits (Text.slice units start stop)) := by
  induction h with
  | @nil stop =>
    refine ⟨"", rfl, ?_⟩
    rw [Text.slice_self]
    exact shows_nil
  | @text start middle stop rest some allowed more ih =>
    obtain ⟨html, hhtml, hshown⟩ := ih
    refine ⟨textMarkup (Text.ofUnits (Text.slice units start middle)) ++ html, ?_, ?_⟩
    · rw [nodes_cons, hhtml]
      rfl
    · rw [← Text.charsOfUnits_slice_append some.le more.le allowed]
      have htext := shows_textMarkup (Text.ofUnits (Text.slice units start middle))
      rw [Text.ofUnits, String.toList_ofList] at htext
      exact htext.append hshown
  | @span span stop children rest allowed nested more ihnested ihmore =>
    obtain ⟨inner, hinner, hinside⟩ := ihnested
    obtain ⟨html, hhtml, hshown⟩ := ihmore
    obtain ⟨around, haround, hspan⟩ :=
      exists_shows_span hlinks span (Text.ofUnits (Text.slice units span.start span.stop)) hinside
    refine ⟨around ++ html, ?_, ?_⟩
    · rw [nodes_cons, hhtml, node, hinner]
      simp only [haround]
      rfl
    · rw [← Text.charsOfUnits_slice_append nested.le more.le allowed]
      exact hspan.append hshown

end

end Renderer

/-! ### Blocks -/

/-- A block whose text is rendered: neither an image nor embedded media. -/
def IsTextBlock (block : Json) : Prop :=
  block.getText "type" ≠ "image" ∧ block.getText "type" ≠ "embed"

/-- No span of the block starts or ends, within the text, between the two halves of a surrogate
pair. -/
def KeepsPairs (block : Json) : Prop :=
  ∀ span ∈ Renderer.blockSpans block (Text.units (block.getText "text")).length,
    ¬ Text.SplitsPair (Text.units (block.getText "text")) span.start ∧
      ¬ Text.SplitsPair (Text.units (block.getText "text")) span.stop

namespace Renderer

variable {field : FieldContext} {resolveLink : LinkResolver}

/-- **The spans of a block** show the text of the block. -/
theorem exists_shows_spans (hlinks : ∀ link, ∃ address, resolveLink field link = .ok address)
    {block : Json} (hpairs : KeepsPairs block) :
    ∃ html, Renderer.spans ⟨field, resolveLink, defaultMarkup⟩ block (block.getText "text") =
      .ok html ∧
      Shows html (block.getText "text").toList := by
  have hend := Text.not_splitsPair_length (Text.units (block.getText "text"))
  have hshown := exists_shows_nodes hlinks _ (tiles_buildTree (nestable_blockSpans hend hpairs))
  rwa [Text.slice_all, Text.charsOfUnits_units] at hshown

/-- **A block of text** shows its text. -/
theorem exists_shows_block (hlinks : ∀ link, ∃ address, resolveLink field link = .ok address)
    {block : Json} (htext : IsTextBlock block) (hpairs : KeepsPairs block) :
    ∃ html, Renderer.block ⟨field, resolveLink, defaultMarkup⟩ block = .ok html ∧
      Shows html (block.getText "text").toList := by
  obtain ⟨children, hchildren, hshown⟩ := exists_shows_spans hlinks hpairs
  have hblock :=
    hshown.wrap (blockTag_mem (block.getText "type")) (isAttributes_classAttribute block)
  simp only [Renderer.block, if_neg htext.1, if_neg htext.2, hchildren]
  exact ⟨_, rfl, hblock.of_toList (by simp)⟩

theorem exists_shows_blocks (hlinks : ∀ link, ∃ address, resolveLink field link = .ok address)
    {blocks : List Json} (h : ∀ block ∈ blocks, IsTextBlock block ∧ KeepsPairs block) :
    ∃ html, Renderer.blocks ⟨field, resolveLink, defaultMarkup⟩ blocks = .ok html ∧
      Shows html (blocks.flatMap fun block => (block.getText "text").toList) := by
  induction blocks with
  | nil => exact ⟨"", rfl, shows_nil⟩
  | cons first rest ih =>
    rw [List.forall_mem_cons] at h
    obtain ⟨html, hhtml, hshown⟩ := exists_shows_block hlinks h.1.1 h.1.2
    obtain ⟨more, hmore, hothers⟩ := ih h.2
    refine ⟨html ++ more, ?_, hshown.append hothers⟩
    rw [blocks_cons, hhtml, hmore]
    rfl

/-- **A run** shows the texts of its blocks: a list adds nothing. -/
theorem exists_shows_run (hlinks : ∀ link, ∃ address, resolveLink field link = .ok address)
    {run : Run} (h : ∀ block ∈ run.blocks, IsTextBlock block ∧ KeepsPairs block) :
    ∃ html, Renderer.run ⟨field, resolveLink, defaultMarkup⟩ run = .ok html ∧
      Shows html (run.blocks.flatMap fun block => (block.getText "text").toList) := by
  cases run with
  | single block =>
    rw [Run.blocks, List.flatMap_singleton]
    obtain ⟨htext, hpairs⟩ := h block (List.mem_singleton.mpr rfl)
    exact exists_shows_block hlinks htext hpairs
  | list kind items =>
    have hitems : ∀ block ∈ items, IsTextBlock block ∧ KeepsPairs block := h
    obtain ⟨inner, hinner, hshown⟩ := exists_shows_blocks hlinks hitems
    have hlist := hshown.wrap (tag_mem kind) .nil
    rw [Renderer.run, hinner]
    exact ⟨_, rfl, hlist.of_toList (by simp)⟩

theorem exists_shows_runs (hlinks : ∀ link, ∃ address, resolveLink field link = .ok address)
    {runs : List Run} (h : ∀ block ∈ runs.flatMap Run.blocks, IsTextBlock block ∧
      KeepsPairs block) :
    ∃ html, Renderer.runs ⟨field, resolveLink, defaultMarkup⟩ runs = .ok html ∧
      Shows html ((runs.flatMap Run.blocks).flatMap fun block =>
        (block.getText "text").toList) := by
  induction runs with
  | nil => exact ⟨"", rfl, shows_nil⟩
  | cons first rest ih =>
    rw [List.flatMap_cons, List.forall_mem_append] at h
    obtain ⟨html, hhtml, hshown⟩ := exists_shows_run hlinks h.1
    obtain ⟨more, hmore, hothers⟩ := ih h.2
    refine ⟨html ++ more, ?_, ?_⟩
    · rw [runs_cons, hhtml, hmore]
      rfl
    · rw [List.flatMap_cons, List.flatMap_append]
      exact hshown.append hothers

end Renderer

/-! ### Rich texts -/

/-- **The default markup shows the text.**  Where links have addresses and no span cuts a surrogate
pair, the markup of each block of text shows exactly the text of the block, and the markup of
several shows their texts in order: no character is lost, repeated, moved or replaced, wherever
spans start and end and however they overlap. -/
theorem plainText_asHtml (field : FieldContext) (resolveLink : LinkResolver) (blocks : List Json)
    (hlinks : ∀ link, ∃ address, resolveLink field link = .ok address)
    (hblocks : ∀ block ∈ blocks, IsTextBlock block ∧ KeepsPairs block) :
    (∀ block ∈ blocks, ∃ html, Renderer.block ⟨field, resolveLink, defaultMarkup⟩ block = .ok html ∧
      plainText html = block.getText "text") ∧
    ∃ html, asHtml field resolveLink defaultMarkup blocks = .ok html ∧
      plainText html = String.join (blocks.map fun block => block.getText "text") := by
  constructor
  · intro block hblock
    obtain ⟨htext, hpairs⟩ := hblocks block hblock
    obtain ⟨html, hhtml, hshown⟩ := Renderer.exists_shows_block hlinks htext hpairs
    exact ⟨html, hhtml, by rw [hshown.plainText_eq, String.ofList_toList]⟩
  · have hruns : ∀ block ∈ (runs blocks).flatMap Run.blocks, IsTextBlock block ∧
        KeepsPairs block := by
      rwa [flatMap_runs]
    obtain ⟨html, hhtml, hshown⟩ := Renderer.exists_shows_runs hlinks hruns
    rw [flatMap_runs] at hshown
    refine ⟨html, hhtml, ?_⟩
    rw [hshown.plainText_eq, ← String.toList_inj, String.toList_ofList, String.toList_join,
      List.flatMap_map]

/-- A text with marks of its own, a line break and a character beyond the first plane, and spans
that overlap, overrun and are turned around. -/
def crossedBlock : Json :=
  .object [("type", .string "paragraph"), ("text", .string "a<b\n😀&c"), ("spans", .array
    [.object [("start", .number (.integer 1)), ("end", .number (.integer 6)),
        ("type", .string "strong")],
      .object [("start", .number (.integer 4)), ("end", .number (.integer 99)),
        ("type", .string "em")],
      .object [("start", .number (.integer 7)), ("end", .number (.integer 2)),
        ("type", .string "label")]])]

/-- The spans of the text within its eight units: the second one overruns the text, and the third is
empty.  They are written in the order of nesting. -/
theorem ranges_crossedBlock :
    (Renderer.blockSpans crossedBlock (Text.units (crossedBlock.getText "text")).length).map
      (fun span => (span.start, span.stop)) = [(1, 6), (4, 8), (7, 7)] := by
  have hlength : (Text.units (crossedBlock.getText "text")).length = 8 := by decide
  have hordered :
      ((((crossedBlock.get? "spans").bind Json.asArray?).getD []).filterMap
        (Span.ofJson? 8)).Pairwise
      fun a b => Span.precedes a b := by decide
  rw [hlength, Renderer.blockSpans, sortSpans, List.mergeSort_of_pairwise hordered]
  decide

theorem keepsPairs_crossedBlock : KeepsPairs crossedBlock := by
  intro span hspan
  have hrange : (span.start, span.stop) ∈ [(1, 6), (4, 8), (7, 7)] := by
    rw [← ranges_crossedBlock]
    exact List.mem_map_of_mem hspan
  have hcuts : ∀ range ∈ [(1, 6), (4, 8), (7, 7)],
      ¬ Text.SplitsPair (Text.units (crossedBlock.getText "text")) range.1 ∧
        ¬ Text.SplitsPair (Text.units (crossedBlock.getText "text")) range.2 := by
    decide
  exact hcuts _ hrange

/-- The second span is cut off where the first one ends, the third is empty, and the whole text is
shown. -/
theorem plainText_asHtml_crossed :
    (∀ block ∈ [crossedBlock], IsTextBlock block ∧ KeepsPairs block) ∧
      ∃ html, asHtml ⟨"body", .null, .null⟩ noLinks defaultMarkup [crossedBlock] = .ok html ∧
        plainText html = "a<b\n😀&c" := by
  have hblocks : ∀ block ∈ [crossedBlock], IsTextBlock block ∧ KeepsPairs block :=
    List.forall_mem_singleton.mpr ⟨⟨by decide, by decide⟩, keepsPairs_crossedBlock⟩
  exact ⟨hblocks, (plainText_asHtml ⟨"body", .null, .null⟩ noLinks [crossedBlock]
    (fun _ => ⟨none, rfl⟩) hblocks).2⟩

end ContentGraph.RichText
