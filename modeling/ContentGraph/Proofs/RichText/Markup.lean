import ContentGraph.Proofs.RichText.Failure

/-!
# The language of the default markup

Markup is put together from texts, labels and addresses that nobody has checked, and from spans that
may overlap.  Every such part is escaped where it is put in, and spans are cut off where the span
around them ends.  So the result is always a sequence of properly nested elements, in which nothing
that came from a document opens or closes a tag.

* `IsEscaped`, `IsAttributes`, `IsMarkup` — the language: escaped text, attributes, elements around
  markup;
* `IsMarkup.append`, `IsMarkup.wrap` — sequences of markup, and an element around one;
* `isEscaped_attributeValue`, `isMarkup_textMarkup` — the two ways in which a text from outside is
  put in;
* `isMarkup_nodes`, `isMarkup_block`, `isMarkup_runs` — spans, blocks and lists;
* `isMarkup_asHtml` — a rich text without embedded media is well formed and free of injections.
-/

namespace ContentGraph.RichText

/-! ### The language -/

/-- The entities that stand for characters with a meaning of their own. -/
def entities : List (List Char) := ["&amp;".toList, "&lt;".toList, "&gt;".toList, "&quot;".toList]

/-- The elements around further markup. -/
def elementTags : List String :=
  ["h1", "h2", "h3", "h4", "h5", "h6", "p", "pre", "ul", "ol", "li", "strong", "em", "span", "a"]

/-- The elements without content. -/
def voidTags : List String := ["img", "br"]

/-- The attributes that elements carry. -/
def attributeNames : List String := ["class", "href", "target", "rel", "src", "alt", "copyright"]

/-- A text without the given characters, in which `&` stands only at the start of an entity. -/
inductive IsEscaped (marks : List Char) : List Char → Prop
  | nil : IsEscaped marks []
  | char {c : Char} {rest : List Char} (plain : c ∉ '&' :: marks) (more : IsEscaped marks rest) :
      IsEscaped marks (c :: rest)
  | entity {entity rest : List Char} (known : entity ∈ entities) (more : IsEscaped marks rest) :
      IsEscaped marks (entity ++ rest)

/-- The characters that text may not have. -/
def textMarks : List Char := ['<', '>']

/-- The characters that the value of an attribute may not have. -/
def valueMarks : List Char := ['<', '>', '"']

/-- Attributes of known names, with escaped values between double quotes. -/
inductive IsAttributes : String → Prop
  | nil : IsAttributes ""
  | cons {name value rest : String} (known : name ∈ attributeNames)
      (escaped : IsEscaped valueMarks value.toList)
      (more : IsAttributes rest) : IsAttributes (" " ++ name ++ "=\"" ++ value ++ "\"" ++ rest)

/-- Properly nested elements: escaped text, elements around markup that end with their own tag, and
elements without content, one after the other.  The characters `<` and `>` stand nowhere but around
tags. -/
inductive IsMarkup : String → Prop
  | nil : IsMarkup ""
  | text {text rest : String} (escaped : IsEscaped textMarks text.toList) (more : IsMarkup rest) :
      IsMarkup (text ++ rest)
  | element {tag attributes inner rest : String} (known : tag ∈ elementTags)
      (attributed : IsAttributes attributes)
      (nested : IsMarkup inner) (more : IsMarkup rest) :
      IsMarkup ("<" ++ tag ++ attributes ++ ">" ++ inner ++ ("</" ++ tag ++ ">") ++ rest)
  | void {tag attributes rest : String} (known : tag ∈ voidTags)
      (attributed : IsAttributes attributes)
      (more : IsMarkup rest) : IsMarkup ("<" ++ tag ++ attributes ++ " />" ++ rest)

/-- **Markup after markup** is markup. -/
theorem IsMarkup.append {html more : String} (h : IsMarkup html) (hmore : IsMarkup more) :
    IsMarkup (html ++ more) := by
  induction h with
  | nil =>
    rw [String.empty_append]
    exact hmore
  | text escaped _ ih =>
    rw [String.append_assoc]
    exact .text escaped ih
  | element known attributed nested _ _ ih =>
    rw [String.append_assoc]
    exact .element known attributed nested ih
  | void known attributed _ ih =>
    rw [String.append_assoc]
    exact .void known attributed ih

/-- **An element** around markup is markup. -/
theorem IsMarkup.wrap {tag attributes inner : String} (known : tag ∈ elementTags)
    (attributed : IsAttributes attributes) (nested : IsMarkup inner) :
    IsMarkup ("<" ++ tag ++ attributes ++ ">" ++ inner ++ ("</" ++ tag ++ ">")) := by
  have helement := IsMarkup.element known attributed nested .nil
  rwa [String.append_empty] at helement

/-- The language is one of characters, however a string is put together. -/
theorem IsMarkup.of_toList {html other : String} (h : IsMarkup html)
    (same : other.toList = html.toList) :
    IsMarkup other := by
  rwa [String.toList_inj.1 same]

theorem IsEscaped.append {marks text more : List Char} (h : IsEscaped marks text)
    (hmore : IsEscaped marks more) :
    IsEscaped marks (text ++ more) := by
  induction h with
  | nil => exact hmore
  | char plain _ ih => exact .char plain ih
  | entity known _ ih =>
    rw [List.append_assoc]
    exact .entity known ih

/-- One entity. -/
theorem IsEscaped.of_entity {marks entity : List Char} (known : entity ∈ entities) :
    IsEscaped marks entity := by
  have hentity := @IsEscaped.entity marks entity [] known .nil
  rwa [List.append_nil] at hentity

/-- A text that is escaped from its first character to its last. -/
theorem IsMarkup.of_text {text : String} (escaped : IsEscaped textMarks text.toList) :
    IsMarkup text := by
  have htext := IsMarkup.text escaped .nil
  rwa [String.append_empty] at htext

/-- A list of escaped pieces is escaped. -/
theorem IsEscaped.flatMap {marks : List Char} {escape : Char → List Char}
    (h : ∀ c, IsEscaped marks (escape c)) :
    ∀ text : List Char, IsEscaped marks (text.flatMap escape) := by
  intro text
  induction text with
  | nil => exact .nil
  | cons c rest ih =>
    rw [List.flatMap_cons]
    exact (h c).append ih

/-! ### Texts from outside -/

theorem isEscaped_escapeTextChar (c : Char) : IsEscaped textMarks (Text.escapeTextChar c) := by
  unfold Text.escapeTextChar
  split_ifs with hamp hlt hgt
  · exact .of_entity (by decide)
  · exact .of_entity (by decide)
  · exact .of_entity (by decide)
  · exact .char (by simp [textMarks, hamp, hlt, hgt]) .nil

theorem isEscaped_escapeAttributeChar (c : Char) :
    IsEscaped valueMarks (Text.escapeAttributeChar c) := by
  unfold Text.escapeAttributeChar Text.escapeTextChar
  split_ifs with hquote hamp hlt hgt
  · exact .of_entity (by decide)
  · exact .of_entity (by decide)
  · exact .of_entity (by decide)
  · exact .of_entity (by decide)
  · exact .char (by simp [valueMarks, hquote, hamp, hlt, hgt]) .nil

/-- **A value between quotes** does not end there, whatever the value is. -/
theorem isEscaped_attributeValue (value : String) :
    IsEscaped valueMarks (Text.attributeValue value).toList := by
  rw [Text.attributeValue, String.toList_ofList]
  exact IsEscaped.flatMap isEscaped_escapeAttributeChar _

namespace Renderer

/-- A character of a text is escaped, or is a line break. -/
theorem isMarkup_textChar (c : Char) : IsMarkup (String.ofList (textChar c)) := by
  rw [textChar]
  split
  · show IsMarkup ("<" ++ "br" ++ "" ++ " />" ++ "")
    exact .void (by decide) .nil .nil
  · apply IsMarkup.of_text
    rw [String.toList_ofList]
    exact isEscaped_escapeTextChar c

/-- **A run of text** is markup, whatever the text is. -/
theorem isMarkup_textMarkup (text : String) : IsMarkup (textMarkup text) := by
  rw [textMarkup]
  induction text.toList with
  | nil => exact .nil
  | cons c rest ih =>
    rw [List.flatMap_cons, String.ofList_append]
    exact (isMarkup_textChar c).append ih

/-! ### Elements -/

/-- What the serializer writes around markup is markup. -/
def KeepsMarkup (r : Renderer) : Prop :=
  ∀ element children html, IsMarkup children → r.serializeHtml r.field element children =
    .ok (some html) →
    IsMarkup html

variable {r : Renderer} {html : String}

/-- **An element** is markup when its default markup and its children are. -/
theorem isMarkup_element (hr : r.KeepsMarkup) {element : TextElement} {children default : String}
    (hchildren : IsMarkup children) (hdefault : IsMarkup default)
    (h : r.element element children default = .ok html) : IsMarkup html := by
  rw [Renderer.element] at h
  split at h
  · cases h
  · cases h
    exact hdefault
  · next hserialized =>
    cases h
    exact hr _ _ _ hchildren hserialized

/-- An address is escaped. -/
theorem isEscaped_href {link : Json} {address : String} (h : r.href link = .ok address) :
    IsEscaped valueMarks address.toList := by
  rw [href] at h
  cases hurl : Link.url r.resolveLink r.field link with
  | error e =>
    rw [hurl] at h
    cases h
  | ok url =>
    rw [hurl] at h
    cases h
    exact isEscaped_attributeValue _

/-! ### Spans -/

/-- **A hyperlink** ends where it should, whatever its target is. -/
theorem isMarkup_hyperlink {address children : String} (target : Option String)
    (haddress : IsEscaped valueMarks address.toList) (hchildren : IsMarkup children) :
    IsMarkup (hyperlink address target children) := by
  unfold hyperlink
  cases target with
  | none =>
    have hlink := IsMarkup.wrap (by decide : "a" ∈ elementTags)
      (.cons (by decide : "href" ∈ attributeNames) haddress .nil) hchildren
    exact hlink.of_toList (by simp)
  | some target =>
    have hrel : IsEscaped valueMarks "noopener".toList := isEscaped_attributeValue "noopener"
    have hlink :=
      IsMarkup.wrap (by decide : "a" ∈ elementTags)
        (.cons (by decide : "href" ∈ attributeNames) haddress
      (.cons (by decide : "target" ∈ attributeNames) (isEscaped_attributeValue target)
        (.cons (by decide : "rel" ∈ attributeNames) hrel .nil))) hchildren
    exact hlink.of_toList (by simp)

/-- **A span** around markup is markup, whatever its type, its label and its link are. -/
theorem isMarkup_span (hr : r.KeepsMarkup) {span : Span} {text children : String}
    (hchildren : IsMarkup children) (h : r.span span text children = .ok html) : IsMarkup html := by
  simp only [Renderer.span] at h
  split_ifs at h
  · apply isMarkup_element hr hchildren _ h
    have hstrong := IsMarkup.wrap (by decide : "strong" ∈ elementTags) .nil hchildren
    exact hstrong.of_toList (by simp)
  · apply isMarkup_element hr hchildren _ h
    have hem := IsMarkup.wrap (by decide : "em" ∈ elementTags) .nil hchildren
    exact hem.of_toList (by simp)
  · apply isMarkup_element hr hchildren _ h
    have hspan :=
      IsMarkup.wrap (by decide : "span" ∈ elementTags)
        (.cons (by decide : "class" ∈ attributeNames)
          (isEscaped_attributeValue (((span.node.get? "data").getD .null).getText "label")) .nil)
        hchildren
    exact hspan.of_toList (by simp)
  · split at h
    · cases h
    · next haddress =>
      exact isMarkup_element hr hchildren (isMarkup_hyperlink _
        (isEscaped_href haddress) hchildren) h
  · exact isMarkup_element hr hchildren hchildren h

mutual
/-- **The tree of spans** is markup: a span's element ends before the one around it does. -/
theorem isMarkup_node (hr : r.KeepsMarkup) {units : List UInt16} {html : String} :
    {node : SpanNode} → r.node units node = .ok html → IsMarkup html
  | .text _ _, h => by
    rw [node] at h
    rw [← Except.ok.inj h]
    exact isMarkup_textMarkup _
  | .span span children, h => by
    rw [node] at h
    split at h
    · cases h
    · next hchildren => exact isMarkup_span hr (isMarkup_nodes hr hchildren) h
theorem isMarkup_nodes (hr : r.KeepsMarkup) {units : List UInt16} {html : String} :
    {nodes : List SpanNode} → r.nodes units nodes = .ok html → IsMarkup html
  | [], h => by
    cases h
    exact .nil
  | first :: rest, h => by
    rw [nodes_cons] at h
    obtain ⟨front, back, hfirst, hrest, rfl⟩ := followedBy_eq_ok_iff.mp h
    exact (isMarkup_node hr hfirst).append (isMarkup_nodes hr hrest)
end

/-! ### Blocks -/

/-- The label of a block is an attribute. -/
theorem isAttributes_classAttribute (block : Json) : IsAttributes (classAttribute block) := by
  rw [classAttribute]
  split
  · exact .nil
  · next label _ =>
    have hclass :=
      IsAttributes.cons (by decide : "class" ∈ attributeNames) (isEscaped_attributeValue label) .nil
    rwa [String.append_empty] at hclass

/-- The class of an image is escaped, with the label or without. -/
theorem isEscaped_classSuffix (block : Json) :
    IsEscaped valueMarks ("block-img" ++ classSuffix block).toList := by
  have hclass : IsEscaped valueMarks "block-img".toList := isEscaped_attributeValue "block-img"
  rw [classSuffix]
  split
  · rwa [String.append_empty]
  · next label _ =>
    have hspace : IsEscaped valueMarks " ".toList := isEscaped_attributeValue " "
    rw [String.toList_append, String.toList_append]
    exact hclass.append (hspace.append (isEscaped_attributeValue label))

/-- **An image** is an element without content, whatever its texts are. -/
theorem isMarkup_imageMarkup (block : Json) : IsMarkup (imageMarkup block) := by
  unfold imageMarkup
  have himage := IsMarkup.void (by decide : "img" ∈ voidTags)
    (.cons (by decide : "src" ∈ attributeNames) (isEscaped_attributeValue (block.getText "url"))
      (.cons (by decide : "alt" ∈ attributeNames) (isEscaped_attributeValue (block.getText "alt"))
        (.cons (by decide : "copyright" ∈ attributeNames)
          (isEscaped_attributeValue (block.getText "copyright")) .nil)))
    .nil
  exact himage.of_toList (by simp)

/-- The paragraph around an image. -/
theorem isMarkup_imageParagraph (block : Json) {image : String} (himage : IsMarkup image) :
    IsMarkup ("<p class=\"block-img" ++ classSuffix block ++ "\">" ++ image ++ "</p>") := by
  have hparagraph := IsMarkup.wrap (by decide : "p" ∈ elementTags)
    (.cons (by decide : "class" ∈ attributeNames) (isEscaped_classSuffix block) .nil) himage
  exact hparagraph.of_toList (by simp)

/-- **An image block** is markup, with the link around the image or without. -/
theorem isMarkup_imageBlock (hr : r.KeepsMarkup) {block : Json} {element : TextElement}
    (h : r.imageBlock block element = .ok html) : IsMarkup html := by
  simp only [imageBlock] at h
  split at h
  · exact isMarkup_element hr .nil (isMarkup_imageParagraph block (isMarkup_imageMarkup block)) h
  · split at h
    · cases h
    · next address haddress =>
      apply isMarkup_element hr .nil _ h
      have hlink := isMarkup_hyperlink none (isEscaped_href haddress) (isMarkup_imageMarkup block)
      unfold hyperlink at hlink
      exact (isMarkup_imageParagraph block hlink).of_toList (by simp)

theorem blockTag_mem (type : String) : blockTag type ∈ elementTags := by
  unfold blockTag
  split_ifs <;> decide

/-- **A block** is markup, unless it embeds media. -/
theorem isMarkup_block (hr : r.KeepsMarkup) {block : Json} (hmedia : block.getText "type" ≠ "embed")
    (h : r.block block = .ok html) : IsMarkup html := by
  simp only [Renderer.block] at h
  rw [if_neg hmedia] at h
  split_ifs at h with himage
  · exact isMarkup_imageBlock hr h
  · split at h
    · cases h
    · next children hspans =>
      have hchildren : IsMarkup children := isMarkup_nodes hr hspans
      apply isMarkup_element hr hchildren _ h
      have hblock :=
        hchildren.wrap (blockTag_mem (block.getText "type")) (isAttributes_classAttribute block)
      exact hblock.of_toList (by simp)

/-- **Blocks** one after the other are markup. -/
theorem isMarkup_blocks (hr : r.KeepsMarkup) {blocks : List Json}
    (hmedia : ∀ block ∈ blocks, block.getText "type" ≠ "embed") (h : r.blocks blocks = .ok html) :
    IsMarkup html := by
  induction blocks generalizing html with
  | nil =>
    cases h
    exact .nil
  | cons first rest ih =>
    rw [List.forall_mem_cons] at hmedia
    rw [Renderer.blocks_cons] at h
    obtain ⟨front, back, hfirst, hrest, rfl⟩ := followedBy_eq_ok_iff.mp h
    exact (isMarkup_block hr hmedia.1 hfirst).append (ih hmedia.2 hrest)

end Renderer

/-! ### Lists -/

/-- The blocks of a run. -/
def Run.blocks : Run → List Json
  | .single block => [block]
  | .list _ items => items

/-- A block in front of runs is in front of their blocks. -/
theorem flatMap_consRun (block : Json) (rest : List Run) :
    (consRun block rest).flatMap Run.blocks = block :: rest.flatMap Run.blocks := by
  fun_cases consRun block rest <;> rfl

/-- **Grouping** loses no block and keeps their order. -/
theorem flatMap_runs (blocks : List Json) : (runs blocks).flatMap Run.blocks = blocks := by
  induction blocks with
  | nil => rfl
  | cons block rest ih => rw [runs, flatMap_consRun, ih]

namespace Renderer

variable {r : Renderer} {html : String}

theorem tag_mem (kind : ListKind) : kind.tag ∈ elementTags := by
  cases kind <;> decide

/-- **A run** is markup: a block, or a list around its items. -/
theorem isMarkup_run (hr : r.KeepsMarkup) {run : Run}
    (hmedia : ∀ block ∈ run.blocks, block.getText "type" ≠ "embed")
    (h : r.run run = .ok html) : IsMarkup html := by
  cases run with
  | single block => exact isMarkup_block hr (hmedia block (List.mem_singleton.2 rfl)) h
  | list kind items =>
    rw [Renderer.run] at h
    split at h
    · cases h
    · next inner hitems =>
      have hinner : IsMarkup inner := isMarkup_blocks hr hmedia hitems
      apply isMarkup_element hr hinner _ h
      have hlist := hinner.wrap (tag_mem kind) .nil
      exact hlist.of_toList (by simp)

/-- **Runs of blocks** are markup. -/
theorem isMarkup_runs (hr : r.KeepsMarkup) {runs : List Run}
    (hmedia : ∀ block ∈ runs.flatMap Run.blocks, block.getText "type" ≠ "embed")
    (h : r.runs runs = .ok html) :
    IsMarkup html := by
  induction runs generalizing html with
  | nil =>
    cases h
    exact .nil
  | cons first rest ih =>
    rw [List.flatMap_cons, List.forall_mem_append] at hmedia
    rw [Renderer.runs_cons] at h
    obtain ⟨front, back, hfirst, hrest, rfl⟩ := followedBy_eq_ok_iff.mp h
    exact (isMarkup_run hr hmedia.1 hfirst).append (ih hmedia.2 hrest)

end Renderer

/-! ### Rich texts -/

/-- The default markup asks no serializer. -/
theorem keepsMarkup_defaultMarkup (field : FieldContext) (resolveLink : LinkResolver) :
    Renderer.KeepsMarkup ⟨field, resolveLink, defaultMarkup⟩ := by
  intro element children html _ h
  cases h

/-- The default markup fails only where a link does. -/
theorem not_fails_defaultMarkup {field : FieldContext} {resolveLink : LinkResolver} {e : FieldError}
    (hlinks : ∀ link, ∃ address, resolveLink field link = .ok address) :
    ¬ Renderer.Fails ⟨field, resolveLink, defaultMarkup⟩ e := by
  intro hfails
  cases hfails with
  | link _ failed =>
    obtain ⟨address, haddress⟩ := hlinks _
    cases haddress.symm.trans failed
  | element failed => cases failed

/-- **The default markup** of a rich text without embedded media is made of properly nested
elements, and nothing that came from the document opens or closes a tag or ends the value of an
attribute: whatever the texts, labels, addresses, targets, types and offsets are. -/
theorem isMarkup_asHtml (field : FieldContext) (resolveLink : LinkResolver) (blocks : List Json)
    (hlinks : ∀ link, ∃ address, resolveLink field link = .ok address)
    (hmedia : ∀ block ∈ blocks, block.getText "type" ≠ "embed") :
    ∃ html, asHtml field resolveLink defaultMarkup blocks = .ok html ∧ IsMarkup html := by
  cases hhtml : asHtml field resolveLink defaultMarkup blocks with
  | error e => exact absurd (fails_of_asHtml hhtml) (not_fails_defaultMarkup hlinks)
  | ok html =>
    refine ⟨html, rfl, ?_⟩
    apply Renderer.isMarkup_runs (keepsMarkup_defaultMarkup field resolveLink) _ hhtml
    rwa [flatMap_runs]

/-- Texts, a label and an address made to break out of the markup, and a link that overruns its
text. -/
def trickyBlocks : List Json :=
  [.object [("type", .string "paragraph"), ("text", .string "<a&\n"), ("label", .string "\"x"),
    ("spans", .array
      [.object [("start", .number (.integer 1)), ("end", .number (.integer 9)),
        ("type", .string "hyperlink"), ("data", .object [("url", .string "\"><p>")])]])],
    .object [("type", .string "list-item"), ("text", .string "</li>")]]

/-- The link ends with its text, the item stands in a list, and everything else is escaped. -/
theorem isMarkup_asHtml_tricky :
    (asHtml ⟨"body", .array trickyBlocks, .null⟩ noLinks defaultMarkup trickyBlocks).toOption
        = some ("<p class=\"&quot;x\">&lt;<a href=\"&quot;&gt;&lt;p&gt;\">a&amp;<br /></a></p>"
          ++ "<ul><li>&lt;/li&gt;</li></ul>")
      ∧ ∃ html, asHtml ⟨"body", .array trickyBlocks,
        .null⟩ noLinks defaultMarkup trickyBlocks = .ok html
        ∧ IsMarkup html := by
  refine ⟨by decide +kernel, ?_⟩
  apply isMarkup_asHtml
  · intro link
    exact ⟨none, rfl⟩
  · decide

end ContentGraph.RichText
