import ContentGraph.Proofs.RichText.PlainText

/-!
# Markup that a serializer takes over

The default markup of a hyperlink and of a linked image has the address of a link in it.  The link
is resolved before the serializer is asked, so a serializer that writes these elements itself makes
the address invisible, but not the failure of a resolver: the markup depends on the resolver exactly
where it fails.

* `LinkedElement`, `TakesOver` — the elements with a link, and the serializers that write all of
  them;
* `SameUnless` with `sameUnless_nodes`, `sameUnless_block`, `sameUnless_runs` — two renderings that
  are the same, unless the first one is stopped by a link;
* `exists_href_of_nodes`, `exists_href_of_block` — a rendering that succeeds has resolved every
  link;
* `asHtml_taken_over` — what the markup depends on;
* `link_fails_under_serializer` — a link that is written by the serializer, and still fails.
-/

namespace ContentGraph.RichText

/-! ### Elements with a link -/

/-- An element of a block whose default markup has a link: its type, its raw form and the link. -/
inductive LinkedElement (block : Json) : (type : String) → (node link : Json) → Prop
  | hyperlink {span : Span} (text : IsTextBlock block)
      (here : span ∈ Renderer.blockSpans block (Text.units (block.getText "text")).length)
      (linked : span.type = "hyperlink") :
      LinkedElement block "hyperlink" span.node ((span.node.get? "data").getD .null)
  | image {link : Json} (image : block.getText "type" = "image")
      (linked : Renderer.imageLink? block = some link) :
      LinkedElement block "image" block link

/-- A serializer that leaves no element of the block with a link to the default markup. -/
def TakesOver (field : FieldContext) (serializeHtml : HtmlSerializer) (block : Json) : Prop :=
  ∀ type node link, LinkedElement block type node link →
    ∀ text children, serializeHtml field ⟨type, node, text⟩ children ≠ .ok none

/-- The failures of a resolver on the document links of a block. -/
def LinkFailure (field : FieldContext) (resolveLink : LinkResolver) (block : Json)
    (e : FieldError) : Prop :=
  ∃ type node link cause, LinkedElement block type node link ∧ Link.isDocumentLink link = true ∧
    resolveLink field link = .error cause ∧ e = .linkResolver cause

/-! ### Renderings that are the same -/

/-- Two renderings are the same, or the first one is one of the failures. -/
def SameUnless (failures : FieldError → Prop) (x y : Except FieldError String) : Prop :=
  x = y ∨ ∃ e, failures e ∧ x = .error e

namespace SameUnless

variable {failures more : FieldError → Prop} {x y a b : Except FieldError String}

theorem refl (x : Except FieldError String) : SameUnless failures x x := .inl rfl

theorem mono (h : SameUnless failures x y)
    (hmore : ∀ e, failures e → more e) : SameUnless more x y := by
  rcases h with h | ⟨e, he, h⟩
  · exact .inl h
  · exact .inr ⟨e, hmore e he, h⟩

/-- Renderings that go on alike from renderings that are the same. -/
theorem andThen {f g : String → Except FieldError String}
    (hnext : ∀ html, SameUnless failures (f html) (g html)) :
    SameUnless failures x y →
      SameUnless failures (match x with | .error e => .error e | .ok html => f html)
        (match y with | .error e => .error e | .ok html => g html) := by
  rintro (rfl | ⟨e, he, rfl⟩)
  · cases x with
    | error e => exact refl _
    | ok html => exact hnext html
  · exact .inr ⟨e, he, rfl⟩

/-- Renderings one after the other. -/
theorem followedBy (h : SameUnless failures x y) (hnext : SameUnless failures a b) :
    SameUnless failures (followedBy x a) (RichText.followedBy y b) := by
  rcases h with rfl | ⟨e, he, rfl⟩
  · cases x with
    | error e => exact refl _
    | ok html =>
      rcases hnext with rfl | ⟨e, he, rfl⟩
      · exact refl _
      · exact .inr ⟨e, he, rfl⟩
  · exact .inr ⟨e, he, rfl⟩

end SameUnless

namespace Renderer

variable {field : FieldContext} {resolveLink : LinkResolver} {serializeHtml : HtmlSerializer}

/-! ### Elements -/

/-- Without a resolver every link has an address, if only the empty one. -/
theorem exists_href_noLinks (field : FieldContext) (serializeHtml : HtmlSerializer) (link : Json) :
    ∃ address, href ⟨field, noLinks, serializeHtml⟩ link = .ok address := by
  rw [href, Link.url]
  split <;> exact ⟨_, rfl⟩

/-- An address, or the resolver's failure on a document link. -/
theorem href_cases (field : FieldContext) (resolveLink : LinkResolver)
    (serializeHtml : HtmlSerializer) (link : Json) :
    (∃ address, href ⟨field, resolveLink, serializeHtml⟩ link = .ok address) ∨
      ∃ cause, Link.isDocumentLink link = true ∧ resolveLink field link = .error cause ∧
        href ⟨field, resolveLink, serializeHtml⟩ link = .error (.linkResolver cause) := by
  rw [href, Link.url]
  split
  · next hdocument =>
    cases hresolve : resolveLink field link with
    | error cause => exact .inr ⟨cause, hdocument, rfl, by simp only [hresolve]; rfl⟩
    | ok address => exact .inl ⟨Text.attributeValue (address.getD ""), by simp only [hresolve]; rfl⟩
  · exact .inl ⟨_, rfl⟩

/-- An element that the serializer writes does not see its default markup. -/
theorem element_eq_of_written {element : TextElement} {children : String}
    (h : serializeHtml field element children ≠ .ok none) (default other : String) :
    Renderer.element ⟨field, resolveLink, serializeHtml⟩ element children default =
      Renderer.element ⟨field, noLinks, serializeHtml⟩ element children other := by
  simp only [Renderer.element]
  split
  · rfl
  · next hdeclines => exact absurd hdeclines h
  · rfl

/-- **An element with a link** that the serializer writes is the same, unless the link fails. -/
theorem sameUnless_linked {failures : FieldError → Prop} {link : Json} {element : TextElement}
    {children : String} (hwritten : serializeHtml field element children ≠ .ok none)
    (hfailures : ∀ cause, Link.isDocumentLink link = true → resolveLink field link = .error cause →
      failures (.linkResolver cause)) (markup : String → String) :
    SameUnless failures
      (match href ⟨field, resolveLink, serializeHtml⟩ link with
        | .error e => .error e
        | .ok address => Renderer.element ⟨field, resolveLink,
          serializeHtml⟩ element children (markup address))
      (match href ⟨field, noLinks, serializeHtml⟩ link with
        | .error e => .error e
        | .ok address => Renderer.element ⟨field, noLinks,
          serializeHtml⟩ element children (markup address)) := by
  obtain ⟨other, hother⟩ := exists_href_noLinks field serializeHtml link
  simp only [hother]
  rcases href_cases field resolveLink serializeHtml link with
    ⟨address, haddress⟩ | ⟨cause, hdocument, hresolve, hfails⟩
  · simp only [haddress]
    exact .inl (element_eq_of_written hwritten _ _)
  · simp only [hfails]
    exact .inr ⟨_, hfailures cause hdocument hresolve, rfl⟩

/-! ### Spans -/

/-- What is asked of the spans of a tree: the serializer writes the hyperlinks, and their failures
are among those that are told. -/
def HyperlinksWritten (field : FieldContext) (resolveLink : LinkResolver)
    (serializeHtml : HtmlSerializer) (failures : FieldError → Prop) (spans : List Span) : Prop :=
  ∀ span ∈ spans, span.type = "hyperlink" →
    (∀ text children, serializeHtml field ⟨span.type, span.node, text⟩ children ≠ .ok none) ∧
      ∀ cause, Link.isDocumentLink ((span.node.get? "data").getD .null) = true →
        resolveLink field ((span.node.get? "data").getD .null) = .error cause →
        failures (.linkResolver cause)

variable {failures : FieldError → Prop}

theorem sameUnless_span {span : Span}
    (h : HyperlinksWritten field resolveLink serializeHtml failures [span])
    (text children : String) :
    SameUnless failures (Renderer.span ⟨field, resolveLink, serializeHtml⟩ span text children)
      (Renderer.span ⟨field, noLinks, serializeHtml⟩ span text children) := by
  simp only [Renderer.span]
  split_ifs with hstrong hem hlabel hlink
  · exact .refl _
  · exact .refl _
  · exact .refl _
  · obtain ⟨hwritten, hfailures⟩ := h span (List.mem_singleton.mpr rfl) hlink
    exact sameUnless_linked (hwritten text children) hfailures _
  · exact .refl _

mutual
/-- **The tree of spans** is rendered alike, unless a hyperlink fails. -/
theorem sameUnless_node (units : List UInt16) :
    (node : SpanNode) → HyperlinksWritten field resolveLink serializeHtml failures node.spans →
      SameUnless failures (Renderer.node ⟨field, resolveLink, serializeHtml⟩ units node)
        (Renderer.node ⟨field, noLinks, serializeHtml⟩ units node)
  | .text _ _, _ => .refl _
  | .span span children, h => by
    rw [SpanNode.spans] at h
    rw [node, node]
    refine SameUnless.andThen (fun inner => sameUnless_span ?_ _ inner)
      (sameUnless_nodes units children fun other hother => h other (List.mem_cons_of_mem _ hother))
    intro other hother
    rw [List.mem_singleton.mp hother]
    exact h span List.mem_cons_self
theorem sameUnless_nodes (units : List UInt16) :
    (nodes : List SpanNode) → HyperlinksWritten field resolveLink serializeHtml failures
      (spansOf nodes) →
      SameUnless failures (Renderer.nodes ⟨field, resolveLink, serializeHtml⟩ units nodes)
        (Renderer.nodes ⟨field, noLinks, serializeHtml⟩ units nodes)
  | [], _ => .refl _
  | first :: rest, h => by
    rw [spansOf] at h
    rw [nodes_cons, nodes_cons]
    exact (sameUnless_node units first fun span hspan =>
      h span (List.mem_append_left _ hspan)).followedBy
      (sameUnless_nodes units rest fun span hspan => h span (List.mem_append_right _ hspan))
end

/-- The spans of a block's tree are those of the block, by type and raw form. -/
theorem exists_blockSpan {block : Json} {length : Nat} {span : Span}
    (h : span ∈ spansOf (buildTree 0 length (blockSpans block length))) :
    ∃ raw ∈ blockSpans block length, raw.type = span.type ∧ raw.node = span.node := by
  have hsource : span.source ∈ (blockSpans block length).map Span.source := by
    rw [← sources_buildTree 0 length]
    exact List.mem_map_of_mem h
  obtain ⟨raw, hraw, heq⟩ := List.mem_map.mp hsource
  exact ⟨raw, hraw, congrArg Prod.fst heq, congrArg Prod.snd heq⟩

/-! ### Blocks and runs -/

/-- **A block** whose links are written by the serializer is rendered alike, unless one of them
fails. -/
theorem sameUnless_block {block : Json} (h : TakesOver field serializeHtml block) :
    SameUnless (LinkFailure field resolveLink block)
      (Renderer.block ⟨field, resolveLink, serializeHtml⟩ block)
        (Renderer.block ⟨field, noLinks, serializeHtml⟩ block) := by
  simp only [Renderer.block]
  split_ifs with himage hembed
  · simp only [imageBlock]
    cases hlink : imageLink? block with
    | none => exact .refl _
    | some link =>
      have hlinked := LinkedElement.image himage hlink
      rw [himage]
      exact sameUnless_linked (h _ _ _ hlinked _ _)
        (fun cause hdocument hresolve => ⟨_, _, link, cause, hlinked, hdocument, hresolve, rfl⟩)
        fun address => "<p class=\"block-img" ++ classSuffix block ++ "\">" ++
          ("<a href=\"" ++ address ++ "\">" ++ imageMarkup block ++ "</a>") ++ "</p>"
  · exact .refl _
  · refine SameUnless.andThen (fun children => .refl _) (sameUnless_nodes _ _ ?_)
    intro span hspan hlink
    obtain ⟨raw, hraw, htype, hnode⟩ := exists_blockSpan hspan
    have hlinked := LinkedElement.hyperlink ⟨himage, hembed⟩ hraw (htype.trans hlink)
    rw [hnode] at hlinked
    rw [hlink]
    exact ⟨h _ _ _ hlinked, fun cause hdocument hresolve =>
      ⟨_, _, _, cause, hlinked, hdocument, hresolve, rfl⟩⟩

theorem sameUnless_blocks {blocks : List Json}
    (h : ∀ block ∈ blocks, TakesOver field serializeHtml block) :
    SameUnless (fun e => ∃ block ∈ blocks, LinkFailure field resolveLink block e)
      (Renderer.blocks ⟨field, resolveLink, serializeHtml⟩ blocks)
      (Renderer.blocks ⟨field, noLinks, serializeHtml⟩ blocks) := by
  induction blocks with
  | nil => exact .refl _
  | cons first rest ih =>
    rw [List.forall_mem_cons] at h
    rw [blocks_cons, blocks_cons]
    refine ((sameUnless_block h.1).mono ?_).followedBy ((ih h.2).mono ?_)
    · intro e he
      exact ⟨first, List.mem_cons_self, he⟩
    · rintro e ⟨block, hblock, he⟩
      exact ⟨block, List.mem_cons_of_mem _ hblock, he⟩

theorem sameUnless_run {run : Run} (h : ∀ block ∈ run.blocks, TakesOver field serializeHtml block) :
    SameUnless (fun e => ∃ block ∈ run.blocks, LinkFailure field resolveLink block e)
      (Renderer.run ⟨field, resolveLink, serializeHtml⟩ run)
      (Renderer.run ⟨field, noLinks, serializeHtml⟩ run) := by
  cases run with
  | single block =>
    refine (sameUnless_block (h block (List.mem_singleton.mpr rfl))).mono ?_
    intro e he
    exact ⟨block, List.mem_singleton.mpr rfl, he⟩
  | list kind items =>
    rw [Renderer.run, Renderer.run]
    exact SameUnless.andThen (fun inner => .refl _) (sameUnless_blocks h)

/-- **Runs of blocks** are rendered alike, unless a link fails. -/
theorem sameUnless_runs {runs : List Run}
    (h : ∀ block ∈ runs.flatMap Run.blocks, TakesOver field serializeHtml block) :
    SameUnless (fun e => ∃ block ∈ runs.flatMap Run.blocks, LinkFailure field resolveLink block e)
      (Renderer.runs ⟨field, resolveLink, serializeHtml⟩ runs)
      (Renderer.runs ⟨field, noLinks, serializeHtml⟩ runs) := by
  induction runs with
  | nil => exact .refl _
  | cons first rest ih =>
    rw [List.flatMap_cons, List.forall_mem_append] at h
    rw [runs_cons, runs_cons, List.flatMap_cons]
    refine ((sameUnless_run h.1).mono ?_).followedBy ((ih h.2).mono ?_)
    · rintro e ⟨block, hblock, he⟩
      exact ⟨block, List.mem_append_left _ hblock, he⟩
    · rintro e ⟨block, hblock, he⟩
      exact ⟨block, List.mem_append_right _ hblock, he⟩

/-! ### Every link is resolved -/

section

variable {r : Renderer} {html : String}

theorem exists_href_of_span {span : Span} {text children : String}
    (h : r.span span text children = .ok html) (hlink : span.type = "hyperlink") :
    ∃ address, r.href ((span.node.get? "data").getD .null) = .ok address := by
  simp only [Renderer.span, hlink] at h
  cases haddress : r.href ((span.node.get? "data").getD .null) with
  | ok address => exact ⟨address, rfl⟩
  | error e =>
    rw [haddress] at h
    cases h

mutual
/-- **A tree of spans** that is rendered has the addresses of all its hyperlinks. -/
theorem exists_href_of_node {units : List UInt16} {html : String} :
    {node : SpanNode} → r.node units node = .ok html →
      ∀ span ∈ node.spans, span.type = "hyperlink" →
      ∃ address, r.href ((span.node.get? "data").getD .null) = .ok address
  | .text _ _, _, _, hspan, _ => nomatch hspan
  | .span first children, h, span, hspan, hlink => by
    rw [node] at h
    rw [SpanNode.spans, List.mem_cons] at hspan
    split at h
    · cases h
    · next hchildren =>
      rcases hspan with rfl | hspan
      · exact exists_href_of_span h hlink
      · exact exists_href_of_nodes hchildren span hspan hlink
theorem exists_href_of_nodes {units : List UInt16} {html : String} :
    {nodes : List SpanNode} → r.nodes units nodes = .ok html →
      ∀ span ∈ spansOf nodes, span.type = "hyperlink" →
      ∃ address, r.href ((span.node.get? "data").getD .null) = .ok address
  | [], _, _, hspan, _ => nomatch hspan
  | first :: rest, h, span, hspan, hlink => by
    rw [nodes_cons] at h
    obtain ⟨front, back, hfirst, hrest, -⟩ := followedBy_eq_ok_iff.mp h
    rw [spansOf, List.mem_append] at hspan
    rcases hspan with hspan | hspan
    · exact exists_href_of_node hfirst span hspan hlink
    · exact exists_href_of_nodes hrest span hspan hlink
end

/-- **A block** that is rendered has the addresses of all its links. -/
theorem exists_href_of_block {block : Json} {type : String} {node link : Json}
    (h : r.block block = .ok html) (hlinked : LinkedElement block type node link) :
    ∃ address, r.href link = .ok address := by
  simp only [Renderer.block] at h
  cases hlinked with
  | @hyperlink span text here linked =>
    rw [if_neg text.1, if_neg text.2] at h
    split at h
    · cases h
    · next children hchildren =>
      have hsource : span.source ∈ (spansOf (buildTree 0 (Text.units (block.getText "text")).length
          (blockSpans block (Text.units (block.getText "text")).length))).map Span.source := by
        rw [sources_buildTree]
        exact List.mem_map_of_mem here
      obtain ⟨nested, hnested, heq⟩ := List.mem_map.mp hsource
      have htype : nested.type = span.type := congrArg Prod.fst heq
      have hnode : nested.node = span.node := congrArg Prod.snd heq
      rw [← hnode]
      exact exists_href_of_nodes hchildren nested hnested (htype.trans linked)
  | image image linked =>
    rw [if_pos image, imageBlock, linked] at h
    cases haddress : r.href link with
    | ok address => exact ⟨address, rfl⟩
    | error e =>
      simp only [haddress] at h
      cases h

theorem exists_block_of_blocks {blocks : List Json} (h : r.blocks blocks = .ok html) :
    ∀ block ∈ blocks, ∃ own, r.block block = .ok own := by
  induction blocks generalizing html with
  | nil => exact List.forall_mem_nil _
  | cons first rest ih =>
    rw [blocks_cons] at h
    obtain ⟨front, back, hfirst, hrest, -⟩ := followedBy_eq_ok_iff.mp h
    exact List.forall_mem_cons.mpr ⟨⟨front, hfirst⟩, ih hrest⟩

/-- **Runs** that are rendered have all their blocks rendered. -/
theorem exists_block_of_runs {runs : List Run} (h : r.runs runs = .ok html) :
    ∀ block ∈ runs.flatMap Run.blocks, ∃ own, r.block block = .ok own := by
  induction runs generalizing html with
  | nil => exact List.forall_mem_nil _
  | cons first rest ih =>
    rw [runs_cons] at h
    obtain ⟨front, back, hfirst, hrest, -⟩ := followedBy_eq_ok_iff.mp h
    rw [List.flatMap_cons, List.forall_mem_append]
    refine ⟨?_, ih hrest⟩
    cases first with
    | single block => exact List.forall_mem_singleton.mpr ⟨front, hfirst⟩
    | list kind items =>
      rw [Renderer.run] at hfirst
      split at hfirst
      · cases hfirst
      · next inner hitems => exact exists_block_of_blocks hitems

end

end Renderer

/-! ### Rich texts -/

/-- Markup fails on no link when it does not resolve any. -/
theorem exists_asHtml_noLinks {field : FieldContext} {serializeHtml : HtmlSerializer}
    (hserializer : ∀ element children cause, serializeHtml field element children ≠ .error cause)
    (blocks : List Json) : ∃ html, asHtml field noLinks serializeHtml blocks = .ok html := by
  cases hhtml : asHtml field noLinks serializeHtml blocks with
  | ok html => exact ⟨html, rfl⟩
  | error e =>
    rcases exists_asHtml_error_iff.mp ⟨e, hhtml⟩ with
      ⟨_, _, -, -, failed⟩ | ⟨_, _, _, -, failed⟩
    · cases failed
    · exact absurd failed (hserializer _ _ _)

/-- **What the markup depends on** when the serializer writes every element with a link.  The
addresses are not seen: the markup is the one without a resolver, or the failure of the resolver on
a document link of such an element.  Under a serializer that does not fail, the two are the same
exactly when the resolver fails on none of these links. -/
theorem asHtml_taken_over (field : FieldContext) (resolveLink : LinkResolver)
    (serializeHtml : HtmlSerializer) (blocks : List Json)
    (hwritten : ∀ block ∈ blocks, TakesOver field serializeHtml block) :
    SameUnless (fun e => ∃ block ∈ blocks, LinkFailure field resolveLink block e)
        (asHtml field resolveLink serializeHtml blocks)
          (asHtml field noLinks serializeHtml blocks) ∧
      ((∀ element children cause, serializeHtml field element children ≠ .error cause) →
        (asHtml field resolveLink serializeHtml blocks = asHtml field noLinks serializeHtml blocks ↔
          ∀ block ∈ blocks, ∀ e, ¬ LinkFailure field resolveLink block e)) := by
  have hsame : SameUnless (fun e => ∃ block ∈ blocks, LinkFailure field resolveLink block e)
      (asHtml field resolveLink serializeHtml blocks)
        (asHtml field noLinks serializeHtml blocks) := by
    have hblocks : ∀ block ∈ (runs blocks).flatMap Run.blocks,
      TakesOver field serializeHtml block := by
      rwa [flatMap_runs]
    have hruns : SameUnless _ (Renderer.runs ⟨field, resolveLink, serializeHtml⟩ (runs blocks))
        (Renderer.runs ⟨field, noLinks, serializeHtml⟩ (runs blocks)) :=
          Renderer.sameUnless_runs hblocks
    rwa [flatMap_runs] at hruns
  refine ⟨hsame, fun hserializer => ⟨?_, ?_⟩⟩
  · rintro heq block hblock e ⟨type, node, link, cause, hlinked, hdocument, hresolve, -⟩
    obtain ⟨html, hhtml⟩ := exists_asHtml_noLinks hserializer blocks
    rw [← heq] at hhtml
    obtain ⟨own, hown⟩ := Renderer.exists_block_of_runs hhtml block (by rwa [flatMap_runs])
    obtain ⟨address, haddress⟩ := Renderer.exists_href_of_block hown hlinked
    rw [Renderer.href, Link.url, if_pos hdocument] at haddress
    simp only [hresolve] at haddress
    cases haddress
  · intro hnone
    rcases hsame with heq | ⟨e, ⟨block, hblock, hfails⟩, -⟩
    · exact heq
    · exact absurd hfails (hnone block hblock e)

/-- A text that is a link to a document. -/
def linkedBlock : Json :=
  .object [("type", .string "paragraph"), ("text", .string "a"), ("spans", .array
    [.object [("start", .number (.integer 0)), ("end", .number (.integer 1)),
      ("type", .string "hyperlink"), ("data", .object
        [("link_type", .string "Document"), ("type", .string "page"), ("id", .string "x")])]])]

/-- Links are bold; all other elements have their default markup. -/
def boldLinks : HtmlSerializer := fun _ element children =>
  .ok (if element.type = "hyperlink" then some ("<b>" ++ children ++ "</b>") else none)

/-- The serializer writes the one link of the text. -/
theorem exists_boldLinks (field : FieldContext) {type : String} {node link : Json}
    (h : LinkedElement linkedBlock type node link) (text children : String) :
    ∃ html, boldLinks field ⟨type, node, text⟩ children = .ok (some html) := by
  cases h with
  | hyperlink _ _ _ => exact ⟨_, rfl⟩
  | image image _ => exact absurd image (by decide)

theorem takesOver_boldLinks (field : FieldContext) : TakesOver field boldLinks linkedBlock := by
  intro type node link hlinked text children hdeclines
  obtain ⟨html, hhtml⟩ := exists_boldLinks field hlinked text children
  rw [hdeclines] at hhtml
  cases hhtml

/-- A resolver that gives all documents one address does not show. -/
theorem asHtml_taken_over_bold :
    (∀ block ∈ [linkedBlock], TakesOver ⟨"body", .null, .null⟩ boldLinks block) ∧
      asHtml ⟨"body", .null, .null⟩ (fun _ _ => .ok (some "/x")) boldLinks [linkedBlock] =
        asHtml ⟨"body", .null, .null⟩ noLinks boldLinks [linkedBlock] := by
  have hwritten : ∀ block ∈ [linkedBlock], TakesOver ⟨"body", .null, .null⟩ boldLinks block :=
    List.forall_mem_singleton.mpr (takesOver_boldLinks _)
  refine ⟨hwritten,
    ((asHtml_taken_over _ (fun _ _ => .ok (some "/x")) boldLinks _ hwritten).2 ?_).mpr ?_⟩
  · intro element children cause hfails
    cases hfails
  · rintro block - e ⟨type, node, link, cause, -, -, hresolve, -⟩
    cases hresolve

/-- **A link fails although the serializer writes it**: the serializer answers for every element
with a link, and the text has markup without a resolver, but a resolver that fails leaves it without
any. -/
theorem link_fails_under_serializer :
    (∀ type node link, LinkedElement linkedBlock type node link → ∀ text children,
        ∃ html, boldLinks ⟨"field", .null, .null⟩ ⟨type, node, text⟩ children = .ok (some html)) ∧
      asHtml ⟨"field", .null, .null⟩ noLinks boldLinks [linkedBlock] = .ok "<p><b>a</b></p>" ∧
      asHtml ⟨"field", .null, .null⟩ (fun _ _ => .error "link resolver misconfigured") boldLinks
        [linkedBlock] =
        .error (.linkResolver "link resolver misconfigured") :=
  ⟨fun _ _ _ hlinked => exists_boldLinks _ hlinked, by decide +kernel, by decide +kernel⟩

end ContentGraph.RichText
