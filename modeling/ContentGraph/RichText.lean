import ContentGraph.Link
import ContentGraph.RichText.Span
import ContentGraph.Text.Escape
import ContentGraph.Text.Units

/-!
# Rich text

A rich text is a list of blocks.  Blocks are rendered in order; neighbouring list items of one kind
stand together in a list element.  Every element is offered to the serializer and has its default
markup when the serializer declines.

* `asText` — the plain text: the blocks' texts, separated by spaces;
* `runs` — the blocks with neighbouring list items grouped;
* `asHtml` — the markup of the whole text, or the first failure of a collaborator.
-/

namespace ContentGraph.RichText

/-- The plain text of blocks. -/
def asText (blocks : List Json) : String :=
  String.intercalate " " (blocks.filterMap fun block => block.getString? "text")

/-! ### Elements -/

/-- The collaborators of one rendering. -/
structure Renderer where
  field : FieldContext
  resolveLink : LinkResolver
  serializeHtml : HtmlSerializer

namespace Renderer

/-- The serializer's markup of an element, or the default. -/
def element (r : Renderer) (element : TextElement) (children default : String) :
    Except FieldError String :=
  match r.serializeHtml r.field element children with
  | .error cause => .error (.htmlSerializer cause)
  | .ok none => .ok default
  | .ok (some html) => .ok html

/-- The address of a link as the value of an attribute; empty when it has none. -/
def href (r : Renderer) (link : Json) : Except FieldError String :=
  (Link.url r.resolveLink r.field link).map fun url => Text.attributeValue (url.getD "")

/-! ### Spans -/

/-- The markup around the children of a hyperlink: its address, and a target that opens
elsewhere. -/
def hyperlink (href : String) (target : Option String) (children : String) : String :=
  let opened := match target with
    | none => ""
    | some target => " target=\"" ++ Text.attributeValue target ++ "\" rel=\"noopener\""
  "<a href=\"" ++ href ++ "\"" ++ opened ++ ">" ++ children ++ "</a>"

/-- A span around its rendered children. -/
def span (r : Renderer) (span : Span) (text children : String) : Except FieldError String :=
  let element : TextElement := ⟨span.type, span.node, text⟩
  let data := (span.node.get? "data").getD .null
  if span.type = "strong" then r.element element children ("<strong>" ++ children ++ "</strong>")
  else if span.type = "em" then r.element element children ("<em>" ++ children ++ "</em>")
  else if span.type = "label" then
    r.element element children
      ("<span class=\"" ++ Text.attributeValue (data.getText "label") ++ "\">" ++
        children ++ "</span>")
  else if span.type = "hyperlink" then
    match r.href data with
    | .error e => .error e
    | .ok href => r.element element children (hyperlink href (data.getString? "target") children)
  else r.element element children children

/-- A character of a run of text; a line break becomes an element. -/
def textChar (c : Char) : List Char :=
  if c = '\n' then ['<', 'b', 'r', ' ', '/', '>'] else Text.escapeTextChar c

/-- A run of text. -/
def textMarkup (text : String) : String := String.ofList (text.toList.flatMap textChar)

mutual
/-- A node over the units of the block's text. -/
def node (r : Renderer) (units : List UInt16) : SpanNode → Except FieldError String
  | .text start stop => .ok (textMarkup (Text.ofUnits (Text.slice units start stop)))
  | .span span children =>
    match nodes r units children with
    | .error e => .error e
    | .ok inner => r.span span (Text.ofUnits (Text.slice units span.start span.stop)) inner
/-- Nodes in order. -/
def nodes (r : Renderer) (units : List UInt16) : List SpanNode → Except FieldError String
  | [] => .ok ""
  | first :: rest =>
    match node r units first with
    | .error e => .error e
    | .ok html =>
      match nodes r units rest with
      | .error e => .error e
      | .ok more => .ok (html ++ more)
end

/-! ### Blocks -/

/-- The spans of a block over a text of `length` units, in the order of nesting. -/
def blockSpans (block : Json) (length : Nat) : List Span :=
  sortSpans ((((block.get? "spans").bind Json.asArray?).getD []).filterMap (Span.ofJson? length))

/-- The text of a block with its spans. -/
def spans (r : Renderer) (block : Json) (text : String) : Except FieldError String :=
  let units := Text.units text
  r.nodes units (buildTree 0 units.length (blockSpans block units.length))

/-- The class that a block's label names. -/
def classAttribute (block : Json) : String :=
  match block.getString? "label" with
  | none => ""
  | some label => " class=\"" ++ Text.attributeValue label ++ "\""

/-- The label as one more class. -/
def classSuffix (block : Json) : String :=
  match block.getString? "label" with
  | none => ""
  | some label => " " ++ Text.attributeValue label

/-- The image of an image block. -/
def imageMarkup (block : Json) : String :=
  "<img src=\"" ++ Text.attributeValue (block.getText "url") ++ "\" alt=\"" ++
    Text.attributeValue (block.getText "alt")
    ++ "\" copyright=\"" ++ Text.attributeValue (block.getText "copyright") ++ "\" />"

/-- The link around the image of an image block, if there is one. -/
def imageLink? (block : Json) : Option Json :=
  match block.get? "linkTo" with
  | some (.object members) => some (.object members)
  | _ => none

/-- An image block. -/
def imageBlock (r : Renderer) (block : Json) (element : TextElement) : Except FieldError String :=
  let wrap (image : String) :=
    "<p class=\"block-img" ++ classSuffix block ++ "\">" ++ image ++ "</p>"
  match imageLink? block with
  | none => r.element element "" (wrap (imageMarkup block))
  | some link =>
    match r.href link with
    | .error e => .error e
    | .ok href =>
      r.element element "" (wrap ("<a href=\"" ++ href ++ "\">" ++ imageMarkup block ++ "</a>"))

/-- A block of embedded media.  The media's own markup is inserted as it is. -/
def embedBlock (r : Renderer) (block : Json) (element : TextElement) : Except FieldError String :=
  let media := (block.get? "oembed").getD .null
  r.element element ""
    ("<div data-oembed=\"" ++ Text.attributeValue (media.getText "embed_url")
      ++ "\" data-oembed-type=\"" ++ Text.attributeValue (media.getText "type")
      ++ "\" data-oembed-provider=\"" ++ Text.attributeValue (media.getText "provider_name") ++ "\""
      ++ classAttribute block ++ ">" ++ media.getText "html" ++ "</div>")

/-- The tag of a block of text. -/
def blockTag (type : String) : String :=
  if type = "heading1" then "h1"
  else if type = "heading2" then "h2"
  else if type = "heading3" then "h3"
  else if type = "heading4" then "h4"
  else if type = "heading5" then "h5"
  else if type = "heading6" then "h6"
  else if type = "preformatted" then "pre"
  else if type = "list-item" || type = "o-list-item" then "li"
  else "p"

/-- One block. -/
def block (r : Renderer) (block : Json) : Except FieldError String :=
  let type := block.getText "type"
  let text := block.getText "text"
  let element : TextElement := ⟨type, block, text⟩
  if type = "image" then r.imageBlock block element
  else if type = "embed" then r.embedBlock block element
  else
    match r.spans block text with
    | .error e => .error e
    | .ok children =>
      let tag := blockTag type
      r.element element children
        ("<" ++ tag ++ classAttribute block ++ ">" ++ children ++ "</" ++ tag ++ ">")

/-- Blocks one after the other. -/
def blocks (r : Renderer) : List Json → Except FieldError String
  | [] => .ok ""
  | first :: rest =>
    match r.block first with
    | .error e => .error e
    | .ok html =>
      match r.blocks rest with
      | .error e => .error e
      | .ok more => .ok (html ++ more)

end Renderer

/-! ### Lists -/

/-- Kinds of lists. -/
inductive ListKind
  | unordered | ordered
  deriving DecidableEq, Repr

/-- The kind of list that a block is an item of. -/
def listKind? (block : Json) : Option ListKind :=
  let type := block.getText "type"
  if type = "list-item" then some .unordered
  else if type = "o-list-item" then some .ordered
  else none

/-- The type of a list's element. -/
def ListKind.elementType : ListKind → String
  | .unordered => "group-list-item"
  | .ordered => "group-o-list-item"

/-- The tag of a list. -/
def ListKind.tag : ListKind → String
  | .unordered => "ul"
  | .ordered => "ol"

/-- A block alone, or neighbouring items of one kind of list. -/
inductive Run
  | single (block : Json)
  | list (kind : ListKind) (items : List Json)

/-- A block in front of runs. -/
def consRun (block : Json) (rest : List Run) : List Run :=
  match listKind? block with
  | none => .single block :: rest
  | some kind =>
    match rest with
    | .list next items :: others =>
      if kind = next then .list kind (block :: items) :: others else .list kind [block] :: rest
    | _ => .list kind [block] :: rest

/-- The runs of blocks. -/
def runs : List Json → List Run
  | [] => []
  | block :: rest => consRun block (runs rest)

namespace Renderer

/-- One run. -/
def run (r : Renderer) : Run → Except FieldError String
  | .single block => r.block block
  | .list kind items =>
    match r.blocks items with
    | .error e => .error e
    | .ok inner =>
      r.element ⟨kind.elementType, .null, ""⟩ inner
        ("<" ++ kind.tag ++ ">" ++ inner ++ "</" ++ kind.tag ++ ">")

/-- Runs one after the other. -/
def runs (r : Renderer) : List Run → Except FieldError String
  | [] => .ok ""
  | first :: rest =>
    match r.run first with
    | .error e => .error e
    | .ok html =>
      match r.runs rest with
      | .error e => .error e
      | .ok more => .ok (html ++ more)

end Renderer

/-- The markup of a rich text. -/
def asHtml (field : FieldContext) (resolveLink : LinkResolver) (serializeHtml : HtmlSerializer)
    (blocks : List Json) : Except FieldError String :=
  Renderer.runs ⟨field, resolveLink, serializeHtml⟩ (runs blocks)

/-- A rich text field: its markup, its text and its raw form. -/
def materialize (env : Environment) (field : FieldContext) : Except FieldError Json :=
  match field.value with
  | .array blocks =>
    match asHtml field env.resolveLink env.serializeHtml blocks with
    | .error e => .error e
    | .ok html =>
      .ok (.object [("html", .string html), ("text", .string (asText blocks)),
        ("raw", .array blocks)])
  | other => .error (.invalidValue "array of rich text blocks" other.kindName)

end ContentGraph.RichText
