import ContentGraph.CommandLine.Materialize
import ContentGraph.Link
import ContentGraph.Proofs.Collection.Documents
import ContentGraph.Proofs.Keyed
import ContentGraph.Resolution

/-!
# Document links, materialized and resolved

A link is read twice: when its document is materialized it may be given the node id of the document
that it leads to, and when a field is resolved that document may be looked up.  Either reading wants
a type and an id.  About the kind of the link they differ: materialization wants it to be
`Document`, a resolver is content when no kind is told.

* `Link.Kindless` — the links on which the two differ;
* `Link.target?_eq_some_iff`, `linkTarget?_eq_some_iff` — the document that either reading takes a
  link to lead to;
* `Link.materialize_object`, `Link.getString?_materialized` — a materialized link, which tells a
  resolver what the raw one does;
* `linkedDocument_looks_up_iff` — when a document is looked up, and under which id and type;
* `kindless_link_is_looked_up` — a link that materialization takes for empty and a resolver follows.
-/

namespace ContentGraph

namespace Link

/-- A link that names a document by type and id and does not tell its kind. -/
def Kindless (link : Json) : Prop :=
  link.getString? "link_type" = none ∧ (link.getString? "type").isSome ∧
    (link.getString? "id").isSome

/-! ### What a link leads to -/

/-- Materialization follows links of the kind `Document`. -/
theorem target?_eq_some_iff {link : Json} {type id : String} :
    target? link = some (type, id) ↔
      link.getString? "type" = some type ∧ link.getString? "id" = some id ∧
        link.getString? "link_type" = some "Document" := by
  rw [target?, isDocumentLink]
  cases htype : link.getString? "type" with
  | none => simp
  | some foundType =>
    cases hid : link.getString? "id" with
    | none => simp
    | some foundId =>
      by_cases hkind : link.getString? "link_type" = some "Document" <;> simp [hkind]

end Link

/-- A resolver follows links of the kind `Document` and links of no kind. -/
theorem linkTarget?_eq_some_iff {members : List (String × Json)} {type id : String} :
    linkTarget? members = some (type, id) ↔
      (Json.object members).getString? "type" = some type ∧
      (Json.object members).getString? "id" = some id ∧
        ((Json.object members).getString? "link_type" = none ∨
          (Json.object members).getString? "link_type" = some "Document") := by
  have hread : ∀ name, (Json.object members).getString? name =
      (Keyed.get? name members).bind Json.asString? :=
    fun _ => rfl
  rw [hread, hread, hread, linkTarget?]
  cases (Keyed.get? "type" members).bind Json.asString? with
  | none => simp
  | some foundType =>
    cases (Keyed.get? "id" members).bind Json.asString? with
    | none => simp
    | some foundId =>
      cases (Keyed.get? "link_type" members).bind Json.asString? with
      | none => simp
      | some kind => by_cases hkind : kind = "Document" <;> simp [hkind]

/-- **Where the readings differ**: a resolver follows the links that materialization follows, and
those of no kind. -/
theorem exists_linkTarget?_iff {members : List (String × Json)} :
    (∃ target, linkTarget? members = some target) ↔
      (∃ target, Link.target? (.object members) = some target) ∨
      Link.Kindless (.object members) := by
  simp only [Prod.exists, linkTarget?_eq_some_iff, Link.target?_eq_some_iff, Link.Kindless,
    Option.isSome_iff_exists]
  constructor
  · rintro ⟨type, id, htype, hid, hnone | hkind⟩
    · exact Or.inr ⟨hnone, ⟨type, htype⟩, ⟨id, hid⟩⟩
    · exact Or.inl ⟨type, id, htype, hid, hkind⟩
  · rintro (⟨type, id, htype, hid, hkind⟩ | ⟨hnone, ⟨type, htype⟩, ⟨id, hid⟩⟩)
    · exact ⟨type, id, htype, hid, Or.inr hkind⟩
    · exact ⟨type, id, htype, hid, Or.inl hnone⟩

/-! ### Materialized links -/

namespace Link

/-- A link object with an address, the node id of its document and its raw form. -/
def materialized (env : Environment) (members : List (String × Json)) (address : Option String) :
    List (String × Json) :=
  Keyed.set "raw" (.object members)
    (Keyed.set "document" (textOrNull
      ((target? (.object members)).map fun target => env.nodeId target.1 target.2))
      (Keyed.set "url" (textOrNull address) members))

variable {env : Environment} {key : String} {node : Json} {members : List (String × Json)}
  {address : Option String}

/-- **A link object is materialized** when its address can be told. -/
theorem materialize_object
    (h : url env.resolveLink ⟨key, .object members, node⟩ (.object members) = .ok address) :
    materialize env ⟨key, .object members, node⟩ =
      .ok (.object (materialized env members address)) := by
  rw [materialize]
  simp only [h]
  rfl

/-- The address can be told when the link resolver does not fail. -/
theorem exists_url_eq
    (h : ∃ address, env.resolveLink ⟨key, .object members, node⟩ (.object members) = .ok address) :
    ∃ address, url env.resolveLink ⟨key, .object members, node⟩ (.object members) =
      .ok address := by
  rw [url]
  by_cases hkind : isDocumentLink (.object members) = true
  · obtain ⟨address, haddress⟩ := h
    exact ⟨address, by rw [if_pos hkind, haddress]; rfl⟩
  · exact ⟨_, if_neg hkind⟩

/-- **The document of a materialized link** is the node id of what the raw link leads to, or
`null`. -/
theorem document_materialized :
    (Json.object (materialized env members address)).get? "document" =
      some (textOrNull ((target? (.object members)).map fun target =>
        env.nodeId target.1 target.2)) := by
  rw [Json.get?, materialized, Keyed.get?_set_of_ne (by decide), Keyed.get?_set_self]

/-- A node id stands there exactly when the raw link leads to the document of that node. -/
theorem document_materialized_eq_iff {nodeId : String} :
    (Json.object (materialized env members address)).get? "document" = some (.string nodeId) ↔
      ∃ target, target? (.object members) = some target ∧
      env.nodeId target.1 target.2 = nodeId := by
  rw [document_materialized]
  cases target? (.object members) with
  | none => simp [textOrNull]
  | some target => simp [textOrNull]

theorem exists_document_materialized_iff :
    (∃ nodeId, (Json.object (materialized env members address)).get? "document" =
      some (.string nodeId)) ↔
      ∃ target, target? (.object members) = some target := by
  simp only [document_materialized_eq_iff]
  exact ⟨fun ⟨_, target, h, _⟩ => ⟨target, h⟩, fun ⟨target, h⟩ => ⟨_, target, h, rfl⟩⟩

/-- What a resolver asks a link for is kept by materialization. -/
theorem getString?_materialized {name : String} (h : name ∉ ["raw", "document", "url"]) :
    (Json.object (materialized env members address)).getString? name =
      (Json.object members).getString? name := by
  simp only [List.mem_cons, List.not_mem_nil, or_false, not_or] at h
  obtain ⟨hraw, hdocument, hurl⟩ := h
  rw [Json.getString?, Json.getString?, Json.get?, Json.get?, materialized,
    Keyed.get?_set_of_ne hraw, Keyed.get?_set_of_ne hdocument, Keyed.get?_set_of_ne hurl]

end Link

/-! ### Resolved links -/

/-- A link leads a resolver to the same document after materialization. -/
theorem linkTarget?_materialized (env : Environment) (members : List (String × Json))
    (address : Option String) :
    linkTarget? (Link.materialized env members address) = linkTarget? members := by
  refine Option.ext fun target => ?_
  rw [linkTarget?_eq_some_iff, linkTarget?_eq_some_iff, Link.getString?_materialized (by decide),
    Link.getString?_materialized (by decide), Link.getString?_materialized (by decide)]

/-- **One look-up for a link that leads to a document**, by node id and name of the root type. -/
theorem lookups_resolveLinkedDocument (context : ResolveContext) (members : List (String × Json)) :
    (resolveLinkedDocument context (some (.object members))).lookups =
      ((linkTarget? members).map fun target => Lookup.node (context.nodeId target.1 target.2)
        (some (context.naming.documentType target.1))).toList := by
  rw [resolveLinkedDocument]
  cases linkTarget? members with
  | none => rfl
  | some target => rfl

/-- Every other link is left as it is. -/
theorem value_resolveLinkedDocument_of_none (context : ResolveContext)
    {members : List (String × Json)} (h : linkTarget? members = none) :
    (resolveLinkedDocument context (some (.object members))).value = .object members := by
  simp only [resolveLinkedDocument, h]

/-- The one document that a compiled type declares has the name under which links to it are looked
up. -/
theorem names_documents_compile {naming : TypeNaming} {id : String} {type : CustomType}
    {compiled : CompiledType} (h : compile naming id type = .ok compiled) :
    (compiled.declarations.filter (TypeDeclaration.isDocument naming)).map TypeDeclaration.name =
      [naming.documentType id] := by
  rw [filter_isDocument_compile h]
  rfl

/-- **The two readings of a link.**  A link whose address can be told is materialized.  The resolver
of linked documents, given the raw or the materialized link, looks a document up exactly when
materialization has set its node id, or when the link names a document and tells no kind.  It looks
up one node: the one whose id materialization sets if it sets one, of the root type that a custom
type with the link's `type` for an id declares.  Any other link it leaves as it is. -/
theorem linkedDocument_looks_up_iff (env : Environment) (naming : TypeNaming) (store : NodeStore)
    (key : String) (node : Json) (members : List (String × Json))
    (resolves : ∃ address, env.resolveLink ⟨key, .object members, node⟩ (.object members) =
      .ok address) :
    ∃ materialized, Link.materialize env ⟨key, .object members, node⟩ = .ok materialized ∧
      ∀ link ∈ [Json.object members, materialized], ∀ parent name, parent.get? name = some link →
        let resolved := FieldResolver.linkedDocument.resolve ⟨store, env.nodeId, naming⟩ parent name
        (resolved.lookups ≠ [] ↔
          (∃ nodeId, materialized.get? "document" = some (.string nodeId)) ∨
            Link.Kindless (.object members)) ∧
        (resolved.lookups ≠ [] → ∃ type id,
          link.getString? "type" = some type ∧ link.getString? "id" = some id ∧
          resolved.lookups = [.node (env.nodeId type id) (some (naming.documentType type))] ∧
          (∀ nodeId, materialized.get? "document" = some (.string nodeId) →
            nodeId = env.nodeId type id) ∧
          ∀ schema compiled, compile naming type schema = .ok compiled →
            (compiled.declarations.filter (TypeDeclaration.isDocument naming)).map
              TypeDeclaration.name =
              [naming.documentType type]) ∧
        (resolved.lookups = [] → resolved.value = link) := by
  obtain ⟨address, haddress⟩ := Link.exists_url_eq resolves
  refine ⟨_, Link.materialize_object haddress, ?_⟩
  intro link hlink parent name hparent
  -- either link is an object that leads a resolver where the raw one leads it
  obtain ⟨own, rfl, htarget⟩ : ∃ own, link = .object own ∧
      linkTarget? own = linkTarget? members := by
    rw [List.mem_cons, List.mem_singleton] at hlink
    rcases hlink with rfl | rfl
    · exact ⟨members, rfl, rfl⟩
    · exact ⟨_, rfl, linkTarget?_materialized env members address⟩
  have hresolved : FieldResolver.linkedDocument.resolve ⟨store, env.nodeId, naming⟩ parent name =
      resolveLinkedDocument ⟨store, env.nodeId, naming⟩ (some (.object own)) := by
    rw [FieldResolver.resolve, hparent]
  intro resolved
  have hlookups :
      resolved.lookups = ((linkTarget? own).map fun target =>
        Lookup.node (env.nodeId target.1 target.2)
      (some (naming.documentType target.1))).toList := by
    show (FieldResolver.linkedDocument.resolve _ parent name).lookups = _
    rw [hresolved, lookups_resolveLinkedDocument]
  refine ⟨?_, ?_, ?_⟩
  · rw [Link.exists_document_materialized_iff, ← exists_linkTarget?_iff, hlookups, htarget]
    cases linkTarget? members <;> simp
  · intro hsome
    obtain ⟨⟨type, id⟩, hfound⟩ : ∃ target, linkTarget? own = some target := by
      refine Option.ne_none_iff_exists'.mp fun hnone => hsome ?_
      rw [hlookups, hnone]
      rfl
    obtain ⟨htype, hid, -⟩ := linkTarget?_eq_some_iff.mp hfound
    refine ⟨type, id, htype, hid, by rw [hlookups, hfound]; rfl, ?_,
      fun _ _ => names_documents_compile⟩
    intro nodeId hnode
    obtain ⟨⟨rawType, rawId⟩, hraw, rfl⟩ := Link.document_materialized_eq_iff.mp hnode
    obtain ⟨hrawType, hrawId, -⟩ := Link.target?_eq_some_iff.mp hraw
    obtain ⟨hownType, hownId, -⟩ := linkTarget?_eq_some_iff.mp (htarget ▸ hfound)
    rw [hrawType, Option.some.injEq] at hownType
    rw [hrawId, Option.some.injEq] at hownId
    rw [hownType, hownId]
  · intro hnil
    have hnone : linkTarget? own = none := by
      rw [hlookups] at hnil
      cases h : linkTarget? own with
      | none => rfl
      | some target => rw [h] at hnil; cases hnil
    show (FieldResolver.linkedDocument.resolve _ parent name).value = _
    rw [hresolved, value_resolveLinkedDocument_of_none _ hnone]

/-- A document link as editors write it: one look-up, under the node id that materialization
sets. -/
theorem linkedDocument_looks_up_page :
    ∃ materialized,
      Link.materialize { nodeId := CommandLine.nodeId, resolveLink := CommandLine.pathLinks }
        ⟨"link", .object [("link_type", .string "Document"), ("type", .string "page"),
          ("id", .string "abc")], .null⟩ =
          .ok materialized ∧
      materialized.get? "document" = some (.string "page-abc") ∧
      (FieldResolver.linkedDocument.resolve ⟨⟨fun _ _ => none, fun _ => []⟩, CommandLine.nodeId, {}⟩
        (.object [("link", materialized)]) "link").lookups =
          [.node "page-abc" (some "PrismicPage")] := by
  obtain ⟨materialized, hmaterialized, hlinks⟩ := linkedDocument_looks_up_iff
    { nodeId := CommandLine.nodeId, resolveLink := CommandLine.pathLinks } {} ⟨fun _ _ => none,
      fun _ => []⟩ "link"
    .null [("link_type", .string "Document"), ("type", .string "page"),
      ("id", .string "abc")] ⟨_, rfl⟩
  have hdocument : materialized.get? "document" = some (.string "page-abc") := by
    cases hmaterialized
    decide
  obtain ⟨hiff, hlookup, -⟩ :=
    hlinks materialized (by simp) (.object [("link", materialized)]) "link" rfl
  obtain ⟨type, id, htype, hid, heq, -, -⟩ := hlookup (hiff.mpr (Or.inl ⟨_, hdocument⟩))
  refine ⟨materialized, hmaterialized, hdocument, heq.trans ?_⟩
  cases hmaterialized
  cases htype
  cases hid
  decide

/-- A link without a kind: its document is `null` once it is materialized, and looked up all the
same. -/
theorem kindless_link_is_looked_up :
    let link := Json.object [("type", .string "page"), ("id", .string "abc")]
    let resolved :=
      FieldResolver.linkedDocument.resolve ⟨⟨fun _ _ => none, fun _ => []⟩, CommandLine.nodeId, {}⟩
      (.object [("link", link)]) "link"
    ∃ materialized,
      Link.materialize { nodeId := CommandLine.nodeId, resolveLink := CommandLine.pathLinks }
          ⟨"link", link, .null⟩ =
        .ok materialized ∧
      resolved.lookups = [.node "page-abc" (some "PrismicPage")] ∧
      ¬((∃ nodeId, materialized.get? "document" = some (.string nodeId)) ↔
        resolved.lookups ≠ []) := by
  intro link resolved
  have hlookups : resolved.lookups = [.node "page-abc" (some "PrismicPage")] := by decide
  refine ⟨_, rfl, hlookups, fun hiff => ?_⟩
  obtain ⟨nodeId, hnode⟩ := hiff.mpr (by simp [hlookups])
  cases hnode

end ContentGraph
