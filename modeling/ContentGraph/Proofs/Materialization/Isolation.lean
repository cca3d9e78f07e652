import ContentGraph.Proofs.Materialization.Alike
import ContentGraph.Proofs.RichText.Agree

/-!
# Fields do not disturb each other

A field is materialized from its own value.  Where no collaborator reads the whole document and no
names are merged, a change to the value of one field, whatever it does to that field, changes
nothing but that field's place in the materialized document.

* `Environment.IgnoresDocument` — no collaborator reads the whole document;
* `Walk.alike_of_ignoresDocument` — walks of two documents agree on what they have in common;
* `Registry.FieldSlot` — the locations of fields in a document;
* `materialize_isolates_field` — a change at such a location shows at its exposed location only.
-/

namespace ContentGraph

/-- The link resolver, the serializer and the policy on images do not read the whole document. -/
structure Environment.IgnoresDocument (env : Environment) : Prop where
  resolveLink : ∀ key value node other link,
    env.resolveLink ⟨key, value, node⟩ link = env.resolveLink ⟨key, value, other⟩ link
  serializeHtml : ∀ key value node other element children,
    env.serializeHtml ⟨key, value, node⟩ element children =
      env.serializeHtml ⟨key, value, other⟩ element children
  normalizesImage : ∀ key value node other,
    env.normalizesImage ⟨key, value, node⟩ = env.normalizesImage ⟨key, value, other⟩

variable {env : Environment} {registry : Registry} {raw other : Json} {nodeId type : String}

/-! ### Single fields of two documents -/

namespace Environment.IgnoresDocument

variable (h : env.IgnoresDocument) (key : String) (value node node' : Json)

include h

/-- The address of a link does not depend on the document. -/
theorem url (link : Json) :
    Link.url env.resolveLink ⟨key, value, node⟩ link =
      Link.url env.resolveLink ⟨key, value, node'⟩ link := by
  rw [Link.url, Link.url, h.resolveLink key value node node' link]

theorem link :
    Link.materialize env ⟨key, value, node⟩ = Link.materialize env ⟨key, value, node'⟩ := by
  simp only [Link.materialize, h.url key value node node' value]

theorem agree : RichText.Renderer.Agree ⟨⟨key, value, node⟩, env.resolveLink, env.serializeHtml⟩
    ⟨⟨key, value, node'⟩, env.resolveLink, env.serializeHtml⟩ where
  element := by
    intro element children default
    simp only [RichText.Renderer.element, h.serializeHtml key value node node']
  href := by
    intro link
    rw [RichText.Renderer.href, RichText.Renderer.href, h.url key value node node' link]

theorem text :
    RichText.materialize env ⟨key, value, node⟩ = RichText.materialize env ⟨key, value, node'⟩ := by
  simp only [RichText.materialize, RichText.asHtml, (h.agree key value node node').runs]

theorem localFile (path : Path) :
    Walk.localFile ⟨env, registry, node, nodeId⟩ path ⟨key, value, node⟩ =
      Walk.localFile ⟨env, registry, node', nodeId⟩ path ⟨key, value, node'⟩ := by
  rw [Walk.localFile, Walk.localFile, h.normalizesImage key value node node']
  rfl

theorem thumbnailFiles (path : Path) (thumbnails : List (String × List (String × Json))) :
    Walk.thumbnailFiles ⟨env, registry, node, nodeId⟩ path key thumbnails =
      Walk.thumbnailFiles ⟨env, registry, node', nodeId⟩ path key thumbnails := by
  induction thumbnails with
  | nil => rfl
  | cons thumbnail rest ih =>
    obtain ⟨name, inner⟩ := thumbnail
    rw [Walk.thumbnailFiles, Walk.thumbnailFiles, ih, h.localFile key (.object inner) node node']

theorem image (path : Path) (members : List (String × Json)) :
    Walk.image ⟨env, registry, node, nodeId⟩ path key members =
      Walk.image ⟨env, registry, node', nodeId⟩ path key members := by
  rw [Walk.image, Walk.image, h.localFile key (.object members) node node',
    h.thumbnailFiles key node node']
  rfl

theorem leaf (path : Path) :
    Walk.leaf ⟨env, registry, node, nodeId⟩ path key value =
      Walk.leaf ⟨env, registry, node', nodeId⟩ path key value := by
  unfold Walk.leaf
  simp only [h.text key value node node', h.link key value node node', h.image key node node']
  rfl

end Environment.IgnoresDocument

/-- Walks that differ in the document only agree, where no collaborator reads it. -/
theorem Walk.alike_of_ignoresDocument (h : env.IgnoresDocument) (type : String) :
    Alike type ⟨env, registry, raw, nodeId⟩ ⟨env, registry, other, nodeId⟩ where
  rename := rfl
  kind _ := rfl
  leaf rest key value := by
    rw [h.leaf key value raw other]
    exact .refl _

/-! ### Locations of fields -/

/-- A location of a raw document is that of a field: a member of one of its field records. -/
def Registry.FieldSlot (registry : Registry) (raw : Json) (location : Location) : Prop :=
  ∃ outer below members name, registry.FieldRecord raw outer below members ∧
    name ∈ Keyed.keys members ∧ location = outer ++ [Step.field name]

/-- The walk comes to every field. -/
theorem Registry.FieldSlot.exists_walked {location : Location}
    (slot : registry.FieldSlot raw location) :
    ∃ path key value, registry.Walked raw location path key value := by
  obtain ⟨_, below, members, name, ⟨outer, inner, path, key, value, walked, record, rfl⟩, hname,
      rfl⟩ := slot
  cases hget : Keyed.get? name members with
  | none => exact absurd hname (Keyed.get?_eq_none_iff.mp hget)
  | some field => exact ⟨_, _, _, walked.field record hget⟩

/-- A walk starts at a member of the document. -/
theorem Registry.Walked.exists_member {location : Location} {path : Path} {key : String}
    {value : Json} (walked : registry.Walked raw location path key value) :
    (∃ type, raw.getString? "type" = some type) ∧ ∃ name rest, location = .member name :: rest := by
  induction walked with
  | root type_eq member => exact ⟨⟨_, type_eq⟩, _, _, rfl⟩
  | field outer record member ih =>
    obtain ⟨htype, name, rest, rfl⟩ := ih
    exact ⟨htype, name, _, rfl⟩

/-- A field lies inside of a member of the document. -/
theorem Registry.FieldSlot.exists_member {location : Location}
    (slot : registry.FieldSlot raw location) :
    (∃ type, raw.getString? "type" = some type) ∧
      ∃ name step rest, location = .member name :: step :: rest := by
  obtain ⟨_, below, members, name, ⟨outer, inner, path, key, value, walked, record, rfl⟩, hname,
      rfl⟩ := slot
  obtain ⟨htype, first, rest, rfl⟩ := walked.exists_member
  refine ⟨htype, first, ?_⟩
  cases hrest : rest ++ inner ++ [Step.field name] with
  | nil => simp at hrest
  | cons step more => exact ⟨step, more, by rw [← hrest]; simp⟩

/-- Documents that differ inside of a member have the same texts. -/
theorem getString?_of_differ {key : String} {u v : Json}
    (h : (Step.member key).Differ raw other u v) (first : u.asString? = none)
    (second : v.asString? = none) (name : String) :
    raw.getString? name = other.getString? name := by
  obtain ⟨before, after, habsent, rfl, rfl⟩ := h
  rw [Json.getString?, Json.getString?, Json.get?, Json.get?]
  by_cases hname : name = key
  · subst hname
    rw [Keyed.get?_eq_some_iff.mpr ⟨before, after, habsent, rfl⟩,
      Keyed.get?_eq_some_iff.mpr ⟨before, after, habsent, rfl⟩]
    exact first.trans second.symm
  · rw [Keyed.get?_middle_of_ne hname before after u v]

/-- A change in the place of a field changes no text of the document itself. -/
theorem Registry.FieldSlot.getString?_eq {location : Location}
    (slot : registry.FieldSlot raw location) (same : location.SameBut raw other) (name : String) :
    raw.getString? name = other.getString? name := by
  obtain ⟨-, first, step, rest, rfl⟩ := slot.exists_member
  obtain ⟨x, y, u, v, hfirst, s, t, hstep, -⟩ := same
  obtain ⟨hu, hv⟩ := Step.asString?_of_differ hstep
  exact getString?_of_differ hfirst hu hv name

/-! ### Documents -/

/-- **Fields are isolated.**  Where no collaborator reads the whole document and no names of a field
record are merged, two documents that are the same but for the value of one field are both
materialized, to the same node id and to documents that are the same but for the place of that
field. -/
theorem materialize_isolates_field {location : Location} (blind : env.IgnoresDocument)
    (apart : registry.KeepsApart env.renameField raw) (slot : registry.FieldSlot raw location)
    (same : location.SameBut raw other) :
    ∃ result result', materialize env registry raw = .ok result ∧
      materialize env registry other = .ok result' ∧ result.nodeId = result'.nodeId ∧
      (location.exposed env.renameField).SameBut result.document result'.document := by
  obtain ⟨⟨type, type_eq⟩, -⟩ := slot.exists_member
  obtain ⟨path, key, value, walked⟩ := slot.exists_walked
  have htexts := slot.getString?_eq same
  obtain ⟨x, y, hdiffer⟩ := same
  cases walked.at?_eq.symm.trans (Location.at?_of_differ hdiffer)
  have hid : env.nodeId type (other.getText "id") = env.nodeId type (raw.getText "id") := by
    rw [Json.getText, Json.getText, htexts "id"]
  obtain ⟨result, hresult, hnode, hdocument⟩ := materialize_eq env registry type_eq
  obtain ⟨result', hresult', hnode', hdocument'⟩ :=
    materialize_eq env registry ((htexts "type").symm.trans type_eq)
  refine ⟨result, result', hresult, hresult', by rw [hnode, hnode', hid], ?_⟩
  let w : Walk := ⟨env, registry, raw, env.nodeId type (raw.getText "id")⟩
  -- the walk of the second document does what the walk of the first one would do to it
  have hsecond : result'.document = w.root type other := by
    rw [hdocument', hid]
    exact (Walk.alike_of_ignoresDocument blind type).root other
  rw [hdocument, hsecond]
  exact ⟨_, _, Walk.differ_of_walked (w := w) walked type_eq (apart.to location) hdiffer⟩

/-- Pages with different authors are the same but for the author. -/
theorem sameBut_pageWithAuthor (author other : Json) :
    Location.SameBut
      [.member "data", .field "body", .element 0, .member "items", .element 0, .field "author"]
      (pageWithAuthor author) (pageWithAuthor other) := by
  refine ⟨author, other, _, _, ⟨[("id", .string "x1"), ("type", .string "page")], [], ?_, rfl, rfl⟩,
    ?_⟩
  · simp
  refine ⟨_, _, ⟨[("hero", _)], [], ?_, rfl, rfl⟩, _, _, ⟨[], [], rfl, rfl, rfl⟩, ?_⟩
  · simp
  refine ⟨_, _, ⟨[("slice_type", .string "quote")], [], ?_, rfl, rfl⟩, _, _,
    ⟨[], [], rfl, rfl, rfl⟩, ?_⟩
  · simp
  exact ⟨_, _, ⟨[], [], List.not_mem_nil, rfl, rfl⟩, rfl, rfl⟩

/-- A link that cannot be resolved, in place of a text that is no link: neither shows anywhere
else. -/
theorem materialize_isolates_author :
    let env : Environment :=
      { nodeId := fun type id => type ++ id, resolveLink := fun _ _ => .error "no route",
        reports := true }
    let raw := pageWithAuthor (.string "nobody")
    let other := pageWithAuthor (.object [("link_type", .string "Document")])
    let location : Location :=
      [.member "data", .field "body", .element 0, .member "items", .element 0, .field "author"]
    env.IgnoresDocument ∧ pageRegistry.KeepsApart env.renameField raw ∧
      pageRegistry.FieldSlot raw location ∧ location.SameBut raw other ∧
      ∃ result result', materialize env pageRegistry raw = .ok result ∧
        materialize env pageRegistry other = .ok result' ∧ result.nodeId = result'.nodeId ∧
        (location.exposed env.renameField).SameBut result.document result'.document := by
  intro env raw other location
  have blind : env.IgnoresDocument :=
    ⟨fun _ _ _ _ _ => rfl, fun _ _ _ _ _ _ => rfl, fun _ _ _ _ => rfl⟩
  have wf : raw.WellFormed := wellFormed_pageWithAuthor (by simp [Json.WellFormed])
  have apart : pageRegistry.KeepsApart env.renameField raw :=
    pageRegistry.keepsApart_of_injective wf fun a b h => h
  have slot : pageRegistry.FieldSlot raw location :=
    ⟨_, _, _, "author", fieldRecord_item (.string "nobody"), by simp, rfl⟩
  have same : location.SameBut raw other := sameBut_pageWithAuthor _ _
  exact ⟨blind, apart, slot, same, materialize_isolates_field blind apart slot same⟩

end ContentGraph
