import ContentGraph.Proofs.Materialization.Events
import ContentGraph.Proofs.Text.Percent
import Mathlib.Data.Finset.Defs
import Mathlib.Data.Multiset.Filter

/-!
# Which files are asked for, and where they show

A file store is asked once for each image and each registered thumbnail that has an address and is
accepted by the policy.  What it answers shows in the places of stored files and nowhere else in the
document.

* `Environment.request?_eq_some_iff` — which file is asked for, and by whom;
* `Registry.FilePlace` — the places of stored files in a materialized document;
* `Walk.get?_image`, `Walk.at?_of_filePlace` — what stands there;
* `Walk.equalBut_image`, `Walk.sameBut_withoutStore` — the document is the same elsewhere without a
  store;
* `materialize_stores_files` — the requests, and the documents with and without a store.
-/

namespace ContentGraph

variable {env : Environment} {registry : Registry} {raw : Json} {location : Location} {path : Path}
  {key : String}
  {members : List (String × Json)} {field : FieldContext} {type : String}

/-- **The request for the file of a field** names the text that its address stands for and the node
that asks. -/
theorem Environment.request?_eq_some_iff {nodeId : String} {request : FetchRequest} :
    env.request? nodeId field = some request ↔
      ∃ url, field.value.getString? "url" = some url ∧ env.normalizesImage field = true ∧
        Text.IsPercentDecoding url request.url ∧ request.parentNodeId = nodeId := by
  obtain ⟨address, parent⟩ := request
  simp only [request?, Text.isPercentDecoding_iff]
  cases field.value.getString? "url" with
  | none => simp
  | some url =>
    by_cases haccepted : env.normalizesImage field = true
    · simp [haccepted, eq_comm]
    · simp [haccepted]

/-- The places of stored files in a materialized document, each with the field whose file it is:
those of shown images and of their thumbnails.  The place of an image's own file is taken by a
thumbnail of its name. -/
inductive Registry.FilePlace (registry : Registry) (rename : String → String) (raw : Json) :
    Location → FieldContext → Prop
  | image {location : Location} {path : Path} {key : String} {members : List (String × Json)}
      (shown : registry.Shown rename raw location path key (.object members))
      (kind : registry.kindAt? path = some .image)
      (free : registry.thumbnail? path members "localFile" = none) :
      FilePlace registry rename raw (location.exposed rename ++ [Step.member "localFile"])
        ⟨key, .object members, raw⟩
  | thumbnail {location : Location} {path : Path} {key name : String}
      {members inner : List (String × Json)}
      (shown : registry.Shown rename raw location path key (.object members))
      (kind : registry.kindAt? path = some .image)
      (thumbnail : registry.thumbnail? path members name = some inner) :
      FilePlace registry rename raw
        (location.exposed rename ++ [Step.member name, .member "localFile"])
        ⟨key, .object inner, raw⟩

namespace Walk

variable {w : Walk}

/-! ### Images name by name -/

/-- The members of an image, name by name: thumbnails with their files, then its own file, then what
it had. -/
theorem get?_image (w : Walk) (path : Path) (key : String) (members : List (String × Json))
    (name : String) :
    (w.image path key members).value.get? name =
      ((w.paths.thumbnail? path members name).map fun inner => Json.object
        (Keyed.set "localFile" (w.env.storedFile w.nodeId
          ⟨key, .object inner, w.document⟩) inner)).or
      (Keyed.get? name (Keyed.set "localFile"
        (w.env.storedFile w.nodeId ⟨key, .object members, w.document⟩) members)) := by
  rw [image_value, Json.get?, Keyed.get?_setAll (distinct_storedThumbnails w path key members),
    get?_storedThumbnails]
  simp only [thumbnailFile, localFile_value]

theorem value_of_image (kind : w.paths.kindAt? path = some .image) :
    (w.value path key (.object members)).value = (w.image path key members).value := by
  simp only [Walk.value, leaf, kind]

/-- **What stands in the place of a stored file**: its id, or `null`. -/
theorem at?_of_filePlace (document : w.document = raw) (type_eq : raw.getString? "type" = some type)
    (place : w.paths.FilePlace w.env.renameField raw location field) :
    (w.root type raw).at? location = some (w.env.storedFile w.nodeId field) := by
  subst document
  cases place with
  | image shown kind free =>
    rw [Location.at?_append, at?_of_shown shown type_eq, value_of_image kind, Option.bind_some,
      Json.at?, Step.part?, get?_image, free]
    simp [Json.at?]
  | thumbnail shown kind thumbnail =>
    rw [Location.at?_append, at?_of_shown shown type_eq, value_of_image kind, Option.bind_some,
      Json.at?, Step.part?, get?_image, thumbnail]
    simp [Json.at?, Step.part?, Json.get?]

/-! ### The document without a store -/

/-- Thumbnails of a well-formed image are well-formed. -/
theorem distinct_thumbnail {name : String} {inner : List (String × Json)}
    (wf : (Json.object members).WellFormed)
    (h : w.paths.thumbnail? path members name = some inner) : Keyed.Distinct inner := by
  rw [Registry.thumbnail?] at h
  split at h
  · obtain ⟨value, hvalue, hinner⟩ := Option.bind_eq_some_iff.mp h
    have hobject : (Json.object members).get? name = some (.object inner) := by
      rw [← Json.members?_eq_some_iff.mp hinner]
      exact hvalue
    exact (wf.get? hobject).distinct
  · cases h

/-- The parts in which documents with and without a store differ: in the place of a stored file the
one has its id or `null`, the other has `null`. -/
def StoredOrAbsent (w : Walk) (raw : Json) (location : Location) (stored absent : Json) : Prop :=
  ∃ field, w.paths.FilePlace w.env.renameField raw location field ∧
    stored = w.env.storedFile w.nodeId field ∧ absent = .null

/-- **An image** with and without a store is the same but for the files in it. -/
theorem equalBut_image (document : w.document = raw) (wf : (Json.object members).WellFormed)
    (shown : w.paths.Shown w.env.renameField raw location path key (.object members))
    (kind : w.paths.kindAt? path = some .image) :
    Json.EqualBut (w.StoredOrAbsent raw) (location.exposed w.env.renameField)
      (w.image path key members).value
      (Walk.image { w with env := { w.env with fetchFile := none } } path key members).value := by
  subst document
  let v : Walk := { w with env := { w.env with fetchFile := none } }
  have hget := w.get?_image path key members
  have hgetAbsent := v.get?_image path key members
  rw [image_value] at hget ⊢
  rw [image_value] at hgetAbsent ⊢
  refine .of_get? .member (.inl rfl) ?_ (Keyed.nodup_keys_setAll
    (Keyed.distinct_set _ _ wf.distinct)) ?_
  · have hkeys := keys_storedThumbnails w path key (w.thumbnails path members)
    refine Keyed.keys_setAll_congr (hkeys.trans (keys_storedThumbnails v path key _).symm) ?_
    rw [Keyed.keys_set, Keyed.keys_set]
  · intro name x y hx hy
    have hx := (hget name).symm.trans hx
    have hy := (hgetAbsent name).symm.trans hy
    cases hthumbnail : w.paths.thumbnail? path members name with
    | some inner =>
      have hthumbnailAbsent : v.paths.thumbnail? path members name = some inner := hthumbnail
      rw [hthumbnail] at hx
      rw [hthumbnailAbsent] at hy
      cases hx
      cases hy
      refine .set (distinct_thumbnail wf hthumbnail) (.differ ⟨_, ?_, rfl, rfl⟩)
      rw [List.append_assoc]
      exact .thumbnail shown kind hthumbnail
    | none =>
      have hthumbnailAbsent : v.paths.thumbnail? path members name = none := hthumbnail
      rw [hthumbnail, Option.map_none, Option.none_or, Keyed.get?_set] at hx
      rw [hthumbnailAbsent, Option.map_none, Option.none_or, Keyed.get?_set] at hy
      by_cases hname : name = "localFile"
      · subst hname
        cases hx
        cases hy
        exact .differ ⟨_, .image shown kind hthumbnail, rfl, rfl⟩
      · rw [if_neg hname] at hx hy
        cases hx.symm.trans hy
        exact .same _ _

/-- Walks with and without a store make the same of single fields, but for stored files. -/
theorem sameBut_withoutStore (document : w.document = raw) (wf : raw.WellFormed) :
    SameBut (w.StoredOrAbsent raw) raw w { w with env := { w.env with fetchFile := none } } := by
  refine sameBut_of_images w _ rfl (fun _ => rfl) (fun _ => rfl) ?_
  intro location path key members shown kind
  exact equalBut_image document (wf.at? (shown.walked wf).at?_eq) shown kind

end Walk

/-- A store that always fails stores nothing. -/
theorem Environment.storedFile_of_failing {fetch : FetchRequest → Except String FileNode}
    (store : env.fetchFile = some fetch)
    (failing : ∀ request, ∃ cause, fetch request = .error cause) (nodeId : String)
    (field : FieldContext) : env.storedFile nodeId field = .null := by
  rw [storedFile, answer?, store]
  cases env.request? nodeId field with
  | none => rfl
  | some request =>
    obtain ⟨cause, hcause⟩ := failing request
    simp [hcause]

/-! ### Documents -/

/-- **Files are asked for exactly, and show in their places only.**  Along any registry a
well-formed document with a type is materialized, with a file store and without.  A store is asked
once for each image and each registered thumbnail that has an address and is accepted, and for
nothing else.  Each request names the node of the document and the text that the percent-encoded
address stands for, the address itself when its bytes are those of no text.  The two documents are
the same but for the places of stored files, where the one has the id of the file that was stored,
or `null`, and the other has `null`; with a store that always fails they are the same. -/
theorem materialize_stores_files (env : Environment) (registry : Registry) (wf : raw.WellFormed)
    (type_eq : raw.getString? "type" = some type) :
    ∃ (result plain : Materialized) (renditions : Finset Rendition),
      materialize env registry raw = .ok result ∧
      materialize { env with fetchFile := none } registry raw = .ok plain ∧
      plain.nodeId = result.nodeId ∧
      (∀ rendition, rendition ∈ renditions ↔ registry.Renders raw rendition) ∧
      (result.requests : Multiset FetchRequest) =
        (if env.fetchFile.isSome then
          renditions.val.filterMap fun rendition => env.request? result.nodeId (rendition.field raw)
        else 0) ∧
      (∀ field request, env.request? result.nodeId field = some request ↔
        ∃ url, field.value.getString? "url" = some url ∧ env.normalizesImage field = true ∧
          Text.IsPercentDecoding url request.url ∧ request.parentNodeId = result.nodeId) ∧
      plain.requests = [] ∧
      (∀ location field, registry.FilePlace env.renameField raw location field →
        result.document.at? location = some (env.storedFile result.nodeId field) ∧
          plain.document.at? location = some .null) ∧
      Json.EqualBut
        (fun location stored absent => ∃ field,
          registry.FilePlace env.renameField raw location field ∧
          stored = env.storedFile result.nodeId field ∧ absent = .null)
        [] result.document plain.document ∧
      ∀ fetch, env.fetchFile = some fetch → (∀ request, ∃ cause, fetch request = .error cause) →
        result.document = plain.document := by
  cases raw with
  | object members =>
    obtain ⟨result, hresult, hnode, hdocument, -, hrequests⟩ :=
      materialize_object env registry type_eq
    obtain ⟨plain, hplain, hplainNode, hplainDocument, -, hplainRequests⟩ :=
      materialize_object { env with fetchFile := none } registry type_eq
    have hsameNode : plain.nodeId = result.nodeId := hplainNode.trans hnode.symm
    let w : Walk := ⟨env, registry, .object members, result.nodeId⟩
    let v : Walk := { w with env := { env with fetchFile := none } }
    have hplainRoot : plain.document = v.root type (.object members) := by
      rw [hplainDocument, hsameNode]
    let renditions : Finset Rendition :=
      ⟨(w.documentRenditions type members : Multiset Rendition), w.nodup_documentRenditions type wf⟩
    refine ⟨result, plain, renditions, hresult, hplain, hsameNode, ?_, ?_, ?_, ?_, ?_, ?_, ?_⟩
    · exact fun rendition => Walk.mem_documentRenditions wf type_eq
    · rw [hrequests, Walk.requests_document]
      split
      · rfl
      · rfl
    · exact fun field request => Environment.request?_eq_some_iff
    · rw [hplainRequests, Walk.requests_document]
      rfl
    · intro location field place
      rw [hdocument, hplainRoot]
      exact ⟨Walk.at?_of_filePlace (w := w) rfl type_eq place,
        Walk.at?_of_filePlace (w := v) rfl type_eq place⟩
    · rw [hdocument, hplainRoot]
      exact Walk.equalBut_root (Walk.sameBut_withoutStore (w := w) rfl wf) wf type_eq
    · intro fetch store failing
      rw [hdocument, hplainRoot]
      refine w.root_congr { env with fetchFile := none } wf type_eq rfl (fun _ => rfl)
        (fun _ => rfl) ?_
      intro field
      rw [Environment.storedFile_of_failing store failing]
      rfl
  | _ => cases type_eq

/-- A thumbnail whose address stands for bytes of no text. -/
def thumbnailWithEscape : List (String × Json) := [("url", .string "https://x/%FF.png")]

/-- An image whose address has a blank, with such a thumbnail. -/
def imageWithEscapes : List (String × Json) :=
  [("url", .string "https://x/hero%20one.png"), ("small", .object thumbnailWithEscape)]

/-- A page with such an image. -/
def pageWithEscapes : Json :=
  .object
    [("id", .string "x1"), ("type", .string "page"),
      ("data", .object [("hero", .object imageWithEscapes)])]

/-- The files of the page are asked for under the texts that their addresses stand for, the one
without such a text under its address, and show in their places, where there is `null` without a
store. -/
theorem materialize_stores_files_page :
    let env : Environment :=
      { nodeId := fun type id => type ++ id, normalizesImage := fun _ => true
        fetchFile := some fun request => .ok ⟨request.url, request.parentNodeId, request.url,
          request.url, 1⟩ }
    let hero : Location := [.member "data", .field "hero"]
    pageWithEscapes.WellFormed ∧ pageWithEscapes.getString? "type" = some "page" ∧
      ∃ result plain, materialize env pageRegistry pageWithEscapes = .ok result ∧
        materialize { env with fetchFile := none } pageRegistry pageWithEscapes = .ok plain ∧
        ⟨"https://x/hero one.png", "pagex1"⟩ ∈ result.requests ∧
        ⟨"https://x/%FF.png", "pagex1"⟩ ∈ result.requests ∧
        result.document.at? (hero ++ [Step.member "localFile"]) =
          some (.string "https://x/hero one.png") ∧
        plain.document.at? (hero ++ [Step.member "localFile"]) = some .null ∧
        result.document.at? (hero ++ [Step.member "small", .member "localFile"]) =
          some (.string "https://x/%FF.png") ∧
        plain.document.at? (hero ++ [Step.member "small", .member "localFile"]) = some .null := by
  intro env hero
  have wf : pageWithEscapes.WellFormed := by
    simp [pageWithEscapes, imageWithEscapes, thumbnailWithEscape, Json.WellFormed,
      Json.WellFormedMembers, Keyed.Distinct, Keyed.keys]
  obtain ⟨result, plain, renditions, hresult, hplain, -, hrenditions, hrequests, -, -, hfiles, -⟩ :=
    materialize_stores_files env pageRegistry wf rfl
  have hnode : result.nodeId = "pagex1" := by
    cases hresult
    rfl
  have hhero : pageRegistry.Walked pageWithEscapes hero ["page", "data", "hero"] "hero"
      (.object imageWithEscapes) :=
    .field (.root rfl rfl) (.data (by decide)) rfl
  have himage : pageRegistry.kindAt? ["page", "data", "hero"] = some .image := by decide
  have hthumbnail : pageRegistry.thumbnail? ["page", "data", "hero"] imageWithEscapes "small" =
      some thumbnailWithEscape := by decide
  -- what is asked for: the address of the image can be decoded, that of its thumbnail cannot
  have hlarge : env.request? result.nodeId ⟨"hero", .object imageWithEscapes, pageWithEscapes⟩ =
      some ⟨"https://x/hero one.png", "pagex1"⟩ := by
    rw [hnode]
    decide +kernel
  have hsmall : env.request? result.nodeId ⟨"hero", .object thumbnailWithEscape, pageWithEscapes⟩ =
      some ⟨"https://x/%FF.png", "pagex1"⟩ := by
    rw [hnode]
    decide +kernel
  have hasked : ∀ {rendition : Rendition} {request : FetchRequest},
      pageRegistry.Renders pageWithEscapes rendition →
      env.request? result.nodeId (rendition.field pageWithEscapes) = some request →
      request ∈ result.requests := by
    intro rendition request hrenders hrequest
    rw [← Multiset.mem_coe, hrequests]
    exact (Multiset.mem_filterMap _ _).mpr ⟨rendition, (hrenditions _).mpr hrenders, hrequest⟩
  have hshown := hhero.shown ((pageRegistry.keepsApart_of_injective wf fun a b h => h).to _)
  obtain ⟨hlargeFile, hlargeAbsent⟩ := hfiles _ _ (.image hshown himage (by decide))
  obtain ⟨hsmallFile, hsmallAbsent⟩ := hfiles _ _ (.thumbnail hshown himage hthumbnail)
  rw [Environment.storedFile, Environment.answer?, hlarge] at hlargeFile
  rw [Environment.storedFile, Environment.answer?, hsmall] at hsmallFile
  exact ⟨wf, rfl, result, plain, hresult, hplain, hasked (.image hhero himage) hlarge,
    hasked (.thumbnail hhero himage hthumbnail) hsmall, hlargeFile, hlargeAbsent, hsmallFile,
    hsmallAbsent⟩

end ContentGraph
