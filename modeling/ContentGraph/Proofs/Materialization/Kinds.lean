import ContentGraph.Proofs.Materialization.Alike
import ContentGraph.Proofs.Materialization.Images
import Mathlib.Data.Multiset.Basic

/-!
# What a document reads of a registry

A walk asks a registry for kinds, always at paths below the type of the document, and for the names
of thumbnails, which are kinds again.  The order of the entries, the recorded type names and the
entries of other types are not read: they show neither in the document nor in what is reported and
asked for.

* `Materialized.unordered` — a materialized document with its reports and requests in no order;
* `Walk.similar_image` — an image whose thumbnails are named in another order;
* `materialize_congr_kinds` — registries with the same kinds below the type of a document are alike
  for it.
-/

namespace ContentGraph

/-- The node id, the document, and the reports and requests in no order. -/
def Materialized.unordered (result : Materialized) :
    String × Json × Multiset Diagnostic × Multiset FetchRequest :=
  (result.nodeId, result.document, result.diagnostics, result.requests)

variable {env : Environment} {registry other : Registry} {raw : Json} {nodeId type : String}

/-! ### Thumbnails in another order -/

/-- Registries with the same kinds name the same thumbnails, maybe in another order. -/
theorem Registry.thumbnailNames_perm {path : Path}
    (kinds : ∀ name, registry.kindAt? (path ++ [thumbnailsSegment, name]) =
      other.kindAt? (path ++ [thumbnailsSegment, name])) :
    (registry.thumbnailNames path).Perm (other.thumbnailNames path) := by
  refine (List.perm_ext_iff_of_nodup (registry.nodup_thumbnailNames path)
    (other.nodup_thumbnailNames path)).mpr ?_
  intro name
  rw [mem_thumbnailNames, mem_thumbnailNames, kinds]

namespace Walk

variable {w v : Walk} {path : Path}

theorem thumbnails_perm
    (kinds : ∀ name, w.paths.kindAt? (path ++ [Registry.thumbnailsSegment, name]) =
      v.paths.kindAt? (path ++ [Registry.thumbnailsSegment, name]))
      (members : List (String × Json)) :
    (w.thumbnails path members).Perm (v.thumbnails path members) := by
  rw [thumbnails_eq, thumbnails_eq]
  exact (Registry.thumbnailNames_perm kinds).filterMap _

/-- **An image** is the same whatever the order of its thumbnails: each is put in a place of its
own. -/
theorem similar_image
    (kinds : ∀ name, registry.kindAt? (path ++ [Registry.thumbnailsSegment, name]) =
      other.kindAt? (path ++ [Registry.thumbnailsSegment, name])) (key : String)
    (members : List (String × Json)) :
    (Walk.image ⟨env, registry, raw, nodeId⟩ path key members).Similar
      (Walk.image ⟨env, other, raw, nodeId⟩ path key members) := by
  let w : Walk := ⟨env, registry, raw, nodeId⟩
  let v : Walk := ⟨env, other, raw, nodeId⟩
  have hperm : (w.thumbnails path members).Perm (v.thumbnails path members) :=
    thumbnails_perm kinds members
  constructor
  · rw [image_value, image_value]
    refine congrArg Json.object
      (Keyed.setAll_perm (hperm.map _) (distinct_storedThumbnails w path key members) ?_)
    exact fun name hname => mem_keys_of_storedThumbnails hname _
  · rw [image, image, Traced.both, Traced.both, thumbnailFiles_events, thumbnailFiles_events]
    exact (List.Perm.refl _).append (hperm.flatMap_right _)

/-- **A single field** is the same along registries with the same kinds. -/
theorem similar_leaf
    (kinds : ∀ rest, registry.kindAt? (type :: rest) = other.kindAt? (type :: rest))
    (rest : Path) (key : String) (value : Json) :
    (Walk.leaf ⟨env, registry, raw, nodeId⟩ (type :: rest) key value).Similar
      (Walk.leaf ⟨env, other, raw, nodeId⟩ (type :: rest) key value) := by
  unfold leaf
  simp only [kinds]
  split
  · exact .refl _
  · exact .refl _
  · split
    · next members =>
      exact similar_image (fun name => kinds (rest ++ [Registry.thumbnailsSegment, name])) key
        members
    · exact .refl _
  · exact .refl _

/-- Walks of one document along registries with the same kinds agree. -/
theorem alike_of_kinds
    (kinds : ∀ rest, registry.kindAt? (type :: rest) = other.kindAt? (type :: rest)) :
    Alike type ⟨env, registry, raw, nodeId⟩ ⟨env, other, raw, nodeId⟩ where
  rename := rfl
  kind := kinds
  leaf := similar_leaf kinds

end Walk

/-! ### Registries with the same kinds -/

/-- The kinds below a path are those of the entries below it. -/
theorem Registry.kindAt?_eq_some_iff_below (registry : Registry) (path more : Path)
    (kind : PathKind) :
    registry.kindAt? (path ++ more) = some kind ↔
      (path ++ more, kind) ∈ (registry.below path).map fun entry => (entry.path, entry.kind) := by
  rw [kindAt?, Option.map_eq_some_iff, List.mem_map]
  refine exists_congr fun entry => ?_
  rw [get?_eq_some_iff, mem_below, Prod.mk.injEq]
  constructor
  · rintro ⟨⟨hmem, hpath⟩, hkind⟩
    exact ⟨⟨hmem, hpath ▸ List.prefix_append path more⟩, hpath, hkind⟩
  · rintro ⟨⟨hmem, -⟩, hpath, hkind⟩
    exact ⟨⟨hmem, hpath⟩, hkind⟩

/-- Registries with the same entries below a path, in any order and with any recorded type names,
give the same kinds there, whatever else they hold. -/
theorem Registry.kindAt?_eq_of_perm_below {path : Path}
    (perm : ((registry.below path).map fun entry => (entry.path, entry.kind)).Perm
      ((other.below path).map fun entry => (entry.path, entry.kind))) (more : Path) :
    registry.kindAt? (path ++ more) = other.kindAt? (path ++ more) := by
  ext kind
  rw [kindAt?_eq_some_iff_below, kindAt?_eq_some_iff_below, perm.mem_iff]

/-! ### Documents -/

/-- **Only kinds are read.**  Registries that give the same kind, or none, to every path below the
type of a document make the same of it: the same node id and document or the same error, the same
reports and the same requests. -/
theorem materialize_congr_kinds
    (kinds : ∀ type rest, raw.getString? "type" = some type →
      registry.kindAt? (type :: rest) = other.kindAt? (type :: rest)) :
    (materialize env registry raw).map Materialized.unordered =
      (materialize env other raw).map Materialized.unordered := by
  cases raw with
  | object members =>
    rw [materialize, materialize]
    cases htype : (Keyed.get? "type" members).bind Json.asString? with
    | none => rfl
    | some type =>
      dsimp only
      generalize env.nodeId type (((Keyed.get? "id" members).bind Json.asString?).getD "") = nodeId
      have halike : Walk.Alike type ⟨env, registry, .object members, nodeId⟩
          ⟨env, other, .object members, nodeId⟩ :=
            Walk.alike_of_kinds fun rest => kinds type rest htype
      have hrecord := Walk.similar_record halike [] members
      have hdiagnostics := Multiset.coe_eq_coe.mpr hrecord.diagnostics
      have hrequests := Multiset.coe_eq_coe.mpr hrecord.requests
      simp only [Except.map, Materialized.unordered, hrecord.value, hdiagnostics, hrequests]
  | _ => rfl

/-- The page with its entries in another order, under other type names, and with posts beside it. -/
def pageAndPostRegistry : Registry where
  entries :=
    [⟨["page", "data"], "SiteTypePageDataType", .data⟩,
      ⟨["post", "data", "title"], "String", .string⟩,
      ⟨["page", "data", "hero", "thumbnails", "wide"], "Thumbnail", .imageThumbnail⟩,
      ⟨["page", "data", "hero", "thumbnails", "small"], "Thumbnail", .imageThumbnail⟩,
      ⟨["page", "data", "hero"], "Image", .image⟩,
      ⟨["page", "data", "body"], "[SiteTypePageBodySlicesType]", .slices⟩,
      ⟨["page", "data", "body", "quote", "items", "author"], "Link", .link⟩,
      ⟨["post", "data"], "SiteTypePostDataType", .data⟩]
  distinct := by decide

/-- A page whose images cannot be stored: its thumbnails are asked for in another order. -/
theorem materialize_congr_kinds_page :
    let env : Environment :=
      { nodeId := fun type id => type ++ id, normalizesImage := fun _ => true, reports := true
        fetchFile := some fun _ => .error "no space left" }
    let raw := pageWithAuthor (.string "nobody")
    (∀ type rest, raw.getString? "type" = some type →
      pageRegistry.kindAt? (type :: rest) = pageAndPostRegistry.kindAt? (type :: rest)) ∧
    (materialize env pageRegistry raw).map Materialized.requests ≠
      (materialize env pageAndPostRegistry raw).map Materialized.requests ∧
    (materialize env pageRegistry raw).map Materialized.unordered =
      (materialize env pageAndPostRegistry raw).map Materialized.unordered := by
  intro env raw
  have kinds : ∀ type rest, raw.getString? "type" = some type →
      pageRegistry.kindAt? (type :: rest) = pageAndPostRegistry.kindAt? (type :: rest) := by
    intro type rest htype
    cases htype
    have hperm : ((pageRegistry.below ["page"]).map fun entry => (entry.path, entry.kind)).Perm
        ((pageAndPostRegistry.below ["page"]).map fun entry => (entry.path, entry.kind)) := by
          decide
    exact Registry.kindAt?_eq_of_perm_below hperm rest
  exact ⟨kinds, by decide +kernel, materialize_congr_kinds kinds⟩

end ContentGraph
