import ContentGraph.Proofs.Materialization.Walked
import ContentGraph.Settings

/-!
# Fields under their exposed names

A field record is a map, so two fields that are exposed under one name leave one member.  Fields
that keep their names never meet; names in words joined by capitals may, and then a field is lost.

* `Registry.KeepsEveryField` — every field record of a document is there with as many members as it
  had;
* `Walk.length_renamed` — a record has as many members as it has different exposed names;
* `Walk.keepsEveryField_iff` — no field is lost exactly when no two fields of a record are exposed
  alike;
* `camel_merges_fields` — two fields that are.
-/

namespace ContentGraph

/-- Every field record of a raw document stands in the materialized one, with as many members. -/
def Registry.KeepsEveryField (registry : Registry) (rename : String → String)
    (raw document : Json) :
    Prop :=
  ∀ location below members, registry.FieldRecord raw location below members →
    ∃ outs, document.at? (location.exposed rename) = some (.object outs) ∧
    outs.length = members.length

/-- There are as many different exposed names as there are fields exactly when no two fields are
exposed alike. -/
theorem length_dedup_exposedNames_iff {rename : String → String} {members : List (String × Json)} :
    (exposedNames rename members).dedup.length = members.length ↔
      (exposedNames rename members).Nodup := by
  have hlength : (exposedNames rename members).length = members.length := List.length_map _
  rw [← hlength]
  constructor
  · intro h
    rw [← List.dedup_eq_self]
    exact (List.dedup_sublist _).eq_of_length h
  · intro h
    rw [List.dedup_eq_self.mpr h]

/-- A record has as many members as it has different exposed names. -/
theorem Walk.length_renamed (w : Walk) (below : Path) (members : List (String × Json)) :
    (w.renamed (w.record below members).value).length =
      (exposedNames w.env.renameField members).dedup.length := by
  rw [renamed_record_eq, Keyed.length_merge,
    keys_exposed w.env.renameField fun name field => (w.value (below ++ [name]) name field).value]

variable {w : Walk} {raw : Json} {type : String}

/-- A field record that is reached without merging stands in its place, with one member for each
exposed name. -/
theorem Walk.exists_at?_of_fieldRecord {location : Location} {below : Path}
    {members : List (String × Json)} (type_eq : raw.getString? "type" = some type)
    (record : w.paths.FieldRecord raw location below members)
    (apart : w.paths.KeepsApartTo w.env.renameField raw location) :
    ∃ outs, (w.root type raw).at? (location.exposed w.env.renameField) = some (.object outs) ∧
      outs.length = (exposedNames w.env.renameField members).dedup.length :=
  ⟨_, at?_of_fieldRecord record type_eq apart, w.length_renamed below members⟩

/-- **Exactly the records whose names are apart keep their fields.** -/
theorem Walk.keepsEveryField_iff (w : Walk) (type_eq : raw.getString? "type" = some type) :
    w.paths.KeepsEveryField w.env.renameField raw (w.root type raw) ↔
      w.paths.KeepsApart w.env.renameField raw := by
  constructor
  · -- by induction on the length of locations: the records around one are apart already
    intro keeps
    have hlength : ∀ n location below members, location.length = n →
        w.paths.FieldRecord raw location below members →
          (exposedNames w.env.renameField members).Nodup := by
      intro n
      induction n using Nat.strongRecOn with
      | ind n ih =>
        intro location below members hn record
        have apart : w.paths.KeepsApartTo w.env.renameField raw location := by
          intro outer around others name houter hle
          have hshorter := hle.length_le
          rw [List.length_append, List.length_singleton] at hshorter
          exact ih outer.length (by omega) outer around others rfl houter
        obtain ⟨outs, hplace, hcount⟩ := exists_at?_of_fieldRecord type_eq record apart
        obtain ⟨found, hfound, hsize⟩ := keeps location below members record
        cases hplace.symm.trans hfound
        exact length_dedup_exposedNames_iff.mp (hcount.symm.trans hsize)
    exact fun location below members record => hlength _ location below members rfl record
  · intro apart location below members record
    obtain ⟨outs, hplace, hcount⟩ := exists_at?_of_fieldRecord type_eq record (apart.to location)
    exact ⟨outs, hplace, hcount.trans (length_dedup_exposedNames_iff.mpr
      (apart location below members record))⟩

/-! ### The styles of field names -/

/-- **Which fields are kept.**  Along any registry and with either style of field names, a field
record that is reached without merging has one member for each exposed name.  So no field of a
document is lost exactly when no two fields of a record are exposed alike, and none is lost where
names are preserved. -/
theorem materialize_keeps_fields_iff {env : Environment} {registry : Registry} {raw : Json}
    {type : String} {style : FieldNameStyle} (renames : env.renameField = style.apply)
    (wf : raw.WellFormed) (type_eq : raw.getString? "type" = some type) :
    ∃ result, materialize env registry raw = .ok result ∧
      (∀ location below members, registry.FieldRecord raw location below members →
        registry.KeepsApartTo style.apply raw location →
          ∃ outs, result.document.at? (location.exposed style.apply) = some (.object outs) ∧
            outs.length = (exposedNames style.apply members).dedup.length) ∧
      (registry.KeepsEveryField style.apply raw result.document ↔
        registry.KeepsApart style.apply raw) ∧
      (style = .preserve → registry.KeepsEveryField style.apply raw result.document) := by
  obtain ⟨result, hresult, -, hdocument⟩ := materialize_eq env registry type_eq
  let w : Walk := ⟨env, registry, raw, env.nodeId type (raw.getText "id")⟩
  have hiff : registry.KeepsEveryField style.apply raw result.document ↔
      registry.KeepsApart style.apply raw := by
    rw [hdocument, ← renames]
    exact w.keepsEveryField_iff type_eq
  refine ⟨result, hresult, ?_, hiff, ?_⟩
  · intro location below members record apart
    rw [hdocument, ← renames]
    exact Walk.exists_at?_of_fieldRecord (w := w) type_eq record (renames ▸ apart)
  · rintro rfl
    exact hiff.mpr (registry.keepsApart_of_injective wf fun a b h => h)

/-- A page with two fields whose names have the same words, joined in two ways. -/
def pageWithJoinedNames : Json :=
  .object
    [("id", .string "1"), ("type", .string "page"),
      ("data", .object [("foo_bar", .string "first"), ("fooBar", .string "second")])]

/-- Fields are exposed in a style, and nothing else is asked for. -/
def FieldNameStyle.environment (style : FieldNameStyle) : Environment where
  nodeId type id := type ++ "-" ++ id
  renameField := style.apply

/-- With names preserved such a page keeps both fields. -/
theorem materialize_keeps_fields_preserve :
    let env := FieldNameStyle.preserve.environment
    pageWithJoinedNames.WellFormed ∧ pageWithJoinedNames.getString? "type" = some "page" ∧
      ∃ result, materialize env pageRegistry pageWithJoinedNames = .ok result ∧
        pageRegistry.KeepsEveryField FieldNameStyle.preserve.apply pageWithJoinedNames
          result.document := by
  intro env
  have wf : pageWithJoinedNames.WellFormed := by
    simp [pageWithJoinedNames, Json.WellFormed, Json.WellFormedMembers, Keyed.Distinct]
  have renames : env.renameField = FieldNameStyle.preserve.apply := rfl
  obtain ⟨result, hresult, -, -, hkeeps⟩ :=
    @materialize_keeps_fields_iff _ pageRegistry _ _ _ renames wf rfl
  exact ⟨wf, rfl, result, hresult, hkeeps rfl⟩

/-- With camel case both fields of the page are exposed as `fooBar`, and the first is lost. -/
theorem camel_merges_fields :
    let env := FieldNameStyle.camel.environment
    ∃ result, materialize env pageRegistry pageWithJoinedNames = .ok result ∧
      result.document = .object
        [("id", .string "1"), ("type", .string "page"),
          ("data", .object [("fooBar", .string "second")])] ∧
      ¬ pageRegistry.KeepsEveryField FieldNameStyle.camel.apply pageWithJoinedNames
        result.document := by
  intro env
  obtain ⟨result, hresult, -, hdocument⟩ :=
    materialize_eq env pageRegistry (show pageWithJoinedNames.getString? "type" =
      some "page" from rfl)
  have hmerged : result.document = .object
      [("id", .string "1"), ("type", .string "page"),
        ("data", .object [("fooBar", .string "second")])] := by
    rw [hdocument]
    decide
  refine ⟨result, hresult, hmerged, fun keeps => ?_⟩
  have hdata : pageRegistry.kindAt? ["page", "data"] = some .data := by decide
  have record : pageRegistry.FieldRecord pageWithJoinedNames [.member "data"] ["page", "data"]
      [("foo_bar", .string "first"), ("fooBar", .string "second")] :=
    ⟨[.member "data"], [], _, _, _, .root rfl rfl, .data hdata, rfl⟩
  obtain ⟨outs, hplace, hlength⟩ := keeps _ _ _ record
  rw [hmerged] at hplace
  cases hplace
  cases hlength

end ContentGraph
