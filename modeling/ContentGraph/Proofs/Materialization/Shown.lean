import ContentGraph.Proofs.Json.EqualBut
import ContentGraph.Proofs.Materialization.Records

/-!
# What a materialized document shows

Of fields that are exposed under one name a record shows the last.  A walked value is shown when
every field on the way to it is; then what it becomes stands in its place.  Two walks that see the
same kinds make documents which differ at most where single fields do.

* `Registry.Shown` — the walked values that are shown;
* `Walk.at?_of_shown` — what a shown value becomes stands in its place;
* `Walk.SameBut`, `Walk.equalBut_of_shown`, `Walk.equalBut_root` — two walks of one document;
* `Walk.sameBut_of_images` — walks that render rich texts and links alike.
-/

namespace ContentGraph

variable {registry : Registry} {rename : String → String} {raw : Json} {location inner : Location}
  {path below : Path} {key : String} {value : Json} {members : List (String × Json)}

/-! ### Shown values -/

/-- The walk of a raw document comes to a value that is shown: on the way to it every field is the
last one of its record that is exposed under its name. -/
inductive Registry.Shown (registry : Registry) (rename : String → String) (raw : Json) :
    Location → Path → String → Json → Prop
  /-- The members of the document. -/
  | root {type key : String} {value : Json} (type_eq : raw.getString? "type" = some type)
      (member : raw.get? key = some value) :
      Shown registry rename raw [.member key] [type, key] key value
  /-- The last fields under their names in a record inside of a value that is shown. -/
  | field {location inner : Location} {path below : Path} {key name : String} {value field : Json}
      {members before after : List (String × Json)}
      (outer : Shown registry rename raw location path key value)
      (record : registry.RecordIn path value inner below members)
      (split : members = before ++ (name, field) :: after)
      (last : rename name ∉ exposedNames rename after) :
      Shown registry rename raw (location ++ inner ++ [Step.field name])
        (below ++ [name]) name field

namespace Registry

/-- Shown values are walked. -/
theorem Shown.walked (shown : registry.Shown rename raw location path key value)
    (wf : raw.WellFormed) :
    registry.Walked raw location path key value := by
  induction shown with
  | root type_eq member => exact .root type_eq member
  | @field location inner path below key name value field members before after outer record
    split last ih =>
    have hrecord : (Json.object members).WellFormed := (wf.at? ih.at?_eq).at? record.at?_eq
    refine ih.field record (Keyed.get?_of_mem hrecord.distinct ?_)
    simp [split]

/-- Where names are kept apart on the way, walked values are shown. -/
theorem Walked.shown (walked : registry.Walked raw location path key value)
    (apart : registry.KeepsApartTo rename raw location) :
    registry.Shown rename raw location path key value := by
  induction walked with
  | root type_eq member => exact .root type_eq member
  | @field location inner path below key name value field members outer record member ih =>
    have houter := ih (apart.of_prefix (List.prefix_append_of_prefix (List.prefix_append _ _)))
    have hnames : (exposedNames rename members).Nodup :=
      apart _ below members name ⟨location, inner, path, key, value, outer, record,
        rfl⟩ (List.prefix_refl _)
    obtain ⟨before, after, -, rfl⟩ := Keyed.get?_eq_some_iff.mp member
    refine houter.field record rfl ?_
    rw [exposedNames, List.map_append, List.map_cons, List.nodup_middle, List.nodup_cons,
      List.mem_append, not_or] at hnames
    exact hnames.1.2

end Registry

/-! ### The places of shown values -/

namespace Walk

variable {w : Walk} {type : String}

/-- What a record inside of a value becomes stands in its place. -/
theorem at?_of_recordIn (w : Walk) (key : String)
    (record : w.paths.RecordIn path value inner below members) :
    (w.value path key value).value.at? inner =
      some (.object (w.renamed (w.record below members).value)) :=
  Location.at?_of_differ (differ_of_recordIn key record (Location.differ_refl record.at?_eq))

theorem get?_root (w : Walk) (type : String) (member : raw.get? key = some value) :
    (w.root type raw).get? key = some (w.value [type, key] key value).value := by
  cases raw with
  | object members =>
    have hmember : Keyed.get? key members = some value := member
    simp only [root, record_value, Json.get?]
    rw [Keyed.get?_map (fun key value => (w.value ([type] ++ [key]) key value).value), hmember]
    rfl
  | _ => cases member

/-- **What a shown value becomes** stands in its place. -/
theorem at?_of_shown (shown : w.paths.Shown w.env.renameField raw location path key value)
    (type_eq : raw.getString? "type" = some type) :
    (w.root type raw).at? (location.exposed w.env.renameField) =
      some (w.value path key value).value := by
  induction shown with
  | root found member =>
    cases found.symm.trans type_eq
    simp [Location.exposed, Step.exposed, Json.at?, Step.part?, get?_root w type member]
  | @field location inner path below key name value field members before after outer record
    split last ih =>
    have hfield := get?_merge_exposed
      (fun name field => (w.value (below ++ [name]) name field).value) split last
    rw [← renamed_record_eq] at hfield
    rw [Location.exposed_append, Location.exposed_append, record.exposed_eq, Location.at?_append,
      Location.at?_append, ih, Option.bind_some, at?_of_recordIn w key record, Option.bind_some]
    simp [Location.exposed, Step.exposed, Json.at?, Step.part?, Json.get?, hfield]

/-! ### Two walks of one document -/

variable {v : Walk} {differ : Location → Json → Json → Prop}

/-- Two walks see the same kinds and the same names, and make the same of single fields that are
shown, but for parts that may differ. -/
structure SameBut (differ : Location → Json → Json → Prop) (raw : Json) (w v : Walk) : Prop where
  rename : v.env.renameField = w.env.renameField
  paths : v.paths = w.paths
  leaf : ∀ location path key value, w.paths.Shown w.env.renameField raw location path key value →
    Json.EqualBut differ (location.exposed w.env.renameField) (w.leaf path key value).value
      (v.leaf path key value).value

/-- Walks whose rich texts and links are the same make the same of single fields when they do of
images. -/
theorem sameBut_of_images (w : Walk) (env : Environment)
    (rename : env.renameField = w.env.renameField)
    (text : ∀ field, RichText.materialize env field = RichText.materialize w.env field)
    (link : ∀ field, Link.materialize env field = Link.materialize w.env field)
    (images : ∀ location path key members,
      w.paths.Shown w.env.renameField raw location path key (.object members) →
        w.paths.kindAt? path = some .image →
          Json.EqualBut differ (location.exposed w.env.renameField) (w.image path key members).value
            (Walk.image { w with env } path key members).value) :
    SameBut differ raw w { w with env } := by
  refine ⟨rename, rfl, ?_⟩
  intro location path key value shown
  have horDegrade : ∀ (kind : PathKind) (result : Except FieldError Json),
      (w.orDegrade path kind result).value =
        (Walk.orDegrade { w with env } path kind result).value := by
    intro kind result
    cases result <;> rfl
  cases hkind : w.paths.kindAt? path with
  | none =>
    simp only [Walk.leaf, hkind]
    exact .same _ _
  | some kind =>
    cases kind with
    | structuredText =>
      simp only [Walk.leaf, hkind, text]
      rw [horDegrade]
      exact .same _ _
    | link =>
      simp only [Walk.leaf, hkind, link]
      rw [horDegrade]
      exact .same _ _
    | image =>
      simp only [Walk.leaf, hkind]
      cases value with
      | object members => exact images location path key members shown hkind
      | _ => exact .same _ _
    | _ =>
      simp only [Walk.leaf, hkind]
      exact .same _ _

/-- Records that two walks make: the same when their shown fields are. -/
theorem equalBut_record (rename : v.env.renameField = w.env.renameField) (below : Path)
    (h : ∀ before name field after, members = before ++ (name, field) :: after →
      w.env.renameField name ∉ exposedNames w.env.renameField after →
        Json.EqualBut differ (location ++ [Step.field (w.env.renameField name)])
          (w.value (below ++ [name]) name field).value (v.value
            (below ++ [name]) name field).value) :
    Json.EqualBut differ location (.object (w.renamed (w.record below members).value))
      (.object (v.renamed (v.record below members).value)) := by
  rw [renamed_record_eq, renamed_record_eq, rename]
  exact .fields (fun name field => (w.value (below ++ [name]) name field).value)
    (fun name field => (v.value (below ++ [name]) name field).value) h

/-- Elements of a group or of a slice's items. -/
theorem equalBut_elements {elements : List Json}
    (h : ∀ (index : Nat) members, elements[index]? = some (.object members) →
      Json.EqualBut differ (location ++ [Step.element index])
      (.object (w.renamed (w.record below members).value))
        (.object (v.renamed (v.record below members).value))) :
    Json.EqualBut differ location (.array (w.fieldRecords below elements).value)
      (.array (v.fieldRecords below elements).value) := by
  rw [fieldRecords_value, fieldRecords_value]
  refine .map_elements _ _ ?_
  intro index element helement
  cases element with
  | object members => exact h index members helement
  | _ => exact .same _ _

/-- **One step**: values that two walks make are the same when single fields and the records inside
are. -/
theorem equalBut_value (paths : v.paths = w.paths) (wf : value.WellFormed)
    (leaf : Json.EqualBut differ location (w.leaf path key value).value
      (v.leaf path key value).value)
    (records : ∀ inner below members, w.paths.RecordIn path value inner below members →
      Json.EqualBut differ (location ++ inner) (.object (w.renamed (w.record below members).value))
        (.object (v.renamed (v.record below members).value))) :
    Json.EqualBut differ location (w.value path key value).value
      (v.value path key value).value := by
  cases value with
  | null => exact .same _ _
  | object members =>
    rw [Walk.value, Walk.value, paths]
    split
    · next kind =>
      have hrecord := records [] path members (.data kind)
      rw [List.append_nil] at hrecord
      exact hrecord
    · exact leaf
  | array elements =>
    rw [Walk.value, Walk.value, paths]
    split
    · next kind =>
      exact equalBut_elements fun index members element => records _ _ _ (.element kind element)
    · next kind =>
      simp only [Traced.map]
      rw [slices_value, slices_value]
      refine .map_elements _ _ ?_
      intro index element helement
      cases element with
      | object slice =>
        cases htype : (Keyed.get? "slice_type" slice).bind Json.asString? with
        | none =>
          simp only [Walk.slice, htype]
          exact .same _ _
        | some choice =>
          rw [slice_value htype, slice_value htype]
          refine .map_members (fun name half => (w.half (path ++ [choice]) name half).value)
            (fun name half => (v.half (path ++ [choice]) name half).value) ?_
          intro name half hmember
          have hhalf : Keyed.get? name slice = some half :=
            Keyed.get?_of_mem (wf.element (List.mem_of_getElem? helement)).distinct hmember
          rw [List.append_assoc]
          -- the two halves hold records, other members are copied by both walks
          cases half with
          | object members =>
            by_cases hname : name = "primary"
            · subst hname
              exact records _ _ _ (.primary kind helement htype hhalf)
            · simp only [Walk.half, if_neg hname]
              exact .same _ _
          | array items =>
            by_cases hname : name = "items"
            · subst hname
              refine equalBut_elements fun place members hitem => ?_
              rw [List.append_assoc]
              exact records _ _ _ (.item kind helement htype hhalf hitem)
            · simp only [Walk.half, if_neg hname]
              exact .same _ _
          | _ => exact .same _ _
      | _ => exact .same _ _
    · exact leaf
  | _ => exact leaf

/-- **The run**, by induction on the size of values: what two walks make of a shown value is the
same but for parts that may differ. -/
theorem equalBut_of_shown (h : SameBut differ raw w v) (wf : raw.WellFormed)
    (shown : w.paths.Shown w.env.renameField raw location path key value) :
    Json.EqualBut differ (location.exposed w.env.renameField) (w.value path key value).value
      (v.value path key value).value := by
  induction hsize : sizeOf value using Nat.strongRecOn generalizing location path key value with
  | ind size ih =>
    refine equalBut_value h.paths (wf.at? (shown.walked wf).at?_eq) (h.leaf _ _ _ _ shown) ?_
    intro inner below members record
    refine equalBut_record h.rename below fun before name field after split last => ?_
    have hfield := shown.field record split last
    have hlt : sizeOf field < size := by
      have hmem : (name, field) ∈ members := by simp [split]
      exact hsize ▸ sizeOf_lt_of_mem_recordsIn record.mem_recordsIn hmem
    have hvalue := ih (sizeOf field) hlt hfield rfl
    rw [Location.exposed_append, Location.exposed_append, record.exposed_eq] at hvalue
    exact hvalue

/-- **Documents that two walks make** are the same but for parts that may differ. -/
theorem equalBut_root (h : SameBut differ raw w v) (wf : raw.WellFormed)
    (type_eq : raw.getString? "type" = some type) :
    Json.EqualBut differ [] (w.root type raw) (v.root type raw) := by
  cases raw with
  | object members =>
    simp only [root, record_value]
    refine .map_members (fun key value => (w.value [type, key] key value).value)
      (fun key value => (v.value [type, key] key value).value) ?_
    intro key value hmember
    exact equalBut_of_shown h wf (.root type_eq (Keyed.get?_of_mem wf.distinct hmember))
  | _ => exact .same _ _

end Walk

end ContentGraph
