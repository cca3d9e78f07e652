import ContentGraph.Json.Writer
import ContentGraph.Proofs.Json.Records
import ContentGraph.Proofs.Schema.Distinct
import ContentGraph.Schema.Stored

/-!
# Published custom types read back

A custom type can be published in several ways: records as arrays, kinds by number, members that
nobody knows.  What is read keeps less: maps with distinct keys, extra members apart from the fixed
ones, sizes that fit.  Writing such a custom type and reading it again changes nothing.

* `Field.Published`, `CustomType.Published` — what reading leaves, at every depth;
* `published_of_ofJson?` — every custom type that is read is of this form;
* `ofJson?_toJson` — a custom type of this form is read back as it was written;
* `published_reads_back` — what is read, and written, is read as the same again.
-/

namespace ContentGraph

/-! ### The form that reading leaves -/

/-- A thumbnail whose sizes can be read. -/
def ThumbnailSpec.Fits (spec : ThumbnailSpec) : Prop :=
  (∀ size ∈ spec.width, size ≤ maxSize) ∧ ∀ size ∈ spec.height, size ≤ maxSize

/-- What a field holds beside its maps: sizes that fit, and extra members apart from the fixed
ones. -/
def Field.Configured : Field → Prop
  | .leaf _ extra => Json.IsExtra [] extra
  | .image thumbnails extra => (∀ spec ∈ thumbnails, spec.Fits) ∧ Json.IsExtra ["thumbnails"] extra
  | .group _ extra => Json.IsExtra ["fields"] extra
  | .slices choices extra =>
    (∀ choice ∈ choices, Json.IsExtra ["non-repeat", "repeat"] choice.2.extra) ∧
      Json.IsExtra ["choices"] extra

/-- The field itself, apart from the fields inside it, is of the form that reading leaves. -/
def Field.Published (field : Field) : Prop := field.KeysDistinct ∧ field.Configured

/-- A custom type of the form that reading leaves. -/
structure CustomType.Published (type : CustomType) : Prop where
  tabs : Keyed.Distinct type.tabs
  fieldMaps : ∀ tab ∈ type.tabs, Keyed.Distinct tab.2
  fields : ∀ field ∈ type.nested, field.Published

/-- A field map of the form that reading leaves, with everything inside it. -/
def PublishedMap (fields : FieldMap) : Prop :=
  Keyed.Distinct fields ∧ ∀ field ∈ nestedFields fields, field.Published

/-- A choice of the form that reading leaves, with everything inside it. -/
structure PublishedChoice (choice : Choice Field) : Prop where
  primary : PublishedMap choice.primary
  items : PublishedMap choice.items
  extra : Json.IsExtra ["non-repeat", "repeat"] choice.extra

/-! ### Members one by one -/

namespace Field

theorem mapToMembers_eq (fields : FieldMap) :
    mapToMembers fields = fields.map fun field => (field.1, field.2.toJson) := by
  induction fields with
  | nil => rw [mapToMembers, List.map_nil]
  | cons field rest ih => rw [mapToMembers, ih, List.map_cons]

theorem membersOfJson?_eq (numbered : List String) (members : List (String × Json)) :
    membersOfJson? numbered members =
      members.mapM fun member => (ofJson? numbered member.2).map fun field =>
        (member.1, field) := by
  induction members with
  | nil => rw [membersOfJson?, List.mapM_nil]; rfl
  | cons member rest ih =>
    obtain ⟨name, value⟩ := member
    rw [membersOfJson?, ih, List.mapM_cons]
    cases ofJson? numbered value with
    | none => rfl
    | some field =>
      cases rest.mapM fun member => (ofJson? numbered member.2).map fun field =>
        (member.1, field) <;> rfl

theorem choiceMembersOfJson?_eq (numbered : List String) (members : List (String × Json)) :
    choiceMembersOfJson? numbered members =
      members.mapM fun member => (choiceOfJson? numbered member.2).map fun choice =>
        (member.1, choice) := by
  induction members with
  | nil => rw [choiceMembersOfJson?, List.mapM_nil]; rfl
  | cons member rest ih =>
    obtain ⟨name, value⟩ := member
    rw [choiceMembersOfJson?, ih, List.mapM_cons]
    cases choiceOfJson? numbered value with
    | none => rfl
    | some choice =>
      cases rest.mapM fun member => (choiceOfJson? numbered member.2).map fun choice =>
        (member.1, choice) <;> rfl

/-! ### What is read -/

theorem sizeOf_member_lt {members : List (String × Json)} {member : String × Json}
    (h : member ∈ members) :
    sizeOf member.2 < sizeOf (Json.object members) := by
  have hpair := List.sizeOf_lt_of_mem h
  obtain ⟨name, value⟩ := member
  simp only [Prod.mk.sizeOf_spec, Json.object.sizeOf_spec] at hpair ⊢
  omega

/-- A field map is of the form that reading leaves when every field that is read from a smaller
value is. -/
theorem publishedMap_of_mapOfJson? {numbered : List String} {value : Json} {fields : FieldMap}
    (each : ∀ {part : Json} {field : Field}, sizeOf part < sizeOf value →
      ofJson? numbered part = some field →
      ∀ inner ∈ field.nested, inner.Published)
    (h : mapOfJson? numbered value = some fields) : PublishedMap fields := by
  cases value with
  | object members =>
    rw [mapOfJson?, membersOfJson?_eq] at h
    obtain ⟨listed, hlisted, rfl⟩ := Option.map_eq_some_iff.mp h
    refine ⟨Keyed.distinct_merge listed, forall_mem_nestedFields.mpr fun entry hentry => ?_⟩
    obtain ⟨member, hmember, hread⟩ := mem_of_mapM hlisted (Keyed.mem_of_mem_merge hentry)
    obtain ⟨field, hfield, rfl⟩ := Option.map_eq_some_iff.mp hread
    exact each (sizeOf_member_lt hmember) hfield
  | _ => simp [mapOfJson?] at h

/-- A field map that may be missing, and is empty then. -/
def optionalMap? (numbered : List String) : Option Json → Option FieldMap
  | none => some []
  | some fields => mapOfJson? numbered fields

/-- A map of choices that may be missing, and is empty then. -/
def optionalChoices? (numbered : List String) : Option Json → Option (List (String × Choice Field))
  | none => some []
  | some choices => choicesOfJson? numbered choices

/-- The field of a kind with a configuration: its fixed members, and the extra ones. -/
def ofConfig? (kind : String) (known : List (String × Json)) (extra : ExtraMembers) :
    Option Field :=
  if kind = "Image" then
    (ThumbnailSpec.listOfJson? (Keyed.get? "thumbnails" known)).map fun thumbnails =>
      .image thumbnails extra
  else if kind = "Group" then
    (optionalMap? kindNames (Keyed.get? "fields" known)).map fun fields => .group fields extra
  else if kind = "Slices" then
    (optionalChoices? kindNames (Keyed.get? "choices" known)).map fun choices =>
      .slices choices extra
  else (LeafKind.ofName? kind).map fun kind => .leaf kind extra

/-- **A field is read** as a kind with a configuration. -/
theorem ofJson?_eq_some_iff {numbered : List String} {value : Json} {field : Field} :
    ofJson? numbered value = some field ↔
      ∃ kind rest known extra, value.tagged? "type" numbered = some (kind, rest) ∧
        config? (partNames kind) rest = some (known, extra) ∧
        ofConfig? kind known extra = some field := by
  rw [ofJson?]
  split
  · next hnone => simp [hnone]
  · next kind rest htagged =>
    split
    · next hnone => simp [htagged, hnone]
    · next known extra hconfig =>
      have hbody : ∀ result, result = ofConfig? kind known extra → (result = some field ↔
          ∃ kind rest known extra, value.tagged? "type" numbered = some (kind, rest) ∧
            config? (partNames kind) rest = some (known, extra) ∧
              ofConfig? kind known extra = some field) := by
        rintro _ rfl
        simp [htagged, hconfig]
      refine hbody _ ?_
      unfold ofConfig?
      split
      · rfl
      · split
        · split <;> simp_all only [optionalMap?, Option.map_some]
        · split
          · split <;> simp_all only [optionalChoices?, Option.map_some]
          · rfl

theorem choiceOfJson?_eq_some_iff {numbered : List String} {value : Json} {choice : Choice Field} :
    choiceOfJson? numbered value = some choice ↔
      ∃ known, value.openRecord? ["non-repeat", "repeat"] = some (known, choice.extra) ∧
        optionalMap? numbered (Keyed.get? "non-repeat" known) = some choice.primary ∧
        optionalMap? numbered (Keyed.get? "repeat" known) = some choice.items := by
  rw [choiceOfJson?]
  constructor
  · intro h
    split at h
    · cases h
    · next known extra hrecord =>
      simp only at h
      split at h
      · next primary items hprimary hitems =>
        cases h
        refine ⟨known, hrecord, ?_, ?_⟩
        · split at hprimary
          · next hkey => rwa [hkey]
          · next hkey => rwa [hkey]
        · split at hitems
          · next hkey => rwa [hkey]
          · next hkey => rwa [hkey]
      · cases h
  · rintro ⟨known, hrecord, hprimary, hitems⟩
    split
    · next hnone =>
      rw [hnone] at hrecord
      cases hrecord
    · next found extra hfound =>
      rw [hfound] at hrecord
      cases hrecord
      obtain ⟨primary, items, rest⟩ := choice
      cases hp : Keyed.get? "non-repeat" known <;> cases hi : Keyed.get? "repeat" known <;>
        simp_all only [optionalMap?, Option.some.injEq]

theorem publishedMap_of_optional {numbered : List String} {value : Json} {part : Option Json}
    {fields : FieldMap} (each : ∀ {part : Json} {field : Field}, sizeOf part < sizeOf value →
      ofJson? numbered part = some field →
      ∀ inner ∈ field.nested, inner.Published)
    (smaller : ∀ found, part = some found → sizeOf found < sizeOf value)
    (h : optionalMap? numbered part = some fields) : PublishedMap fields := by
  cases part with
  | none =>
    cases h
    exact ⟨List.nodup_nil, by simp [nestedFields]⟩
  | some found =>
    refine publishedMap_of_mapOfJson? (fun hpart hread => each ?_ hread) h
    exact Nat.lt_trans hpart (smaller found rfl)

theorem publishedChoice_of_choiceOfJson? {numbered : List String} {value : Json}
    {choice : Choice Field} (each : ∀ {part : Json} {field : Field}, sizeOf part < sizeOf value →
      ofJson? numbered part = some field →
      ∀ inner ∈ field.nested, inner.Published)
    (h : choiceOfJson? numbered value = some choice) : PublishedChoice choice := by
  obtain ⟨known, hrecord, hprimary, hitems⟩ := choiceOfJson?_eq_some_iff.mp h
  have smaller : ∀ {key : String} found, Keyed.get? key known = some found →
      sizeOf found < sizeOf value :=
    fun _ hfound => Json.sizeOf_openRecord?_lt hrecord hfound
  exact ⟨publishedMap_of_optional each smaller hprimary,
    publishedMap_of_optional each smaller hitems, Json.isExtra_of_openRecord? hrecord⟩

theorem publishedChoices_of_choicesOfJson? {numbered : List String} {value : Json}
    {choices : List (String × Choice Field)}
    (each : ∀ {part : Json} {field : Field}, sizeOf part < sizeOf value →
      ofJson? numbered part = some field →
      ∀ inner ∈ field.nested, inner.Published)
    (h : choicesOfJson? numbered value = some choices) :
    Keyed.Distinct choices ∧ ∀ choice ∈ choices, PublishedChoice choice.2 := by
  cases value with
  | object members =>
    rw [choicesOfJson?, choiceMembersOfJson?_eq] at h
    obtain ⟨listed, hlisted, rfl⟩ := Option.map_eq_some_iff.mp h
    refine ⟨Keyed.distinct_merge listed, fun entry hentry => ?_⟩
    obtain ⟨member, hmember, hread⟩ := mem_of_mapM hlisted (Keyed.mem_of_mem_merge hentry)
    obtain ⟨choice, hchoice, rfl⟩ := Option.map_eq_some_iff.mp hread
    refine publishedChoice_of_choiceOfJson? (fun hpart => each ?_) hchoice
    exact Nat.lt_trans hpart (sizeOf_member_lt hmember)
  | _ => simp [choicesOfJson?] at h

theorem publishedChoices_of_optional {numbered : List String} {value : Json} {part : Option Json}
    {choices : List (String × Choice Field)}
    (each : ∀ {part : Json} {field : Field}, sizeOf part < sizeOf value →
      ofJson? numbered part = some field →
      ∀ inner ∈ field.nested, inner.Published)
    (smaller : ∀ found, part = some found → sizeOf found < sizeOf value)
    (h : optionalChoices? numbered part = some choices) :
    Keyed.Distinct choices ∧ ∀ choice ∈ choices, PublishedChoice choice.2 := by
  cases part with
  | none =>
    cases h
    exact ⟨List.nodup_nil, fun _ h => absurd h List.not_mem_nil⟩
  | some found =>
    refine publishedChoices_of_choicesOfJson? (fun hpart hread => each ?_ hread) h
    exact Nat.lt_trans hpart (smaller found rfl)

/-- A configuration that is read holds extra members apart from its fixed ones. -/
theorem isExtra_of_config? {names : List String} {rest : Json}
    {record : List (String × Json) × ExtraMembers} (h : config? names rest = some record) :
    Json.IsExtra names record.2 := by
  unfold config? at h
  split at h
  · cases h
  · split at h
    · cases h
      exact Json.isExtra_nil names
    · exact Json.isExtra_of_openRecord? h

/-- A thumbnail that is read has sizes that fit. -/
theorem fits_of_ofJson? {value : Json} {spec : ThumbnailSpec}
    (h : ThumbnailSpec.ofJson? value = some spec) :
    spec.Fits := by
  have fits : ∀ {part : Option Json} {size : Option Nat}, ThumbnailSpec.size? part = some size →
      ∀ pixels ∈ size, pixels ≤ ThumbnailSpec.maxSize := by
    intro part size hsize pixels hpixels
    unfold ThumbnailSpec.size? at hsize
    split at hsize
    · cases hsize
      cases hpixels
    · cases hsize
      cases hpixels
    · obtain ⟨found, -, hfound⟩ := Option.bind_eq_some_iff.mp hsize
      split at hfound
      · next hle =>
        cases hfound
        cases hpixels
        exact hle
      · cases hfound
  unfold ThumbnailSpec.ofJson? at h
  simp only [Option.bind_eq_bind, Option.bind_eq_some_iff] at h
  obtain ⟨record, -, _, -, name, -, width, hwidth, height, hheight, hspec⟩ := h
  cases hspec
  exact ⟨fits hwidth, fits hheight⟩

theorem fits_of_listOfJson? {part : Option Json} {thumbnails : List ThumbnailSpec}
    (h : ThumbnailSpec.listOfJson? part = some thumbnails) : ∀ spec ∈ thumbnails, spec.Fits := by
  intro spec hspec
  cases part with
  | none =>
    cases h
    cases hspec
  | some value =>
    obtain ⟨elements, -, hread⟩ := Option.bind_eq_some_iff.mp h
    obtain ⟨element, -, helement⟩ := mem_of_mapM hread hspec
    exact fits_of_ofJson? helement

theorem forall_mem_nested_group {fields : FieldMap} {extra : ExtraMembers}
    (hfields : PublishedMap fields) (hextra : Json.IsExtra ["fields"] extra) :
    ∀ inner ∈ (group fields extra).nested, inner.Published := by
  rw [nested, List.forall_mem_cons]
  exact ⟨⟨hfields.1, hextra⟩, hfields.2⟩

theorem forall_mem_nested_slices {choices : List (String × Choice Field)} {extra : ExtraMembers}
    (h : Keyed.Distinct choices ∧ ∀ choice ∈ choices, PublishedChoice choice.2)
    (hextra : Json.IsExtra ["choices"] extra) :
    ∀ inner ∈ (slices choices extra).nested, inner.Published := by
  obtain ⟨hdistinct, hchoices⟩ := h
  have hmaps : ∀ choice ∈ choices, Keyed.Distinct choice.2.primary ∧
      Keyed.Distinct choice.2.items :=
    fun choice hchoice => ⟨(hchoices choice hchoice).primary.1, (hchoices choice hchoice).items.1⟩
  have hextras : ∀ choice ∈ choices, Json.IsExtra ["non-repeat", "repeat"] choice.2.extra :=
    fun choice hchoice => (hchoices choice hchoice).extra
  rw [nested, List.forall_mem_cons, forall_mem_nestedChoices]
  refine ⟨⟨⟨hdistinct, hmaps⟩, hextras, hextra⟩, fun choice hchoice => ?_⟩
  exact ⟨(hchoices choice hchoice).primary.2, (hchoices choice hchoice).items.2⟩

/-- **A field that is read** is of the form that reading leaves, and so is every field inside it. -/
theorem published_of_ofJson? {numbered : List String} {value : Json} {field : Field}
    (h : ofJson? numbered value = some field) : ∀ inner ∈ field.nested, inner.Published := by
  -- by induction on the size of the value: fields inside are read from smaller parts of it
  induction hsize : sizeOf value using Nat.strongRecOn generalizing numbered value field with
  | _ size ih =>
    subst hsize
    obtain ⟨kind, rest, known, extra, htagged, hconfig, h⟩ := ofJson?_eq_some_iff.mp h
    have hextra := isExtra_of_config? hconfig
    have smaller : ∀ {key : String} {part : Json}, Keyed.get? key known = some part →
        sizeOf part < sizeOf value := by
      intro key part hpart
      exact Nat.lt_of_lt_of_le (sizeOf_config?_lt hconfig hpart) (Json.sizeOf_tagged?_le htagged)
    unfold ofConfig? at h
    split at h
    · next hkind =>
      subst hkind
      obtain ⟨thumbnails, hthumbnails, rfl⟩ := Option.map_eq_some_iff.mp h
      rw [nested, List.forall_mem_singleton]
      exact ⟨trivial, fits_of_listOfJson? hthumbnails, hextra⟩
    · split at h
      · next hkind =>
        subst hkind
        obtain ⟨fields, hfields, rfl⟩ := Option.map_eq_some_iff.mp h
        refine forall_mem_nested_group (publishedMap_of_optional ?_
          (fun _ => smaller) hfields) hextra
        exact fun hinner hread => ih _ hinner hread rfl
      · split at h
        · next hkind =>
          subst hkind
          obtain ⟨choices, hchoices, rfl⟩ := Option.map_eq_some_iff.mp h
          refine forall_mem_nested_slices (publishedChoices_of_optional ?_
            (fun _ => smaller) hchoices) hextra
          exact fun hinner hread => ih _ hinner hread rfl
        · next himage hgroup hslices =>
          obtain ⟨leafKind, -, rfl⟩ := Option.map_eq_some_iff.mp h
          rw [partNames, if_neg himage, if_neg hgroup, if_neg hslices] at hextra
          rw [nested, List.forall_mem_singleton]
          exact ⟨trivial, hextra⟩

end Field

/-- **A custom type that is read** is of the form that reading leaves. -/
theorem CustomType.published_of_ofJson? {value : Json} {type : CustomType}
    (h : CustomType.ofJson? value = some type) : type.Published := by
  cases value with
  | object members =>
    obtain ⟨listed, hlisted, rfl⟩ := Option.map_eq_some_iff.mp h
    have htab : ∀ tab ∈ Keyed.merge listed, PublishedMap tab.2 := by
      intro tab htab
      obtain ⟨member, -, hread⟩ := mem_of_mapM hlisted (Keyed.mem_of_mem_merge htab)
      obtain ⟨fields, hfields, rfl⟩ := Option.map_eq_some_iff.mp hread
      exact Field.publishedMap_of_mapOfJson? (fun _ hfield =>
        Field.published_of_ofJson? hfield) hfields
    refine ⟨Keyed.distinct_merge listed, fun tab hmem => (htab tab hmem).1, ?_⟩
    rw [nested, forall_mem_nestedFields]
    intro field hfield
    obtain ⟨tab, hmem, hfield⟩ := List.mem_flatMap.mp hfield
    exact forall_mem_nestedFields.mp (htab tab hmem).2 field hfield
  | _ => cases h

/-! ### What is written -/

/-- Members that are written for the entries of a map are read back as that map. -/
theorem mapM_entries {α : Type} (write : α → Json) (read : Json → Option α)
    {entries : List (String × α)} (each : ∀ entry ∈ entries, read (write entry.2) = some entry.2) :
    (entries.map fun entry => (entry.1, write entry.2)).mapM
      (fun member => (read member.2).map fun value => (member.1, value)) = some entries := by
  have h : (entries.map fun entry => (entry.1, write entry.2)).mapM
      (fun member => (read member.2).map fun value => (member.1, value)) =
        some (entries.map id) := by
    refine mapM_map_of_forall fun entry hentry => ?_
    rw [each entry hentry]
    rfl
  rwa [List.map_id] at h

namespace ThumbnailSpec

theorem size?_ofNat {size : Nat} (h : size ≤ maxSize) :
    size? (some (Json.ofNat size)) = some (some size) := by
  have hnat : (Json.ofNat size).asNat? = some size := by simp [Json.ofNat, Json.asNat?]
  rw [size?, hnat, Option.bind_some, if_pos h]
  intro hnull
  cases hnull

theorem size?_sizeMember {key : String} {size : Option Nat}
    (h : ∀ pixels ∈ size, pixels ≤ maxSize) :
    size? (Keyed.get? key (sizeMember key size)) = some size := by
  cases size with
  | none => rfl
  | some pixels => rw [sizeMember, Keyed.get?_cons, if_pos rfl, size?_ofNat (h pixels rfl)]

/-- A thumbnail whose sizes fit is read back as it was written. -/
theorem ofJson?_toJson {spec : ThumbnailSpec}
    (h : spec.Fits) : ofJson? spec.toJson = some spec := by
  obtain ⟨name, width, height⟩ := spec
  let sizes := sizeMember "width" width ++ sizeMember "height" height
  have hrecord : (toJson ⟨name, width, height⟩).record? ["name", "width", "height"] =
      some (("name", .string name) :: sizes) := by
    refine Json.record?_of_known ?_ ?_ <;> cases width <;> cases height <;>
      simp [sizeMember, Keyed.Distinct, Keyed.keys]
  have hwidth : Keyed.get? "width" (("name", .string name) :: sizes) =
      Keyed.get? "width" (sizeMember "width" width) := by
    cases width <;> cases height <;> rfl
  have hheight : Keyed.get? "height" (("name", .string name) :: sizes) =
      Keyed.get? "height" (sizeMember "height" height) := by
    cases width <;> cases height <;> rfl
  simp only [ofJson?, hrecord, hwidth, hheight, size?_sizeMember h.1, size?_sizeMember h.2,
    Option.bind_eq_bind, Option.bind_some, Keyed.get?_cons, if_true, Json.asString?]

theorem listOfJson?_map {thumbnails : List ThumbnailSpec} (h : ∀ spec ∈ thumbnails, spec.Fits) :
    listOfJson? (some (Json.array (thumbnails.map toJson))) = some thumbnails := by
  have hread : (thumbnails.map toJson).mapM ofJson? = some (thumbnails.map id) :=
    mapM_map_of_forall fun spec hspec => ofJson?_toJson (h spec hspec)
  rwa [List.map_id] at hread

end ThumbnailSpec

namespace Field

/-- A configuration is found as it was written: its fixed members, then the extra ones. -/
theorem config?_append {names : List String} {known extra : List (String × Json)}
    (distinct : Keyed.Distinct known) (hknown : ∀ key ∈ Keyed.keys known, key ∈ names)
    (h : Json.IsExtra names extra) :
    config? names (.object [("config", .object (known ++ extra))]) = some (known, extra) := by
  have hrecord : (Json.object [("config", .object (known ++ extra))]).record? ["config"] =
      some [("config", .object (known ++ extra))] :=
    Json.record?_of_known (by simp [Keyed.Distinct, Keyed.keys]) (by simp)
  simp only [config?, hrecord, Keyed.get?_cons, if_true]
  exact Json.openRecord?_append distinct hknown h

/-- What is published is a kind and a configuration. -/
theorem tagged?_config (numbered : List String) (kind : String) (config : Json) :
    (Json.object [("type", .string kind), ("config", config)]).tagged? "type" numbered =
      some (kind, .object [("config", config)]) :=
  Json.tagged?_object numbered (by simp)

theorem ofName?_name (kind : LeafKind) : LeafKind.ofName? kind.name = some kind := by
  cases kind <;> decide

theorem name_ne (kind : LeafKind) :
    kind.name ≠ "Image" ∧ kind.name ≠ "Group" ∧ kind.name ≠ "Slices" := by
  cases kind <;> decide

/-- A field map is read back when its fields are. -/
theorem mapOfJson?_mapToMembers {numbered : List String} {fields : FieldMap}
    (distinct : Keyed.Distinct fields)
    (each : ∀ field ∈ fields, ofJson? numbered field.2.toJson = some field.2) :
    mapOfJson? numbered (.object (mapToMembers fields)) = some fields := by
  rw [mapOfJson?, membersOfJson?_eq, mapToMembers_eq, mapM_entries _ _ each, Option.map_some,
    Keyed.merge_of_distinct distinct]

/-- A choice as published. -/
def choiceToJson (choice : Choice Field) : Json :=
  .object ([("non-repeat", .object (mapToMembers choice.primary)),
    ("repeat", .object (mapToMembers choice.items))]
    ++ choice.extra)

theorem choicesToMembers_eq (choices : List (String × Choice Field)) :
    choicesToMembers choices = choices.map fun choice => (choice.1, choiceToJson choice.2) := by
  induction choices with
  | nil => rw [choicesToMembers, List.map_nil]
  | cons choice rest ih =>
    obtain ⟨name, primary, items, extra⟩ := choice
    rw [choicesToMembers, ih, List.map_cons]
    rfl

/-- A choice is read back when the fields of its halves are. -/
theorem choiceOfJson?_choiceToJson {numbered : List String} {choice : Choice Field}
    (hprimary : Keyed.Distinct choice.primary) (hitems : Keyed.Distinct choice.items)
    (hextra : Json.IsExtra ["non-repeat", "repeat"] choice.extra)
    (each : (∀ field ∈ choice.primary, ofJson? numbered field.2.toJson = some field.2) ∧
      ∀ field ∈ choice.items, ofJson? numbered field.2.toJson = some field.2) :
    choiceOfJson? numbered (choiceToJson choice) = some choice := by
  refine choiceOfJson?_eq_some_iff.mpr ⟨_, Json.openRecord?_append ?_ ?_ hextra, ?_, ?_⟩
  · simp [Keyed.Distinct, Keyed.keys]
  · simp
  · exact mapOfJson?_mapToMembers hprimary each.1
  · exact mapOfJson?_mapToMembers hitems each.2

/-- A map of choices is read back when its choices are. -/
theorem choicesOfJson?_choicesToMembers {numbered : List String}
    {choices : List (String × Choice Field)} (distinct : Keyed.Distinct choices)
    (each : ∀ choice ∈ choices, choiceOfJson? numbered (choiceToJson choice.2) = some choice.2) :
    choicesOfJson? numbered (.object (choicesToMembers choices)) = some choices := by
  rw [choicesOfJson?, choiceMembersOfJson?_eq, choicesToMembers_eq, mapM_entries _ _ each,
    Option.map_some, Keyed.merge_of_distinct distinct]

/-- **A kind with a configuration** is read back as it was written. -/
theorem ofJson?_of_config {numbered : List String} {kind : String} {extra : ExtraMembers}
    {field : Field} (known : List (String × Json)) (distinct : Keyed.Distinct known)
    (hknown : ∀ key ∈ Keyed.keys known, key ∈ partNames kind)
    (hextra : Json.IsExtra (partNames kind) extra) (h : ofConfig? kind known extra = some field) :
    ofJson? numbered (.object [("type", .string kind), ("config", .object (known ++ extra))]) =
      some field :=
  ofJson?_eq_some_iff.mpr
    ⟨kind, _, known, extra, tagged?_config numbered kind _,
      config?_append distinct hknown hextra, h⟩

/-- **What is written of a field** is read back, when the field and all fields inside it are of the
form that reading leaves. -/
theorem ofJson?_toJson {field : Field} :
    ∀ numbered, (∀ inner ∈ field.nested, inner.Published) →
      ofJson? numbered field.toJson = some field := by
  induction field using Field.induction with
  | leaf kind extra =>
    intro numbered h
    rw [nested, List.forall_mem_singleton] at h
    obtain ⟨himage, hgroup, hslices⟩ := name_ne kind
    have hnames : partNames kind.name = [] := by
      rw [partNames, if_neg himage, if_neg hgroup, if_neg hslices]
    rw [toJson]
    refine ofJson?_of_config [] List.nodup_nil (by simp) (hnames ▸ h.2) ?_
    rw [ofConfig?, if_neg himage, if_neg hgroup, if_neg hslices, ofName?_name, Option.map_some]
  | image thumbnails extra =>
    intro numbered h
    rw [nested, List.forall_mem_singleton] at h
    obtain ⟨hfits, hextra⟩ := h.2
    -- thumbnails are left out when there are none
    cases thumbnails with
    | nil =>
      rw [toJson]
      refine ofJson?_of_config [] List.nodup_nil (by simp) hextra ?_
      simp [ofConfig?, ThumbnailSpec.listOfJson?]
    | cons spec rest =>
      have hread := ThumbnailSpec.listOfJson?_map hfits
      rw [toJson]
      refine ofJson?_of_config [("thumbnails", .array ((spec :: rest).map ThumbnailSpec.toJson))] ?_
        ?_ hextra ?_
      · simp [Keyed.Distinct, Keyed.keys]
      · simp [partNames]
      · rw [ofConfig?, if_pos rfl, Keyed.get?_cons, if_pos rfl, hread, Option.map_some]
  | group fields extra ih =>
    intro numbered h
    rw [nested, List.forall_mem_cons, forall_mem_nestedFields] at h
    obtain ⟨⟨hdistinct, hextra⟩, hfields⟩ := h
    have hread :=
      mapOfJson?_mapToMembers hdistinct fun field hfield =>
        ih field hfield kindNames (hfields field hfield)
    rw [toJson]
    refine ofJson?_of_config [("fields", .object (mapToMembers fields))] ?_ ?_ hextra ?_
    · simp [Keyed.Distinct, Keyed.keys]
    · simp [partNames]
    · simp [ofConfig?, Keyed.get?_cons, optionalMap?, hread]
  | slices choices extra ih =>
    intro numbered h
    rw [nested, List.forall_mem_cons, forall_mem_nestedChoices] at h
    obtain ⟨⟨⟨hdistinct, hmaps⟩, hextras, hextra⟩, hchoices⟩ := h
    have hread : choicesOfJson? kindNames (.object (choicesToMembers choices)) = some choices := by
      refine choicesOfJson?_choicesToMembers hdistinct fun choice hchoice => ?_
      obtain ⟨hprimary, hitems⟩ := hmaps choice hchoice
      have hinner := hchoices choice hchoice
      rw [forall_mem_nestedFields, forall_mem_nestedFields] at hinner
      refine choiceOfJson?_choiceToJson hprimary hitems (hextras choice hchoice) ⟨?_, ?_⟩
      · exact fun field hfield => (ih choice hchoice).1 field hfield kindNames
          (hinner.1 field hfield)
      · exact fun field hfield => (ih choice hchoice).2 field hfield kindNames
          (hinner.2 field hfield)
    rw [toJson]
    refine ofJson?_of_config [("choices", .object (choicesToMembers choices))] ?_ ?_ hextra ?_
    · simp [Keyed.Distinct, Keyed.keys]
    · simp [partNames]
    · simp [ofConfig?, Keyed.get?_cons, optionalChoices?, hread]

end Field

namespace CustomType

/-- **What is written of a custom type** is read back, when the custom type is of the form that
reading leaves. -/
theorem ofJson?_toJson {type : CustomType}
    (h : type.Published) : ofJson? type.toJson = some type := by
  obtain ⟨tabs⟩ := type
  have htab : ∀ tab ∈ tabs, Field.mapOfJson? [] (.object (Field.mapToMembers tab.2)) =
      some tab.2 := by
    intro tab htab
    refine Field.mapOfJson?_mapToMembers (h.fieldMaps tab htab) fun field hfield => ?_
    refine Field.ofJson?_toJson [] fun inner hinner => h.fields inner ?_
    exact forall_mem_nestedFields.mp (fun _ hother => hother) field
      (List.mem_flatMap.mpr ⟨tab, htab, hfield⟩)
      inner hinner
  have hread : (tabs.map fun tab => (tab.1, Json.object (Field.mapToMembers tab.2))).mapM
      (fun member => (Field.mapOfJson? [] member.2).map fun fields => (member.1, fields)) =
        some tabs :=
    mapM_entries (fun fields => .object (Field.mapToMembers fields)) (Field.mapOfJson? []) htab
  rw [toJson, ofJson?, hread, Option.map_some, Keyed.merge_of_distinct h.tabs]

/-- **Published custom types read back.**  A custom type that was read from any value, and is
written, is read as the same again: the same tabs, fields, choices, thumbnails and extra members in
the same order.  Written once more, it is the same text in either layout. -/
theorem published_reads_back {value : Json} {type : CustomType} (h : ofJson? value = some type) :
    ofJson? type.toJson = some type ∧
      ∀ again, ofJson? type.toJson = some again →
        again.toJson.compact = type.toJson.compact ∧ again.toJson.pretty = type.toJson.pretty := by
  have hread := ofJson?_toJson (published_of_ofJson? h)
  refine ⟨hread, fun again hagain => ?_⟩
  rw [hread, Option.some_inj] at hagain
  rw [hagain]
  exact ⟨rfl, rfl⟩

/-- A custom type published in several layouts: fields and thumbnails as arrays, kinds by number,
sizes that are `null`, parts of choices that are missing, and members that nothing interprets. -/
def publishedSample : Json :=
  .object
    [("Main", .object
      [("title", .object
        [("type", .string "StructuredText"),
          ("config", .object [("single", .string "h1"), ("multi", .array [.null])])]),
      ("cover", .array
        [.string "Image", .object
          [("label", .string "Cover"), ("thumbnails", .array
            [.array [.string "small", .number (.integer 80)],
              .object [("height", .null), ("name", .string "wide"), ("unit", .string "px")]])]])]),
    ("Body", .object
      [("zone", .object
        [("config", .object
          [("labels", .object []), ("choices", .object
            [("quote", .object
              [("type", .string "Slice"), ("repeat", .object
                [("line", .object [("type", .number (.integer 2))])])])])]),
          ("type", .string "Slices")])])]

/-- The same custom type as it is written. -/
def writtenSample : Json :=
  .object
    [("Main", .object
      [("title", .object
        [("type", .string "StructuredText"),
          ("config", .object [("single", .string "h1"), ("multi", .array [.null])])]),
      ("cover", .object
        [("type", .string "Image"), ("config", .object
          [("thumbnails", .array
              [.object [("name", .string "small"), ("width", .number (.integer 80))],
                .object [("name", .string "wide")]]),
            ("label", .string "Cover")])])]),
    ("Body", .object
      [("zone", .object
        [("type", .string "Slices"), ("config", .object
          [("choices", .object
              [("quote", .object
                [("non-repeat", .object []),
                  ("repeat", .object
                    [("line", .object [("type", .string "Text"), ("config", .object [])])]),
                  ("type", .string "Slice")])]),
            ("labels", .object [])])])])]

theorem published_reads_back_sample :
    ∃ type, ofJson? publishedSample = some type ∧ type.toJson = writtenSample ∧
      ofJson? type.toJson = some type ∧
      ∀ again, ofJson? type.toJson = some again →
        again.toJson.compact = type.toJson.compact ∧ again.toJson.pretty = type.toJson.pretty := by
  have hwritten : (ofJson? publishedSample).map toJson = some writtenSample := by decide +kernel
  obtain ⟨type, hread, hwritten⟩ := Option.map_eq_some_iff.mp hwritten
  exact ⟨type, hread, hwritten, published_reads_back hread⟩

end CustomType

end ContentGraph
