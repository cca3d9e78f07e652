import ContentGraph.Proofs.Materialization.Records

/-!
# The visits of a walk

The walk of a document visits a value, then the fields of the records inside of it, and so on.  The
visits are listed here in the order of the walk: they are the walked values, each once, and every
event of the walk belongs to one of them.

* `Visit`, `Registry.visits`, `Registry.documentVisits` — the visits from a value, and those of a
  document;
* `mem_documentVisits`, `pairwise_documentVisits` — the visits are the walked values, each in a
  place of its own;
* `Walk.events_value` — **the step**: the events of a value are its own and those of the records
  inside;
* `Walk.events_visits`, `Walk.events_document` — **the run**: the events of a walk are those of its
  visits, in order.
-/

namespace ContentGraph

/-- A value that the walk of a document comes to: where it stands, its path and its key. -/
structure Visit where
  location : Location
  path : Path
  key : String
  value : Json

/-- The visit of a field in a record inside of a visited value. -/
def Visit.field (visit : Visit) (record : InnerRecord) (field : String × Json) : Visit :=
  ⟨visit.location ++ record.location ++ [Step.field field.1], record.below ++ [field.1],
    field.1, field.2⟩

/-- The visits from a value on, in the order of the walk. -/
def Registry.visits (registry : Registry) (visit : Visit) : List Visit :=
  visit :: (registry.recordsIn visit.path visit.value).attach.flatMap fun record =>
    record.1.members.attach.flatMap fun field => registry.visits (visit.field record.1 field.1)
termination_by sizeOf visit.value
decreasing_by exact sizeOf_lt_of_mem_recordsIn record.2 field.2

/-- The visits of a document's members. -/
def Registry.documentVisits (registry : Registry) (type : String) (members : List (String × Json)) :
    List Visit :=
  members.flatMap fun member => registry.visits ⟨[.member member.1], [type, member.1],
    member.1, member.2⟩

variable {registry : Registry} {raw : Json} {visit start : Visit} {record : InnerRecord}
  {type : String}
  {members : List (String × Json)}

/-- What holds of a visit when it holds of the fields inside holds of all visits. -/
theorem Visit.induction (registry : Registry) {motive : Visit → Prop}
    (step : ∀ visit : Visit, (∀ record ∈ registry.recordsIn visit.path visit.value,
      ∀ field ∈ record.members, motive (visit.field record field)) → motive visit)
      (visit : Visit) : motive visit := by
  induction hsize : sizeOf visit.value using Nat.strongRecOn generalizing visit with
  | ind size ih =>
    refine step visit fun record hrecord field hfield => ?_
    have hlt : sizeOf field.2 < sizeOf visit.value := sizeOf_lt_of_mem_recordsIn hrecord hfield
    exact ih (sizeOf field.2) (hsize ▸ hlt) (visit.field record field) rfl

/-- The visits from a value on: its own, then those from the fields inside. -/
theorem Registry.visits_eq (registry : Registry) (visit : Visit) :
    registry.visits visit =
      visit :: (registry.recordsIn visit.path visit.value).flatMap fun record =>
        record.members.flatMap fun field => registry.visits (visit.field record field) := by
  have hattach : ∀ {α : Type} (l : List α) (f : α → List Visit),
    (l.attach.flatMap fun x => f x.1) = l.flatMap f := by
    intro α l f
    rw [← List.flatMap_map, List.attach_map_subtype_val]
  have hfields : ∀ record : InnerRecord,
      (record.members.attach.flatMap fun field => registry.visits (visit.field record field.1)) =
        record.members.flatMap fun field => registry.visits (visit.field record field) :=
    fun record => hattach record.members fun field => registry.visits (visit.field record field)
  rw [visits]
  simp only [hfields]
  exact congrArg (visit :: ·) (hattach _ fun record : InnerRecord =>
    record.members.flatMap fun field => registry.visits (visit.field record field))

/-! ### The visits are the walked values -/

theorem mem_visits :
    visit ∈ registry.visits start ↔ visit = start ∨
      ∃ record ∈ registry.recordsIn start.path start.value, ∃ field ∈ record.members,
        visit ∈ registry.visits (start.field record field) := by
  rw [Registry.visits_eq]
  simp only [List.mem_cons, List.mem_flatMap]

/-- The visits from a value on are closed under further steps. -/
theorem field_mem_visits {field : String × Json} (h : visit ∈ registry.visits start)
    (hrecord : record ∈ registry.recordsIn visit.path visit.value)
    (hfield : field ∈ record.members) :
    visit.field record field ∈ registry.visits start := by
  induction start using Visit.induction registry with
  | step start ih =>
    rcases mem_visits.mp h with rfl | ⟨outer, houter, first, hfirst, hvisit⟩
    · have hown : visit.field record field ∈ registry.visits (visit.field record field) :=
        mem_visits.mpr (.inl rfl)
      exact mem_visits.mpr (.inr ⟨record, hrecord, field, hfield, hown⟩)
    · exact mem_visits.mpr (.inr ⟨outer, houter, first, hfirst,
        ih outer houter first hfirst hvisit⟩)

/-- Below a value that is walked, all visits are. -/
theorem walked_of_mem_visits (wf : raw.WellFormed)
    (hstart : registry.Walked raw start.location start.path start.key start.value)
    (h : visit ∈ registry.visits start) :
    registry.Walked raw visit.location visit.path visit.key visit.value := by
  induction start using Visit.induction registry with
  | step start ih =>
    rcases mem_visits.mp h with rfl | ⟨record, hrecord, field, hfield, hvisit⟩
    · exact hstart
    · have hinner := (mem_recordsIn (wf.at? hstart.at?_eq)).mp hrecord
      have hmembers : (Json.object record.members).WellFormed :=
        (wf.at? hstart.at?_eq).at? hinner.at?_eq
      have hget : Keyed.get? field.1 record.members = some field.2 :=
        Keyed.get?_of_mem hmembers.distinct hfield
      exact ih record hrecord field hfield (hstart.field hinner hget) hvisit

/-- **The visits of a document** are the walked values. -/
theorem mem_documentVisits (wf : (Json.object members).WellFormed)
    (type_eq : (Json.object members).getString? "type" = some type) :
    visit ∈ registry.documentVisits type members ↔
      registry.Walked (.object members) visit.location visit.path visit.key visit.value := by
  constructor
  · intro h
    obtain ⟨member, hmember, hvisit⟩ := List.mem_flatMap.mp h
    have hget : (Json.object members).get? member.1 = some member.2 :=
      Keyed.get?_of_mem wf.distinct hmember
    have hstart :
        registry.Walked (.object members) [.member member.1] [type, member.1] member.1 member.2 :=
      .root type_eq hget
    exact walked_of_mem_visits wf hstart hvisit
  · intro walked
    suffices h :
        ∀ location path key value, registry.Walked (.object members) location path key value →
        ⟨location, path, key, value⟩ ∈ registry.documentVisits type members from h _ _ _ _ walked
    intro location path key value walked
    induction walked with
    | @root found key value found_eq member =>
      cases found_eq.symm.trans type_eq
      have hmember : (key, value) ∈ members := Keyed.mem_of_get? member
      exact List.mem_flatMap.mpr ⟨(key, value), hmember, mem_visits.mpr (.inl rfl)⟩
    | field outer record member ih =>
      obtain ⟨first, hfirst, hvisit⟩ := List.mem_flatMap.mp ih
      exact List.mem_flatMap.mpr
        ⟨first, hfirst, field_mem_visits hvisit record.mem_recordsIn (Keyed.mem_of_get? member)⟩

/-! ### Each walked value is visited once -/

/-- All visits from a value on stand below it. -/
theorem prefix_of_mem_visits (h : visit ∈ registry.visits start) :
    start.location <+: visit.location := by
  induction start using Visit.induction registry with
  | step start ih =>
    rcases mem_visits.mp h with rfl | ⟨record, hrecord, field, hfield, hvisit⟩
    · exact List.prefix_refl _
    · have hfieldLocation := ih record hrecord field hfield hvisit
      rw [Visit.field, List.append_assoc] at hfieldLocation
      exact (List.prefix_append _ _).trans hfieldLocation

/-- Visits that start apart from each other stand in different places. -/
theorem location_ne_of_apart {first second other : Visit}
    (apart : start.location.Apart other.location) (hfirst : first ∈ registry.visits start)
    (hsecond : second ∈ registry.visits other) :
    first.location ≠ second.location := by
  intro heq
  exact apart first.location (prefix_of_mem_visits hfirst) (heq ▸ prefix_of_mem_visits hsecond)

theorem apart_field_of_ne {first second : String × Json} (start : Visit) (record : InnerRecord)
    (hne : first.1 ≠ second.1) :
    (start.field record first).location.Apart (start.field record second).location := by
  have hstep : Step.field first.1 ≠ Step.field second.1 := by simpa using hne
  exact Location.apart_of_step _ hstep (List.prefix_refl _) (List.prefix_refl _)

theorem apart_field_of_apart {first second : InnerRecord} (start : Visit)
    (apart : first.location.Apart second.location) (field other : String × Json) :
    (start.field first field).location.Apart (start.field second other).location := by
  intro location hfirst hsecond
  simp only [Visit.field, List.append_assoc] at hfirst hsecond
  obtain ⟨rest, rfl⟩ := (List.prefix_append _ _).trans hfirst
  have hfirst := (List.prefix_append_right_inj _).mp hfirst
  have hsecond := (List.prefix_append_right_inj _).mp hsecond
  exact apart rest ((List.prefix_append _ _).trans hfirst) ((List.prefix_append _ _).trans hsecond)

/-- Visits from a well-formed value on stand in different places. -/
theorem pairwise_visits (registry : Registry) (start : Visit) (wf : start.value.WellFormed) :
    (registry.visits start).Pairwise fun a b => a.location ≠ b.location := by
  induction start using Visit.induction registry with
  | step start ih =>
    rw [Registry.visits_eq, List.pairwise_cons, List.pairwise_flatMap]
    have hmembers : ∀ record ∈ registry.recordsIn start.path start.value,
        (Json.object record.members).WellFormed :=
      fun record hrecord => wf.at? ((mem_recordsIn wf).mp hrecord).at?_eq
    refine ⟨?_, ?_, ?_⟩
    · -- visits of fields stand strictly below
      intro visit hvisit heq
      obtain ⟨record, -, hvisit⟩ := List.mem_flatMap.mp hvisit
      obtain ⟨field, -, hvisit⟩ := List.mem_flatMap.mp hvisit
      have hlength := (prefix_of_mem_visits hvisit).length_le
      rw [← heq] at hlength
      simp only [Visit.field, List.length_append, List.length_singleton] at hlength
      omega
    · intro record hrecord
      rw [List.pairwise_flatMap]
      constructor
      · intro field hfield
        have hget := Keyed.get?_of_mem (hmembers record hrecord).distinct hfield
        exact ih record hrecord field hfield ((hmembers record hrecord).get? hget)
      · have hnames : record.members.Pairwise fun a b => a.1 ≠ b.1 :=
          List.pairwise_map.mp (hmembers record hrecord).distinct
        refine hnames.imp fun hne first hfirst second hsecond => ?_
        exact location_ne_of_apart (apart_field_of_ne start record hne) hfirst hsecond
    · refine (registry.pairwise_recordsIn start.path wf).imp ?_
      intro record other apart first hfirst second hsecond
      obtain ⟨field, -, hfirst⟩ := List.mem_flatMap.mp hfirst
      obtain ⟨otherField, -, hsecond⟩ := List.mem_flatMap.mp hsecond
      exact location_ne_of_apart (apart_field_of_apart start apart field otherField) hfirst hsecond

/-- **The visits of a document** stand in different places. -/
theorem pairwise_documentVisits (registry : Registry) (type : String)
    (wf : (Json.object members).WellFormed) :
    (registry.documentVisits type members).Pairwise fun a b => a.location ≠ b.location := by
  rw [Registry.documentVisits, List.pairwise_flatMap]
  constructor
  · intro member hmember
    have hget : (Json.object members).get? member.1 = some member.2 :=
      Keyed.get?_of_mem wf.distinct hmember
    exact pairwise_visits registry _ (wf.get? hget)
  · have hnames : members.Pairwise fun a b => a.1 ≠ b.1 := List.pairwise_map.mp wf.distinct
    refine hnames.imp ?_
    intro a b hne first hfirst second hsecond
    have hstep : Step.member a.1 ≠ Step.member b.1 := by simpa using hne
    have hapart : Location.Apart [.member a.1] [.member b.1] :=
      Location.apart_of_step [] hstep (List.prefix_refl _) (List.prefix_refl _)
    exact location_ne_of_apart hapart hfirst hsecond

/-- Each value of a document is visited once. -/
theorem nodup_documentVisits (registry : Registry) (type : String)
    (wf : (Json.object members).WellFormed) :
    (registry.documentVisits type members).Nodup :=
  (pairwise_documentVisits registry type wf).imp fun hne heq => hne (congrArg Visit.location heq)

/-! ### The events of a walk -/

namespace Walk

variable {w : Walk}

/-- What happens to a visited value itself, apart from the records inside. -/
def ownEvents (w : Walk) (visit : Visit) : List Event :=
  match visit.value with
  | .null => []
  | value => (w.leaf visit.path visit.key value).events

theorem record_events (w : Walk) (below : Path) (members : List (String × Json)) :
    (w.record below members).events =
      members.flatMap fun member => (w.value (below ++ [member.1]) member.1 member.2).events := by
  induction members with
  | nil => rfl
  | cons member rest ih =>
    obtain ⟨key, member⟩ := member
    rw [record, Traced.both, ih, List.flatMap_cons]

/-- What happens in the records among elements. -/
theorem fieldRecords_events (w : Walk) (location : Location) (below : Path) (elements : List Json) :
    (w.fieldRecords below elements).events =
      (elementRecords location below elements).flatMap fun record =>
        (w.record record.below record.members).events := by
  rw [elementRecords]
  generalize 0 = start
  induction elements generalizing start with
  | nil => rfl
  | cons element rest ih =>
    rw [fieldRecords, Traced.both, ih (start + 1), List.zipIdx_cons, List.filterMap_cons]
    cases element with
    | object members => simp [Json.members?, fieldRecord, Traced.map]
    | _ => simp [Json.members?, fieldRecord]

/-- What happens in a member of a slice. -/
theorem half_events (w : Walk) (location : Location) (choice : Path) (name : String) (half : Json) :
    (w.half choice name half).events =
      (halfRecords location choice name half).flatMap fun record =>
        (w.record record.below record.members).events := by
  cases half with
  | object members =>
    by_cases hname : name = "primary"
    · simp [Walk.half, halfRecords, hname, fieldRecord, Traced.map]
    · simp [Walk.half, halfRecords, hname]
  | array items =>
    by_cases hname : name = "items"
    · simp only [Walk.half, halfRecords, if_pos hname, Traced.map]
      exact w.fieldRecords_events _ _ _
    · simp [Walk.half, halfRecords, hname]
  | _ => rfl

theorem halves_events (w : Walk) (location : Location) (choice : Path)
    (members : List (String × Json)) :
    (w.halves choice members).events =
      (members.flatMap fun member => halfRecords location choice member.1 member.2).flatMap
        fun record =>
        (w.record record.below record.members).events := by
  induction members with
  | nil => rfl
  | cons member rest ih =>
    obtain ⟨name, half⟩ := member
    rw [halves_cons, Traced.both, ih, w.half_events location, List.flatMap_cons,
      List.flatMap_append]

/-- What happens in a slice. -/
theorem slice_events (w : Walk) (location : Location) (zone : Path) (element : Json) :
    (w.slice zone element).events =
      (sliceRecords location zone element).flatMap fun record =>
        (w.record record.below record.members).events := by
  cases element with
  | object slice =>
    cases htype : (Keyed.get? "slice_type" slice).bind Json.asString? with
    | none => simp [Walk.slice, sliceRecords, htype]
    | some choice =>
      simp only [Walk.slice, sliceRecords, htype, Traced.map]
      exact w.halves_events _ _ _
  | _ => rfl

theorem slices_events (w : Walk) (zone : Path) (elements : List Json) :
    (w.slices zone elements).events =
      (elements.zipIdx.flatMap fun element => sliceRecords
        [.element element.2] zone element.1).flatMap fun record =>
        (w.record record.below record.members).events := by
  generalize 0 = start
  induction elements generalizing start with
  | nil => rfl
  | cons element rest ih =>
    rw [slices, Traced.both, ih (start + 1), w.slice_events [.element start], List.zipIdx_cons,
      List.flatMap_cons, List.flatMap_append]

/-- **One step.**  The events of a value are its own, then those of the records inside. -/
theorem events_value (w : Walk) (visit : Visit) :
    (w.value visit.path visit.key visit.value).events =
      w.ownEvents visit ++ (w.paths.recordsIn visit.path visit.value).flatMap fun record =>
        (w.record record.below record.members).events := by
  obtain ⟨location, path, key, value⟩ := visit
  cases value with
  | null => rfl
  | object members =>
    simp only [Walk.value, ownEvents, Registry.recordsIn]
    split
    · next kind => simp [leaf, kind, Traced.map]
    · next kind =>
      rw [if_neg kind]
      simp
  | array elements =>
    simp only [Walk.value, ownEvents, Registry.recordsIn]
    split
    · next kind =>
      simp only [leaf, kind, Traced.map, ↓reduceIte, List.nil_append]
      exact w.fieldRecords_events _ _ _
    · next kind =>
      simp only [leaf, kind, Traced.map, Option.some_inj, reduceCtorEq, ↓reduceIte, List.nil_append]
      exact w.slices_events _ _
    · next hgroup hslices =>
      rw [if_neg hgroup, if_neg hslices]
      simp
  | _ => simp [Walk.value, ownEvents, Registry.recordsIn]

/-- **The run.**  The events from a value on are those of the visits from it on, in order. -/
theorem events_visits (w : Walk) (visit : Visit) :
    (w.value visit.path visit.key visit.value).events =
      (w.paths.visits visit).flatMap w.ownEvents := by
  induction visit using Visit.induction w.paths with
  | step visit ih =>
    rw [events_value, Registry.visits_eq, List.flatMap_cons, List.flatMap_assoc]
    congr 1
    refine List.flatMap_congr fun record hrecord => ?_
    rw [record_events, List.flatMap_assoc]
    exact List.flatMap_congr fun field hfield => ih record hrecord field hfield

/-- The events of a document are those of its visits, in order. -/
theorem events_document (w : Walk) (type : String) (members : List (String × Json)) :
    (w.record [type] members).events =
      (w.paths.documentVisits type members).flatMap w.ownEvents := by
  rw [record_events, Registry.documentVisits, List.flatMap_assoc]
  exact List.flatMap_congr fun member _ =>
    w.events_visits ⟨[.member member.1], [type, member.1], member.1, member.2⟩

end Walk

end ContentGraph
