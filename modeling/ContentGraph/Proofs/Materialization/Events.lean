import ContentGraph.Proofs.Materialization.Shown
import ContentGraph.Proofs.Materialization.Visits
import ContentGraph.Proofs.RichText.Sequence

/-!
# What happens on the way to a document

Two things happen while a document is walked: a rich text or a link becomes `null`, and the file of
an image or of a thumbnail is asked for.  What happens, and what is reported of it, is told here by
the visited value alone.

* `Environment.failure?`, `Visit.report` — why a visited rich text or link cannot be materialized,
  and its report;
* `Rendition`, `Registry.Renders` — the images of a document and their thumbnails;
* `Environment.request?`, `Environment.answer?` — the request for the file of a field, and what the
  store answers;
* `Environment.storedFile`, `Environment.fetchError?`, `Rendition.report` — what becomes of the
  answer;
* `Walk.root_congr` — documents of environments that store alike;
* `Walk.ownEvents_eq` — what happens to a visited value;
* `Walk.requests_document`, `Walk.diagnostics_document`, `materialize_object` — what a whole
  document asks for and reports.
-/

namespace ContentGraph

/-! ### Rich texts and links that fail -/

/-- Why a field of a kind cannot be materialized, if it cannot: only rich texts and links that are
there fail. -/
def Environment.fault? (env : Environment) (kind : PathKind) (field : FieldContext) :
    Option FieldError :=
  if field.value = .null then none
  else
    match kind with
    | .structuredText => errorOf? (RichText.materialize env field)
    | .link => errorOf? (Link.materialize env field)
    | _ => none

/-- The kind of a visited value and why it cannot be materialized, if it cannot. -/
def Environment.failure? (env : Environment) (registry : Registry) (raw : Json) (visit : Visit) :
    Option (PathKind × FieldError) :=
  (registry.kindAt? visit.path).bind fun kind =>
    (env.fault? kind ⟨visit.key, visit.value, raw⟩).map fun e => (kind, e)

/-- The report of a visited value that fails. -/
def Visit.report (visit : Visit) (failure : PathKind × FieldError) : Diagnostic :=
  ⟨visit.path, failure.1, failure.2.message⟩

/-! ### Files of images -/

/-- An image or one of its thumbnails: where it stands, its path, the key of the image, and its own
members. -/
structure Rendition where
  location : Location
  path : Path
  key : String
  members : List (String × Json)

/-- The field that the collaborators are asked about. -/
def Rendition.field (raw : Json) (rendition : Rendition) : FieldContext :=
  ⟨rendition.key, .object rendition.members, raw⟩

/-- The renditions of a raw document: its walked images that are objects, and the thumbnails of each
that are registered and objects. -/
inductive Registry.Renders (registry : Registry) (raw : Json) : Rendition → Prop
  | image {location : Location} {path : Path} {key : String} {members : List (String × Json)}
      (walked : registry.Walked raw location path key (.object members))
      (kind : registry.kindAt? path = some .image) :
      Renders registry raw ⟨location, path, key, members⟩
  | thumbnail {location : Location} {path : Path} {key name : String}
      {members inner : List (String × Json)}
      (walked : registry.Walked raw location path key (.object members))
      (kind : registry.kindAt? path = some .image)
      (thumbnail : registry.thumbnail? path members name = some inner) :
      Renders registry raw
        ⟨location ++ [Step.member name], path ++ [thumbnailsSegment, name], key, inner⟩

namespace Environment

/-- The request for the file of a field: one with an address, which the policy accepts. -/
def request? (env : Environment) (nodeId : String) (field : FieldContext) : Option FetchRequest :=
  match field.value.getString? "url" with
  | some url => if env.normalizesImage field then some ⟨Text.percentDecode url, nodeId⟩ else none
  | none => none

/-- What the store answers to the request for the file of a field, if there is a store and a
request. -/
def answer? (env : Environment) (nodeId : String) (field : FieldContext) :
    Option (Except String FileNode) :=
  match env.fetchFile with
  | some fetch => (env.request? nodeId field).map fetch
  | none => none

/-- What stands for the file of a field: the id of the stored file, or `null`. -/
def storedFile (env : Environment) (nodeId : String) (field : FieldContext) : Json :=
  match env.answer? nodeId field with
  | some (.ok file) => .string file.id
  | _ => .null

/-- Why the file of a field cannot be stored, if it cannot. -/
def fetchError? (env : Environment) (nodeId : String) (field : FieldContext) : Option String :=
  (env.answer? nodeId field).bind errorOf?

end Environment

/-- The report of a rendition whose file cannot be stored. -/
def Rendition.report (rendition : Rendition) (cause : String) : Diagnostic :=
  ⟨rendition.path, .image, (FieldError.fetch cause).message⟩

/-! ### Sorts of events -/

/-- The report that an event makes. -/
def Event.diagnostic? : Event → Option Diagnostic
  | .degraded diagnostic => some diagnostic
  | .requested _ => none

/-- The request that an event makes. -/
def Event.request? : Event → Option FetchRequest
  | .degraded _ => none
  | .requested request => some request

theorem Traced.diagnostics_eq {α : Type} (a : Traced α) :
    a.diagnostics = a.events.filterMap Event.diagnostic? := by
  rw [diagnostics]
  congr 1

theorem Traced.requests_eq {α : Type} (a : Traced α) :
    a.requests = a.events.filterMap Event.request? := by
  rw [requests]
  congr 1

namespace Walk

variable {w : Walk} {visit : Visit} {rendition : Rendition} {members : List (String × Json)}
  {type : String}

/-! ### Stored files -/

/-- **The file of a field**: asked for if there is a store and a request, and stored if the store
answers with a file. -/
theorem localFile_eq (w : Walk) (path : Path) (field : FieldContext) :
    w.localFile path field =
      match w.env.fetchFile, w.env.request? w.nodeId field with
      | some fetch, some request =>
        match fetch request with
        | .ok file => { value := .string file.id, events := [.requested request] }
        | .error cause =>
          { value := .null, events := .requested request ::
            (w.degrade path .image (.fetch cause)).events }
      | _, _ => { value := .null } := by
  rw [localFile, Environment.request?]
  cases w.env.fetchFile with
  | none => rfl
  | some fetch =>
    cases field.value.getString? "url" with
    | none => rfl
    | some url =>
      by_cases haccepted : w.env.normalizesImage field = true
      · simp only [if_pos haccepted]
        cases fetch ⟨Text.percentDecode url, w.nodeId⟩ with
        | ok file => rfl
        | error cause => rfl
      · simp only [if_neg haccepted]

theorem localFile_value (w : Walk) (path : Path) (field : FieldContext) :
    (w.localFile path field).value = w.env.storedFile w.nodeId field := by
  rw [localFile_eq, Environment.storedFile, Environment.answer?]
  cases w.env.fetchFile with
  | none => rfl
  | some fetch =>
    cases w.env.request? w.nodeId field with
    | none => rfl
    | some request => cases hanswer : fetch request <;> simp [hanswer]

/-- A stored file is asked for once, if there is a store. -/
theorem localFile_requests (w : Walk) (path : Path) (field : FieldContext) :
    (w.localFile path field).requests =
      if w.env.fetchFile.isSome then (w.env.request? w.nodeId field).toList else [] := by
  rw [localFile_eq, Traced.requests_eq]
  cases w.env.fetchFile with
  | none => rfl
  | some fetch =>
    cases w.env.request? w.nodeId field with
    | none => rfl
    | some request =>
      cases hanswer : fetch request with
      | ok file => simp [hanswer, Event.request?]
      | error cause =>
        have hdegrade :
            (w.degrade path .image (.fetch cause)).events.filterMap Event.request? = [] := by
          cases hreports : w.env.reports <;> simp [degrade, hreports, Event.request?]
        simp [hanswer, hdegrade, Event.request?]

theorem localFile_diagnostics (w : Walk) (rendition : Rendition) :
    (w.localFile rendition.path (rendition.field w.document)).diagnostics =
      if w.env.reports then
        ((w.env.fetchError? w.nodeId (rendition.field w.document)).map rendition.report).toList
      else [] := by
  rw [localFile_eq, Traced.diagnostics_eq, Environment.fetchError?, Environment.answer?]
  cases w.env.fetchFile with
  | none => simp
  | some fetch =>
    cases w.env.request? w.nodeId (rendition.field w.document) with
    | none => simp
    | some request =>
      cases hanswer : fetch request with
      | ok file => simp [hanswer, Event.diagnostic?, errorOf?]
      | error cause =>
        cases hreports : w.env.reports with
        | false => simp [hanswer, degrade, hreports, Event.diagnostic?]
        | true =>
          simp only [hanswer, degrade, hreports, if_true, Option.map_some,
            Option.bind_some, errorOf?]
          rfl

/-! ### Environments that store alike -/

/-- An image depends on the store by its stored files only. -/
theorem image_congr (w : Walk) (env : Environment)
    (stored : ∀ field, env.storedFile w.nodeId field = w.env.storedFile w.nodeId field)
    (path : Path) (key : String) (members : List (String × Json)) :
    (Walk.image { w with env } path key members).value = (w.image path key members).value := by
  have hthumbnails : Walk.storedThumbnail { w with env } path key = w.storedThumbnail path key := by
    funext thumbnail
    simp only [storedThumbnail, thumbnailFile, localFile_value, stored]
  rw [image_value, image_value, localFile_value, localFile_value, hthumbnails, stored]
  rfl

/-- **Documents of environments** that give fields the same names, render alike and store alike are
the same. -/
theorem root_congr (w : Walk) (env : Environment) {raw : Json} (wf : raw.WellFormed)
    (type_eq : raw.getString? "type" = some type) (rename : env.renameField = w.env.renameField)
    (text : ∀ field, RichText.materialize env field = RichText.materialize w.env field)
    (link : ∀ field, Link.materialize env field = Link.materialize w.env field)
    (stored : ∀ field, env.storedFile w.nodeId field = w.env.storedFile w.nodeId field) :
    w.root type raw = Walk.root { w with env } type raw := by
  have hsame : SameBut (fun _ _ _ => False) raw w { w with env } := by
    refine sameBut_of_images w env rename text link fun location path key members _ _ => ?_
    rw [image_congr w env stored]
    exact .same _ _
  exact (equalBut_root hsame wf type_eq).eq fun _ _ _ => False.elim

/-! ### Renditions of a visit -/

/-- The renditions that are visited with a value: an image, and its thumbnails. -/
def renditionsOf (w : Walk) (visit : Visit) : List Rendition :=
  match w.paths.kindAt? visit.path, visit.value with
  | some .image, .object members =>
    ⟨visit.location, visit.path, visit.key, members⟩ ::
      (w.thumbnails visit.path members).map fun thumbnail =>
      ⟨visit.location ++ [Step.member thumbnail.1],
        visit.path ++ [Registry.thumbnailsSegment, thumbnail.1], visit.key, thumbnail.2⟩
  | _, _ => []

theorem mem_renditionsOf :
    rendition ∈ w.renditionsOf visit ↔
      ∃ members, w.paths.kindAt? visit.path = some .image ∧ visit.value = .object members ∧
        (rendition = ⟨visit.location, visit.path, visit.key, members⟩ ∨
          ∃ name inner, w.paths.thumbnail? visit.path members name = some inner ∧
            rendition = ⟨visit.location ++ [Step.member name],
              visit.path ++ [Registry.thumbnailsSegment, name], visit.key, inner⟩) := by
  rw [renditionsOf]
  constructor
  · intro h
    split at h
    · next members kind value =>
      refine ⟨members, kind, value, ?_⟩
      rcases List.mem_cons.mp h with rfl | h
      · exact .inl rfl
      · obtain ⟨⟨name, inner⟩, hthumbnail, rfl⟩ := List.mem_map.mp h
        exact .inr ⟨name, inner, mem_thumbnails.mp hthumbnail, rfl⟩
    · cases h
  · rintro ⟨members, kind, value, h⟩
    simp only [kind, value]
    rcases h with rfl | ⟨name, inner, hthumbnail, rfl⟩
    · exact List.mem_cons_self
    · exact List.mem_cons_of_mem _ (List.mem_map.mpr ⟨(name, inner),
        mem_thumbnails.mpr hthumbnail, rfl⟩)

/-- A rendition tells the place of the image that it is visited with. -/
theorem location_of_mem_renditionsOf (h : rendition ∈ w.renditionsOf visit) :
    (w.paths.kindAt? rendition.path = some .image ∧ rendition.location = visit.location) ∨
      w.paths.kindAt? rendition.path = some .imageThumbnail ∧
        ∃ name, rendition.location = visit.location ++ [Step.member name] := by
  obtain ⟨members, kind, -, rfl | ⟨name, inner, hthumbnail, rfl⟩⟩ := mem_renditionsOf.mp h
  · exact .inl ⟨kind, rfl⟩
  · refine .inr ⟨?_, name, rfl⟩
    rw [Registry.thumbnail?] at hthumbnail
    split at hthumbnail
    · next hkind => exact hkind
    · cases hthumbnail

/-- Images in different places have no rendition in common. -/
theorem disjoint_renditionsOf {other : Visit} (hne : visit.location ≠ other.location) :
    (w.renditionsOf visit).Disjoint (w.renditionsOf other) := by
  intro rendition hfirst hsecond
  rcases location_of_mem_renditionsOf hfirst with ⟨kind, hlocation⟩ | ⟨kind, name, hlocation⟩
  · rcases location_of_mem_renditionsOf hsecond with ⟨-, hother⟩ | ⟨hkind, -⟩
    · exact hne (hlocation.symm.trans hother)
    · cases kind.symm.trans hkind
  · rcases location_of_mem_renditionsOf hsecond with ⟨hkind, -⟩ | ⟨-, otherName, hother⟩
    · cases kind.symm.trans hkind
    · exact hne (List.append_inj_left' (hlocation.symm.trans hother) rfl)

theorem nodup_renditionsOf (w : Walk) (visit : Visit) : (w.renditionsOf visit).Nodup := by
  rw [renditionsOf]
  split
  · next members kind value =>
    have hnames : (w.thumbnails visit.path members).Pairwise fun a b => a.1 ≠ b.1 :=
      List.pairwise_map.mp (w.distinct_thumbnails visit.path members)
    refine List.nodup_cons.mpr ⟨?_, List.pairwise_map.mpr (hnames.imp fun hne heq => hne ?_)⟩
    · intro h
      obtain ⟨thumbnail, -, heq⟩ := List.mem_map.mp h
      have hlength := congrArg (fun rendition => rendition.location.length) heq
      simp at hlength
    · have hlocation := congrArg Rendition.location heq
      simpa using hlocation
  · exact List.nodup_nil

/-- The renditions of a document, image by image. -/
def documentRenditions (w : Walk) (type : String) (members : List (String × Json)) :
    List Rendition :=
  (w.paths.documentVisits type members).flatMap w.renditionsOf

/-- **The renditions of a document** are its images and their thumbnails. -/
theorem mem_documentRenditions (wf : (Json.object members).WellFormed)
    (type_eq : (Json.object members).getString? "type" = some type) :
    rendition ∈ w.documentRenditions type members ↔
      w.paths.Renders (.object members) rendition := by
  rw [documentRenditions, List.mem_flatMap]
  constructor
  · rintro ⟨⟨location, path, key, value⟩, hvisit, hrendition⟩
    have hwalked := (mem_documentVisits wf type_eq).mp hvisit
    obtain ⟨found, kind, rfl, rfl | ⟨name, inner, hthumbnail, rfl⟩⟩ :=
      mem_renditionsOf.mp hrendition
    · exact .image hwalked kind
    · exact .thumbnail hwalked kind hthumbnail
  · intro h
    cases h with
    | image walked kind =>
      exact ⟨⟨_, _, _, _⟩, (mem_documentVisits wf type_eq).mpr walked,
        mem_renditionsOf.mpr ⟨_, kind, rfl, .inl rfl⟩⟩
    | thumbnail walked kind thumbnail =>
      exact ⟨⟨_, _, _, _⟩, (mem_documentVisits wf type_eq).mpr walked,
        mem_renditionsOf.mpr ⟨_, kind, rfl, .inr ⟨_, _, thumbnail, rfl⟩⟩⟩

theorem nodup_documentRenditions (w : Walk) (type : String)
    (wf : (Json.object members).WellFormed) :
    (w.documentRenditions type members).Nodup := by
  rw [documentRenditions, List.nodup_flatMap]
  refine ⟨fun visit _ => w.nodup_renditionsOf visit, ?_⟩
  exact (pairwise_documentVisits w.paths type wf).imp fun hne => disjoint_renditionsOf hne

/-! ### Events of a visit -/

/-- What happens to a rich text or a link that fails: it is reported, if reports are wanted. -/
def faultEvents (w : Walk) (visit : Visit) : List Event :=
  if w.env.reports then
    ((w.env.failure? w.paths w.document visit).map visit.report).toList.map Event.degraded
  else []

theorem orDegrade_events (w : Walk) (path : Path) (kind : PathKind)
    (result : Except FieldError Json) :
    (w.orDegrade path kind result).events =
      if w.env.reports then
        ((errorOf? result).map fun e => ⟨path, kind, e.message⟩).toList.map Event.degraded
      else [] := by
  cases result with
  | ok value => simp [orDegrade, errorOf?]
  | error e => simp [orDegrade, degrade, errorOf?]

/-- What happens to an image: its own file and those of its thumbnails are stored. -/
theorem image_events (w : Walk) (path : Path) (key : String) (members : List (String × Json)) :
    (w.image path key members).events =
      (w.localFile path ⟨key, .object members, w.document⟩).events ++
        (w.thumbnails path members).flatMap fun thumbnail =>
          (w.thumbnailFile path key thumbnail).events := by
  rw [image, Traced.both, thumbnailFiles_events]

/-- **What happens to a visited value** itself: it fails, or files are asked for. -/
theorem ownEvents_eq (w : Walk) (visit : Visit) :
    w.ownEvents visit = w.faultEvents visit ++ (w.renditionsOf visit).flatMap fun rendition =>
      (w.localFile rendition.path (rendition.field w.document)).events := by
  obtain ⟨location, path, key, value⟩ := visit
  by_cases hnull : value = .null
  · subst hnull
    cases hkind : w.paths.kindAt? path <;>
      simp [ownEvents, faultEvents, Environment.failure?, Environment.fault?, renditionsOf, hkind]
  have hown : w.ownEvents ⟨location, path, key, value⟩ = (w.leaf path key value).events := by
    cases value with
    | null => exact absurd rfl hnull
    | _ => rfl
  rw [hown]
  cases hkind : w.paths.kindAt? path with
  | none => simp [leaf, hkind, faultEvents, Environment.failure?, renditionsOf]
  | some kind =>
    cases kind with
    | structuredText =>
      simp [leaf, hkind, orDegrade_events, faultEvents, Environment.failure?, Environment.fault?,
        renditionsOf, hnull, Visit.report, Function.comp_def]
    | link =>
      simp [leaf, hkind, orDegrade_events, faultEvents, Environment.failure?, Environment.fault?,
        renditionsOf, hnull, Visit.report, Function.comp_def]
    | image =>
      have hfault : w.faultEvents ⟨location, path, key, value⟩ = [] := by
        simp [faultEvents, Environment.failure?, Environment.fault?, hkind]
      rw [hfault, List.nil_append]
      cases value with
      | object members =>
        simp only [leaf, hkind, renditionsOf, image_events, List.flatMap_cons, List.flatMap_map]
        rfl
      | _ => simp [leaf, hkind, renditionsOf]
    | _ => simp [leaf, hkind, faultEvents, Environment.failure?, Environment.fault?, renditionsOf]

/-! ### Documents -/

/-- **What a document asks for**: if there is a store, one request for each rendition that is to be
stored. -/
theorem requests_document (w : Walk) (type : String) (members : List (String × Json)) :
    (w.record [type] members).requests =
      if w.env.fetchFile.isSome then
        (w.documentRenditions type members).filterMap fun rendition =>
          w.env.request? w.nodeId (rendition.field w.document)
      else [] := by
  have hvisit : ∀ visit, (w.ownEvents visit).filterMap Event.request? =
      (w.renditionsOf visit).flatMap fun rendition =>
        (w.localFile rendition.path (rendition.field w.document)).requests := by
    intro visit
    have hfault : (w.faultEvents visit).filterMap Event.request? = [] := by
      rw [faultEvents]
      split
      · cases w.env.failure? w.paths w.document visit <;> rfl
      · rfl
    rw [ownEvents_eq, List.filterMap_append, hfault, List.nil_append, List.filterMap_flatMap]
    simp only [← Traced.requests_eq]
  rw [Traced.requests_eq, events_document, List.filterMap_flatMap]
  simp only [hvisit, localFile_requests, documentRenditions]
  rw [← List.flatMap_assoc]
  split
  · rw [List.filterMap_eq_flatMap_toList]
  · simp

/-- **What a document reports**, in some order: one report for each rich text and each link that
fails, and one for each rendition whose file cannot be stored. -/
theorem diagnostics_document (w : Walk) (type : String) (members : List (String × Json))
    (reports : w.env.reports = true) :
    (w.record [type] members).diagnostics.Perm
      (((w.paths.documentVisits type members).filterMap fun visit =>
          (w.env.failure? w.paths w.document visit).map visit.report) ++
        (w.documentRenditions type members).filterMap fun rendition =>
          (w.env.fetchError? w.nodeId (rendition.field w.document)).map rendition.report) := by
  have hvisit : ∀ visit : Visit, (w.ownEvents visit).filterMap Event.diagnostic? =
      ((w.env.failure? w.paths w.document visit).map visit.report).toList ++
        (w.renditionsOf visit).flatMap fun rendition =>
          ((w.env.fetchError? w.nodeId (rendition.field w.document)).map
            rendition.report).toList := by
    intro visit
    have hfault : (w.faultEvents visit).filterMap Event.diagnostic? =
        ((w.env.failure? w.paths w.document visit).map visit.report).toList := by
      rw [faultEvents, if_pos reports]
      cases w.env.failure? w.paths w.document visit <;> rfl
    rw [ownEvents_eq, List.filterMap_append, hfault, List.filterMap_flatMap]
    simp only [← Traced.diagnostics_eq, localFile_diagnostics, reports, ↓reduceIte]
  rw [Traced.diagnostics_eq, events_document, List.filterMap_flatMap]
  simp only [hvisit]
  rw [List.filterMap_eq_flatMap_toList, List.filterMap_eq_flatMap_toList, documentRenditions,
    List.flatMap_assoc]
  exact (List.flatMap_append_perm _ _ _).symm

/-- Nothing is reported where no reports are wanted. -/
theorem diagnostics_document_of_silent (w : Walk) (type : String) (members : List (String × Json))
    (silent : w.env.reports = false) : (w.record [type] members).diagnostics = [] := by
  have hvisit : ∀ visit, (w.ownEvents visit).filterMap Event.diagnostic? = [] := by
    intro visit
    rw [ownEvents_eq, List.filterMap_append, List.filterMap_flatMap, faultEvents]
    simp [← Traced.diagnostics_eq, localFile_diagnostics, silent]
  rw [Traced.diagnostics_eq, events_document, List.filterMap_flatMap]
  simp [hvisit]

end Walk

/-- An object with a type is materialized by the walk of its members: its document, its reports and
its requests. -/
theorem materialize_object (env : Environment) (registry : Registry) {type : String}
    {members : List (String × Json)}
    (type_eq : (Json.object members).getString? "type" = some type) :
    ∃ result, materialize env registry (.object members) = .ok result ∧
      result.nodeId = env.nodeId type ((Json.object members).getText "id") ∧
      result.document = Walk.root ⟨env, registry, .object members,
        result.nodeId⟩ type (.object members) ∧
      result.diagnostics =
        (Walk.record ⟨env, registry, .object members, result.nodeId⟩ [type] members).diagnostics ∧
      result.requests = (Walk.record ⟨env, registry, .object members,
        result.nodeId⟩ [type] members).requests := by
  have htype : (Keyed.get? "type" members).bind Json.asString? = some type := type_eq
  simp only [materialize, htype]
  exact ⟨_, rfl, rfl, rfl, rfl, rfl⟩

end ContentGraph
