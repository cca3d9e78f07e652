import ContentGraph.Proofs.Materialization.Events
import ContentGraph.Proofs.RichText.Failure
import Mathlib.Data.Finset.Defs
import Mathlib.Data.Multiset.MapFold

/-!
# What is reported

Where reports are wanted, every rich text and every link that fails is reported once, and so is
every image or thumbnail whose file cannot be stored; nothing else is.  A field is `null` exactly
when it was, or when its failure is reported, and reporting changes nothing in the document.

* `Environment.Fault` — why a rich text or a link fails, with `fault?_eq_some_iff`;
* `Registry.Fails`, `Registry.FailsToStore` — the failures in a raw document;
* `Walk.value_eq_null_iff` — what becomes `null`;
* `materialize_reports_failures` — reports are sound and complete.
-/

namespace ContentGraph

/-! ### Why fields fail -/

/-- Why a rich text or a link cannot be materialized: it has another shape, or a collaborator fails
on it. -/
inductive Environment.Fault (env : Environment) (field : FieldContext) :
    PathKind → FieldError → Prop
  /-- A rich text that is no array. -/
  | noText (shape : field.value.asArray? = none) :
      Fault env field .structuredText
        (.invalidValue "array of rich text blocks" field.value.kindName)
  /-- A rich text whose markup fails, since the resolver fails on a link or the serializer on an
  element: it is the first question of the text that fails. -/
  | text {blocks : List Json} {e : FieldError} (value : field.value = .array blocks)
      (markup : RichText.asHtml field env.resolveLink env.serializeHtml blocks = .error e)
      (cause : RichText.Renderer.Fails ⟨field, env.resolveLink, env.serializeHtml⟩ e) :
      Fault env field .structuredText e
  /-- A link that is no object. -/
  | noLink (shape : field.value.isObject = false) :
      Fault env field .link (.invalidValue "link object" field.value.kindName)
  /-- A document link on which the resolver fails. -/
  | link {cause : String} (document : Link.isDocumentLink field.value = true)
      (failed : env.resolveLink field field.value = .error cause) :
      Fault env field .link (.linkResolver cause)

variable {env : Environment} {registry : Registry} {raw : Json} {field : FieldContext}
  {e : FieldError}
  {kind : PathKind}

theorem text_eq_error_iff :
    RichText.materialize env field = .error e ↔ env.Fault field .structuredText e := by
  obtain ⟨key, value, node⟩ := field
  constructor
  · intro h
    cases value with
    | array blocks =>
      simp only [RichText.materialize] at h
      split at h
      · next markup =>
        cases h
        exact .text rfl markup (RichText.fails_of_asHtml markup)
      · cases h
    | _ =>
      cases h
      exact .noText rfl
  · intro h
    cases h with
    | noText shape =>
      cases value with
      | array blocks => cases shape
      | _ => rfl
    | text value markup cause =>
      cases value
      simp only [RichText.materialize, markup]

theorem link_eq_error_iff : Link.materialize env field = .error e ↔ env.Fault field .link e := by
  obtain ⟨key, value, node⟩ := field
  constructor
  · intro h
    cases value with
    | object members =>
      simp only [Link.materialize, Link.url] at h
      by_cases document : Link.isDocumentLink (.object members) = true
      · cases hresolve : env.resolveLink ⟨key, .object members, node⟩ (.object members) with
        | ok address =>
          rw [if_pos document, hresolve] at h
          cases h
        | error cause =>
          rw [if_pos document, hresolve] at h
          cases h
          exact .link document hresolve
      · rw [if_neg document] at h
        cases h
    | _ =>
      cases h
      exact .noLink rfl
  · intro h
    cases h with
    | noLink shape =>
      cases value with
      | object members => cases shape
      | _ => rfl
    | link document failed =>
      cases value with
      | object members =>
        simp only [Link.materialize, Link.url, document, failed, ↓reduceIte, Except.mapError]
      | _ => cases document

/-- **Which fields fail**: rich texts and links that are there and have a fault. -/
theorem fault?_eq_some_iff :
    env.fault? kind field = some e ↔ field.value ≠ .null ∧ env.Fault field kind e := by
  unfold Environment.fault?
  by_cases hnull : field.value = .null
  · simp [hnull]
  · rw [if_neg hnull]
    cases kind with
    | structuredText => simp [errorOf?_eq_some_iff, text_eq_error_iff, hnull]
    | link => simp [errorOf?_eq_some_iff, link_eq_error_iff, hnull]
    | _ =>
      constructor
      · intro h
        cases h
      · rintro ⟨-, h⟩
        cases h

/-! ### Failures in a document -/

/-- A walked rich text or link fails. -/
def Registry.Fails (registry : Registry) (env : Environment) (raw : Json) (visit : Visit)
    (kind : PathKind) (e : FieldError) : Prop :=
  registry.Walked raw visit.location visit.path visit.key visit.value ∧
    registry.kindAt? visit.path = some kind ∧ visit.value ≠ .null ∧
    env.Fault ⟨visit.key, visit.value, raw⟩ kind e

/-- The file of an image or of a thumbnail is asked for and cannot be stored. -/
def Registry.FailsToStore (registry : Registry) (env : Environment) (nodeId : String) (raw : Json)
    (rendition : Rendition) (cause : String) : Prop :=
  registry.Renders raw rendition ∧ ∃ fetch request, env.fetchFile = some fetch ∧
    env.request? nodeId (rendition.field raw) = some request ∧ fetch request = .error cause

theorem failure?_eq_some_iff {visit : Visit} :
    env.failure? registry raw visit = some (kind, e) ↔
      registry.kindAt? visit.path = some kind ∧ visit.value ≠ .null ∧
        env.Fault ⟨visit.key, visit.value, raw⟩ kind e := by
  rw [Environment.failure?, Option.bind_eq_some_iff]
  constructor
  · rintro ⟨found, hkind, h⟩
    obtain ⟨_, hfault, heq⟩ := Option.map_eq_some_iff.mp h
    cases heq
    exact ⟨hkind, fault?_eq_some_iff.mp hfault⟩
  · rintro ⟨hkind, hnull, hfault⟩
    have h : env.fault? kind ⟨visit.key, visit.value, raw⟩ = some e :=
      fault?_eq_some_iff.mpr ⟨hnull, hfault⟩
    exact ⟨kind, hkind, by rw [h]; rfl⟩

theorem fetchError?_eq_some_iff {nodeId cause : String} :
    env.fetchError? nodeId field = some cause ↔
      ∃ fetch request, env.fetchFile = some fetch ∧ env.request? nodeId field = some request ∧
        fetch request = .error cause := by
  rw [Environment.fetchError?, Environment.answer?]
  cases hstore : env.fetchFile with
  | none => simp
  | some fetch =>
    cases hrequest : env.request? nodeId field with
    | none => simp
    | some request => simp [errorOf?_eq_some_iff]

/-- What a partial function makes of a list without repetition, as a finite set of elements and
their values. -/
theorem exists_finset_filterMap {α β γ : Type} {l : List α} (nodup : l.Nodup) (f : α → Option β)
    (g : α → β → γ) :
    ∃ tagged : Finset (α × β), (∀ a b, (a, b) ∈ tagged ↔ a ∈ l ∧ f a = some b) ∧
      ((l.filterMap fun a => (f a).map (g a) : List γ) : Multiset γ) =
        tagged.val.map fun entry => g entry.1 entry.2 := by
  let entries : List (α × β) := l.filterMap fun a => (f a).map fun b => (a, b)
  have hmem : ∀ a b, (a, b) ∈ entries ↔ a ∈ l ∧ f a = some b := by
    intro a b
    simp [entries, List.mem_filterMap]
  have hnodup : entries.Nodup := by
    refine nodup.filterMap ?_
    intro a a' entry ha ha'
    obtain ⟨_, -, rfl⟩ := Option.map_eq_some_iff.mp (Option.mem_def.mp ha)
    obtain ⟨_, -, heq⟩ := Option.map_eq_some_iff.mp (Option.mem_def.mp ha')
    exact (congrArg Prod.fst heq).symm
  refine ⟨⟨(entries : Multiset (α × β)), hnodup⟩, hmem, ?_⟩
  have hmap : (entries.map fun entry => g entry.1 entry.2) = l.filterMap fun a =>
      (f a).map (g a) := by
    simp only [entries, List.map_filterMap, Option.map_map]
    rfl
  rw [← hmap]
  rfl

/-! ### What becomes `null` -/

namespace Walk

variable {w : Walk} {path : Path} {key : String} {value : Json}

theorem orDegrade_eq_null_iff {result : Except FieldError Json}
    (there : ∀ out, result = .ok out → out ≠ .null) :
    (w.orDegrade path kind result).value = .null ↔ ∃ e, result = .error e := by
  cases result with
  | ok out => simp [orDegrade, there out rfl]
  | error e => simp [orDegrade, degrade]

theorem text_ne_null {out : Json} (h : RichText.materialize env field = .ok out) : out ≠ .null := by
  rw [RichText.materialize] at h
  split at h
  · split at h
    · cases h
    · cases h
      simp
  · cases h

theorem link_ne_null {out : Json} (h : Link.materialize env field = .ok out) : out ≠ .null := by
  rw [Link.materialize] at h
  split at h
  · split at h
    · cases h
    · cases h
      simp
  · cases h

/-- Values of other kinds have no fault. -/
theorem not_exists_fault (hkind : w.paths.kindAt? path = some kind) (text : kind ≠ .structuredText)
    (link : kind ≠ .link) (key : String) (value : Json) :
    ¬∃ found e, w.paths.kindAt? path = some found ∧
      w.env.Fault ⟨key, value, w.document⟩ found e := by
  rintro ⟨found, e, hfound, hfault⟩
  cases hkind.symm.trans hfound
  cases hfault with
  | noText => exact text rfl
  | text => exact text rfl
  | noLink => exact link rfl
  | link => exact link rfl

/-- A single field that is there becomes `null` when it fails. -/
theorem leaf_eq_null_iff (hnull : value ≠ .null) :
    (w.leaf path key value).value = .null ↔
      ∃ kind e, w.paths.kindAt? path = some kind ∧ w.env.Fault ⟨key, value, w.document⟩ kind e := by
  obtain hkind | ⟨kind, hkind⟩ := Option.eq_none_or_eq_some (w.paths.kindAt? path)
  · simp [leaf, hkind, hnull]
  cases kind with
  | structuredText =>
    simp [leaf, hkind, orDegrade_eq_null_iff fun _ => text_ne_null, text_eq_error_iff]
  | link => simp [leaf, hkind, orDegrade_eq_null_iff fun _ => link_ne_null, link_eq_error_iff]
  | image =>
    refine iff_of_false ?_ (not_exists_fault hkind (by decide) (by decide) key value)
    cases value with
    | object members => simp [leaf, hkind, image_value]
    | _ => simp [leaf, hkind] at hnull ⊢
  | _ =>
    have hcopied : (w.leaf path key value).value = value := by simp only [leaf, hkind]
    rw [hcopied]
    exact iff_of_false hnull (not_exists_fault hkind (by decide) (by decide) key value)

/-- **What becomes `null`**: what was, and what fails. -/
theorem value_eq_null_iff (w : Walk) (path : Path) (key : String) (value : Json) :
    (w.value path key value).value = .null ↔
      value = .null ∨ ∃ kind e, w.paths.kindAt? path = some kind ∧ value ≠ .null ∧
        w.env.Fault ⟨key, value, w.document⟩ kind e := by
  by_cases hnull : value = .null
  · subst hnull
    simp [Walk.value]
  have hleaf : (w.leaf path key value).value = .null ↔
      ∃ kind e, w.paths.kindAt? path = some kind ∧ w.env.Fault ⟨key, value, w.document⟩ kind e :=
    leaf_eq_null_iff hnull
  simp only [hnull, false_or, ne_eq, not_false_eq_true, true_and]
  -- records, groups and slices become objects and arrays
  cases value with
  | null => exact absurd rfl hnull
  | object members =>
    rw [Walk.value]
    split
    · next hkind =>
      exact iff_of_false (by simp [Traced.map])
        (not_exists_fault hkind (by decide) (by decide) _ _)
    · exact hleaf
  | array elements =>
    rw [Walk.value]
    split
    · next hkind =>
      exact iff_of_false (by simp [Traced.map])
        (not_exists_fault hkind (by decide) (by decide) _ _)
    · next hkind =>
      exact iff_of_false (by simp [Traced.map])
        (not_exists_fault hkind (by decide) (by decide) _ _)
    · exact hleaf
  | _ => exact hleaf

end Walk

/-! ### Documents -/

/-- **Reports are sound and complete.**  Along any registry a well-formed document with a type is
materialized.  Where reports are wanted, exactly the rich texts and links that fail and the images
and thumbnails whose files cannot be stored are reported, each once.  A walked value becomes `null`
exactly when it was or when its failure is reported, and if it is shown this is what stands in its
place.  The document does not depend on whether reports are wanted. -/
theorem materialize_reports_failures {type : String} (wf : raw.WellFormed)
    (type_eq : raw.getString? "type" = some type) (reports : env.reports = true) :
    ∃ (result : Materialized) (failures : Finset (Visit × PathKind × FieldError))
        (unstored : Finset (Rendition × String)),
      materialize env registry raw = .ok result ∧
      (∀ visit kind e, (visit, kind, e) ∈ failures ↔ registry.Fails env raw visit kind e) ∧
      (∀ rendition cause, (rendition, cause) ∈ unstored ↔
        registry.FailsToStore env result.nodeId raw rendition cause) ∧
      (result.diagnostics : Multiset Diagnostic) =
        (failures.val.map fun failure => failure.1.report failure.2) +
          unstored.val.map (fun failure => failure.1.report failure.2) ∧
      (∀ location path key value, registry.Walked raw location path key value →
        ∃ out, ((Walk.mk env registry raw result.nodeId).value path key value).value = out ∧
          (out = .null ↔
            value = .null ∨ ∃ kind e, (⟨location, path, key, value⟩, kind, e) ∈ failures) ∧
          (registry.Shown env.renameField raw location path key value →
            result.document.at? (location.exposed env.renameField) = some out)) ∧
      ∃ silent, materialize { env with reports := false } registry raw = .ok silent ∧
        silent.nodeId = result.nodeId ∧ silent.document = result.document ∧
        silent.diagnostics = [] := by
  cases raw with
  | object members =>
    obtain ⟨result, hresult, hnode, hdocument, hdiagnostics, -⟩ :=
      materialize_object env registry type_eq
    obtain ⟨silent, hsilent, hsilentNode, hsilentDocument, hsilentDiagnostics, -⟩ :=
      materialize_object { env with reports := false } registry type_eq
    have hsameNode : silent.nodeId = result.nodeId := hsilentNode.trans hnode.symm
    let w : Walk := ⟨env, registry, .object members, result.nodeId⟩
    obtain ⟨failures, hfailures, hreported⟩ := exists_finset_filterMap
      (nodup_documentVisits registry type wf) (env.failure? registry w.document) Visit.report
    obtain ⟨unstored, hunstored, hfetched⟩ :=
      exists_finset_filterMap (w.nodup_documentRenditions type wf)
      (fun rendition => env.fetchError? result.nodeId (rendition.field w.document)) Rendition.report
    have hfails : ∀ visit kind e,
        (visit, kind, e) ∈ failures ↔ registry.Fails env (.object members) visit kind e := by
      intro visit kind e
      exact (hfailures _ _).trans (and_congr (mem_documentVisits wf type_eq) failure?_eq_some_iff)
    refine ⟨result, failures, unstored, hresult, hfails, ?_, ?_, ?_, silent, hsilent,
      hsameNode, ?_, ?_⟩
    · intro rendition cause
      exact (hunstored _ _).trans (and_congr (Walk.mem_documentRenditions wf type_eq)
        fetchError?_eq_some_iff)
    · have hperm := w.diagnostics_document type members reports
      rw [hdiagnostics, ← hreported, ← hfetched]
      exact Multiset.coe_eq_coe.mpr hperm
    · intro location path key value walked
      refine ⟨_, rfl, ?_, ?_⟩
      · have hnull := w.value_eq_null_iff path key value
        simp only [hfails, Registry.Fails, walked, true_and]
        exact hnull
      · intro shown
        rw [hdocument]
        exact Walk.at?_of_shown (w := w) shown type_eq
    · rw [hsilentDocument, hdocument, hsameNode]
      exact (w.root_congr { env with reports := false } wf type_eq rfl (fun _ => rfl)
        (fun _ => rfl) fun _ => rfl).symm
    · rw [hsilentDiagnostics]
      exact Walk.diagnostics_document_of_silent _ type members rfl
  | _ => cases type_eq

/-- Essays have an image with a thumbnail, a rich text, and slices of quotes whose items name an
author. -/
def essayRegistry : Registry where
  entries :=
    [⟨["essay", "data", "hero"], "ImageType", .image⟩,
      ⟨["essay", "data", "hero", "thumbnails", "small"], "ImageThumbnailType", .imageThumbnail⟩,
      ⟨["essay", "data", "text"], "StructuredTextType", .structuredText⟩,
      ⟨["essay", "data", "body", "quote", "items", "author"], "LinkType", .link⟩,
      ⟨["essay", "data", "body"], "[EssayBodySlicesType]", .slices⟩,
      ⟨["essay", "data"], "EssayDataType", .data⟩]
  distinct := by decide

/-- A link to a document. -/
def essayLink : Json := .object [("link_type", .string "Document")]

/-- A paragraph with such a link. -/
def essayBlock : Json :=
  .object
    [("type", .string "paragraph"), ("text", .string "see"),
      ("spans", .array
        [.object
          [("start", .number (.integer 0)), ("end", .number (.integer 3)),
            ("type", .string "hyperlink"), ("data", essayLink)]])]

/-- The slices of the essay: a quote of an author, who is named by such a link. -/
def essayQuote : Json :=
  .object [("slice_type", .string "quote"), ("items", .array [.object [("author", essayLink)]])]

/-- An essay with such a link in its text and with an author of its quote. -/
def essay : Json :=
  .object
    [("id", .string "x1"), ("type", .string "essay"),
      ("data", .object
        [("hero", .object
          [("url", .string "/hero.png"), ("small", .object [("url", .string "/small.png")])]),
          ("text", .array [essayBlock]), ("body", .array [essayQuote])])]

/-- Nothing in the essay can be resolved, and one of its thumbnails cannot be stored: the text, the
author and the thumbnail are reported, and the two fields are `null`. -/
theorem materialize_reports_failures_essay :
    let env : Environment :=
      { nodeId := fun type id => type ++ id
        resolveLink := fun _ _ => .error "no route"
        normalizesImage := fun _ => true
        reports := true
        fetchFile := some fun request =>
          if request.url = "/small.png" then .error "no space left"
          else .ok ⟨"f1", "page", request.url, "f1", 1⟩ }
    let text : Location := [.member "data", .field "text"]
    let author : Location :=
      [.member "data", .field "body", .element 0, .member "items", .element 0, .field "author"]
    essay.WellFormed ∧ essay.getString? "type" = some "essay" ∧ env.reports = true ∧
      ∃ result, materialize env essayRegistry essay = .ok result ∧
        result.document.at? text = some .null ∧ result.document.at? author = some .null ∧
        ⟨["essay", "data", "text"], .structuredText, "link resolver failed: no route"⟩ ∈
          result.diagnostics ∧
        ⟨["essay", "data", "body", "quote", "items", "author"], .link,
          "link resolver failed: no route"⟩ ∈
          result.diagnostics ∧
        ⟨["essay", "data", "hero", "thumbnails", "small"], .image,
            "remote file fetch failed: no space left"⟩ ∈ result.diagnostics := by
  intro env text author
  have wf : essay.WellFormed := by
    simp [essay, essayBlock, essayQuote, essayLink, Json.WellFormed, Json.WellFormedMembers,
      Json.WellFormedElements, Keyed.Distinct, Keyed.keys]
  obtain ⟨result, failures, unstored, hresult, hfailures, hunstored, hdiagnostics, hvalues, -⟩ :=
    @materialize_reports_failures env essayRegistry _ _ wf rfl rfl
  have hdata : essayRegistry.kindAt? ["essay", "data"] = some .data := by decide
  have hbody : essayRegistry.kindAt? ["essay", "data", "body"] = some .slices := by decide
  -- the three places
  have htext :
      essayRegistry.Walked essay text ["essay", "data", "text"] "text" (.array [essayBlock]) :=
    .field (.root rfl rfl) (.data hdata) rfl
  have hslices : essayRegistry.Walked essay [.member "data", .field "body"] ["essay", "data",
      "body"] "body" _ :=
    .field (.root rfl rfl) (.data hdata) rfl
  have hauthor : essayRegistry.Walked essay author ["essay", "data", "body", "quote",
      "items", "author"]
      "author" essayLink :=
    .field hslices (.item hbody rfl rfl rfl rfl) rfl
  have hhero : essayRegistry.Walked essay [.member "data", .field "hero"] ["essay", "data",
      "hero"] "hero" _ :=
    .field (.root rfl rfl) (.data hdata) rfl
  -- the three failures: the text fails as the first question of its paragraph does
  have hunrendered : (⟨text, ["essay", "data", "text"], "text", .array [essayBlock]⟩,
      .structuredText, .linkResolver "no route") ∈ failures := by
    have hfails :
        RichText.asHtml ⟨"text", .array [essayBlock], essay⟩ env.resolveLink env.serializeHtml
        [essayBlock] = .error (.linkResolver "no route") :=
      RichText.asHtml_eq_error_iff.mpr (by decide +kernel)
    exact (hfailures _ _ _).mpr
      ⟨htext, by decide, by simp, .text rfl hfails (RichText.fails_of_asHtml hfails)⟩
  have hunresolved :
      (⟨author, ["essay", "data", "body", "quote", "items", "author"], "author", essayLink⟩,
      .link, .linkResolver "no route") ∈ failures :=
    (hfailures _ _ _).mpr ⟨hauthor, by decide, by simp [essayLink], .link rfl rfl⟩
  have hsmall : (⟨[.member "data", .field "hero", .member "small"],
      ["essay", "data", "hero", "thumbnails", "small"], "hero", [("url", .string "/small.png")]⟩,
      "no space left") ∈ unstored := by
    have hthumbnail : essayRegistry.Renders essay ⟨[.member "data", .field "hero", .member "small"],
        ["essay", "data", "hero", "thumbnails", "small"], "hero",
        [("url", .string "/small.png")]⟩ :=
      .thumbnail hhero (by decide) (by decide)
    have hurl : Text.percentDecode "/small.png" = "/small.png" := by decide +kernel
    refine (hunstored _ _).mpr ⟨hthumbnail, _, ⟨"/small.png", result.nodeId⟩, rfl, ?_, if_pos rfl⟩
    simp [Environment.request?, Rendition.field, Json.getString?, Json.get?, Keyed.get?,
      Json.asString?, env, hurl]
  have apart : essayRegistry.KeepsApart env.renameField essay :=
    essayRegistry.keepsApart_of_injective wf fun a b h => h
  -- a failed field that is shown is null
  have hslot : ∀ {location : Location} {path : Path} {key : String} {value : Json} {kind : PathKind}
      {e : FieldError}, essayRegistry.Walked essay location path key value →
      (⟨location, path, key, value⟩, kind, e) ∈ failures →
      result.document.at? (location.exposed env.renameField) = some .null := by
    intro location path key value kind e hwalked hfailure
    obtain ⟨out, -, hnull, hplace⟩ := hvalues _ _ _ _ hwalked
    rw [hplace (hwalked.shown (apart.to _)), hnull.mpr (.inr ⟨_, _, hfailure⟩)]
  have hreported : ∀ {failure : Visit × PathKind × FieldError}, failure ∈ failures →
      failure.1.report failure.2 ∈ result.diagnostics := by
    intro failure hfailure
    rw [← Multiset.mem_coe, hdiagnostics, Multiset.mem_add]
    exact .inl (Multiset.mem_map.mpr ⟨_, hfailure, rfl⟩)
  refine ⟨wf, rfl, rfl, result, hresult, hslot htext hunrendered, hslot hauthor hunresolved,
    hreported hunrendered, hreported hunresolved, ?_⟩
  rw [← Multiset.mem_coe, hdiagnostics, Multiset.mem_add]
  exact .inr (Multiset.mem_map.mpr ⟨_, hsmall, rfl⟩)

end ContentGraph
