import ContentGraph.Proofs.Settings.Discovery
import ContentGraph.Proofs.Settings.Sources
import Mathlib.Data.List.Infix

/-!
# Where each setting comes from

Up to ten sources write settings: the defaults, four files of the user, four of the project, and the
environment.  They are laid over each other as tables, and only what results is read.  Seen from a
single setting this is simple: it has the value of the last source that sets it, whatever that
source says about its siblings, and values that are covered are not looked at.  The style of field
names is the one setting that may be written as a table, and there layering shows: a table over a
table is merged with it.

* `Leaf`, `Leaf.value?`, `Leaf.winner?` — single settings, what a source sets them to, and the value
  that counts;
* `value?_foldl_overlayTable` — a setting of layered tables, from its values in the layers;
* `ofTable?_eq_some_iff`, `ofTable?_layered` — all settings are read exactly when each of them is;
* `value?_of_variable`, `value?_of_no_variable` — what the environment sets;
* `load_by_precedence` — the settings that are loaded;
* `style_tables_merge` — two tables that name styles.
-/

namespace ContentGraph.Settings

open Keyed (IsMapOf)

/-! ### Settings that are read on their own -/

/-- A setting that is read on its own. -/
inductive Leaf
  | typePrefix | fieldNames | normalize | cacheDir | maxConcurrentDownloads
  deriving DecidableEq, Repr

namespace Leaf

/-- The keys under which a setting stands in a table. -/
def path : Leaf → List String
  | .typePrefix => ["type_prefix"]
  | .fieldNames => ["field_names"]
  | .normalize => ["images", "normalize"]
  | .cacheDir => ["images", "cache_dir"]
  | .maxConcurrentDownloads => ["images", "max_concurrent_downloads"]

/-- What a table sets a setting to, if it does. -/
def value? (leaf : Leaf) (table : Table) : Option Value := (Value.table table).at? leaf.path

/-- The setting has the value that is written. -/
def Holds (leaf : Leaf) (settings : Settings) (value : Value) : Prop :=
  match leaf with
  | .typePrefix => value.text? = some settings.typePrefix
  | .fieldNames => value.style? = some settings.fieldNames
  | .normalize => value.flag? = some settings.images.normalize
  | .cacheDir => value.text? = some settings.images.cacheDir
  | .maxConcurrentDownloads => value.count? = some settings.images.maxConcurrentDownloads

/-- The value that counts of those that sources set a setting to: the last one.  Styles may be
written as tables, and a table is laid over what the earlier sources show when that is a table
too. -/
def winner? (leaf : Leaf) (sources : List Table) : Option Value :=
  match leaf with
  | .fieldNames => shown? (sources.filterMap leaf.value?).reverse
  | _ => (sources.filterMap leaf.value?).getLast?

/-- Nothing is set by an empty table. -/
theorem value?_nil (leaf : Leaf) : leaf.value? [] = none := by
  cases leaf <;> rfl

end Leaf

open Leaf (value?_nil)

/-- Images, when they are there, are a table of settings. -/
def NestsImages (table : Table) : Prop :=
  ∀ value, Keyed.get? "images" table = some value → ∃ entries, value = .table entries

/-- All settings have the values that count among those of the sources. -/
def Chosen (sources : List Table) (settings : Settings) : Prop :=
  ∀ leaf : Leaf, ∃ value, leaf.winner? sources = some value ∧ leaf.Holds settings value

/-! ### Layers -/

theorem leads_of_nestsImages {table : Table} (h : NestsImages table) (leaf : Leaf) :
    (Value.table table).Leads leaf.path := by
  have himages : ∀ key, (Value.table table).Leads ["images", key] := by
    intro key
    rw [Value.Leads]
    intro value hvalue
    obtain ⟨entries, rfl⟩ := h value hvalue
    exact leads_singleton key entries
  cases leaf with
  | typePrefix => exact leads_singleton _ _
  | fieldNames => exact leads_singleton _ _
  | normalize => exact himages _
  | cacheDir => exact himages _
  | maxConcurrentDownloads => exact himages _

theorem nestsImages_of_leads {table : Table} (h : (Value.table table).Leads Leaf.normalize.path) :
    NestsImages table := by
  intro value hvalue
  obtain ⟨entries, rfl, -⟩ := leads_cons_iff.mp (h value hvalue)
  exact ⟨entries, rfl⟩

variable {sources layers : List Table} {base : Table}

/-- Each setting of layered tables is what is seen of its values in the layers. -/
theorem value?_foldl_overlayTable (tidy : ∀ layer ∈ base :: layers, IsMapOf Value.Tidy layer)
    (nests : ∀ layer ∈ base :: layers, NestsImages layer) (leaf : Leaf) :
    leaf.value? (layers.foldl overlayTable base) =
      shown? ((base :: layers).filterMap leaf.value?).reverse := by
  have hleads := fun layer hlayer => leads_of_nestsImages (nests layer hlayer) leaf
  have hfold := foldl_overlay? ((base :: layers).map leaf.value?)
  rw [List.filterMap_map, Function.id_comp] at hfold
  rw [← hfold, List.map_cons, List.foldl_cons, none_overlay?]
  exact (at?_foldl_overlayTable tidy hleads).2

/-- Images of layered tables are a table. -/
theorem nestsImages_foldl_overlayTable (tidy : ∀ layer ∈ base :: layers, IsMapOf Value.Tidy layer)
    (nests : ∀ layer ∈ base :: layers, NestsImages layer) : NestsImages
      (layers.foldl overlayTable base) :=
  nestsImages_of_leads
    (at?_foldl_overlayTable tidy fun layer hlayer =>
      leads_of_nestsImages (nests layer hlayer) .normalize).1

/-! ### The value that counts -/

/-- Only a style can be written as a table. -/
theorem not_holds_table {leaf : Leaf} (h : leaf ≠ .fieldNames) (settings : Settings)
    (entries : Table) :
    ¬leaf.Holds settings (.table entries) := by
  cases leaf with
  | fieldNames => exact absurd rfl h
  | _ => simp [Leaf.Holds, Value.text?, Value.flag?, Value.count?]

theorem winner?_of_ne {leaf : Leaf} (h : leaf ≠ .fieldNames) :
    leaf.winner? sources = (sources.filterMap leaf.value?).getLast? := by
  cases leaf with
  | fieldNames => exact absurd rfl h
  | _ => rfl

/-- A setting that some source sets has a value that counts, which it has exactly when it has the
one that is seen. -/
theorem exists_winner? {leaf : Leaf}
    (h : ∃ table ∈ sources, ∃ value, leaf.value? table = some value) :
    ∃ seen winner, shown? (sources.filterMap leaf.value?).reverse = some seen ∧
      leaf.winner? sources = some winner ∧
      ∀ settings, leaf.Holds settings seen ↔ leaf.Holds settings winner := by
  obtain ⟨table, htable, value, hvalue⟩ := h
  have hmem : value ∈ sources.filterMap leaf.value? :=
    List.mem_filterMap.mpr ⟨table, htable, hvalue⟩
  have hsome : (sources.filterMap leaf.value?).reverse ≠ [] := by
    intro hnil
    rw [List.reverse_eq_nil_iff.mp hnil] at hmem
    exact List.not_mem_nil hmem
  obtain ⟨latest, earlier, hvalues⟩ := List.exists_cons_of_ne_nil hsome
  obtain ⟨seen, hseen, hlatest⟩ := shown?_cons_eq latest earlier
  rw [← hvalues] at hseen
  by_cases hleaf : leaf = .fieldNames
  · refine ⟨seen, seen, hseen, ?_, fun _ => Iff.rfl⟩
    rw [hleaf] at hseen ⊢
    exact hseen
  · refine ⟨seen, latest, hseen, ?_, fun settings => ?_⟩
    · rw [winner?_of_ne hleaf, ← List.head?_reverse, hvalues, List.head?_cons]
    · rcases hlatest with rfl | ⟨entries, old, rfl, rfl⟩
      · exact Iff.rfl
      · -- a table over tables: neither it nor what it is laid over is read
        exact iff_of_false (not_holds_table hleaf settings old)
          (not_holds_table hleaf settings entries)

/-! ### Reading all settings -/

/-- What stands at a path of one key. -/
theorem at?_singleton (key : String) (table : Table) :
    (Value.table table).at? [key] = Keyed.get? key table := by
  show (Keyed.get? key table).bind some = _
  cases Keyed.get? key table <;> rfl

/-- What stands under a key of a table within a table. -/
theorem at?_pair {first second : String} {table entries : Table}
    (h : Keyed.get? first table = some (.table entries)) :
    (Value.table table).at? [first, second] = Keyed.get? second entries := by
  show (Keyed.get? first table).bind (Value.at? [second]) = _
  rw [h, Option.bind_some, at?_singleton]

/-- A table that sets every setting is read exactly into the settings that it sets. -/
theorem ofTable?_eq_some_iff {table : Table} (nests : NestsImages table) {values : Leaf → Value}
    (present : ∀ leaf : Leaf, leaf.value? table = some (values leaf)) (settings : Settings) :
    ofTable? table = some settings ↔ ∀ leaf : Leaf, leaf.Holds settings (values leaf) := by
  obtain ⟨value, hvalue, -⟩ := Option.bind_eq_some_iff.mp (present .normalize)
  obtain ⟨images, rfl⟩ := nests value hvalue
  have hprefix := (at?_singleton "type_prefix" table).symm.trans (present .typePrefix)
  have hstyle := (at?_singleton "field_names" table).symm.trans (present .fieldNames)
  have hnormalize := (at?_pair hvalue).symm.trans (present .normalize)
  have hcache := (at?_pair hvalue).symm.trans (present .cacheDir)
  have hdownloads := (at?_pair hvalue).symm.trans (present .maxConcurrentDownloads)
  have himages : ImageSettings.ofValue? (.table images) =
      (values .normalize).flag?.bind fun normalize => (values .cacheDir).text?.bind fun cacheDir =>
        (values .maxConcurrentDownloads).count?.bind fun maxConcurrentDownloads =>
          some { normalize, cacheDir, maxConcurrentDownloads } := by
    simp only [ImageSettings.ofValue?, Value.record?, Option.bind_some, ImageSettings.ofTable?,
      setting?_of_some hnormalize, setting?_of_some hcache, setting?_of_some hdownloads]
    rfl
  have hread : ofTable? table = (values .typePrefix).text?.bind fun typePrefix =>
      (values .fieldNames).style?.bind fun fieldNames =>
        (ImageSettings.ofValue? (.table images)).bind fun images =>
        some { typePrefix, fieldNames, images } := by
    simp only [ofTable?, setting?_of_some hprefix, setting?_of_some hstyle, setting?_of_some hvalue]
    rfl
  have hleaves : (∀ leaf : Leaf, leaf.Holds settings (values leaf)) ↔
      (values .typePrefix).text? = some settings.typePrefix ∧
      (values .fieldNames).style? = some settings.fieldNames ∧
        (values .normalize).flag? = some settings.images.normalize ∧
        (values .cacheDir).text? = some settings.images.cacheDir ∧
        (values .maxConcurrentDownloads).count? = some settings.images.maxConcurrentDownloads := by
    constructor
    · exact fun h => ⟨h .typePrefix, h .fieldNames, h .normalize, h .cacheDir,
        h .maxConcurrentDownloads⟩
    · rintro ⟨h₁, h₂, h₃, h₄, h₅⟩ leaf
      cases leaf <;> assumption
  obtain ⟨typePrefix, fieldNames, normalize, cacheDir, maxConcurrentDownloads⟩ := settings
  rw [hleaves, hread, himages]
  simp only [Option.bind_eq_some_iff, Option.some.injEq, Settings.mk.injEq]
  constructor
  · rintro ⟨_, h₁, _, h₂, _, ⟨_, h₃, _, h₄, _, h₅, rfl⟩, rfl, rfl, hsame⟩
    cases hsame
    exact ⟨h₁, h₂, h₃, h₄, h₅⟩
  · rintro ⟨h₁, h₂, h₃, h₄, h₅⟩
    exact ⟨_, h₁, _, h₂, _, ⟨_, h₃, _, h₄, _, h₅, rfl⟩, rfl, rfl, rfl⟩

/-- A table that sets every setting cannot be read exactly when one of the settings has no such
value. -/
theorem ofTable?_eq_none_iff {table : Table} (nests : NestsImages table) {values : Leaf → Value}
    (present : ∀ leaf : Leaf, leaf.value? table = some (values leaf)) :
    ofTable? table = none ↔ ∃ leaf : Leaf, ∀ settings, ¬leaf.Holds settings (values leaf) := by
  constructor
  · intro hnone
    by_contra hall
    push Not at hall
    choose holder hholds using hall
    let combined : Settings := ⟨(holder .typePrefix).typePrefix, (holder .fieldNames).fieldNames,
      (holder .normalize).images.normalize, (holder .cacheDir).images.cacheDir,
      (holder .maxConcurrentDownloads).images.maxConcurrentDownloads⟩
    have hcombined : ∀ leaf : Leaf, leaf.Holds combined (values leaf) := by
      intro leaf
      have hleaf := hholds leaf
      cases leaf <;> exact hleaf
    rw [(ofTable?_eq_some_iff nests present combined).mpr hcombined] at hnone
    cases hnone
  · rintro ⟨leaf, hnot⟩
    cases hread : ofTable? table with
    | none => rfl
    | some settings =>
      exact absurd ((ofTable?_eq_some_iff nests present settings).mp hread leaf) (hnot settings)

/-! ### The defaults -/

theorem isMapOf_defaultTable : IsMapOf Value.Tidy defaultTable := by
  have hformed : (toJson {}).WellFormed := by
    simp [toJson, Json.WellFormed, Json.WellFormedMembers, Json.ofNat, Keyed.Distinct, Keyed.keys]
  exact tidy_table_iff.mp (tidy_ofJson (toJson {}) hformed)

theorem nestsImages_defaultTable : NestsImages defaultTable := by
  intro value hvalue
  cases hvalue
  exact ⟨_, rfl⟩

/-- The defaults set every setting. -/
theorem exists_value?_defaultTable (leaf : Leaf) : ∃ value,
    leaf.value? defaultTable = some value := by
  cases leaf <;> exact ⟨_, rfl⟩

/-! ### The environment -/

theorem at?_nest (value : Value) (path : List String) : (nest value path).at? path =
    some value := by
  induction path with
  | nil => rfl
  | cons key rest ih =>
    show (Keyed.get? key [(key, nest value rest)]).bind (Value.at? rest) = some value
    rw [Keyed.get?_cons, if_pos rfl, Option.bind_some, ih]

/-- Along keys that part from a path nothing is put at its end. -/
theorem at?_nest_of_apart {value : Value} {keys path : List String} (hlonger : ¬path <+: keys)
    (hshorter : ¬keys <+: path) : (nest value keys).at? path = none := by
  induction path generalizing keys with
  | nil => exact absurd List.nil_prefix hlonger
  | cons key rest ih =>
    cases keys with
    | nil => exact absurd List.nil_prefix hshorter
    | cons first others =>
      show (Keyed.get? key [(first, nest value others)]).bind (Value.at? rest) = none
      rw [Keyed.get?_cons]
      by_cases h : first = key
      · subst h
        rw [List.cons_prefix_cons] at hlonger hshorter
        rw [if_pos rfl, Option.bind_some]
        exact ih (fun h => hlonger ⟨rfl, h⟩) fun h => hshorter ⟨rfl, h⟩
      · rw [if_neg h, Keyed.get?_nil, Option.bind_none]

theorem table_tableOfVariable {name text : String} {keys : List String}
    (h : keysOfVariable? name = some keys) (hsome : keys ≠ []) :
    Value.table (tableOfVariable name text) = nest (valueOfText text) keys := by
  cases keys with
  | nil => exact absurd rfl hsome
  | cons key rest => rw [tableOfVariable, h, nest]

/-- A path that starts the one of a setting is that one, or leads to the table of images at most. -/
theorem eq_of_prefix_path {leaf : Leaf} {keys : List String} (h : keys <+: leaf.path) :
    keys = [] ∨ keys = ["images"] ∨ keys = leaf.path := by
  have hmem := (List.mem_inits keys leaf.path).mpr h
  cases leaf <;> simp [Leaf.path] at hmem ⊢ <;> tauto

section Environment

variable {vars : List (String × String)}

/-- A variable sets nothing under a setting that it does not name, nor a key below it. -/
theorem value?_tableOfVariable_of_apart {leaf : Leaf} {name text : String}
    (himages : keysOfVariable? name ≠ some ["images"])
    (apart : ∀ keys, keysOfVariable? name = some keys → ¬leaf.path <+: keys) :
    leaf.value? (tableOfVariable name text) = none := by
  cases hkeys : keysOfVariable? name with
  | none =>
    rw [tableOfVariable, hkeys]
    exact value?_nil leaf
  | some keys =>
    by_cases hsome : keys = []
    · rw [tableOfVariable, hkeys, hsome]
      exact value?_nil leaf
    · rw [Leaf.value?, table_tableOfVariable hkeys hsome]
      refine at?_nest_of_apart (apart keys hkeys) fun hprefix => ?_
      rcases eq_of_prefix_path hprefix with h | h | h
      · exact hsome h
      · exact himages (h ▸ hkeys)
      · exact apart keys hkeys (h ▸ List.prefix_rfl)

theorem nestsImages_tableOfVariable {name : String} (text : String)
    (h : keysOfVariable? name ≠ some ["images"]) :
    NestsImages (tableOfVariable name text) := by
  intro value hvalue
  unfold tableOfVariable at hvalue
  split at hvalue
  · next key rest hkeys =>
    rw [Keyed.get?_cons] at hvalue
    split at hvalue
    · next hkey =>
      cases rest with
      | nil => exact absurd (hkey ▸ hkeys) h
      | cons second others =>
        cases hvalue
        exact ⟨_, rfl⟩
    · cases hvalue
  · cases hvalue

theorem nestsImages_nil : NestsImages [] := by
  intro value hvalue
  cases hvalue

/-- The layers that the variables make are tidy, and have a table of images. -/
theorem forall_layer_of_variables
    (noImages : ∀ entry ∈ vars, keysOfVariable? entry.1 ≠ some ["images"]) :
    (∀ layer ∈ [] :: vars.map fun entry => tableOfVariable entry.1 entry.2,
      IsMapOf Value.Tidy layer) ∧
      ∀ layer ∈ [] :: vars.map fun entry => tableOfVariable entry.1 entry.2, NestsImages layer := by
  rw [List.forall_mem_cons, List.forall_mem_cons, List.forall_mem_map, List.forall_mem_map]
  exact ⟨⟨.nil, fun entry _ => isMapOf_tableOfVariable entry.1 entry.2⟩,
    nestsImages_nil, fun entry hentry => nestsImages_tableOfVariable entry.2
      (noImages entry hentry)⟩

theorem nestsImages_tableOfVariables
    (noImages : ∀ entry ∈ vars, keysOfVariable? entry.1 ≠ some ["images"]) :
    NestsImages (tableOfVariables vars) := by
  obtain ⟨htidy, hnests⟩ := forall_layer_of_variables noImages
  rw [tableOfVariables_eq]
  exact nestsImages_foldl_overlayTable htidy hnests

/-- The environment sets a setting to what is seen of the values that the variables set it to. -/
theorem value?_tableOfVariables
    (noImages : ∀ entry ∈ vars, keysOfVariable? entry.1 ≠ some ["images"]) (leaf : Leaf) :
    leaf.value? (tableOfVariables vars) =
      shown? (vars.filterMap fun entry => leaf.value?
        (tableOfVariable entry.1 entry.2)).reverse := by
  obtain ⟨htidy, hnests⟩ := forall_layer_of_variables noImages
  rw [tableOfVariables_eq, value?_foldl_overlayTable htidy hnests,
    List.filterMap_cons_none (value?_nil leaf), List.filterMap_map]
  rfl

/-- **A variable sets the setting that it names** to the value of its text, when no other variable
names a key below. -/
theorem value?_of_variable (distinct : (vars.filterMap fun entry => keysOfVariable? entry.1).Nodup)
    (noImages : ∀ entry ∈ vars, keysOfVariable? entry.1 ≠ some ["images"]) {leaf : Leaf}
    {name text : String} (hmem : (name, text) ∈ vars)
    (hkeys : keysOfVariable? name = some leaf.path)
    (hbelow : ∀ entry ∈ vars, ∀ keys, keysOfVariable? entry.1 = some keys → leaf.path <+: keys →
      keys = leaf.path) :
    leaf.value? (tableOfVariables vars) = some (valueOfText text) := by
  obtain ⟨before, after, rfl⟩ := List.append_of_mem hmem
  have hsplit : (before ++ (name, text) :: after).filterMap (fun entry => keysOfVariable? entry.1) =
      before.filterMap (fun entry => keysOfVariable? entry.1) ++
        leaf.path :: after.filterMap fun entry => keysOfVariable? entry.1 := by
    rw [List.filterMap_append, List.filterMap_cons, hkeys]
  rw [hsplit, List.nodup_middle, List.nodup_cons, List.mem_append, not_or] at distinct
  -- every other variable leads elsewhere
  have hothers : ∀ others : List (String × String),
    (∀ entry ∈ others, entry ∈ before ++ (name, text) :: after) →
      leaf.path ∉ others.filterMap (fun entry => keysOfVariable? entry.1) →
      others.filterMap (fun entry => leaf.value? (tableOfVariable entry.1 entry.2)) = [] := by
    intro others hsub habsent
    refine List.filterMap_eq_nil_iff.mpr fun entry hentry => ?_
    refine value?_tableOfVariable_of_apart (noImages entry (hsub entry hentry))
      fun keys hentrykeys hprefix => ?_
    rw [hbelow entry (hsub entry hentry) keys hentrykeys hprefix] at hentrykeys
    exact habsent (List.mem_filterMap.mpr ⟨entry, hentry, hentrykeys⟩)
  have hpath : leaf.path ≠ [] := by cases leaf <;> simp [Leaf.path]
  have hown : leaf.value? (tableOfVariable name text) = some (valueOfText text) := by
    rw [Leaf.value?, table_tableOfVariable hkeys hpath, at?_nest]
  have hvalues : (before ++ (name, text) :: after).filterMap (fun entry =>
      leaf.value? (tableOfVariable entry.1 entry.2)) = [valueOfText text] := by
    rw [List.filterMap_append, List.filterMap_cons, hown,
      hothers before (fun entry h => List.mem_append_left _ h) distinct.1.1,
      hothers after (fun entry h => List.mem_append_right _ (List.mem_cons_of_mem _ h))
        distinct.1.2, List.nil_append]
  rw [value?_tableOfVariables noImages, hvalues, List.reverse_singleton, shown?_cons, shown?,
    none_overlay?]

/-- A setting that no variable names, nor a key below it, is not set by the environment. -/
theorem value?_of_no_variable (noImages : ∀ entry ∈ vars, keysOfVariable? entry.1 ≠ some ["images"])
    {leaf : Leaf} (apart : ∀ entry ∈ vars, ∀ keys, keysOfVariable? entry.1 = some keys →
      ¬leaf.path <+: keys) :
    leaf.value? (tableOfVariables vars) = none := by
  rw [value?_tableOfVariables noImages, List.filterMap_eq_nil_iff.mpr fun entry hentry =>
    value?_tableOfVariable_of_apart (noImages entry hentry) (apart entry hentry)]
  rfl

end Environment

/-! ### Loading -/

/-- **The layers are read setting by setting**: each has the value that counts, and when one of
these is no value of the setting's kind nothing is read. -/
theorem ofTable?_layered {tables : List Table} (tidy : ∀ table ∈ tables, IsMapOf Value.Tidy table)
    (nests : ∀ table ∈ tables, NestsImages table) :
    (ofTable? (tables.foldl overlayTable defaultTable) = none ↔
      ∃ (leaf : Leaf) (value : Value), leaf.winner? (defaultTable :: tables) = some value ∧
        ∀ settings, ¬leaf.Holds settings value) ∧
    ∀ settings, ofTable? (tables.foldl overlayTable defaultTable) = some settings ↔
      Chosen (defaultTable :: tables) settings := by
  have htidy := List.forall_mem_cons.mpr ⟨isMapOf_defaultTable, tidy⟩
  have hnests := List.forall_mem_cons.mpr ⟨nestsImages_defaultTable, nests⟩
  have hlayered := nestsImages_foldl_overlayTable htidy hnests
  have hset : ∀ leaf : Leaf, ∃ table ∈ defaultTable :: tables, ∃ value,
    leaf.value? table = some value :=
    fun leaf => ⟨defaultTable, List.mem_cons_self, exists_value?_defaultTable leaf⟩
  choose seen winner hseen hwinner hsame using fun leaf => exists_winner? (hset leaf)
  have hpresent : ∀ leaf : Leaf, leaf.value? (tables.foldl overlayTable defaultTable) =
      some (seen leaf) :=
    fun leaf => (value?_foldl_overlayTable htidy hnests leaf).trans (hseen leaf)
  constructor
  · rw [ofTable?_eq_none_iff hlayered hpresent]
    constructor
    · rintro ⟨leaf, hnot⟩
      exact ⟨leaf, winner leaf, hwinner leaf,
        fun settings h => hnot settings ((hsame leaf settings).mpr h)⟩
    · rintro ⟨leaf, value, hvalue, hnot⟩
      rw [hwinner leaf, Option.some_inj] at hvalue
      subst hvalue
      exact ⟨leaf, fun settings h => hnot settings ((hsame leaf settings).mp h)⟩
  · intro settings
    rw [ofTable?_eq_some_iff hlayered hpresent]
    constructor
    · exact fun h leaf => ⟨winner leaf, hwinner leaf, (hsame leaf settings).mp (h leaf)⟩
    · intro h leaf
      obtain ⟨value, hvalue, hholds⟩ := h leaf
      rw [hwinner leaf, Option.some_inj] at hvalue
      subst hvalue
      exact (hsame leaf settings).mpr hholds

/-- Layers are loaded when they are read into settings that can be used. -/
theorem ofLayers_eq_iff (layers : List Table) :
    (ofLayers layers = .error .unreadable ↔
      ofTable? (layers.foldl overlayTable defaultTable) = none) ∧
    (∀ settings, ofLayers layers = .ok settings ↔
      ofTable? (layers.foldl overlayTable defaultTable) = some settings ∧ settings.fault? = none) ∧
    ∀ fault, ofLayers layers = .error (.unusable fault) ↔
      ∃ settings, ofTable? (layers.foldl overlayTable defaultTable) = some settings ∧
      settings.fault? = some fault := by
  unfold ofLayers
  cases ofTable? (layers.foldl overlayTable defaultTable) with
  | none => simp
  | some read =>
    cases hfault : read.fault? with
    | none => simp +contextual [usable, hfault, eq_comm]
    | some found => simp [usable, hfault]

/-- **Each setting comes from the last source that sets it**, in the order of the defaults, the
user's files, the project's files and the environment; only a style that is written as a table is
laid over one that is written so before it.  Loading fails to read the settings exactly when a value
that counts is no value of its setting's kind, whatever the values that it covers, and otherwise
succeeds exactly when the prefix is valid and a download may run.  The environment sets what its
variables name, and nothing else. -/
theorem load_by_precedence (tree : FileTree) (places : ConfigPlaces) (vars : List (String × String))
    (tables : List Table)
    (parsed : (configTexts tree places).mapM (fun file => file.1.read? file.2) = some tables)
    (nests : ∀ table ∈ tables, NestsImages table)
    (distinct : (vars.filterMap fun entry => keysOfVariable? entry.1).Nodup)
    (noImages : ∀ entry ∈ vars, keysOfVariable? entry.1 ≠ some ["images"]) :
    let sources := defaultTable :: (tables ++ [tableOfVariables vars])
    let loaded := ((load places vars : StateM FileTree _).run tree).1
    (loaded = .error .unreadable ↔
      ∃ (leaf : Leaf) (value : Value), leaf.winner? sources = some value ∧
        ∀ settings, ¬leaf.Holds settings value) ∧
    (∀ settings, loaded = .ok settings ↔
      Chosen sources settings ∧ ValidTypePrefix settings.typePrefix ∧
        1 ≤ settings.images.maxConcurrentDownloads) ∧
    (∀ fault, loaded = .error (.unusable fault) ↔
      ∃ settings, Chosen sources settings ∧ settings.fault? = some fault) ∧
    (∀ before earlier latest, sources.filterMap Leaf.fieldNames.value? =
      before ++ [earlier, latest] →
      ((∀ entries, latest ≠ .table entries) ∨ ∀ entries, earlier ≠ .table entries) →
        Leaf.fieldNames.winner? sources = some latest) ∧
    (∀ (leaf : Leaf) (name text : String), (name, text) ∈ vars →
      keysOfVariable? name = some leaf.path →
      (∀ entry ∈ vars, ∀ keys, keysOfVariable? entry.1 = some keys → leaf.path <+: keys →
        keys = leaf.path) →
        leaf.value? (tableOfVariables vars) = some (valueOfText text)) ∧
    (∀ leaf : Leaf, (∀ entry ∈ vars, ∀ keys, keysOfVariable? entry.1 = some keys →
      ¬leaf.path <+: keys) →
      leaf.value? (tableOfVariables vars) = none) := by
  intro sources loaded
  have htidy : ∀ table ∈ tables ++ [tableOfVariables vars], IsMapOf Value.Tidy table := by
    refine List.forall_mem_append.mpr ⟨fun table htable => ?_, ?_⟩
    · obtain ⟨file, -, hfile⟩ := mem_of_mapM parsed htable
      exact ConfigFormat.isMapOf_of_read? hfile
    · exact List.forall_mem_singleton.mpr (isMapOf_tableOfVariables vars)
  have hnests : ∀ table ∈ tables ++ [tableOfVariables vars], NestsImages table := by
    refine List.forall_mem_append.mpr ⟨nests, ?_⟩
    exact List.forall_mem_singleton.mpr (nestsImages_tableOfVariables noImages)
  obtain ⟨hnone, hsome⟩ := ofTable?_layered htidy hnests
  obtain ⟨hunreadable, hok, hunusable⟩ := ofLayers_eq_iff (tables ++ [tableOfVariables vars])
  have hloaded : loaded = ofLayers (tables ++ [tableOfVariables vars]) := by
    show ((load places vars : StateM FileTree _).run tree).1 = _
    rw [run_load, parsed]
  rw [hloaded]
  refine ⟨hunreadable.trans hnone, fun settings => ?_, fun fault => ?_,
    fun before earlier latest hvalues happart => ?_,
    fun leaf name text hmem hkeys hbelow => value?_of_variable distinct noImages hmem hkeys hbelow,
    fun leaf apart => value?_of_no_variable noImages apart⟩
  · rw [hok, hsome, Settings.fault?_eq_none_iff]
  · simp only [hunusable, hsome]
    rfl
  · rw [Leaf.winner?, hvalues, List.reverse_append]
    exact shown?_cons_cons happart

/-- A JSON file in which no member is repeated is read as it is written. -/
theorem read?_json {text : String} {members : List (String × Json)}
    (h : Json.parse text = some (.object members)) (formed : (Json.object members).WellFormed) :
    ConfigFormat.json.read? text = some (tableOfJson members) := by
  have hvalue : Json.parseValue text = some (.object members) := by
    rw [Json.parseValue, h, Option.map_some, Json.merged_of_wellFormed _ formed]
  simp only [ConfigFormat.read?, hvalue]

/-- A prefix of the user that the project covers, a setting of images beside it, and one from the
environment. -/
theorem load_by_precedence_shop :
    let tree : FileTree := { entries := [
      ("home", .directory), ("home/.slicegraph", .directory), ("home/.slicegraph/slicegraph.json",
        .file "\x7b\"type_prefix\":\"Old\",\"images\":\x7b\"cache_dir\":\"kept\"\x7d\x7d"),
      ("work", .directory), ("work/.slicegraph", .directory), ("work/.slicegraph/slicegraph.toml",
        .file "type_prefix = \"Shop\"")] }
    let places : ConfigPlaces := { workingDirectory := "/work", home := some "/home" }
    let vars := [("SLICEGRAPH_IMAGES__MAX_CONCURRENT_DOWNLOADS", "2")]
    let tables : List Table := [
      [("type_prefix", .text "Old"), ("images", .table [("cache_dir", .text "kept")])],
      [("type_prefix", .text "Shop")]]
    let settings : Settings := ⟨"Shop", .preserve, ⟨false, "kept", 2⟩⟩
    (configTexts tree places).mapM (fun file => file.1.read? file.2) = some tables ∧
      ((load places vars : StateM FileTree _).run tree).1 = .ok settings ∧
      Chosen (defaultTable :: (tables ++ [tableOfVariables vars])) settings ∧
      Leaf.maxConcurrentDownloads.value? (tableOfVariables vars) = some (valueOfText "2") := by
  intro tree places vars tables settings
  have hkeys : keysOfVariable? "SLICEGRAPH_IMAGES__MAX_CONCURRENT_DOWNLOADS" =
      some ["images", "max_concurrent_downloads"] := by decide
  have htexts : configTexts tree places =
      [(.json, "\x7b\"type_prefix\":\"Old\",\"images\":\x7b\"cache_dir\":\"kept\"\x7d\x7d"),
        (.toml, "type_prefix = \"Shop\"")] := by decide +kernel
  have hwritten :
      Json.parse "\x7b\"type_prefix\":\"Old\",\"images\":\x7b\"cache_dir\":\"kept\"\x7d\x7d" =
        some (.object [("type_prefix", .string "Old"),
        ("images", .object [("cache_dir", .string "kept")])]) := by cbv
  have hglobal := read?_json hwritten
    (by simp [Json.WellFormed, Json.WellFormedMembers, Keyed.Distinct])
  have hproject : ConfigFormat.read? .toml "type_prefix = \"Shop\"" =
      some [("type_prefix", .text "Shop")] := by cbv
  have hparsed : (configTexts tree places).mapM (fun file => file.1.read? file.2) =
      some tables := by
    rw [htexts, List.mapM_cons, List.mapM_cons, hglobal, hproject]
    rfl
  have hnests : ∀ table ∈ tables, NestsImages table := by
    intro table htable value hvalue
    simp only [tables, List.mem_cons, List.not_mem_nil, or_false] at htable
    rcases htable with rfl | rfl
    · cases hvalue
      exact ⟨_, rfl⟩
    · cases hvalue
  have hloaded : ((load places vars : StateM FileTree _).run tree).1 = .ok settings := by
    rw [run_load, hparsed]
    decide +kernel
  obtain ⟨-, hok, -, -, hset, -⟩ :=
    load_by_precedence tree places vars tables hparsed hnests (by decide)
    (by decide)
  refine ⟨hparsed, hloaded, ((hok settings).mp hloaded).1, ?_⟩
  refine hset .maxConcurrentDownloads _ "2" List.mem_cons_self hkeys fun entry hentry keys h _ => ?_
  rw [List.mem_singleton.mp hentry, hkeys, Option.some_inj] at h
  exact h.symm

/-- **Styles written as tables are merged**: the project writes the style `preserve` over the user's
`camel`, and the least key of the merged table names the style. -/
theorem style_tables_merge :
    let tree : FileTree := { entries := [
      ("home", .directory), ("home/.slicegraph", .directory), ("home/.slicegraph/slicegraph.json",
        .file "\x7b\"field_names\":\x7b\"camel\":null\x7d\x7d"),
      ("work", .directory), ("work/.slicegraph", .directory), ("work/.slicegraph/slicegraph.json",
        .file "\x7b\"field_names\":\x7b\"preserve\":null\x7d\x7d")] }
    let places : ConfigPlaces := { workingDirectory := "/work", home := some "/home" }
    let tables : List Table := [
      [("field_names", .table [("camel", .empty)])],
      [("field_names", .table [("preserve", .empty)])]]
    (configTexts tree places).mapM (fun file => file.1.read? file.2) = some tables ∧
      (∀ table ∈ tables, NestsImages table) ∧
      ((defaultTable :: (tables ++ [tableOfVariables []])).filterMap
        Leaf.fieldNames.value?).getLast? =
        some (.table [("preserve", .empty)]) ∧
      (Value.table [("preserve", .empty)]).style? = some .preserve ∧
      ((load places [] : StateM FileTree _).run tree).1 = .ok { fieldNames := .camel } := by
  intro tree places tables
  have htexts :
      configTexts tree places = [(.json, "\x7b\"field_names\":\x7b\"camel\":null\x7d\x7d"),
      (.json, "\x7b\"field_names\":\x7b\"preserve\":null\x7d\x7d")] := by decide
  have hformed : ∀ name :
      String, (Json.object [("field_names", .object [(name, .null)])]).WellFormed := by
    simp [Json.WellFormed, Json.WellFormedMembers, Keyed.Distinct]
  have hcamel : Json.parse "\x7b\"field_names\":\x7b\"camel\":null\x7d\x7d" =
      some (.object [("field_names", .object [("camel", .null)])]) := by cbv
  have hpreserve : Json.parse "\x7b\"field_names\":\x7b\"preserve\":null\x7d\x7d" =
      some (.object [("field_names", .object [("preserve", .null)])]) := by cbv
  have hparsed : (configTexts tree places).mapM (fun file => file.1.read? file.2) =
      some tables := by
    rw [htexts, List.mapM_cons, List.mapM_cons, read?_json hcamel (hformed _),
      read?_json hpreserve (hformed _)]
    rfl
  refine ⟨hparsed, ?_, rfl, by decide, ?_⟩
  · intro table htable value hvalue
    simp only [tables, List.mem_cons, List.not_mem_nil, or_false] at htable
    rcases htable with rfl | rfl <;> cases hvalue
  · rw [run_load, hparsed]
    decide

end ContentGraph.Settings
