import ContentGraph.Settings.Value
import ContentGraph.Proofs.Json.Records
import Mathlib.Data.List.Induction

/-!
# Values at a path of layered tables

A setting stands at a path of keys.  Where the tables on the way to it are tables in every layer,
layering does not mix settings: what the layered tables have at a path is what the layers have
there, laid over each other.

Layering goes through the upper table entry by entry, so all of this is about tables in which no key
is written twice. Layering keeps that, which carries the inductions on the layers.

* `Keyed.IsMapOf` — entries without repeated keys, and what their values satisfy;
* `Value.Tidy`, `isMapOf_overlayTable` — tables without repeated keys, within each other;
* `Value.at?`, `Value.Leads` — what stands at a path, and paths that lead through tables;
* `at?_overlay` — one layer over another, at a path;
* `isMapOf_foldl_overlayTable`, `at?_foldl_overlayTable` — any number of layers;
* `shown?`, `foldl_overlay?` — which value is seen of values laid over each other.
-/

namespace ContentGraph

/-! ### Entries of a map -/

/-- Entries as a map of good values holds them: no key occurs twice, and every value is good. -/
structure Keyed.IsMapOf {α : Type} (good : α → Prop) (entries : List (String × α)) : Prop where
  distinct : Keyed.Distinct entries
  each : ∀ entry ∈ entries, good entry.2

namespace Keyed.IsMapOf

variable {α : Type} {good : α → Prop} {entries : List (String × α)} {key : String} {value : α}

theorem nil : IsMapOf good ([] : List (String × α)) := ⟨List.nodup_nil, by simp⟩

theorem singleton (h : good value) : IsMapOf good [(key, value)] :=
  ⟨List.nodup_singleton key, by simpa using h⟩

/-- A good value may be put under any key. -/
theorem set (hentries : IsMapOf good entries) (h : good value) :
    IsMapOf good (Keyed.set key value entries) := by
  refine ⟨distinct_set key value hentries.distinct, fun entry hentry => ?_⟩
  rcases mem_of_mem_set hentry with rfl | hmem
  · exact h
  · exact hentries.each entry hmem

/-- Any entries with good values can be put into a map. -/
theorem merge (each : ∀ entry ∈ entries, good entry.2) : IsMapOf good (Keyed.merge entries) :=
  ⟨distinct_merge entries, fun entry hentry => each entry (mem_of_mem_merge hentry)⟩

theorem of_get? (hentries : IsMapOf good entries) (h : get? key entries = some value) :
    good value :=
  hentries.each (key, value) (mem_of_get? h)

end Keyed.IsMapOf

namespace Settings

open Keyed (IsMapOf)

/-! ### Tables without repeated keys -/

/-- A value in which no table has a key twice, nor a table within it. -/
inductive Value.Tidy : Value → Prop
  | empty : Tidy .empty
  | flag (value : Bool) : Tidy (.flag value)
  | whole (value : Int) : Tidy (.whole value)
  | real : Tidy .real
  | text (value : String) : Tidy (.text value)
  | list (elements : List Value) : Tidy (.list elements)
  | table {entries : Table} (distinct : Keyed.Distinct entries)
      (each : ∀ entry ∈ entries, Tidy entry.2) : Tidy (.table entries)

theorem tidy_table_iff {entries : Table} :
    (Value.table entries).Tidy ↔ IsMapOf Value.Tidy entries := by
  constructor
  · intro h
    cases h with
    | table distinct each => exact ⟨distinct, each⟩
  · exact fun h => .table h.distinct h.each

mutual
/-- **Layering keeps values tidy.** -/
theorem tidy_overlay {below : Value} (hbelow : below.Tidy) :
    (above : Value) → above.Tidy → (below.overlay above).Tidy
  | .empty, h | .flag _, h | .whole _, h | .real, h | .text _, h | .list _,
  h => by rwa [Value.overlay]
  | .table entries, h => by
    cases below with
    | table old =>
      rw [Value.overlay]
      exact tidy_table_iff.mpr (isMapOf_overlayTable (tidy_table_iff.mp hbelow) entries
        (tidy_table_iff.mp h).each)
    | _ => exact h
theorem isMapOf_overlayTable {below : Table} (hbelow : IsMapOf Value.Tidy below) :
    (above : Table) → (∀ entry ∈ above, entry.2.Tidy) →
      IsMapOf Value.Tidy (overlayTable below above)
  | [], _ => by rwa [overlayTable]
  | (key, value) :: rest, h => by
    obtain ⟨hvalue, hrest⟩ := List.forall_mem_cons.mp h
    rw [overlayTable]
    refine isMapOf_overlayTable (hbelow.set ?_) rest hrest
    cases hfound : Keyed.get? key below with
    | none => exact hvalue
    | some old => exact tidy_overlay (hbelow.of_get? hfound) value hvalue
end

/-! ### One layer over another -/

/-- A value laid over another, either of which may be missing. -/
def overlay? : (below above : Option Value) → Option Value
  | below, none => below
  | none, some value => some value
  | some old, some value => some (old.overlay value)

@[simp] theorem overlay?_none (below : Option Value) : overlay? below none = below := by
  cases below <;> rfl

@[simp] theorem none_overlay? (above : Option Value) : overlay? none above = above := by
  cases above <;> rfl

/-- Under a key, layered tables have what the tables have there, one laid over the other. -/
theorem get?_overlayTable (key : String) {below above : Table} (distinct : Keyed.Distinct above) :
    Keyed.get? key (overlayTable below above) = overlay? (Keyed.get? key below)
      (Keyed.get? key above) := by
  induction above generalizing below with
  | nil => rw [overlayTable, Keyed.get?_nil, overlay?_none]
  | cons entry rest ih =>
    obtain ⟨name, value⟩ := entry
    rw [Keyed.Distinct, Keyed.keys_cons, List.nodup_cons] at distinct
    rw [overlayTable, ih distinct.2, Keyed.get?_set, Keyed.get?_cons]
    by_cases h : key = name
    · subst h
      rw [if_pos rfl, if_pos rfl, Keyed.get?_eq_none_iff.mpr distinct.1, overlay?_none]
      cases Keyed.get? key below <;> rfl
    · rw [if_neg h, if_neg (Ne.symm h)]

/-! ### Paths -/

/-- What stands at the end of a path of keys, if anything. -/
def Value.at? : (path : List String) → Value → Option Value
  | [], value => some value
  | key :: rest, .table entries => (Keyed.get? key entries).bind (Value.at? rest)
  | _ :: _, _ => none

/-- A path leads through tables as far as there is something on it. -/
def Value.Leads : (path : List String) → Value → Prop
  | [], _ => True
  | key :: rest, .table entries => ∀ value ∈ Keyed.get? key entries, Value.Leads rest value
  | _ :: _, _ => False

theorem leads_cons_iff {key : String} {rest : List String} {value : Value} :
    value.Leads (key :: rest) ↔
      ∃ entries, value = .table entries ∧ ∀ inner ∈ Keyed.get? key entries, inner.Leads rest := by
  cases value <;> simp [Value.Leads]

/-- A path without any table on the way always leads. -/
theorem leads_singleton (key : String) (entries : Table) : (Value.table entries).Leads [key] := by
  simp [Value.Leads]

/-- **Layering does not mix settings**: at a path that leads through tables in both layers, layered
values have what the layers have there, one laid over the other. -/
theorem at?_overlay {path : List String} {below above : Value} (hbelow : below.Leads path)
    (habove : above.Leads path) (tidy : above.Tidy) :
    (below.overlay above).at? path = overlay? (below.at? path) (above.at? path) := by
  induction path generalizing below above with
  | nil => rfl
  | cons key rest ih =>
    obtain ⟨old, rfl, hold⟩ := leads_cons_iff.mp hbelow
    obtain ⟨entries, rfl, hentries⟩ := leads_cons_iff.mp habove
    rw [Value.overlay, Value.at?, Value.at?, Value.at?,
      get?_overlayTable key (tidy_table_iff.mp tidy).distinct]
    cases hfirst : Keyed.get? key old with
    | none => simp
    | some first =>
      cases hsecond : Keyed.get? key entries with
      | none => simp
      | some second =>
        exact ih (hold first hfirst) (hentries second hsecond)
          ((tidy_table_iff.mp tidy).of_get? hsecond)

/-- A path that leads through tables in both layers leads through the tables that are laid over each
other. -/
theorem leads_overlay {path : List String} {below above : Value} (hbelow : below.Leads path)
    (habove : above.Leads path) (tidy : above.Tidy) : (below.overlay above).Leads path := by
  induction path generalizing below above with
  | nil => trivial
  | cons key rest ih =>
    obtain ⟨old, rfl, hold⟩ := leads_cons_iff.mp hbelow
    obtain ⟨entries, rfl, hentries⟩ := leads_cons_iff.mp habove
    rw [Value.overlay, leads_cons_iff]
    refine ⟨overlayTable old entries, rfl, fun inner hinner => ?_⟩
    rw [Option.mem_def, get?_overlayTable key (tidy_table_iff.mp tidy).distinct] at hinner
    cases hfirst : Keyed.get? key old with
    | none =>
      rw [hfirst, none_overlay?] at hinner
      exact hentries inner hinner
    | some first =>
      cases hsecond : Keyed.get? key entries with
      | none =>
        rw [hfirst, hsecond, overlay?_none] at hinner
        exact hold inner (hfirst.trans hinner)
      | some second =>
        rw [hfirst, hsecond, overlay?, Option.some_inj] at hinner
        rw [← hinner]
        exact ih (hold first hfirst) (hentries second hsecond)
          ((tidy_table_iff.mp tidy).of_get? hsecond)

/-! ### Any number of layers -/

/-- Layers without repeated keys have none together. -/
theorem isMapOf_foldl_overlayTable {layers : List Table} {base : Table}
    (tidy : ∀ layer ∈ base :: layers, IsMapOf Value.Tidy layer) :
    IsMapOf Value.Tidy (layers.foldl overlayTable base) := by
  induction layers generalizing base with
  | nil => exact tidy base List.mem_cons_self
  | cons layer rest ih =>
    obtain ⟨hbase, hlayer, hrest⟩ := (by simpa using tidy : _ ∧ _ ∧ _)
    exact ih (List.forall_mem_cons.mpr ⟨isMapOf_overlayTable hbase layer hlayer.each, hrest⟩)

/-- A path that leads through tables in every layer leads so through the layered tables, which have
at its end what the layers have there, each laid over the ones before it. -/
theorem at?_foldl_overlayTable {path : List String} {layers : List Table} {base : Table}
    (tidy : ∀ layer ∈ base :: layers, IsMapOf Value.Tidy layer)
    (leads : ∀ layer ∈ base :: layers, (Value.table layer).Leads path) :
    (Value.table (layers.foldl overlayTable base)).Leads path ∧
      (Value.table (layers.foldl overlayTable base)).at? path =
        (layers.map fun layer => (Value.table layer).at? path).foldl overlay?
          ((Value.table base).at? path) := by
  induction layers generalizing base with
  | nil => exact ⟨leads base List.mem_cons_self, rfl⟩
  | cons layer rest ih =>
    obtain ⟨hbase, hlayer, hrest⟩ := (by simpa using tidy : _ ∧ _ ∧ _)
    obtain ⟨lbase, llayer, lrest⟩ := (by simpa using leads : _ ∧ _ ∧ _)
    have hover :
        Value.table (overlayTable base layer) = (Value.table base).overlay (.table layer) := by
      rw [Value.overlay]
    have htidy : IsMapOf Value.Tidy (overlayTable base layer) :=
      isMapOf_overlayTable hbase layer hlayer.each
    have hleads : (Value.table (overlayTable base layer)).Leads path := by
      rw [hover]
      exact leads_overlay lbase llayer (tidy_table_iff.mpr hlayer)
    have hat : (Value.table (overlayTable base layer)).at? path =
        overlay? ((Value.table base).at? path) ((Value.table layer).at? path) := by
      rw [hover]
      exact at?_overlay lbase llayer (tidy_table_iff.mpr hlayer)
    rw [List.foldl_cons, List.map_cons, List.foldl_cons, ← hat]
    exact ih (List.forall_mem_cons.mpr ⟨htidy, hrest⟩) (List.forall_mem_cons.mpr ⟨hleads, lrest⟩)

/-- What is seen of values laid over each other, the latest one first: the latest one, and a table
over what the earlier ones show when that is a table too. -/
def shown? : (latestFirst : List Value) → Option Value
  | [] => none
  | .table entries :: earlier =>
    match shown? earlier with
    | some (.table old) => some (.table (overlayTable old entries))
    | _ => some (.table entries)
  | value :: _ => some value

theorem shown?_cons (value : Value) (earlier : List Value) :
    shown? (value :: earlier) = overlay? (shown? earlier) (some value) := by
  cases value with
  | table entries =>
    rw [shown?]
    cases hearlier : shown? earlier with
    | none => rfl
    | some old => cases old <;> simp [overlay?, Value.overlay]
  | _ => cases hearlier : shown? earlier <;> simp [shown?, overlay?, Value.overlay]

/-- The latest value is what is seen, unless it is a table over a table. -/
theorem shown?_cons_cons {latest earlier : Value} {rest : List Value}
    (h : (∀ entries, latest ≠ .table entries) ∨ ∀ entries, earlier ≠ .table entries) :
    shown? (latest :: earlier :: rest) = some latest := by
  cases latest with
  | table entries =>
    have hearlier := h.resolve_left fun h => h entries rfl
    cases earlier with
    | table old => exact absurd rfl (hearlier old)
    | _ => rfl
  | _ => rfl

/-- Tables are covered and laid over each other as tables only: what is seen is the latest value, or
both are tables. -/
theorem shown?_cons_eq (value : Value) (earlier : List Value) :
    ∃ seen, shown? (value :: earlier) = some seen ∧
      (seen = value ∨ ∃ entries old, value = .table entries ∧ seen = .table old) := by
  cases value with
  | table entries =>
    rw [shown?]
    split
    · next old _ => exact ⟨_, rfl, Or.inr ⟨entries, _, rfl, rfl⟩⟩
    · exact ⟨_, rfl, Or.inl rfl⟩
  | _ => exact ⟨_, rfl, Or.inl rfl⟩

/-- Values that may be missing, laid over each other, show what those that are there show. -/
theorem foldl_overlay? (values : List (Option Value)) :
    values.foldl overlay? none = shown? (values.filterMap id).reverse := by
  induction values using List.reverseRecOn with
  | nil => rfl
  | append_singleton values value ih =>
    rw [List.foldl_append, List.foldl_cons, List.foldl_nil, ih, List.filterMap_append,
      List.reverse_append]
    cases value with
    | none => simp
    | some value =>
      rw [show ([some value].filterMap id).reverse = [value] from rfl, List.singleton_append,
        shown?_cons]

end Settings

end ContentGraph
