import ContentGraph.Settings.Layers
import ContentGraph.Proofs.Settings.Overlay

/-!
# Tables of settings have no repeated keys

Each kind of source has its own way with a key that is written twice: JSON, YAML and tables in
variables take the last value, TOML refuses it.  Whichever it is, no table that is read has a key
twice, nor a table within it, so that settings may be looked up in it.

* `tidy_ofJson`, `Toml.isMapOf_of_parse`, `Yaml.isMapOf_of_parse` — one for each format;
* `ConfigFormat.isMapOf_of_read?` — the tables of files;
* `isMapOf_tableOfVariables` — the table of the environment.
-/

namespace ContentGraph.Settings

open Keyed (IsMapOf)

/-! ### JSON -/

theorem keys_tableOfJson (members : List (String × Json)) :
    Keyed.keys (tableOfJson members) = Keyed.keys members := by
  induction members with
  | nil =>
    rw [tableOfJson]
    rfl
  | cons member rest ih =>
    obtain ⟨key, member⟩ := member
    rw [tableOfJson, Keyed.keys_cons, Keyed.keys_cons, ih]

mutual
/-- A JSON value without repeated members stands for a tidy value. -/
theorem tidy_ofJson : (value : Json) → value.WellFormed → (Value.ofJson value).Tidy
  | .null, _ => .empty
  | .bool value, _ => .flag value
  | .number (.integer value), _ => .whole value
  | .number (.double _), _ => .real
  | .string text, _ => .text text
  | .array elements, _ => .list _
  | .object members, h => by
    rw [Json.WellFormed] at h
    refine tidy_table_iff.mpr ⟨?_, tidy_of_mem_tableOfJson members h.2⟩
    rw [Keyed.Distinct, keys_tableOfJson]
    exact h.1
theorem tidy_of_mem_tableOfJson :
    (members : List (String × Json)) → Json.WellFormedMembers members →
      ∀ entry ∈ tableOfJson members, entry.2.Tidy
  | [], _ => by simp [tableOfJson]
  | (key, member) :: rest, h => by
    rw [Json.WellFormedMembers] at h
    rw [tableOfJson, List.forall_mem_cons]
    exact ⟨tidy_ofJson member h.1, tidy_of_mem_tableOfJson rest h.2⟩
end

/-! ### TOML -/

namespace Toml

/-- A node in which no table has a key twice, nor a table within it. -/
inductive Node.Tidy : Node → Prop
  | value {value : Value} (h : value.Tidy) : Tidy (.value value)
  | table {origin : Origin} {entries : Entries} (distinct : Keyed.Distinct entries)
    (each : ∀ entry ∈ entries, Tidy entry.2) : Tidy (.table origin entries)
  | tables (latest : Entries) (earlier : List Entries) : Tidy (.tables latest earlier)

theorem tidy_table_iff {origin : Origin} {entries : Entries} :
    (Node.table origin entries).Tidy ↔ IsMapOf Node.Tidy entries := by
  constructor
  · intro h
    cases h with
    | table distinct each => exact ⟨distinct, each⟩
  · exact fun h => .table h.distinct h.each

/-- A change that keeps tables tidy does so at the end of any path. -/
theorem isMapOf_of_descend? {dotted : Bool} {change : Origin → Entries → Option Entries}
    (keeps : ∀ {origin entries next}, IsMapOf Node.Tidy entries →
      change origin entries = some next →
      IsMapOf Node.Tidy next) {origin : Origin} {path : List String} {entries next : Entries}
    (hentries : IsMapOf Node.Tidy entries)
    (h : descend? dotted change origin path entries = some next) :
    IsMapOf Node.Tidy next := by
  induction path generalizing origin entries next with
  | nil => exact keeps hentries h
  | cons key rest ih =>
    rw [descend?] at h
    split at h
    · obtain ⟨inner, hinner, rfl⟩ := Option.map_eq_some_iff.mp h
      exact hentries.set (tidy_table_iff.mpr (ih .nil hinner))
    · cases h
    · obtain ⟨inner, -, rfl⟩ := Option.map_eq_some_iff.mp h
      exact hentries.set (.tables _ _)
    · next old table hfound =>
      split at h
      · cases h
      · obtain ⟨inner, hinner, rfl⟩ := Option.map_eq_some_iff.mp h
        exact hentries.set (tidy_table_iff.mpr
          (ih (tidy_table_iff.mp (hentries.of_get? hfound)) hinner))

theorem isMapOf_of_openTable? {path : List String} {key : String} {root next : Entries}
    (hroot : IsMapOf Node.Tidy root) (h : openTable? path key root = some next) :
    IsMapOf Node.Tidy next := by
  refine isMapOf_of_descend? (fun {_ entries _} hentries h => ?_) hroot h
  split at h
  · cases h
    exact hentries.set (tidy_table_iff.mpr .nil)
  · next inner hfound =>
    cases h
    exact hentries.set (tidy_table_iff.mpr (tidy_table_iff.mp (hentries.of_get? hfound)))
  · cases h

theorem isMapOf_of_openElement? {path : List String} {key : String} {root next : Entries}
    (hroot : IsMapOf Node.Tidy root) (h : openElement? path key root = some next) :
    IsMapOf Node.Tidy next := by
  refine isMapOf_of_descend? (fun {_ entries _} hentries h => ?_) hroot h
  split at h
  · cases h
    exact hentries.set (.tables _ _)
  · cases h
    exact hentries.set (.tables _ _)
  · cases h

theorem isMapOf_of_insertDotted? {path : List String} {key : String} {value : Value}
    {entries next : Entries} (hvalue : value.Tidy) (hentries : IsMapOf Node.Tidy entries)
    (h : insertDotted? path key value entries = some next) : IsMapOf Node.Tidy next := by
  refine isMapOf_of_descend? (fun {_ entries _} hentries h => ?_) hentries h
  split at h
  · cases h
  · split at h
    · cases h
      exact hentries.set (.value hvalue)
    · cases h

theorem keys_toTable (entries : Entries) : Keyed.keys (toTable entries) = Keyed.keys entries := by
  induction entries with
  | nil =>
    rw [toTable]
    rfl
  | cons entry rest ih =>
    obtain ⟨key, node⟩ := entry
    rw [toTable, Keyed.keys_cons, Keyed.keys_cons, ih]

mutual
theorem tidy_toValue : (node : Node) → node.Tidy → node.toValue.Tidy
  | .value _, .value h => by rwa [Node.toValue]
  | .table _ entries, h => by
    obtain ⟨hdistinct, heach⟩ := tidy_table_iff.mp h
    rw [Node.toValue]
    refine Settings.tidy_table_iff.mpr ⟨?_, tidy_of_mem_toTable entries heach⟩
    rwa [Keyed.Distinct, keys_toTable]
  | .tables _ _, _ => by
    rw [Node.toValue]
    exact .list _
theorem tidy_of_mem_toTable :
    (entries : List (String × Node)) → (∀ entry ∈ entries, entry.2.Tidy) →
      ∀ entry ∈ toTable entries, entry.2.Tidy
  | [], _ => by simp [toTable]
  | (key, node) :: rest, h => by
    obtain ⟨hnode, hrest⟩ := List.forall_mem_cons.mp h
    rw [toTable, List.forall_mem_cons]
    exact ⟨tidy_toValue node hnode, tidy_of_mem_toTable rest hrest⟩
end

theorem isMapOf_toTable {entries : Entries} (h : IsMapOf Node.Tidy entries) :
    IsMapOf Value.Tidy (toTable entries) := by
  refine ⟨?_, tidy_of_mem_toTable entries h.each⟩
  rw [Keyed.Distinct, keys_toTable]
  exact h.distinct

theorem tidy_of_basedNumber? {base : Nat} {text : List Char} {value : Value}
    (h : basedNumber? base text = some value) :
    value.Tidy := by
  unfold basedNumber? at h
  dsimp only at h
  split at h
  · cases h
  · split at h
    · cases h
      exact .whole _
    · cases h

theorem tidy_of_number? {text : List Char} {value : Value} (h : number? text = some value) :
    value.Tidy := by
  unfold number? at h
  dsimp only at h
  split at h
  · cases h
  · split at h
    · split at h
      · split at h
        · cases h
          exact .whole _
        · cases h
      · split at h
        · cases h
          exact .whole _
        · cases h
    · split at h
      · split at h
        · cases h
          exact .real
        · cases h
      · cases h

theorem tidy_dateTime (text : List Char) : (dateTime text).Tidy :=
  Settings.tidy_table_iff.mpr (.singleton (.text _))

theorem tidy_of_scalar? {text : List Char} {value : Value} (h : scalar? text = some value) :
    value.Tidy := by
  unfold scalar? at h
  dsimp only at h
  split at h
  · cases h
    exact .flag true
  · split at h
    · cases h
      exact .flag false
    · split at h
      · cases h
        exact tidy_dateTime text
      · split at h
        · cases h
          exact .real
        · split at h
          · exact tidy_of_basedNumber? h
          · exact tidy_of_basedNumber? h
          · exact tidy_of_basedNumber? h
          · exact tidy_of_number? h

theorem tidy_of_readScalar? {text rest : List Char} {value : Value}
    (h : readScalar? text = some (value, rest)) :
    value.Tidy := by
  unfold readScalar? at h
  dsimp only at h
  split at h
  · cases h
    exact tidy_dateTime _
  · obtain ⟨scalar, hscalar, heq⟩ := Option.map_eq_some_iff.mp h
    cases heq
    exact tidy_of_scalar? hscalar

/-- Whatever is read within a line is tidy, by induction on the steps: a value, and the entries of
an inline table after tidy ones. -/
theorem tidy_read (fuel : Nat) :
    (∀ {room text value rest}, readValue? fuel room text = some (value, rest) → value.Tidy) ∧
    (∀ {room entries text next rest}, IsMapOf Node.Tidy entries →
      readInline? fuel room entries text = some (next, rest) → IsMapOf Node.Tidy next) ∧
    (∀ {room entries text next rest}, IsMapOf Node.Tidy entries →
      readEntry? fuel room entries text = some (next, rest) → IsMapOf Node.Tidy next) := by
  induction fuel with
  | zero => simp [readValue?, readInline?, readEntry?]
  | succ fuel ih =>
    obtain ⟨ihvalue, ihinline, ihentry⟩ := ih
    refine ⟨fun {room text value rest} h => ?_, fun {room entries text next rest} hentries h => ?_,
      fun {room entries text next rest} hentries h => ?_⟩
    · rw [readValue?.eq_def] at h
      dsimp only at h
      split at h
      · obtain ⟨_, -, heq⟩ := Option.map_eq_some_iff.mp h
        cases heq
        exact .text _
      · obtain ⟨_, -, heq⟩ := Option.map_eq_some_iff.mp h
        cases heq
        exact .text _
      · split at h
        · cases h
        · obtain ⟨_, -, heq⟩ := Option.map_eq_some_iff.mp h
          cases heq
          exact .list _
      · split at h
        · cases h
        · split at h
          · cases h
            exact Settings.tidy_table_iff.mpr .nil
          · obtain ⟨⟨entries, after⟩, hread, heq⟩ := Option.map_eq_some_iff.mp h
            cases heq
            exact Settings.tidy_table_iff.mpr (isMapOf_toTable (ihinline .nil hread))
      · exact tidy_of_readScalar? h
    · rw [readInline?] at h
      split at h
      · cases h
      · next entries rest hentry =>
        split at h
        · cases h
          exact ihentry hentries hentry
        · exact ihinline (ihentry hentries hentry) h
        · cases h
    · rw [ readEntry?] at h
      split at h
      · split at h
        · cases h
        · next value rest hvalue =>
          obtain ⟨inserted, hinserted, heq⟩ := Option.map_eq_some_iff.mp h
          cases heq
          exact isMapOf_of_insertDotted? (ihvalue hvalue) hentries hinserted
      · cases h

theorem isMapOf_of_readHeader? {reading next : Reading} {text rest : List Char}
    (hreading : IsMapOf Node.Tidy reading.root) (h : readHeader? reading text = some (next, rest)) :
    IsMapOf Node.Tidy next.root := by
  unfold readHeader? at h
  split at h
  · split at h
    · obtain ⟨root, hroot, heq⟩ := Option.map_eq_some_iff.mp h
      cases heq
      exact isMapOf_of_openElement? hreading hroot
    · cases h
  · split at h
    · obtain ⟨root, hroot, heq⟩ := Option.map_eq_some_iff.mp h
      cases heq
      exact isMapOf_of_openTable? hreading hroot
    · cases h

theorem isMapOf_of_readAssignment? {reading next : Reading} {text rest : List Char}
    (hreading : IsMapOf Node.Tidy reading.root)
    (h : readAssignment? reading text = some (next, rest)) :
    IsMapOf Node.Tidy next.root := by
  unfold readAssignment? at h
  split at h
  · split at h
    · cases h
    · next value rest hvalue =>
      obtain ⟨root, hroot, heq⟩ := Option.map_eq_some_iff.mp h
      cases heq
      refine isMapOf_of_descend? (fun hentries hinserted => ?_) hreading hroot
      exact isMapOf_of_insertDotted? ((tidy_read _).1 hvalue) hentries hinserted
  · cases h

/-- A document stays tidy line by line. -/
theorem isMapOf_of_readLines? {fuel : Nat} {reading next : Reading} {text : List Char}
    (hreading : IsMapOf Node.Tidy reading.root) (h : readLines? fuel reading text = some next) :
    IsMapOf Node.Tidy next.root := by
  induction fuel generalizing reading text with
  | zero => cases h
  | succ fuel ih =>
    rw [readLines?] at h
    split at h
    · cases h
    · next between rest hline =>
      have hbetween : IsMapOf Node.Tidy between.root := by
        split at hline
        · cases hline
          exact hreading
        · exact isMapOf_of_readHeader? hreading hline
        · cases hline
          exact hreading
        · split at hline
          · cases hline
            exact hreading
          · exact isMapOf_of_readAssignment? hreading hline
      split at h
      · cases h
      · cases h
        exact hbetween
      · exact ih hbetween h

/-- **A TOML document is read into tables without repeated keys.** -/
theorem isMapOf_of_parse {text : String} {table : Table} (h : parse text = some table) :
    IsMapOf Value.Tidy table := by
  obtain ⟨reading, hreading, rfl⟩ := Option.map_eq_some_iff.mp h
  exact isMapOf_toTable (isMapOf_of_readLines? .nil hreading)

end Toml

/-! ### YAML -/

namespace Yaml

theorem tidy_resolve (text : List Char) : (resolve text).Tidy := by
  unfold resolve
  split
  · exact .empty
  · split
    · exact .flag _
    · split
      · exact .whole _
      · split
        · exact .real
        · exact .text _

/-- A tag puts a value into a table of its own. -/
theorem tidy_underTag (tag : Option String) {value : Value} (h : value.Tidy) :
    (underTag tag value).Tidy := by
  unfold underTag
  split
  · exact Settings.tidy_table_iff.mpr (.singleton h)
  · exact h

theorem tidy_of_taggedValue? {tag text : String} {value : Value}
    (h : taggedValue? tag text = some value) :
    value.Tidy := by
  unfold taggedValue? at h
  dsimp only at h
  split at h
  · obtain ⟨flag, -, rfl⟩ := Option.map_eq_some_iff.mp h
    exact .flag flag
  · split at h
    · obtain ⟨number, -, rfl⟩ := Option.map_eq_some_iff.mp h
      exact .whole number
    · split at h
      · split at h
        · cases h
          exact .real
        · cases h
      · split at h
        · split at h
          · cases h
            exact .empty
          · cases h
        · cases h
          exact .text text

theorem tidy_of_scalarValue? {tag : Option String} {plain : Bool} {text : String} {value : Value}
    (h : scalarValue? tag plain text = some value) : value.Tidy := by
  unfold scalarValue? at h
  split at h
  · exact tidy_of_taggedValue? h
  · cases h
    refine tidy_underTag _ ?_
    unfold untaggedValue
    split
    · exact tidy_resolve _
    · exact .text text

/-- Whatever a reading yields, however many aliases may be followed, is good. -/
def Yields {α : Type} (good : α → Prop) (reading : Following α) : Prop :=
  ∀ (left : Nat) (result : α × Nat), reading.run left = some result → good result.1

section Yields

variable {α β : Type} {good : α → Prop} {fine : β → Prop}

theorem yields_pure {value : α} (h : good value) : Yields good (pure value) := by
  intro left result hrun
  cases hrun
  exact h

theorem yields_failure : Yields good (failure : Following α) := by
  intro left result hrun
  cases hrun

theorem yields_lift {value? : Option α} (h : ∀ value, value? = some value → good value) :
    Yields good (value? : Following α) := by
  intro left result hrun
  cases value? with
  | none => cases hrun
  | some value =>
    cases hrun
    exact h value rfl

theorem yields_bind {first : Following α} {next : α → Following β} (hfirst : Yields good first)
    (hnext : ∀ value, good value → Yields fine (next value)) : Yields fine (first >>= next) := by
  intro left result hrun
  rw [StateT.run_bind] at hrun
  obtain ⟨⟨value, between⟩, hvalue, hresult⟩ := Option.bind_eq_some_iff.mp hrun
  exact hnext value (hfirst left _ hvalue) between result hresult

theorem yields_true (reading : Following α) : Yields (fun _ => True) reading :=
  fun _ _ _ => trivial

theorem yields_mapM {each : α → Following β} {items : List α}
    (h : ∀ item ∈ items, Yields fine (each item)) :
    Yields (fun results => ∀ result ∈ results, fine result) (items.mapM each) := by
  induction items with
  | nil => exact yields_pure fun _ hmem => absurd hmem List.not_mem_nil
  | cons item rest ih =>
    obtain ⟨hitem, hrest⟩ := List.forall_mem_cons.mp h
    rw [List.mapM_cons]
    refine yields_bind hitem fun first hfirst => yields_bind (ih hrest) fun others hothers => ?_
    exact yields_pure (List.forall_mem_cons.mpr ⟨hfirst, hothers⟩)

end Yields

/-- **A YAML node is read into a tidy value**, by induction on the depth. -/
theorem tidy_valueOf (anchored : List (Nat × Node)) (depth : Nat) (node : Node) :
    Yields Value.Tidy (valueOf anchored depth node) := by
  induction depth generalizing node with
  | zero =>
    rw [valueOf]
    refine yields_bind (yields_true _) fun node _ => ?_
    split
    · exact yields_lift fun value hvalue => tidy_of_scalarValue? hvalue
    · exact yields_failure
  | succ depth ih =>
    rw [valueOf]
    refine yields_bind (yields_true _) fun node _ => ?_
    split
    · exact yields_lift fun value hvalue => tidy_of_scalarValue? hvalue
    · refine yields_bind (yields_true _) fun values _ => ?_
      exact yields_pure (tidy_underTag _ (.list values))
    · next properties entries =>
      have hmembers : ∀ entry ∈ entries, Yields (fun member : String × Value => member.2.Tidy) (do
          pure (← keyOf anchored entry.1, ← valueOf anchored depth entry.2)) := by
        intro entry _
        refine yields_bind (yields_true _) fun key _ =>
          yields_bind (ih entry.2) fun value hvalue => ?_
        exact yields_pure hvalue
      refine yields_bind (yields_mapM hmembers) fun members heach => ?_
      exact yields_pure (tidy_underTag _ (Settings.tidy_table_iff.mpr (.merge heach)))
    · exact yields_failure

theorem isMapOf_of_tableOf? {node : Node} {table : Table} (h : tableOf? node = some table) :
    IsMapOf Value.Tidy table := by
  unfold tableOf? at h
  split at h
  · cases h
    exact .nil
  · split at h
    · next members left hvalue =>
      cases h
      exact Settings.tidy_table_iff.mp (tidy_valueOf _ _ _ _ _ hvalue)
    · cases h
  · cases h

/-- **A YAML document is read into tables without repeated keys.** -/
theorem isMapOf_of_parse {text : String} {table : Table} (h : parse text = some table) :
    IsMapOf Value.Tidy table := by
  unfold parse at h
  split at h
  · cases h
  · split at h
    · cases h
    · cases h
      exact .nil
    · exact isMapOf_of_tableOf? h

end Yaml

/-! ### Files -/

/-- **Every file is read into tables without repeated keys**, whatever its format. -/
theorem ConfigFormat.isMapOf_of_read? {format : ConfigFormat} {text : String} {table : Table}
    (h : format.read? text = some table) : IsMapOf Value.Tidy table := by
  unfold ConfigFormat.read? at h
  split at h
  · exact Toml.isMapOf_of_parse h
  · exact Yaml.isMapOf_of_parse h
  · split at h
    · next members hmembers =>
      cases h
      obtain ⟨value, -, hvalue⟩ := Option.map_eq_some_iff.mp hmembers
      have hformed : (Json.object members).WellFormed := by
        rw [← hvalue]
        exact Json.wellFormed_merged value
      have htidy := tidy_ofJson (.object members) hformed
      rw [Value.ofJson] at htidy
      exact tidy_table_iff.mp htidy
    · cases h

/-! ### Variables -/

theorem tidy_plainVariable (text : List Char) : (plainVariable text).Tidy := by
  unfold plainVariable
  dsimp only
  split
  · exact .real
  · split
    · exact .text _
    · split
      · split
        · exact .whole _
        · exact .text _
      · split
        · exact .whole _
        · exact .text _

/-- Whatever is read from a variable's text is tidy, by induction on the steps: a value, and the
entries of a table. -/
theorem tidy_readVariable (fuel : Nat) :
    (∀ {text value rest}, readVariable fuel text = some (value, rest) → value.Tidy) ∧
    (∀ {text entries rest}, readVariableEntries fuel text = some (entries, rest) →
      ∀ entry ∈ entries, Value.Tidy entry.2) := by
  induction fuel with
  | zero => simp [readVariable, readVariableEntries]
  | succ fuel ih =>
    obtain ⟨ihvalue, ihentries⟩ := ih
    constructor
    · intro text value rest h
      rw [readVariable] at h
      obtain ⟨⟨read, after⟩, hread, heq⟩ := Option.map_eq_some_iff.mp h
      cases heq
      split at hread
      · cases hread
        exact .flag true
      · cases hread
        exact .flag false
      · obtain ⟨⟨entries, last⟩, hentries, heq⟩ := Option.map_eq_some_iff.mp hread
        cases heq
        exact tidy_table_iff.mpr (.merge (ihentries hentries))
      · obtain ⟨_, -, heq⟩ := Option.map_eq_some_iff.mp hread
        cases heq
        exact .list _
      · obtain ⟨_, -, heq⟩ := Option.map_eq_some_iff.mp hread
        cases heq
        exact .text _
      · cases hread
        exact .text _
      · cases hread
      · cases hread
        exact tidy_plainVariable _
    · intro text entries rest h
      rw [readVariableEntries.eq_def] at h
      dsimp only at h
      split at h
      · cases h
        simp
      · split at h
        · cases h
        · split at h
          · split at h
            · cases h
            · next value rest hvalue =>
              obtain ⟨⟨others, after⟩, hothers, heq⟩ := Option.map_eq_some_iff.mp h
              cases heq
              exact List.forall_mem_cons.mpr ⟨ihvalue hvalue, ihentries hothers⟩
            · next value rest hvalue =>
              cases h
              exact List.forall_mem_cons.mpr ⟨ihvalue hvalue, by simp⟩
            · cases h
          · cases h

theorem tidy_valueOfText (text : String) : (valueOfText text).Tidy := by
  unfold valueOfText
  dsimp only
  split
  · next value hvalue => exact (tidy_readVariable _).1 hvalue
  · exact .text text

theorem tidy_nest {value : Value} (h : value.Tidy)
    (path : List String) : (nest value path).Tidy := by
  induction path with
  | nil => exact h
  | cons key rest ih =>
    rw [nest]
    exact tidy_table_iff.mpr (.singleton ih)

theorem isMapOf_tableOfVariable (name text : String) :
    IsMapOf Value.Tidy (tableOfVariable name text) := by
  unfold tableOfVariable
  split
  · exact .singleton (tidy_nest (tidy_valueOfText text) _)
  · exact .nil

/-- The table of the environment is made of the tables of the variables, one laid over the other. -/
theorem tableOfVariables_eq (vars : List (String × String)) :
    tableOfVariables vars = (vars.map fun entry => tableOfVariable entry.1 entry.2).foldl
      overlayTable [] :=
  (List.foldl_map ..).symm

/-- **The variables of the environment make tables without repeated keys.** -/
theorem isMapOf_tableOfVariables (vars : List (String × String)) :
    IsMapOf Value.Tidy (tableOfVariables vars) := by
  rw [tableOfVariables_eq]
  refine isMapOf_foldl_overlayTable (List.forall_mem_cons.mpr ⟨.nil,
    List.forall_mem_map.mpr fun entry _ => ?_⟩)
  exact isMapOf_tableOfVariable entry.1 entry.2

end ContentGraph.Settings
