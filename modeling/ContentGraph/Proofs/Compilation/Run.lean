import ContentGraph.Compilation
import Mathlib.Data.List.Nodup

/-!
# Running emissions

Emissions are run one after another; the first that repeats a name or a path stops the run.  One
step says what an output admits, and a run admits a list of emissions exactly when the names
declared and the paths registered stay distinct to its end.

* `Output.Admits` with `exists_step`, `step_of_not_admits` — when a step can be taken, and what it
  does;
* `run_ok` — a completed run has appended every declaration and every entry, in order;
* `exists_run_iff` — when a run completes.
-/

namespace ContentGraph

/-! ### What an emission adds -/

namespace Emission

/-- The declaration that an emission adds. -/
def declaration? : Emission → Option TypeDeclaration
  | .declare _ declaration => some declaration
  | _ => none

/-- The entry that an emission adds. -/
def entry? : Emission → Option PathEntry
  | .register entry => some entry
  | _ => none

/-- Whether the emission reports a second identifier. -/
def isSecondUid : Emission → Bool
  | .secondUid _ _ => true
  | _ => false

/-- The clash that is reported when an emission is not admitted. -/
def clash : Emission → SchemaError
  | .declare path declaration => .duplicateTypeName declaration.name path
  | .register entry => .duplicatePath entry.path
  | .secondUid first second => .multipleUids first second

end Emission

/-- The declarations of a list of emissions. -/
def declarationsOf (emissions : List Emission) : List TypeDeclaration :=
  emissions.filterMap Emission.declaration?

/-- The entries of a list of emissions. -/
def entriesOf (emissions : List Emission) : List PathEntry :=
  emissions.filterMap Emission.entry?

theorem declarationsOf_cons (emission : Emission) (rest : List Emission) :
    declarationsOf (emission :: rest) = emission.declaration?.toList ++ declarationsOf rest := by
  cases emission <;> rfl

theorem entriesOf_cons (emission : Emission) (rest : List Emission) :
    entriesOf (emission :: rest) = emission.entry?.toList ++ entriesOf rest := by
  cases emission <;> rfl

/-! ### Registering -/

namespace Registry

theorem contains_eq_false_iff {registry : Registry} {path : Path} :
    registry.contains path = false ↔ path ∉ registry.paths := by
  rw [← contains_iff, Bool.not_eq_true]

/-- A registry takes an entry whose path is free, and puts it last. -/
theorem register?_of_not_mem {registry : Registry} {entry : PathEntry}
    (h : entry.path ∉ registry.paths) :
    ∃ next, registry.register? entry = some next ∧ next.entries = registry.entries ++ [entry] := by
  have hfresh : registry.contains entry.path = false := contains_eq_false_iff.mpr h
  refine ⟨registry.push entry hfresh, ?_, rfl⟩
  unfold register?
  split
  · next htaken =>
    rw [hfresh] at htaken
    exact absurd htaken Bool.false_ne_true
  · rfl

/-- A registry refuses an entry whose path is taken. -/
theorem register?_of_mem {registry : Registry} {entry : PathEntry}
    (h : entry.path ∈ registry.paths) :
    registry.register? entry = none := by
  have htaken : registry.contains entry.path = true := (contains_iff _ _).mpr h
  unfold register?
  split
  · rfl
  · next hfresh =>
    rw [htaken] at hfresh
    exact absurd hfresh.symm Bool.false_ne_true

end Registry

/-! ### One step -/

namespace Output

/-- An output admits a declaration of a new name and an entry at a new path. -/
def Admits (output : Output) : Emission → Prop
  | .declare _ declaration => declaration.name ∉ output.declarations.map TypeDeclaration.name
  | .register entry => entry.path ∉ output.paths.paths
  | .secondUid _ _ => False

/-- What is admitted is appended. -/
theorem exists_step {output : Output} {emission : Emission} (h : output.Admits emission) :
    ∃ next, output.step emission = .ok next ∧
      next.declarations = output.declarations ++ emission.declaration?.toList ∧
      next.paths.entries = output.paths.entries ++ emission.entry?.toList := by
  cases emission with
  | declare path declaration =>
    have hnew :
        (output.declarations.any fun earlier => earlier.name = declaration.name) = false := by
      simpa [Admits] using h
    refine ⟨{ output with declarations := output.declarations ++ [declaration] }, ?_, rfl, ?_⟩
    · simp [step, hnew]
    · exact (List.append_nil _).symm
  | register entry =>
    obtain ⟨next, hnext, hentries⟩ := Registry.register?_of_not_mem h
    refine ⟨{ output with paths := next }, ?_, (List.append_nil _).symm, hentries⟩
    simp [step, hnext]
  | secondUid first second => exact h.elim

/-- What is not admitted stops the run with its clash. -/
theorem step_of_not_admits {output : Output} {emission : Emission} (h : ¬output.Admits emission) :
    output.step emission = .error emission.clash := by
  cases emission with
  | declare path declaration =>
    have hold :
        (output.declarations.any fun earlier => earlier.name = declaration.name) = true := by
      simpa [Admits] using h
    simp only [step, hold, if_true, Emission.clash]
  | register entry =>
    have hold : output.paths.register? entry = none :=
      Registry.register?_of_mem (by simpa [Admits] using h)
    simp only [step, hold, Emission.clash]
  | secondUid first second => rfl

/-! ### A whole run -/

theorem run_cons_of_ok {output next : Output} {emission : Emission} (rest : List Emission)
    (h : output.step emission = .ok next) : output.run (emission :: rest) = next.run rest := by
  simp only [run, h]

theorem run_cons_of_error {output : Output} {emission : Emission} {e : SchemaError}
    (rest : List Emission) (h : output.step emission = .error e) :
    output.run (emission :: rest) = .error e := by
  simp only [run, h]

/-- **A completed run** has appended every declaration and every entry. -/
theorem run_ok {output result : Output} {emissions : List Emission}
    (h : output.run emissions = .ok result) :
    result.declarations = output.declarations ++ declarationsOf emissions ∧
      result.paths.entries = output.paths.entries ++ entriesOf emissions := by
  induction emissions generalizing output with
  | nil =>
    obtain rfl : output = result := by simpa [run] using h
    exact ⟨(List.append_nil _).symm, (List.append_nil _).symm⟩
  | cons emission rest ih =>
    by_cases hadmits : output.Admits emission
    · obtain ⟨next, hstep, hdeclarations, hentries⟩ := exists_step hadmits
      rw [run_cons_of_ok rest hstep] at h
      obtain ⟨hrestDeclarations, hrestEntries⟩ := ih h
      rw [hrestDeclarations, hrestEntries, hdeclarations, hentries, declarationsOf_cons,
        entriesOf_cons]
      exact ⟨List.append_assoc _ _ _, List.append_assoc _ _ _⟩
    · rw [run_cons_of_error rest (step_of_not_admits hadmits)] at h
      cases h

/-- Names and paths that stay distinct are admitted one by one. -/
theorem admits_of_nodup {output : Output} {emission : Emission} {rest : List Emission}
    (huid : emission.isSecondUid = false)
    (hnames : ((output.declarations ++ declarationsOf
      (emission :: rest)).map TypeDeclaration.name).Nodup)
    (hpaths : ((output.paths.entries ++ entriesOf (emission :: rest)).map PathEntry.path).Nodup) :
    output.Admits emission := by
  cases emission with
  | declare path declaration =>
    rw [declarationsOf_cons, List.map_append, List.nodup_append] at hnames
    intro hmem
    exact hnames.2.2 _ hmem declaration.name (by simp [Emission.declaration?]) rfl
  | register entry =>
    rw [entriesOf_cons, List.map_append, List.nodup_append] at hpaths
    intro hmem
    exact hpaths.2.2 _ hmem entry.path (by simp [Emission.entry?]) rfl
  | secondUid first second => cases huid

/-- **When a run completes:** no second identifier, no name declared twice, no path registered
twice. -/
theorem exists_run_iff (output : Output) (emissions : List Emission)
    (hnames : (output.declarations.map TypeDeclaration.name).Nodup) :
    (∃ result, output.run emissions = .ok result) ↔
      (∀ emission ∈ emissions, emission.isSecondUid = false) ∧
      ((output.declarations ++ declarationsOf emissions).map TypeDeclaration.name).Nodup ∧
      ((output.paths.entries ++ entriesOf emissions).map PathEntry.path).Nodup := by
  induction emissions generalizing output with
  | nil => simpa [run, declarationsOf, entriesOf, hnames] using output.paths.distinct
  | cons emission rest ih =>
    by_cases hadmits : output.Admits emission
    · obtain ⟨next, hstep, hdeclarations, hentries⟩ := exists_step hadmits
      have huid : emission.isSecondUid = false := by
        cases emission with
        | secondUid first second => exact hadmits.elim
        | _ => rfl
      have hnext : (next.declarations.map TypeDeclaration.name).Nodup := by
        cases emission with
        | declare path declaration =>
          rw [hdeclarations, List.map_append, List.nodup_append]
          refine ⟨hnames, by simp [Emission.declaration?], ?_⟩
          intro a ha b hb hab
          obtain rfl : b = declaration.name := by simpa [Emission.declaration?] using hb
          exact hadmits (hab ▸ ha)
        | register entry => simpa [hdeclarations, Emission.declaration?] using hnames
        | secondUid first second => exact hadmits.elim
      rw [run_cons_of_ok rest hstep, ih next hnext, hdeclarations, hentries, List.append_assoc,
        List.append_assoc, ← declarationsOf_cons, ← entriesOf_cons, List.forall_mem_cons]
      simp [huid]
    · rw [run_cons_of_error rest (step_of_not_admits hadmits)]
      constructor
      · rintro ⟨result, hresult⟩
        cases hresult
      · rintro ⟨huid, hdeclared, hregistered⟩
        exact absurd (admits_of_nodup (huid emission List.mem_cons_self) hdeclared hregistered)
          hadmits

end Output

end ContentGraph
