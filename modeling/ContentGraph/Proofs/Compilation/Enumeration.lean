import ContentGraph.Proofs.Compilation.Emitted
import ContentGraph.Proofs.Registry.Below

/-!
# The registry is the enumeration of parts

Registration is spread over the walk, among declarations and early exits.  What it amounts to can be
read off the schema alone:

* `entries_compile` — the registry of a compiled custom type lists the entries of its parts, in
  order, and each part has exactly one.
-/

namespace ContentGraph

variable {naming : TypeNaming} {id : String} {type : CustomType} {compiled : CompiledType}

/-- **The registry is the structural traversal.**  Its entries are those of the parts in order, and
none but a part's own entry stands at the path of the part. -/
theorem entries_compile (h : compile naming id type = .ok compiled) :
    compiled.paths.entries = (type.parts id).map (Part.entry naming.typePrefix) ∧
      ∀ part ∈ type.parts id,
        (compiled.paths.entries.filter fun entry => entry.path = part.path) =
          [part.entry naming.typePrefix] := by
  have hentries := (compile_ok h).2
  refine ⟨hentries, ?_⟩
  intro part hpart
  have hmem : part.entry naming.typePrefix ∈ compiled.paths.entries := by
    rw [hentries]
    exact List.mem_map_of_mem hpart
  exact Registry.filter_path_of_mem hmem

/-- The enumeration of the sample. -/
theorem entries_compile_sample :
    ∃ compiled, compile {} "page" .sample = .ok compiled ∧
      compiled.paths.entries = (CustomType.sample.parts "page").map (Part.entry "Prismic") ∧
      ∀ part ∈ CustomType.sample.parts "page",
        (compiled.paths.entries.filter fun entry => entry.path = part.path) =
          [part.entry "Prismic"] := by
  obtain ⟨compiled, h⟩ := exists_compile_sample
  exact ⟨compiled, h, entries_compile h⟩

end ContentGraph
