import ContentGraph.Proofs.Compilation.Emitted
import ContentGraph.Proofs.Schema.Distinct

/-!
# Which custom types compile

A compilation stops at a second identifier, a path registered twice or a name generated twice.
Paths below a field are kept apart by the keys of its maps, so what is left to go wrong can be
listed.

* `CustomType.Compilable` — the five conditions on a custom type;
* `compile_completes_iff` — a custom type with distinct keys compiles exactly when it meets them.
-/

namespace ContentGraph

namespace CustomType

/-- The generated names: the data type, the root type, one for each group and slice zone, three for
each choice. -/
def generatedNames (naming : TypeNaming) (id : String) (type : CustomType) : List String :=
  (type.parts id).filterMap (Part.generated? naming.typePrefix)

/-- What a custom type has to meet in order to compile. -/
structure Compilable (naming : TypeNaming) (id : String) (type : CustomType) : Prop where
  oneUid : type.OneUid
  tabsApart : type.TabsApart
  uidApart : type.UidApart
  thumbnailsApart : type.ThumbnailsApart
  namesApart : (type.generatedNames naming id).Nodup

end CustomType

variable {naming : TypeNaming} {id : String} {type : CustomType}

/-- **Exact acceptance.**  No custom type is refused for another reason, however its names coincide
with segments. -/
theorem compile_completes_iff (hkeys : type.KeysDistinct) :
    (∃ compiled, compile naming id type = .ok compiled) ↔ type.Compilable naming id := by
  rw [exists_compile_iff]
  constructor
  · rintro ⟨hone, hnames, hpaths⟩
    obtain ⟨htabs, huid, hthumbnails⟩ := (nodup_customType_iff hone hkeys).mp hpaths
    exact ⟨hone, htabs, huid, hthumbnails, hnames⟩
  · rintro ⟨hone, htabs, huid, hthumbnails, hnames⟩
    exact ⟨hone, hnames, (nodup_customType_iff hone hkeys).mpr ⟨htabs, huid, hthumbnails⟩⟩

/-- The sample, whose names repeat segments, meets the conditions and compiles. -/
theorem compile_completes_iff_sample :
    CustomType.sample.KeysDistinct ∧ CustomType.sample.Compilable {} "page" ∧
      ∃ compiled, compile {} "page" .sample = .ok compiled := by
  have hkeys : CustomType.sample.KeysDistinct := by decide
  have hmeets : CustomType.sample.Compilable {} "page" :=
    ⟨by decide, by decide, by decide, by decide, by decide⟩
  exact ⟨hkeys, hmeets, (compile_completes_iff hkeys).mpr hmeets⟩

end ContentGraph
