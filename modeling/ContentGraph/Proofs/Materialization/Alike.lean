import ContentGraph.Proofs.Materialization.Walked

/-!
# Walks that agree

Two walks that see the same kinds below the type of a document, and make the same of every value
that holds no further fields, make the same of the whole document.  What happens on the way may come
in another order.

* `Traced.Similar` — the same value, and the same events in some order;
* `Walk.Alike` — two walks that agree on kinds and on single fields;
* `Walk.similar_value`, `Walk.similar_record` — they agree at every depth.
-/

namespace ContentGraph

/-! ### Similar traces -/

/-- The same value, and the same events in some order. -/
structure Traced.Similar {α : Type} (a b : Traced α) : Prop where
  value : a.value = b.value
  events : a.events.Perm b.events

namespace Traced

variable {α β γ : Type}

theorem Similar.refl (a : Traced α) : a.Similar a := ⟨rfl, List.Perm.refl _⟩

theorem Similar.map {a b : Traced α} (h : a.Similar b) (f : α → β) : (a.map f).Similar (b.map f) :=
  ⟨congrArg f h.value, h.events⟩

theorem Similar.both {a b : Traced α} {c d : Traced β} (hfirst : a.Similar b)
    (hsecond : c.Similar d) (f : α → β → γ) : (Traced.both f a c).Similar (Traced.both f b d) where
  value := by rw [Traced.both, Traced.both, hfirst.value, hsecond.value]
  events := hfirst.events.append hsecond.events

theorem Similar.diagnostics {a b : Traced α} (h : a.Similar b) : a.diagnostics.Perm b.diagnostics :=
  h.events.filterMap _

theorem Similar.requests {a b : Traced α} (h : a.Similar b) : a.requests.Perm b.requests :=
  h.events.filterMap _

end Traced

/-! ### Walks that agree -/

namespace Walk

/-- Two walks see the same kinds below a type, and make the same of single fields. -/
structure Alike (type : String) (w v : Walk) : Prop where
  rename : w.env.renameField = v.env.renameField
  kind : ∀ rest, w.paths.kindAt? (type :: rest) = v.paths.kindAt? (type :: rest)
  leaf : ∀ rest key value, (w.leaf (type :: rest) key value).Similar
    (v.leaf (type :: rest) key value)

variable {type : String} {w v : Walk}

theorem Alike.renamed (h : Alike type w v) (members : List (String × Json)) :
    w.renamed members = v.renamed members := by
  rw [Walk.renamed, Walk.renamed, h.rename]

mutual
/-- **A value** becomes the same in both walks. -/
theorem similar_value (h : Alike type w v) (rest : Path) (key : String) :
    (value : Json) → (w.value (type :: rest) key value).Similar (v.value (type :: rest) key value)
  | .null => .refl _
  | .bool b => h.leaf rest key (.bool b)
  | .number n => h.leaf rest key (.number n)
  | .string text => h.leaf rest key (.string text)
  | .array elements => by
    have hleaf := h.leaf rest key (.array elements)
    have hrecords := similar_fieldRecords h rest elements
    have hslices := similar_slices h rest elements
    rw [Walk.value, Walk.value, h.kind]
    split
    · exact hrecords.map _
    · exact hslices.map _
    · exact hleaf
  | .object members => by
    have hleaf := h.leaf rest key (.object members)
    have hrecord := similar_record h rest members
    rw [Walk.value, Walk.value, h.kind]
    split
    · simp only [h.renamed]
      exact hrecord.map _
    · exact hleaf
/-- **A record** becomes the same. -/
theorem similar_record (h : Alike type w v) (rest : Path) :
    (members : List (String × Json)) →
      (w.record (type :: rest) members).Similar (v.record (type :: rest) members)
  | [] => .refl _
  | (key, member) :: others => by
    have hmember := similar_value h (rest ++ [key]) key member
    have hothers := similar_record h rest others
    rw [Walk.record, Walk.record]
    exact hmember.both hothers _
theorem similar_fieldRecord (h : Alike type w v) (rest : Path) :
    (element : Json) →
      (w.fieldRecord (type :: rest) element).Similar (v.fieldRecord (type :: rest) element)
  | .object members => by
    have hrecord := similar_record h rest members
    rw [Walk.fieldRecord, Walk.fieldRecord]
    simp only [h.renamed]
    exact hrecord.map _
  | .null => .refl _
  | .bool _ => .refl _
  | .number _ => .refl _
  | .string _ => .refl _
  | .array _ => .refl _
theorem similar_fieldRecords (h : Alike type w v) (rest : Path) :
    (elements : List Json) →
      (w.fieldRecords (type :: rest) elements).Similar (v.fieldRecords (type :: rest) elements)
  | [] => .refl _
  | element :: others => by
    have helement := similar_fieldRecord h rest element
    have hothers := similar_fieldRecords h rest others
    rw [Walk.fieldRecords, Walk.fieldRecords]
    exact helement.both hothers _
/-- **A slice** becomes the same, whatever its choice. -/
theorem similar_slice (h : Alike type w v) (rest : Path) :
    (element : Json) → (w.slice (type :: rest) element).Similar (v.slice (type :: rest) element)
  | .object members => by
    rw [Walk.slice, Walk.slice]
    cases (Keyed.get? "slice_type" members).bind Json.asString? with
    | none => exact .refl _
    | some choice => exact (similar_halves h (rest ++ [choice]) members).map _
  | .null => .refl _
  | .bool _ => .refl _
  | .number _ => .refl _
  | .string _ => .refl _
  | .array _ => .refl _
theorem similar_slices (h : Alike type w v) (rest : Path) :
    (elements : List Json) →
      (w.slices (type :: rest) elements).Similar (v.slices (type :: rest) elements)
  | [] => .refl _
  | element :: others => by
    have helement := similar_slice h rest element
    have hothers := similar_slices h rest others
    rw [Walk.slices, Walk.slices]
    exact helement.both hothers _
theorem similar_halves (h : Alike type w v) (choice : Path) :
    (members : List (String × Json)) →
      (w.halves (type :: choice) members).Similar (v.halves (type :: choice) members)
  | [] => .refl _
  | (key, half) :: others => by
    have hothers := similar_halves h choice others
    have hhalf : (w.half (type :: choice) key half).Similar (v.half (type :: choice) key half) := by
      cases half with
      | object members =>
        rw [Walk.half, Walk.half]
        split
        · exact similar_fieldRecord h (choice ++ [key]) (.object members)
        · exact .refl _
      | array elements =>
        rw [Walk.half, Walk.half]
        split
        · exact (similar_fieldRecords h (choice ++ [key]) elements).map _
        · exact .refl _
      | _ => exact .refl _
    rw [halves_cons, halves_cons]
    exact hhalf.both hothers _
end

/-- **A document** becomes the same. -/
theorem Alike.root (h : Alike type w v) (raw : Json) : w.root type raw = v.root type raw := by
  cases raw with
  | object members => exact congrArg Json.object (similar_record h [] members).value
  | _ => rfl

end Walk

end ContentGraph
