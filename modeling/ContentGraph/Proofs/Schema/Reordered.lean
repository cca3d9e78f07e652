import ContentGraph.Proofs.Schema.Parts
import Mathlib.Data.Multiset.Bind

/-!
# Custom types in another order

Tabs, fields, choices and thumbnails are kept in the order in which they are written.  Two custom
types that differ in that order alone, at any depth, have the same entries one to one; top-level
fields may also stand in other tabs.

* `Keyed.Alike` — two entries of one key with related values;
* `Field.Reordered`, `Choice.Reordered`, `CustomType.Reordered` — the same but for the order, at
  every depth;
* `Field.Reordered.induction` — the induction that follows groups and slice zones on both sides;
* `rel_flatMap`, `rel_filter`, `perm_map_of_rel` — what is made of lists whose members correspond
  one to one.
-/

namespace ContentGraph

/-! ### Lists whose members correspond one to one -/

section Correspondence

variable {α β γ δ : Type} {R : α → β → Prop} {items : List α} {others : List β}

/-- Members correspond when they do one by one, after one list has been brought into another
order. -/
theorem rel_of_forall₂_perm {mid : List β} (h : List.Forall₂ R items mid) (perm : mid.Perm others) :
    Multiset.Rel R items others := by
  rw [← Multiset.coe_eq_coe.mpr perm]
  induction h generalizing others with
  | nil => exact .zero
  | cons head _ ih => exact .cons head (ih (List.Perm.refl _))

/-- What is made of corresponding members corresponds, put together in the order of each list. -/
theorem rel_flatMap {S : γ → δ → Prop} {f : α → List γ} {g : β → List δ}
    (h : Multiset.Rel R items others) (hmade : ∀ a b, R a b → Multiset.Rel S (f a) (g b)) :
    Multiset.Rel S (items.flatMap f) (others.flatMap g) := by
  rw [← Multiset.coe_bind, ← Multiset.coe_bind]
  apply Multiset.rel_bind _ h
  intro a b hab
  exact hmade a b hab

/-- What is read alike off corresponding members is the same, in the order of each list. -/
theorem perm_map_of_rel {f : α → γ} {g : β → γ} (h : Multiset.Rel R items others)
    (hread : ∀ a b, R a b → f a = g b) : (items.map f).Perm (others.map g) := by
  rw [← Multiset.coe_eq_coe, ← Multiset.map_coe, ← Multiset.map_coe, ← Multiset.rel_eq,
    Multiset.rel_map]
  exact h.mono fun a _ b _ hab => hread a b hab

theorem perm_filterMap_of_rel {f : α → Option γ} {g : β → Option γ}
    (h : Multiset.Rel R items others)
    (hread : ∀ a b, R a b → f a = g b) : (items.filterMap f).Perm (others.filterMap g) := by
  have hperm := (perm_map_of_rel h hread).filterMap id
  rwa [List.filterMap_map, List.filterMap_map, Function.id_comp, Function.id_comp] at hperm

/-- Members that are kept alike correspond. -/
theorem rel_filter {p : α → Bool} {r : β → Bool} (h : Multiset.Rel R items others)
    (hkept : ∀ a b, R a b → p a = r b) : Multiset.Rel R (items.filter p) (others.filter r) := by
  have hfilter {ε : Type} (list : List ε) (kept : ε → Bool) :
      list.filter kept = list.flatMap fun a => [a].filter kept := by
    rw [← List.filter_flatMap, List.flatMap_singleton']
  rw [hfilter, hfilter]
  apply rel_flatMap h
  intro a b hab
  rw [List.filter_singleton, List.filter_singleton, hkept a b hab]
  cases r b with
  | true => exact .cons hab .zero
  | false => exact .zero

/-- Two members, exchanged on one side. -/
theorem rel_swap {a second : α} {b other : β} (h : R a b) (hsecond : R second other) :
    Multiset.Rel R ([a, second] : List α) ([other, b] : List β) :=
  rel_of_forall₂_perm (.cons h (.cons hsecond .nil)) (.swap other b [])

/-- What is read alike off corresponding options is the same. -/
theorem map_eq_of_rel {a : Option α} {b : Option β} {f : α → γ} {g : β → γ} (h : Option.Rel R a b)
    (hread : ∀ a b, R a b → f a = g b) : a.map f = b.map g := by
  cases h with
  | some hab => exact congrArg some (hread _ _ hab)
  | none => rfl

theorem rel_toList {a : Option α} {b : Option β} (h : Option.Rel R a b) :
    Multiset.Rel R a.toList b.toList := by
  cases h with
  | some hab => exact .cons hab .zero
  | none => exact .zero

/-- One member at most leaves no choice of an order. -/
theorem eq_of_perm_toList {a b : Option α} (h : a.toList.Perm b.toList) : a = b := by
  cases a with
  | none => exact (Option.toList_eq_nil_iff.mp (List.nil_perm.mp h)).symm
  | some a => exact (Option.toList_eq_singleton_iff.mp (List.singleton_perm.mp h).symm).symm

end Correspondence

/-! ### The same but for the order -/

/-- Two entries of one key with related values. -/
inductive Keyed.Alike {α : Type} (R : α → α → Prop) : String × α → String × α → Prop
  | intro (key : String) {value other : α} (h : R value other) : Alike R (key, value) (key, other)

/-- The same choice but for the order of the fields in its halves. -/
inductive Choice.Reordered {F : Type} (R : F → F → Prop) : Choice F → Choice F → Prop
  | intro {primary otherPrimary items otherItems : List (String × F)} (extra : ExtraMembers)
      (hprimary : Multiset.Rel (Keyed.Alike R) primary otherPrimary)
      (hitems : Multiset.Rel (Keyed.Alike R) items otherItems) :
      Reordered R ⟨primary, items, extra⟩ ⟨otherPrimary, otherItems, extra⟩

/-- The same field but for the order of thumbnails, fields and choices, at any depth. -/
inductive Field.Reordered : Field → Field → Prop
  | leaf (kind : LeafKind) (extra : ExtraMembers) : Reordered (.leaf kind extra) (.leaf kind extra)
  | image {thumbnails others : List ThumbnailSpec} (extra : ExtraMembers)
      (h : thumbnails.Perm others) :
      Reordered (.image thumbnails extra) (.image others extra)
  | group {fields others : FieldMap} (extra : ExtraMembers)
      (h : Multiset.Rel (Keyed.Alike Field.Reordered) fields others) :
      Reordered (.group fields extra) (.group others extra)
  | slices {choices others : List (String × Choice Field)} (extra : ExtraMembers)
      (h : Multiset.Rel (Keyed.Alike (Choice.Reordered Field.Reordered)) choices others) :
      Reordered (.slices choices extra) (.slices others extra)

/-- The same custom type but for the order of tabs, of fields and of all that they hold, and for the
tab that a top-level field stands in. -/
def CustomType.Reordered (type other : CustomType) : Prop :=
  Multiset.Rel (Keyed.Alike Field.Reordered) type.fields other.fields

/-- A relation of fields that are the same but for the order: of leaves, of images with the same
thumbnails, of groups whose fields it relates one to one, of slice zones whose choices' fields it
relates one to one. -/
theorem Field.Reordered.induction {motive : Field → Field → Prop}
    (leaf : ∀ kind extra, motive (.leaf kind extra) (.leaf kind extra))
    (image : ∀ (thumbnails others : List ThumbnailSpec) extra, thumbnails.Perm others →
      motive (.image thumbnails extra) (.image others extra))
    (group : ∀ (fields others : FieldMap) extra, Multiset.Rel (Keyed.Alike motive) fields others →
      motive (.group fields extra) (.group others extra))
    (slices : ∀ (choices others : List (String × Choice Field)) extra,
      Multiset.Rel (Keyed.Alike (Choice.Reordered motive)) choices others →
        motive (.slices choices extra) (.slices others extra))
    {field other : Field} (h : field.Reordered other) : motive field other := by
  refine Field.Reordered.rec (motive_1 := fun field other _ => motive field other)
    (motive_2 := fun fields others _ => Multiset.Rel (Keyed.Alike motive) fields others)
    (motive_3 := fun choices others _ => Multiset.Rel
      (Keyed.Alike (Choice.Reordered motive)) choices others)
    (motive_4 := fun field other _ => Keyed.Alike motive field other)
    (motive_5 := fun choice other _ => Keyed.Alike (Choice.Reordered motive) choice other)
    (motive_6 := fun choice other _ => Choice.Reordered motive choice other)
    leaf (fun extra perm => image _ _ extra perm) (fun extra _ ih => group _ _ extra ih)
    (fun extra _ ih => slices _ _ extra ih) ?_ ?_ ?_ ?_ ?_ ?_ ?_ h
  · exact .zero
  · exact fun _ _ hhead htail => .cons hhead htail
  · exact .zero
  · exact fun _ _ hhead htail => .cons hhead htail
  · exact fun key _ _ _ ih => .intro key ih
  · exact fun key _ _ _ ih => .intro key ih
  · exact fun extra _ _ hprimary hitems => .intro extra hprimary hitems

/-- An identifier corresponds to an identifier. -/
theorem Field.Reordered.isUid_eq {field other : Field} (h : field.Reordered other) :
    field.isUid = other.isUid := by
  cases h with
  | leaf kind extra => rfl
  | image extra h => rfl
  | group extra h => rfl
  | slices extra h => rfl

/-! ### Top-level fields in another order -/

namespace CustomType.Reordered

variable {type other : CustomType}

/-- Identifiers correspond one to one. -/
theorem rel_uidFields (h : type.Reordered other) :
    Multiset.Rel (Keyed.Alike Field.Reordered) (type.fields.filter fun field => field.2.isUid)
      (other.fields.filter fun field => field.2.isUid) := by
  apply rel_filter h
  rintro _ _ ⟨key, hfield⟩
  exact hfield.isUid_eq

theorem oneUid_iff (h : type.Reordered other) : type.OneUid ↔ other.OneUid := by
  have hlength := Multiset.card_eq_card_of_rel h.rel_uidFields
  rw [Multiset.coe_card, Multiset.coe_card] at hlength
  rw [OneUid, OneUid, List.countP_eq_length_filter, List.countP_eq_length_filter, hlength]

theorem rel_dataFields (h : type.Reordered other) :
    Multiset.Rel (Keyed.Alike Field.Reordered) type.dataFields other.dataFields := by
  apply rel_filter h
  rintro _ _ ⟨key, hfield⟩
  rw [hfield.isUid_eq]

end CustomType.Reordered

end ContentGraph
