import ContentGraph.Compilation.Stored
import ContentGraph.Proofs.Json.Records
import ContentGraph.Proofs.Json.Text
import ContentGraph.Proofs.Keyed
import ContentGraph.Proofs.TypeRef.Written

/-!
# Stored declarations read back

A stored declaration holds everything but the type references of its fields as it is; those are
written as texts and parsed again.  So a declaration is read back exactly when all its type
references are, and differs from the one stored in nothing else.

* `TypeDeclaration.typeRefs` — the type references of a declaration;
* `TypeDeclaration.trimmed` — the declaration with its type references as they are read;
* `TypeDeclaration.Storable` — fields with distinct names, references to names that end in a name
  character;
* `TypeDeclaration.ofJson?_toJson` — what becomes of a stored declaration, `listOfJson?_listToJson`
  of several;
* `TypeDeclaration.plainWithin_toJson` — how deep a stored declaration nests.
-/

namespace ContentGraph

/-! ### Constants -/

theorem FieldExtension.ofName?_name (extension : FieldExtension) :
    ofName? extension.name = some extension := by
  cases extension
  rfl

theorem ScalarBehavior.ofName?_name (behavior : ScalarBehavior) :
    ofName? behavior.name = some behavior := by
  cases behavior
  rfl

/-! ### Type references -/

/-- A stored type reference is read back when what stands in it can be read. -/
theorem TypeRef.ofJson?_toJson {ref : TypeRef} (h : EndsInName ref.baseName.toList) :
    ofJson? ref.toJson = if ref.Readable then some ref.trimmed else none := parse_render h

/-! ### Fields -/

namespace FieldDecl

/-- The field with its type reference as it is read. -/
def trimmed (field : FieldDecl) : FieldDecl := { field with typeRef := field.typeRef.trimmed }

/-- The extensions of a field as stored. -/
def extensionMembers (extensions : List FieldExtension) : List (String × Json) :=
  if extensions.isEmpty then []
    else [("extensions", .array (extensions.map fun extension => .string extension.name))]

/-- The resolver of a field as stored. -/
def resolverMembers : Option FieldResolver → List (String × Json)
  | none => []
  | some resolver => [("resolver", .string resolver.name)]

theorem toJson_eq (typeRef : TypeRef) (extensions : List FieldExtension)
    (resolver : Option FieldResolver) :
    toJson ⟨typeRef, extensions, resolver⟩ =
      .object (("type", typeRef.toJson) :: (extensionMembers extensions ++
        resolverMembers resolver)) := by
  cases resolver <;> rfl

theorem extensions?_extensionMembers (extensions : List FieldExtension) :
    extensions? (Keyed.get? "extensions" (extensionMembers extensions)) = some extensions := by
  cases extensions with
  | nil => rfl
  | cons first rest =>
    have hread : ((first :: rest).map fun extension => Json.string extension.name).mapM
        (fun element => element.innerUnitName?.bind FieldExtension.ofName?) =
          some ((first :: rest).map id) :=
      mapM_map_of_forall fun extension _ => extension.ofName?_name
    rw [List.map_id] at hread
    exact hread

theorem resolver?_resolverMembers (resolver : Option FieldResolver) :
    resolver? (Keyed.get? "resolver" (resolverMembers resolver)) = some resolver := by
  cases resolver with
  | none => rfl
  | some resolver => cases resolver <;> rfl

/-- **What becomes of a stored field.** -/
theorem ofJson?_toJson {field : FieldDecl} (h : TypeRef.EndsInName field.typeRef.baseName.toList) :
    ofJson? field.toJson = if field.typeRef.Readable then some field.trimmed else none := by
  obtain ⟨typeRef, extensions, resolver⟩ := field
  let members :=
    ("type", typeRef.toJson) :: (extensionMembers extensions ++ resolverMembers resolver)
  have hrecord : (Json.object members).record? ["type", "extensions", "resolver"] =
      some members := by
    refine Json.record?_of_known ?_ ?_ <;> cases extensions <;> cases resolver <;>
      simp [members, extensionMembers, resolverMembers, Keyed.Distinct, Keyed.keys]
  have hextensions :
      Keyed.get? "extensions" members = Keyed.get? "extensions" (extensionMembers extensions) := by
    cases extensions <;> cases resolver <;> rfl
  have hresolver :
      Keyed.get? "resolver" members = Keyed.get? "resolver" (resolverMembers resolver) := by
    cases extensions <;> cases resolver <;> rfl
  have htype : Keyed.get? "type" members = some typeRef.toJson := rfl
  have hjson : toJson ⟨typeRef, extensions, resolver⟩ = .object members :=
    toJson_eq typeRef extensions resolver
  rw [hjson, ofJson?]
  simp only [hrecord, htype, hextensions, hresolver, extensions?_extensionMembers,
    resolver?_resolverMembers, Option.bind_eq_bind, Option.bind_some, TypeRef.ofJson?_toJson h]
  split
  · rfl
  · rfl

/-- A stored field is an object of strings and one array of strings. -/
theorem plainWithin_toJson (field : FieldDecl) : Json.PlainWithin 2 field.toJson := by
  obtain ⟨typeRef, extensions, resolver⟩ := field
  have hextensions : ∀ member ∈ extensionMembers extensions, Json.PlainWithin 1 member.2 := by
    rw [extensionMembers]
    split
    · exact fun _ hmember => absurd hmember List.not_mem_nil
    · refine List.forall_mem_singleton.mpr ⟨Nat.zero_lt_one,
        Json.plainWithinElements_iff.mpr fun value hvalue => ?_⟩
      obtain ⟨extension, -, rfl⟩ := List.mem_map.mp hvalue
      trivial
  have hresolver : ∀ member ∈ resolverMembers resolver, Json.PlainWithin 1 member.2 := by
    cases resolver with
    | none => exact fun _ hmember => absurd hmember List.not_mem_nil
    | some resolver => exact List.forall_mem_singleton.mpr trivial
  rw [toJson_eq]
  refine ⟨Nat.zero_lt_two, Json.plainWithinMembers_iff.mpr ?_⟩
  rw [List.forall_mem_cons, List.forall_mem_append]
  exact ⟨trivial, hextensions, hresolver⟩

theorem plainWithin_mapToJson (fields : List (String × FieldDecl)) :
    Json.PlainWithin 3 (mapToJson fields) := by
  refine ⟨Nat.zero_lt_succ 2, Json.plainWithinMembers_iff.mpr
    (List.forall_mem_map.mpr fun field _ => ?_)⟩
  exact field.2.plainWithin_toJson

/-- Fields with their type references as they are read. -/
def trimmedMap (fields : List (String × FieldDecl)) : List (String × FieldDecl) :=
  fields.map fun field => (field.1, field.2.trimmed)

/-- **What becomes of a stored field map** whose names differ. -/
theorem mapOfJson?_mapToJson {fields : List (String × FieldDecl)} (distinct : Keyed.Distinct fields)
    (h : ∀ field ∈ fields, TypeRef.EndsInName field.2.typeRef.baseName.toList) :
    mapOfJson? (mapToJson fields) =
      if ∀ field ∈ fields, field.2.typeRef.Readable then some (trimmedMap fields) else none := by
  have hread : (fields.map fun field => (field.1, field.2.toJson)).mapM
      (fun member => (ofJson? member.2).map fun field => (member.1, field)) =
        if ∀ field ∈ fields, field.2.typeRef.Readable then some (trimmedMap fields) else none := by
    refine mapM_map_ite fun field hfield => ?_
    rw [ofJson?_toJson (h field hfield)]
    split
    · rfl
    · rfl
  have hdistinct : Keyed.Distinct (trimmedMap fields) := by
    rw [Keyed.Distinct, Keyed.keys, trimmedMap, List.map_map]
    exact distinct
  rw [mapToJson, mapOfJson?, hread]
  split
  · rw [Option.map_some, Keyed.merge_of_distinct hdistinct]
  · rfl

end FieldDecl

/-! ### Declarations -/

namespace TypeDeclaration

/-- The fields of an object type or an interface. -/
def fields : TypeDeclaration → List (String × FieldDecl)
  | .object type => type.fields
  | .interface type => type.fields
  | .union _ | .scalar _ => []

/-- The type references of a declaration's fields. -/
def typeRefs (declaration : TypeDeclaration) : List TypeRef :=
  declaration.fields.map fun field => field.2.typeRef

/-- The declaration with its type references as they are read. -/
def trimmed : TypeDeclaration → TypeDeclaration
  | .object type => .object { type with fields := FieldDecl.trimmedMap type.fields }
  | .interface type => .interface { type with fields := FieldDecl.trimmedMap type.fields }
  | .union type => .union type
  | .scalar type => .scalar type

/-- No two fields share a name, and every type reference ends in a name character. -/
structure Storable (declaration : TypeDeclaration) : Prop where
  distinct : Keyed.Distinct declaration.fields
  ending : ∀ ref ∈ declaration.typeRefs, TypeRef.EndsInName ref.baseName.toList

theorem forall_mem_typeRefs {declaration : TypeDeclaration} {P : TypeRef → Prop} :
    (∀ ref ∈ declaration.typeRefs, P ref) ↔ ∀ field ∈ declaration.fields, P field.2.typeRef :=
  List.forall_mem_map

end TypeDeclaration

/-- An object type is read back with the fields that are read. -/
theorem ObjectType.ofJson?_toMembers (type : ObjectType) :
    ofJson? (.object type.toMembers) =
      (FieldDecl.mapOfJson? (FieldDecl.mapToJson type.fields)).map fun fields =>
        { type with fields } := by
  obtain ⟨name, fields, interfaces⟩ := type
  have hrecord :
      (Json.object (toMembers ⟨name, fields, interfaces⟩)).record?
          ["name", "fields", "interfaces"] =
        some (toMembers ⟨name, fields, interfaces⟩) := by
    refine Json.record?_of_known ?_ ?_ <;> cases interfaces <;>
      simp [toMembers, Keyed.Distinct, Keyed.keys]
  have hname : Keyed.get? "name" (toMembers ⟨name, fields, interfaces⟩) = some (.string name) := rfl
  have hfields : Keyed.get? "fields" (toMembers ⟨name, fields, interfaces⟩) =
      some (FieldDecl.mapToJson fields) := rfl
  simp only [ofJson?, hrecord, hname, hfields, Option.bind_eq_bind, Option.bind_some,
    Json.asString?]
  cases FieldDecl.mapOfJson? (FieldDecl.mapToJson fields) with
  | none => rfl
  | some read =>
    cases interfaces with
    | nil => rfl
    | cons first rest =>
      have hinterfaces : Keyed.get? "interfaces" (toMembers ⟨name, fields, first :: rest⟩) =
          some (Json.ofStrings (first :: rest)) := rfl
      rw [Option.bind_some, hinterfaces]
      simp only [Json.strings?_ofStrings, Option.bind_some, Option.map_some]

/-- An interface is read back with the fields that are read. -/
theorem InterfaceType.ofJson?_toMembers (type : InterfaceType) :
    ofJson? (.object type.toMembers) =
      (FieldDecl.mapOfJson? (FieldDecl.mapToJson type.fields)).map fun fields =>
        { type with fields } := by
  obtain ⟨name, fields⟩ := type
  have hrecord : (Json.object (toMembers ⟨name, fields⟩)).record? ["name", "fields"] =
      some (toMembers ⟨name, fields⟩) :=
    Json.record?_of_known (by simp [toMembers, Keyed.Distinct, Keyed.keys]) (by simp [toMembers])
  have hname : Keyed.get? "name" (toMembers ⟨name, fields⟩) = some (.string name) := rfl
  have hfields :
      Keyed.get? "fields" (toMembers ⟨name, fields⟩) = some (FieldDecl.mapToJson fields) := rfl
  simp only [ofJson?, hrecord, hname, hfields, Option.bind_eq_bind, Option.bind_some,
    Json.asString?]
  cases FieldDecl.mapOfJson? (FieldDecl.mapToJson fields) with
  | none => rfl
  | some read => rfl

theorem UnionType.ofJson?_toMembers (type : UnionType) :
    ofJson? (.object type.toMembers) = some type := by
  have hrecord : (Json.object type.toMembers).record? ["name", "types"] = some type.toMembers :=
    Json.record?_of_known (by simp [toMembers, Keyed.Distinct, Keyed.keys]) (by simp [toMembers])
  have hname : Keyed.get? "name" type.toMembers = some (.string type.name) := rfl
  have hget : Keyed.get? "types" type.toMembers = some (Json.ofStrings type.members) := rfl
  simp only [ofJson?, hrecord, hname, hget, Option.bind_eq_bind, Option.bind_some, Json.asString?,
    Json.strings?_ofStrings]

theorem ScalarType.ofJson?_toMembers (type : ScalarType) :
    ofJson? (.object type.toMembers) = some type := by
  have hrecord : (Json.object type.toMembers).record? ["name", "behavior"] = some type.toMembers :=
    Json.record?_of_known (by simp [toMembers, Keyed.Distinct, Keyed.keys]) (by simp [toMembers])
  have hname : Keyed.get? "name" type.toMembers = some (.string type.name) := rfl
  have hget : Keyed.get? "behavior" type.toMembers = some (.string type.behavior.name) := rfl
  simp only [ofJson?, hrecord, hname, hget, Option.bind_eq_bind, Option.bind_some, Json.asString?,
    Json.innerUnitName?, Json.unitName?, ScalarBehavior.ofName?_name]

namespace TypeDeclaration

/-- The kind of a stored declaration is found first. -/
theorem tagged?_kind {kind : String} {members : List (String × Json)}
    (absent : "kind" ∉ Keyed.keys members) :
    (Json.object (("kind", .string kind) :: members)).tagged? "kind" [] =
      some (kind, .object members) :=
  Json.tagged?_object [] absent

/-- The fields of a declaration, all of which or none are read. -/
theorem mapOfJson?_fields {declaration : TypeDeclaration} (h : declaration.Storable) :
    FieldDecl.mapOfJson? (FieldDecl.mapToJson declaration.fields) =
      if ∀ ref ∈ declaration.typeRefs, ref.Readable then
        some (FieldDecl.trimmedMap declaration.fields) else none := by
  rw [FieldDecl.mapOfJson?_mapToJson h.distinct (forall_mem_typeRefs.mp h.ending)]
  exact if_congr forall_mem_typeRefs.symm rfl rfl

/-- **What becomes of a stored declaration**: it is read back, its type references as they are read,
when all of them can be read. -/
theorem ofJson?_toJson {declaration : TypeDeclaration} (h : declaration.Storable) :
    ofJson? declaration.toJson =
      if ∀ ref ∈ declaration.typeRefs, ref.Readable then some declaration.trimmed else none := by
  have hfields := mapOfJson?_fields h
  cases declaration with
  | object type =>
    have habsent : "kind" ∉ Keyed.keys type.toMembers := by
      obtain ⟨name, fields, interfaces⟩ := type
      cases interfaces <;> simp [ObjectType.toMembers]
    have hread : ofJson? (toJson (.object type)) =
        (ObjectType.ofJson? (.object type.toMembers)).map .object := by
      simp only [toJson, ofJson?, tagged?_kind habsent, Option.bind_eq_bind,
        Option.bind_some, ↓reduceIte]
    rw [hread, ObjectType.ofJson?_toMembers]
    simp only [fields] at hfields
    rw [hfields]
    split <;> rfl
  | interface type =>
    have habsent : "kind" ∉ Keyed.keys type.toMembers := by simp [InterfaceType.toMembers]
    have hread : ofJson? (toJson (.interface type)) =
        (InterfaceType.ofJson? (.object type.toMembers)).map .interface := by
      simp only [toJson, ofJson?, tagged?_kind habsent, Option.bind_eq_bind, Option.bind_some,
        String.reduceEq, ↓reduceIte]
    rw [hread, InterfaceType.ofJson?_toMembers]
    simp only [fields] at hfields
    rw [hfields]
    split <;> rfl
  | union type =>
    have habsent : "kind" ∉ Keyed.keys type.toMembers := by simp [UnionType.toMembers]
    have hread : ofJson? (toJson (.union type)) =
        (UnionType.ofJson? (.object type.toMembers)).map .union := by
      simp only [toJson, ofJson?, tagged?_kind habsent, Option.bind_eq_bind, Option.bind_some,
        String.reduceEq, ↓reduceIte]
    have hall : ∀ ref ∈ (union type).typeRefs, ref.Readable :=
      fun _ href => absurd href List.not_mem_nil
    rw [hread, UnionType.ofJson?_toMembers, if_pos hall]
    rfl
  | scalar type =>
    have habsent : "kind" ∉ Keyed.keys type.toMembers := by simp [ScalarType.toMembers]
    have hread : ofJson? (toJson (.scalar type)) =
        (ScalarType.ofJson? (.object type.toMembers)).map .scalar := by
      simp only [toJson, ofJson?, tagged?_kind habsent, Option.bind_eq_bind, Option.bind_some,
        String.reduceEq, ↓reduceIte]
    have hall : ∀ ref ∈ (scalar type).typeRefs, ref.Readable :=
      fun _ href => absurd href List.not_mem_nil
    rw [hread, ScalarType.ofJson?_toMembers, if_pos hall]
    rfl

/-- **What becomes of stored declarations**, all together. -/
theorem listOfJson?_listToJson {declarations : List TypeDeclaration}
    (h : ∀ declaration ∈ declarations, declaration.Storable) :
    listOfJson? (listToJson declarations) =
      if ∀ declaration ∈ declarations, ∀ ref ∈ declaration.typeRefs, ref.Readable then
        some (declarations.map trimmed) else none := by
  rw [listToJson, listOfJson?]
  exact mapM_map_ite fun declaration hmem => ofJson?_toJson (h declaration hmem)

/-- A stored declaration nests in its fields. -/
theorem plainWithin_toJson (declaration : TypeDeclaration) :
    Json.PlainWithin 4 declaration.toJson := by
  cases declaration with
  | object type =>
    refine ⟨Nat.zero_lt_succ 3, Json.plainWithinMembers_iff.mpr ?_⟩
    rw [ObjectType.toMembers, List.forall_mem_cons, List.forall_mem_cons, List.forall_mem_cons]
    refine ⟨trivial, trivial, FieldDecl.plainWithin_mapToJson type.fields, ?_⟩
    split
    · exact fun _ hmember => absurd hmember List.not_mem_nil
    · exact List.forall_mem_singleton.mpr (Json.plainWithin_ofStrings
        (Nat.zero_lt_succ 2) type.interfaces)
  | interface type =>
    refine ⟨Nat.zero_lt_succ 3, Json.plainWithinMembers_iff.mpr ?_⟩
    rw [InterfaceType.toMembers, List.forall_mem_cons, List.forall_mem_cons,
      List.forall_mem_singleton]
    exact ⟨trivial, trivial, FieldDecl.plainWithin_mapToJson type.fields⟩
  | union type =>
    refine ⟨Nat.zero_lt_succ 3, Json.plainWithinMembers_iff.mpr ?_⟩
    rw [UnionType.toMembers, List.forall_mem_cons, List.forall_mem_cons, List.forall_mem_singleton]
    exact ⟨trivial, trivial, Json.plainWithin_ofStrings (Nat.zero_lt_succ 2) type.members⟩
  | scalar type =>
    refine ⟨Nat.zero_lt_succ 3, Json.plainWithinMembers_iff.mpr ?_⟩
    rw [ScalarType.toMembers, List.forall_mem_cons, List.forall_mem_cons, List.forall_mem_singleton]
    exact ⟨trivial, trivial, trivial⟩

theorem plainWithin_listToJson (declarations : List TypeDeclaration) :
    Json.PlainWithin 5 (listToJson declarations) := by
  refine ⟨Nat.zero_lt_succ 4, Json.plainWithinElements_iff.mpr
    (List.forall_mem_map.mpr fun declaration _ => ?_)⟩
  exact declaration.plainWithin_toJson

theorem map_eq_self_iff {α : Type} {f : α → α} {list : List α} :
    list.map f = list ↔ ∀ a ∈ list, f a = a := by
  have h : list.map f = list.map id ↔ ∀ a ∈ list, f a = id a := List.map_inj_left
  rwa [List.map_id] at h

/-- A declaration is as it is read when all its type references are. -/
theorem trimmed_eq_iff {declaration : TypeDeclaration} :
    declaration.trimmed = declaration ↔ ∀ ref ∈ declaration.typeRefs, ref.trimmed = ref := by
  have hmap : ∀ fields : List (String × FieldDecl),
      FieldDecl.trimmedMap fields = fields ↔ ∀ field ∈ fields,
        field.2.typeRef.trimmed = field.2.typeRef := by
    intro fields
    rw [FieldDecl.trimmedMap, map_eq_self_iff]
    refine forall₂_congr fun field _ => ?_
    obtain ⟨name, typeRef, extensions, resolver⟩ := field
    simp [FieldDecl.trimmed]
  rw [forall_mem_typeRefs]
  cases declaration with
  | object type =>
    rw [trimmed, fields, ← hmap]
    obtain ⟨name, fields, interfaces⟩ := type
    simp
  | interface type =>
    rw [trimmed, fields, ← hmap]
    obtain ⟨name, fields⟩ := type
    simp
  | union type => simp [trimmed, fields]
  | scalar type => simp [trimmed, fields]

/-- **Stored declarations are read back as they were** when every type reference has a name of
letters, digits and underscores. -/
theorem listOfJson?_eq_self_iff {declarations : List TypeDeclaration}
    (h : ∀ declaration ∈ declarations, declaration.Storable) :
    listOfJson? (listToJson declarations) = some declarations ↔
      ∀ declaration ∈ declarations, ∀ ref ∈ declaration.typeRefs,
      TypeRef.IsName ref.baseName.toList := by
  have hsame : declarations.map trimmed = declarations ↔
      ∀ declaration ∈ declarations, ∀ ref ∈ declaration.typeRefs, ref.trimmed = ref := by
    rw [map_eq_self_iff]
    exact forall₂_congr fun _ _ => trimmed_eq_iff
  rw [listOfJson?_listToJson h]
  constructor
  · intro hread declaration hdeclaration ref href
    split at hread
    · next hall =>
      have htrimmed := hsame.mp (Option.some.inj hread)
      exact TypeRef.readable_and_trimmed_eq_iff.mp
        ⟨hall declaration hdeclaration ref href, htrimmed declaration hdeclaration ref href⟩
    · cases hread
  · intro hnames
    have hboth : ∀ declaration ∈ declarations, ∀ ref ∈ declaration.typeRefs, ref.Readable ∧
        ref.trimmed = ref :=
      fun declaration hdeclaration ref href =>
        TypeRef.readable_and_trimmed_eq_iff.mpr (hnames declaration hdeclaration ref href)
    rw [if_pos fun declaration hdeclaration ref href => (hboth declaration hdeclaration ref href).1,
      hsame.mpr fun declaration hdeclaration ref href =>
        (hboth declaration hdeclaration ref href).2]

end TypeDeclaration

end ContentGraph
