import ContentGraph.Materialization
import ContentGraph.Proofs.Keyed
import ContentGraph.Proofs.Registry.Below

/-!
# Images and their thumbnails

A materialized image has its members in order, with a stored file of its own and one for each
registered thumbnail that is present.  The registry names the thumbnails in some order; nothing but
the order of the events depends on it.

* `Registry.thumbnail?` — the thumbnail of an image under a name, if it is registered and an object;
* `Walk.image_value` — the image as its members with the thumbnails put in their places;
* `Walk.get?_thumbnails` — which thumbnails there are.
-/

namespace ContentGraph

/-- The members of a value, if it is an object. -/
def Json.members? : Json → Option (List (String × Json))
  | .object members => some members
  | _ => none

/-- The thumbnail of an image under a name: registered there, and an object. -/
def Registry.thumbnail? (registry : Registry) (path : Path) (members : List (String × Json))
    (name : String) : Option (List (String × Json)) :=
  if registry.kindAt? (path ++ [thumbnailsSegment, name]) = some .imageThumbnail then
    (Keyed.get? name members).bind Json.members?
  else none

namespace Walk

variable {w : Walk} {path : Path} {key : String} {members : List (String × Json)}

theorem thumbnails_eq (w : Walk) (path : Path) (members : List (String × Json)) :
    w.thumbnails path members = (w.paths.thumbnailNames path).filterMap fun name =>
      ((Keyed.get? name members).bind Json.members?).map fun inner => (name, inner) := by
  rw [thumbnails]
  congr 1
  funext name
  cases Keyed.get? name members with
  | none => rfl
  | some value => cases value <;> rfl

/-- The names of the thumbnails are distinct. -/
theorem distinct_thumbnails (w : Walk) (path : Path) (members : List (String × Json)) :
    Keyed.Distinct (w.thumbnails path members) := by
  rw [Keyed.Distinct, Keyed.keys, thumbnails_eq, List.map_filterMap]
  refine (w.paths.nodup_thumbnailNames path).filterMap fun a b name ha hb => ?_
  simp only [Option.mem_def, Option.map_map, Option.map_eq_some_iff] at ha hb
  obtain ⟨_, _, rfl⟩ := ha
  obtain ⟨_, _, rfl⟩ := hb
  rfl

theorem mem_thumbnails {name : String} {inner : List (String × Json)} :
    (name, inner) ∈ w.thumbnails path members ↔ w.paths.thumbnail? path members name =
      some inner := by
  rw [thumbnails_eq, List.mem_filterMap, Registry.thumbnail?]
  constructor
  · rintro ⟨found, hfound, hinner⟩
    obtain ⟨_, hmembers, heq⟩ := Option.map_eq_some_iff.mp hinner
    cases heq
    rw [if_pos (Registry.mem_thumbnailNames.mp hfound), hmembers]
  · intro h
    split at h
    · next hkind => exact ⟨name, Registry.mem_thumbnailNames.mpr hkind, by rw [h]; rfl⟩
    · cases h

/-- A thumbnail is found under its name when it is registered and an object. -/
theorem get?_thumbnails (w : Walk) (path : Path) (members : List (String × Json)) (name : String) :
    Keyed.get? name (w.thumbnails path members) = w.paths.thumbnail? path members name := by
  cases h : w.paths.thumbnail? path members name with
  | some inner =>
    exact Keyed.get?_of_mem (distinct_thumbnails w path members) (mem_thumbnails.mpr h)
  | none =>
    rw [Keyed.get?_eq_none_iff, Keyed.keys, List.mem_map]
    rintro ⟨⟨_, inner⟩, hmem, rfl⟩
    cases h.symm.trans (mem_thumbnails.mp hmem)

/-- Thumbnails are members of their image. -/
theorem mem_keys_of_thumbnails {name : String}
    (h : name ∈ Keyed.keys (w.thumbnails path members)) : name ∈ Keyed.keys members := by
  obtain ⟨⟨_, inner⟩, hmem, rfl⟩ := List.mem_map.mp h
  have hthumbnail := mem_thumbnails.mp hmem
  by_contra habsent
  rw [Registry.thumbnail?, Keyed.get?_eq_none_iff.mpr habsent] at hthumbnail
  split at hthumbnail <;> cases hthumbnail

/-! ### Stored files -/

/-- The stored file of a thumbnail. -/
def thumbnailFile (w : Walk) (path : Path) (key : String)
    (thumbnail : String × List (String × Json)) : Traced Json :=
  w.localFile (path ++ [Registry.thumbnailsSegment, thumbnail.1])
    ⟨key, .object thumbnail.2, w.document⟩

/-- A thumbnail under its name, with its stored file. -/
def storedThumbnail (w : Walk) (path : Path) (key : String)
    (thumbnail : String × List (String × Json)) : String × Json :=
  (thumbnail.1,
    .object (Keyed.set "localFile" (w.thumbnailFile path key thumbnail).value thumbnail.2))

theorem thumbnailFiles_value (w : Walk) (path : Path) (key : String)
    (thumbnails : List (String × List (String × Json))) :
    (w.thumbnailFiles path key thumbnails).value = thumbnails.map (w.storedThumbnail path key) := by
  induction thumbnails with
  | nil => rfl
  | cons thumbnail rest ih =>
    obtain ⟨name, inner⟩ := thumbnail
    rw [thumbnailFiles, Traced.both, ih]
    rfl

theorem thumbnailFiles_events (w : Walk) (path : Path) (key : String)
    (thumbnails : List (String × List (String × Json))) :
    (w.thumbnailFiles path key thumbnails).events =
      thumbnails.flatMap fun thumbnail => (w.thumbnailFile path key thumbnail).events := by
  induction thumbnails with
  | nil => rfl
  | cons thumbnail rest ih =>
    obtain ⟨name, inner⟩ := thumbnail
    rw [thumbnailFiles, Traced.both, ih]
    rfl

theorem keys_storedThumbnails (w : Walk) (path : Path) (key : String)
    (thumbnails : List (String × List (String × Json))) :
    Keyed.keys (thumbnails.map (w.storedThumbnail path key)) = Keyed.keys thumbnails := by
  rw [Keyed.keys, List.map_map]
  rfl

theorem distinct_storedThumbnails (w : Walk) (path : Path) (key : String)
    (members : List (String × Json)) :
    Keyed.Distinct ((w.thumbnails path members).map (w.storedThumbnail path key)) := by
  rw [Keyed.Distinct, keys_storedThumbnails]
  exact distinct_thumbnails w path members

/-- Stored thumbnails take the places of members that are there, with or without a stored file. -/
theorem mem_keys_of_storedThumbnails {name : String}
    (h : name ∈ Keyed.keys ((w.thumbnails path members).map (w.storedThumbnail path key)))
    (file : Json) :
    name ∈ Keyed.keys (Keyed.set "localFile" file members) := by
  rw [keys_storedThumbnails] at h
  exact Keyed.mem_keys_set.mpr (.inl (mem_keys_of_thumbnails h))

/-- A stored thumbnail is found under its name. -/
theorem get?_storedThumbnails (w : Walk) (path : Path) (key name : String)
    (members : List (String × Json)) :
    Keyed.get? name ((w.thumbnails path members).map (w.storedThumbnail path key)) =
      (w.paths.thumbnail? path members name).map fun inner =>
        .object (Keyed.set "localFile" (w.thumbnailFile path key (name, inner)).value inner) := by
  have hmap := Keyed.get?_map (fun name inner =>
    Json.object (Keyed.set "localFile" (w.thumbnailFile path key (name, inner)).value inner)) name
    (w.thumbnails path members)
  rw [get?_thumbnails] at hmap
  exact hmap

/-- **An image** is its members with its stored file, and its thumbnails put in their places. -/
theorem image_value (w : Walk) (path : Path) (key : String) (members : List (String × Json)) :
    (w.image path key members).value =
      .object (Keyed.setAll ((w.thumbnails path members).map (w.storedThumbnail path key))
        (Keyed.set "localFile" (w.localFile path ⟨key, .object members, w.document⟩).value
          members)) := by
  rw [image, Traced.both, thumbnailFiles_value]
  rfl

end Walk

end ContentGraph
