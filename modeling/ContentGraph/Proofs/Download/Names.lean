import ContentGraph.Download
import ContentGraph.Proofs.Text.Words

/-!
# Names of downloaded files

A file is kept under the digest of its address, with the short extension that the address ends in.
All digests have one length and no digit is a slash, so that a name is one step below the cache
directory and tells its digest.

* `Digest.length_hexSha256`, `Digest.isHexDigit_of_mem_hexSha256` — digests are 64 hexadecimal
  digits;
* `Download.IsExtension`, `Download.IsCacheName` — extensions, and the names of the files of an
  address;
* `Download.isCacheName_fileName` — files are given such names;
* `Download.IsCacheName.hexSha256_eq` — the digest that a name tells;
* `Download.path?` with `hexSha256_eq_of_path?` — where the file of an address is kept.
-/

namespace ContentGraph

/-! ### Digests -/

namespace Digest

/-- The digits `0` to `9` and `a` to `f`. -/
def IsHexDigit (c : Char) : Prop := ('0' ≤ c ∧ c ≤ '9') ∨ ('a' ≤ c ∧ c ≤ 'f')

instance (c : Char) : Decidable (IsHexDigit c) := inferInstanceAs (Decidable (_ ∨ _))

theorem length_bytesOfNat (n count : Nat) : (bytesOfNat n count).length = count := by
  induction count with
  | zero => rfl
  | succ count ih => exact congrArg (· + 1) ih

/-- A digest has 32 bytes: four for each chaining word. -/
theorem length_sha256 (message : List UInt8) : (sha256 message).length = 32 := by
  simp [sha256, State.words, List.flatMap_cons, length_bytesOfNat]

/-- Two digits for each byte. -/
theorem length_hexSha256 (text : String) : (hexSha256 text).toList.length = 64 := by
  have hdigits : ∀ bytes : List UInt8, (bytes.flatMap hexByte).length = 2 * bytes.length := by
    intro bytes
    induction bytes with
    | nil => rfl
    | cons byte rest ih =>
      rw [List.flatMap_cons, List.length_append, ih, List.length_cons]
      show 2 + _ = _
      omega
  rw [hexSha256, String.toList_ofList, hdigits, length_sha256]

theorem isHexDigit_hexDigit : ∀ n < 16, IsHexDigit (Text.hexDigit n) := by decide

/-- **A digest is written in hexadecimal digits.** -/
theorem isHexDigit_of_mem_hexSha256 {text : String} {c : Char} (h : c ∈ (hexSha256 text).toList) :
    IsHexDigit c := by
  rw [hexSha256, String.toList_ofList, List.mem_flatMap] at h
  obtain ⟨byte, -, hc⟩ := h
  have hbyte : byte.toNat < 256 := byte.toNat_lt
  rw [hexByte, List.mem_cons, List.mem_singleton] at hc
  rcases hc with rfl | rfl
  · exact isHexDigit_hexDigit _ (by omega)
  · exact isHexDigit_hexDigit _ (by omega)

end Digest

/-! ### Paths -/

/-- Names that do not start at the root are kept apart by a directory before them. -/
theorem joinPath_injective {directory a b : String} (ha : a.toList.head? ≠ some '/')
    (hb : b.toList.head? ≠ some '/') (h : joinPath directory a = joinPath directory b) : a = b := by
  by_cases hempty : directory = ""
  · simpa [joinPath, hempty] using h
  · by_cases hslash : directory.toList.getLast? = some '/'
    · simpa [joinPath, hempty, ha, hb, hslash] using h
    · simpa [joinPath, hempty, ha, hb, hslash, String.append_assoc] using h

namespace Download

/-! ### Names -/

/-- A lower-case ASCII letter or a digit. -/
def IsLowerAlphanumeric (c : Char) : Prop := ('a' ≤ c ∧ c ≤ 'z') ∨ ('0' ≤ c ∧ c ≤ '9')

instance (c : Char) : Decidable (IsLowerAlphanumeric c) := inferInstanceAs (Decidable (_ ∨ _))

/-- An extension that a file keeps: one to five lower-case ASCII letters or digits. -/
structure IsExtension (extension : String) : Prop where
  nonempty : 1 ≤ extension.toList.length
  short : extension.toList.length ≤ 5
  plain : ∀ c ∈ extension.toList, IsLowerAlphanumeric c

/-- A name for the file of an address: the digest of the address, alone or with an extension after a
point. -/
def IsCacheName (url name : String) : Prop :=
  name = Digest.hexSha256 url ∨ ∃ extension, IsExtension extension ∧
    name = Digest.hexSha256 url ++ "." ++ extension

theorem isLowerAlphanumeric_toLower {c : Char} (h : Text.isAsciiAlphanumeric c = true) :
    IsLowerAlphanumeric c.toLower := by
  have hascii : c.toNat < 128 :=
    Nat.lt_of_lt_of_le (Text.toNat_lt_of_isAsciiAlphanumeric h).2 (by decide)
  have hall : ∀ n < 128, Text.isAsciiAlphanumeric (Char.ofNat n) = true →
      IsLowerAlphanumeric (Char.ofNat n).toLower := by decide
  have hcode := hall c.toNat hascii
  rw [Char.ofNat_toNat] at hcode
  exact hcode h

/-- What is kept of an address is an extension. -/
theorem isExtension_of_extension? {address : Url} {extension : String}
    (h : extension? address = some extension) :
    IsExtension extension := by
  unfold extension? at h
  split at h
  · cases h
  · split at h
    · cases h
    · next text _ =>
      split at h
      · next hplain =>
        cases h
        simp only [Bool.and_eq_true, decide_eq_true_eq, List.all_eq_true] at hplain
        obtain ⟨⟨hsome, hshort⟩, hall⟩ := hplain
        have hlist : (String.ofList (text.map Char.toLower)).toList = text.map Char.toLower :=
          String.toList_ofList
        refine ⟨?_, ?_, ?_⟩
        · rw [hlist, List.length_map]
          exact List.length_pos_iff.mpr hsome
        · rwa [hlist, List.length_map]
        · rw [hlist, List.forall_mem_map]
          exact fun c hc => isLowerAlphanumeric_toLower (hall c hc)
      · cases h

/-- **A file's name** is the digest of its address, alone or with an extension. -/
theorem isCacheName_fileName (url : String) (address : Url) :
    IsCacheName url (fileName (Digest.hexSha256 url) address) := by
  rcases fileName_eq (Digest.hexSha256 url) address with hname | ⟨extension, hextension, hname⟩
  · exact Or.inl hname
  · exact Or.inr ⟨extension, isExtension_of_extension? hextension, hname⟩

namespace IsCacheName

variable {url other name : String}

/-- The characters of a name: those of the digest, and what follows. -/
theorem exists_toList (h : IsCacheName url name) :
    ∃ tail, name.toList = (Digest.hexSha256 url).toList ++ tail ∧ '/' ∉ tail := by
  rcases h with rfl | ⟨extension, hextension, rfl⟩
  · exact ⟨[], (List.append_nil _).symm, List.not_mem_nil⟩
  · refine ⟨'.' :: extension.toList, by simp [String.toList_append], fun hslash => ?_⟩
    rcases List.mem_cons.mp hslash with hpoint | hmem
    · cases hpoint
    · exact absurd (hextension.plain '/' hmem) (by decide)

/-- **A name is one step**: no slash is in it. -/
theorem slash_not_mem (h : IsCacheName url name) : '/' ∉ name.toList := by
  obtain ⟨tail, hlist, htail⟩ := h.exists_toList
  rw [hlist, List.mem_append, not_or]
  exact ⟨fun hslash => absurd (Digest.isHexDigit_of_mem_hexSha256 hslash) (by decide), htail⟩

theorem head?_ne_slash (h : IsCacheName url name) : name.toList.head? ≠ some '/' :=
  fun hslash => h.slash_not_mem (List.mem_of_head? hslash)

/-- **A name tells its digest**: its first 64 characters. -/
theorem hexSha256_eq (h : IsCacheName url name) (hother : IsCacheName other name) :
    Digest.hexSha256 url = Digest.hexSha256 other := by
  obtain ⟨tail, hlist, -⟩ := h.exists_toList
  obtain ⟨otherTail, hotherList, -⟩ := hother.exists_toList
  have hlength : (Digest.hexSha256 url).toList.length = (Digest.hexSha256 other).toList.length := by
    rw [Digest.length_hexSha256, Digest.length_hexSha256]
  rw [hlist] at hotherList
  exact String.toList_inj.mp (List.append_inj_left hotherList hlength)

end IsCacheName

/-! ### Places -/

/-- Where the file of an address is kept, if the text is an address. -/
def path? (cacheDir url : String) : Option String :=
  (Url.parse? url).map fun address => joinPath cacheDir (fileName (Digest.hexSha256 url) address)

variable {cacheDir url other path : String}

/-- A file is kept directly in the cache directory. -/
theorem exists_name_of_path? (h : path? cacheDir url = some path) :
    ∃ name, IsCacheName url name ∧ path = joinPath cacheDir name := by
  obtain ⟨address, -, rfl⟩ := Option.map_eq_some_iff.mp h
  exact ⟨_, isCacheName_fileName url address, rfl⟩

/-- **Files of different digests are kept apart.** -/
theorem hexSha256_eq_of_path? (h : path? cacheDir url = some path)
    (hother : path? cacheDir other = some path) :
    Digest.hexSha256 url = Digest.hexSha256 other := by
  obtain ⟨name, hname, rfl⟩ := exists_name_of_path? h
  obtain ⟨otherName, hotherName, heq⟩ := exists_name_of_path? hother
  have hsame := joinPath_injective hname.head?_ne_slash hotherName.head?_ne_slash heq
  rw [← hsame] at hotherName
  exact hname.hexSha256_eq hotherName

end Download

end ContentGraph
