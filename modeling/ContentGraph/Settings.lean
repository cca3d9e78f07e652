import ContentGraph.Json
import ContentGraph.Naming
import ContentGraph.Text.Words

/-!
# Settings

What a user chooses once for all runs: the prefix of generated type names, how raw field names are
exposed, and what happens to images.

* `FieldNameStyle.apply` — a raw field name as it is exposed;
* `Settings.fault?` — the first setting that cannot be used, with its `message`;
* `Settings.toJson` — the stored form.
-/

namespace ContentGraph

/-! ### The style of field names -/

/-- How raw field names are exposed. -/
inductive FieldNameStyle
  /-- As they are. -/
  | preserve
  /-- In words that are joined without separators, all but the first capitalized. -/
  | camel
  deriving DecidableEq, Repr

namespace FieldNameStyle

/-- The stored name of a style. -/
def name : FieldNameStyle → String
  | .preserve => "preserve"
  | .camel => "camel"

/-- The style with a stored name. -/
def ofName? (name : String) : Option FieldNameStyle :=
  if name = "preserve" then some .preserve
  else if name = "camel" then some .camel
  else none

/-- A raw field name as it is exposed. -/
def apply (style : FieldNameStyle) (fieldName : String) : String :=
  match style with
  | .preserve => fieldName
  | .camel => Text.camelCase fieldName

end FieldNameStyle

/-! ### All settings -/

/-- What happens to images. -/
structure ImageSettings where
  /-- Whether images are downloaded. -/
  normalize : Bool := false
  /-- The directory of downloaded files. -/
  cacheDir : String := ".slicegraph/cache"
  /-- How many downloads may run at a time. -/
  maxConcurrentDownloads : Nat := 8
  deriving DecidableEq, Repr

/-- All settings, each with its default. -/
structure Settings where
  typePrefix : String := defaultTypePrefix
  fieldNames : FieldNameStyle := .preserve
  images : ImageSettings := {}
  deriving DecidableEq, Repr

/-! ### Settings that cannot be used -/

/-- Why a setting cannot be used. -/
inductive SettingFault
  /-- The prefix has a character other than ASCII letters and digits. -/
  | prefixAlphabet (value : String)
  /-- The prefix starts with a digit. -/
  | prefixDigit (value : String)
  /-- No download may ever run. -/
  | noDownloads
  deriving DecidableEq, Repr

namespace SettingFault

/-- The key of the setting. -/
def key : SettingFault → String
  | .prefixAlphabet _ | .prefixDigit _ => "type_prefix"
  | .noDownloads => "images.max_concurrent_downloads"

/-- What is wrong with its value. -/
def reason : SettingFault → String
  | .prefixAlphabet value => "'" ++ value ++ "' must contain only ASCII letters and digits"
  | .prefixDigit value => "'" ++ value ++ "' must not start with a digit"
  | .noDownloads => "must be at least 1"

/-- What is reported. -/
def message (fault : SettingFault) : String :=
  "Invalid configuration value for key '" ++ fault.key ++ "': " ++ fault.reason

end SettingFault

/-- Whether names that start with the prefix are identifiers: ASCII letters and digits, no digit
first.  The empty prefix is valid. -/
def ValidTypePrefix (typePrefix : String) : Prop :=
  typePrefix.toList.all Text.isAsciiAlphanumeric = true ∧
    (typePrefix.toList.head?.any Text.isAsciiDigit) = false

instance (typePrefix : String) : Decidable (ValidTypePrefix typePrefix) :=
  inferInstanceAs (Decidable (_ ∧ _))

/-- What is wrong with a type prefix, if anything. -/
def typePrefixFault? (typePrefix : String) : Option SettingFault :=
  if !typePrefix.toList.all Text.isAsciiAlphanumeric then some (.prefixAlphabet typePrefix)
  else if typePrefix.toList.head?.any Text.isAsciiDigit then some (.prefixDigit typePrefix)
  else none

/-- Nothing is wrong with exactly the valid prefixes. -/
theorem typePrefixFault?_eq_none_iff (typePrefix : String) :
    typePrefixFault? typePrefix = none ↔ ValidTypePrefix typePrefix := by
  unfold typePrefixFault? ValidTypePrefix
  cases h : typePrefix.toList.all Text.isAsciiAlphanumeric
  · simp
  · cases hd : typePrefix.toList.head?.any Text.isAsciiDigit <;> simp

namespace Settings

/-- The first setting that cannot be used, if there is one. -/
def fault? (settings : Settings) : Option SettingFault :=
  match typePrefixFault? settings.typePrefix with
  | some fault => some fault
  | none => if settings.images.maxConcurrentDownloads = 0 then some .noDownloads else none

/-- All settings can be used exactly when the prefix is valid and a download may run. -/
theorem fault?_eq_none_iff (settings : Settings) :
    settings.fault? = none ↔
      ValidTypePrefix settings.typePrefix ∧ 1 ≤ settings.images.maxConcurrentDownloads := by
  unfold fault?
  rw [← typePrefixFault?_eq_none_iff]
  cases typePrefixFault? settings.typePrefix with
  | some fault => simp
  | none => simp [Nat.one_le_iff_ne_zero]

/-! ### The stored form -/

/-- The names of the settings, in stored order. -/
def keys : List String := ["type_prefix", "field_names", "images"]

/-- The names of the settings of images, in stored order. -/
def imageKeys : List String := ["normalize", "cache_dir", "max_concurrent_downloads"]

/-- The settings as they are stored. -/
def toJson (settings : Settings) : Json :=
  .object [
    ("type_prefix", .string settings.typePrefix),
    ("field_names", .string settings.fieldNames.name),
    ("images", .object [
      ("normalize", .bool settings.images.normalize),
      ("cache_dir", .string settings.images.cacheDir),
      ("max_concurrent_downloads", .ofNat settings.images.maxConcurrentDownloads)])]

end Settings

end ContentGraph
