import ContentGraph.Settings.Yaml.Cursor
import ContentGraph.Text.Escape

/-!
# Anchors, tags and directives of YAML

An anchor names a value so that an alias may stand for it elsewhere.  A tag says what a value is, in
full or by a handle and what follows it; directives at the start of a document say what handles
stand for.

* `readAnchor?` — the name of an anchor or an alias;
* `TagName.read?` — a tag;
* `Directive.read?` — a directive.

All of these return what follows on the line.
-/

namespace ContentGraph.Settings.Yaml

/-! ### Anchors -/

/-- The name after the mark of an anchor or an alias. -/
def readAnchor? (text : List Char) : Option (String × List Char) :=
  let name := text.takeWhile isNameChar
  let rest := text.dropWhile isNameChar
  let ends :=
    startsBlank rest || rest.head?.any fun c => ['?', ':', ',', ']', '\x7d', '%', '@',
      '\x60'].contains c
  if name ≠ [] && ends then some (String.ofList name, rest) else none

/-! ### Tags -/

/-- Whether `c` may stand in a tag; some characters may only in tags that are written in full. -/
def isTagChar (full : Bool) (c : Char) : Bool :=
  isNameChar c || [';', '/', '?', ':', '@', '&', '=', '+', '$', '.', '%', '!', '~', '*', '\'', '(',
    ')'].contains c
    || (full && (c = ',' || c = '[' || c = ']'))

/-- The bytes of a tag's text, in which a percent sign and two hexadecimal digits stand for a
byte. -/
def tagBytes? : List Char → Option (List UInt8)
  | [] => some []
  | '%' :: a :: b :: rest =>
    match Text.hexNumber? 0 [a, b], tagBytes? rest with
    | some byte, some bytes => some (UInt8.ofNat byte :: bytes)
    | _, _ => none
  | c :: rest => if c = '%' then none else (tagBytes? rest).map (UInt8.ofNat c.toNat :: ·)

/-- The text that characters of a tag stand for. -/
def tagText? (text : List Char) : Option String :=
  (tagBytes? text).bind fun bytes => String.fromUTF8? ⟨bytes.toArray⟩

/-- A part of a tag that is not empty, and what follows it. -/
def readTagPart? (full : Bool) (text : List Char) : Option (String × List Char) :=
  let part := text.takeWhile (isTagChar full)
  if part = [] then none else (tagText? part).map fun part =>
    (part, text.dropWhile (isTagChar full))

/-- The mark that all tags start with. -/
def tagMark : String := "!"

/-- A tag as it is written: a handle, which is empty for a tag in full, and what follows it. -/
structure TagName where
  handle : String
  suffix : String
  deriving DecidableEq, Repr

/-- The tag after its mark. -/
def TagName.read? (text : List Char) : Option (TagName × List Char) :=
  match text with
  | '<' :: rest =>
    match readTagPart? true rest with
    | some (suffix, '>' :: rest) => some (⟨"", suffix⟩, rest)
    | _ => none
  | text =>
    let name := text.takeWhile isNameChar
    match text.dropWhile isNameChar with
    | '!' :: rest => (readTagPart? false rest).map fun (suffix, rest) =>
      (⟨tagMark ++ String.ofList name ++ tagMark, suffix⟩, rest)
    | _ =>
      match text.takeWhile (isTagChar false) with
      | [] => some (⟨"", tagMark⟩, text)
      | _ => (readTagPart? false text).map fun (suffix, rest) => (⟨tagMark, suffix⟩, rest)

/-! ### Directives -/

/-- What a directive says. -/
inductive Directive
  /-- The version that the document is written in. -/
  | version (major minor : Nat)
  /-- What a handle stands for. -/
  | handle (name start : String)
  deriving DecidableEq, Repr

/-- The most digits of a part of a version. -/
def maxVersionSize : Nat := 9

/-- A part of a version, and what follows it. -/
def readVersionPart? (text : List Char) : Option (Nat × List Char) :=
  let digits := text.takeWhile Text.isAsciiDigit
  if digits = [] || maxVersionSize < digits.length then none
  else some (digits.foldl (fun n c => n * 10 + (c.toNat - 48)) 0, text.dropWhile Text.isAsciiDigit)

/-- The version that a directive names, and what follows it. -/
def readVersion? (text : List Char) : Option (Directive × List Char) :=
  match readVersionPart? (text.dropWhile isBlank) with
  | some (major, '.' :: rest) =>
    (readVersionPart? rest).map fun (minor, rest) => (.version major minor, rest)
  | _ => none

/-- The handle that a directive explains, with what it stands for, and what follows. -/
def readHandle? (text : List Char) : Option (Directive × List Char) :=
  match text.dropWhile isBlank with
  | '!' :: text =>
    let name := text.takeWhile isNameChar
    let handle? : Option (String × List Char) := match text.dropWhile isNameChar with
      | '!' :: rest => some (tagMark ++ String.ofList name ++ tagMark, rest)
      | rest => if name = [] then some (tagMark, rest) else none
    match handle? with
    | none => none
    | some (handle, rest) =>
      if !rest.head?.any isBlank then none
      else
        match readTagPart? true (rest.dropWhile isBlank) with
        | none => none
        | some (start, rest) => if startsBlank rest then some (.handle handle start, rest) else none
  | _ => none

/-- The directive after its mark. -/
def Directive.read? (text : List Char) : Option (Directive × List Char) :=
  let name := text.takeWhile isNameChar
  let rest := text.dropWhile isNameChar
  if !startsBlank rest then none
  else if name = "YAML".toList then readVersion? rest
  else if name = "TAG".toList then readHandle? rest
  else none

end ContentGraph.Settings.Yaml
