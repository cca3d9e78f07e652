import ContentGraph.Download.HostName
import ContentGraph.Text.Case
import ContentGraph.Text.Escape

/-!
# Hosts of addresses

The host of an address is a name or a number.  A name that ends in a number is read as an address of
four bytes, a text between brackets as one of eight groups.

* `Host.parse?` — the host of an address that is looked up by name;
* `Host.parseOpaque?` — the host of any other address, taken as it is.
-/

namespace ContentGraph

/-- Where an address leads. -/
inductive Host
  | domain (text : String)
  /-- An address of 32 bits. -/
  | short (bits : Nat)
  /-- An address of eight groups of 16 bits. -/
  | long (groups : List Nat)
  deriving DecidableEq, Repr

namespace Host

/-! ### Numbers -/

/-- The number that digits of a base write. -/
def digits? (base : Nat) (text : List Char) : Option Nat :=
  if text.all fun c => (Text.hexValue? c).any (· < base) then
    some (text.foldl (fun n c => n * base + (Text.hexValue? c).getD 0) 0)
  else none

/-- The number of a part between points: decimal, octal after a zero, hexadecimal after `0x`. -/
def part? : List Char → Option Nat
  | [] => none
  | ['0'] => some 0
  | '0' :: 'x' :: rest => digits? 16 rest
  | '0' :: 'X' :: rest => digits? 16 rest
  | '0' :: rest => digits? 8 rest
  | text => digits? 10 text

/-- The parts of a name between points, without an empty one at the end. -/
def labels (name : List Char) : List (List Char) :=
  let parts := Text.splitChars '.' name
  if parts.getLast? = some [] && 1 < parts.length then parts.dropLast else parts

/-- Whether the last part of a name is a number. -/
def endsInNumber (name : List Char) : Bool :=
  match (labels name).getLast? with
  | none => false
  | some [] => false
  | some label => label.all Text.isAsciiDigit || (part? label).isSome

/-- The bits of numbers between points: the last one fills what the others leave. -/
def shortOfParts? : (left : Nat) → (bits : Nat) → List Nat → Option Nat
  | _, _, [] => none
  | left, bits, [last] =>
    if last < Nat.pow 256 left then some (bits * Nat.pow 256 left + last) else none
  | 0, _, _ => none
  | left + 1, bits, part :: rest =>
    if part < 256 then shortOfParts? left (bits * 256 + part) rest else none

/-- An address of four bytes. -/
def parseShort? (name : List Char) : Option Nat :=
  match (labels name).mapM part? with
  | none => none
  | some parts => if parts.length ≤ 4 then shortOfParts? 4 0 parts else none

/-! ### Groups -/

/-- A group of up to four hexadecimal digits. -/
def group? (text : List Char) : Option Nat :=
  if text = [] || 4 < text.length then none else digits? 16 text

/-- The two groups of four decimal bytes. -/
def dottedGroups? (text : List Char) : Option (List Nat) :=
  let byte? (part : List Char) : Option Nat :=
    if part = [] || 3 < part.length || (part.head? = some '0' && part ≠ ['0']) then none
    else (digits? 10 part).filter (· < 256)
  match (Text.splitChars '.' text).mapM byte? with
  | some [a, b, c, d] => some [a * 256 + b, c * 256 + d]
  | _ => none

/-- The groups between colons; the last part may be four decimal bytes. -/
def groups? : List (List Char) → Option (List Nat)
  | [] => some []
  | [last] => if last.contains '.' then dottedGroups? last else (group? last).map ([·])
  | part :: rest =>
    match group? part, groups? rest with
    | some group, some groups => some (group :: groups)
    | _, _ => none

/-- The groups of a text that may be empty. -/
def sideGroups? (text : List Char) : Option (List Nat) :=
  if text = [] then some [] else groups? (Text.splitChars ':' text)

/-- The texts before and after the first two colons in a row. -/
def splitGap? : List Char → Option (List Char × List Char)
  | [] => none
  | ':' :: ':' :: rest => some ([], rest)
  | c :: rest => (splitGap? rest).map fun (before, after) => (c :: before, after)

/-- An address of eight groups, of which two colons in a row leave out as many as are missing. -/
def parseLong? (text : List Char) : Option (List Nat) :=
  match splitGap? text with
  | none => (groups? (Text.splitChars ':' text)).filter fun groups => groups.length = 8
  | some (before, after) =>
    if before.contains '.' then none
    else match sideGroups? before, sideGroups? after with
      | some front, some back =>
        if front.length + back.length ≤ 7 then
          some (front ++ List.replicate (8 - front.length - back.length) 0 ++ back)
        else none
      | _, _ => none

/-! ### Names -/

/-- The characters that no host has. -/
def isForbidden (c : Char) : Bool :=
  c = Char.ofNat 0 || c = '\t' || c = '\n' || c = '\r' || c = ' ' || c = '#' || c = '/' ||
    c = ':' || c = '<'
    || c = '>' || c = '?' || c = '@' || c = '[' || c = '\\' || c = ']' || c = '^' || c = '|'

/-- The characters that no name has. -/
def isForbiddenInName (c : Char) : Bool :=
  isForbidden c || c.toNat < 32 || c = '%' || c.toNat = 127

/-- A name in ASCII, which is not empty and has no forbidden character. -/
def asciiName? (text : List Char) : Option (List Char) :=
  (HostName.ofText? text).filter fun name => name ≠ [] && !name.any isForbiddenInName

/-- The host between brackets. -/
def parseBracketed? (rest : List Char) : Option Host :=
  match rest.getLast? with
  | some ']' => (parseLong? rest.dropLast).map .long
  | _ => none

/-- The host of an address that is looked up by name. -/
def parse? (text : List Char) : Option Host :=
  match text with
  | '[' :: rest => parseBracketed? rest
  | text =>
    match Text.percentDecode? (String.ofList text) with
    | none => none
    | some decoded =>
      match asciiName? decoded.toList with
      | none => none
      | some name =>
        if endsInNumber name then (parseShort? name).map .short
          else some (.domain (String.ofList name))

/-- The host of any other address. -/
def parseOpaque? (text : List Char) : Option Host :=
  match text with
  | '[' :: rest => parseBracketed? rest
  | text => if text.any isForbidden then none else some (.domain (String.ofList text))

end Host

end ContentGraph
