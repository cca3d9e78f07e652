import ContentGraph.Number.DecimalText
import ContentGraph.Settings.Value
import ContentGraph.Text.Escape

/-!
# Values of YAML scalars

A plain scalar is nothing, a flag, a number or a text, whichever its characters write; any other
scalar is a text.  A tag of the usual kinds asks for one of these.

* `resolve` — the value of a plain scalar;
* `scalarValue?` — the value of any scalar.
-/

namespace ContentGraph.Settings.Yaml

/-! ### What characters write -/

/-- The flag that a text writes. -/
def readFlag? (text : List Char) : Option Bool :=
  let name := String.ofList text
  if ["true", "True", "TRUE"].contains name then some true
  else if ["false", "False", "FALSE"].contains name then some false
  else none

/-- Whether a text writes that there is nothing. -/
def isNull (text : List Char) : Bool := ["null", "Null", "NULL", "~"].contains (String.ofList text)

/-- Whether a text is a zero followed by more digits, which is no number. -/
def isPaddedNumber (text : List Char) : Bool :=
  match (DecimalText.splitSign text).2 with
  | '0' :: d :: digits => (d :: digits).all Text.isAsciiDigit
  | _ => false

/-- The number that digits of a base write. -/
def basedNumber? (base : Nat) (digits : List Char) : Option Nat :=
  if digits = [] || !digits.all fun c => (Text.hexValue? c).any (· < base) then none
  else some (digits.foldl (fun n c => n * base + (Text.hexValue? c).getD 0) 0)

/-- The whole number that a text without sign writes. -/
def unsigned? : List Char → Option Nat
  | '0' :: 'x' :: digits => basedNumber? 16 digits
  | '0' :: 'o' :: digits => basedNumber? 8 digits
  | '0' :: 'b' :: digits => basedNumber? 2 digits
  | digits => basedNumber? 10 digits

/-- The whole number that a text writes, between `-2 ^ 127` and `2 ^ 128 - 1`. -/
def readWhole? (text : List Char) : Option Int :=
  if isPaddedNumber text then none
  else
    let (negative, digits) := DecimalText.splitSign text
    match unsigned? digits with
    | none => none
    | some size =>
      if negative then if size ≤ Nat.pow 2 127 then some (-(size : Int)) else none
      else if size < Nat.pow 2 128 then some size
      else none

/-- Whether a text writes a number that may have a fraction: a decimal within the doubles, an
infinity, or no number. -/
def isReal (text : List Char) : Bool :=
  [".inf", ".Inf", ".INF", "+.inf", "+.Inf", "+.INF", "-.inf", "-.Inf", "-.INF", ".nan", ".NaN",
    ".NAN"].contains
      (String.ofList text)
    || (DecimalText.read? text).any DecimalText.isFinite

/-! ### Values -/

/-- The value of a plain scalar. -/
def resolve (text : List Char) : Value :=
  if text = [] || isNull text then .empty
  else match readFlag? text with
    | some flag => .flag flag
    | none =>
      match readWhole? text with
      | some number => .whole number
      | none => if !isPaddedNumber text && isReal text then .real else .text (String.ofList text)

/-- The value of a scalar without a tag. -/
def untaggedValue (plain : Bool) (text : String) : Value :=
  if plain then resolve text.toList else .text text

/-- The value of a scalar with a tag that is no local one. -/
def taggedValue? (tag text : String) : Option Value :=
  let chars := text.toList
  if tag = "tag:yaml.org,2002:bool" then (readFlag? chars).map .flag
  else if tag = "tag:yaml.org,2002:int" then (readWhole? chars).map .whole
  else if tag = "tag:yaml.org,2002:float" then if isReal chars then some .real else none
  else if tag = "tag:yaml.org,2002:null" then if isNull chars then some .empty else none
  else some (.text text)

/-- The name that a local tag gives, the mark itself when it gives none. -/
def localTag? (tag : Option String) : Option String :=
  match tag.map String.toList with
  | some ['!'] => some "!"
  | some ('!' :: name) => some (String.ofList name)
  | _ => none

/-- A value under the name of its local tag, if it has one. -/
def underTag (tag : Option String) (value : Value) : Value :=
  match localTag? tag with
  | some name => .table [(name, value)]
  | none => value

/-- The value of a scalar. -/
def scalarValue? (tag : Option String) (plain : Bool) (text : String) : Option Value :=
  match localTag? tag, tag with
  | none, some tag => taggedValue? tag text
  | _, _ => some (underTag tag (untaggedValue plain text))

end ContentGraph.Settings.Yaml
