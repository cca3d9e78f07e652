import ContentGraph.Keyed
import ContentGraph.Number.Binary64

/-!
# JSON values

Raw documents, custom type models and everything that is stored between runs are JSON values.
Members of an object are a list in written order, so that order is kept from reading to writing.

* `Json` — the values, with decidable equality;
* `Json.get?`, `Json.asString?`, … — the parts of a value, absent when the value has another kind;
* `Json.merged` — the value a map-based reader sees: in every object a repeated member keeps its
  first position and its last value;
* `Json.WellFormed` — no object repeats a member.
-/

namespace ContentGraph

/-- A JSON number: a whole number between `-2 ^ 63` and `2 ^ 64 - 1`, or a double. -/
inductive Json.Number
  | integer (value : Int)
  | double (value : Binary64)
  deriving DecidableEq, Repr, Inhabited

/-- A JSON value. -/
inductive Json
  | null
  | bool (value : Bool)
  | number (value : Json.Number)
  | string (value : String)
  | array (elements : List Json)
  | object (members : List (String × Json))
  deriving Repr, Inhabited

namespace Json

/-! ### Kinds and parts -/

/-- The name of a value's kind. -/
def kindName : Json → String
  | .null => "null"
  | .bool _ => "boolean"
  | .number _ => "number"
  | .string _ => "string"
  | .array _ => "array"
  | .object _ => "object"

/-- The member `key` of an object. -/
def get? (value : Json) (key : String) : Option Json :=
  match value with
  | .object members => Keyed.get? key members
  | _ => none

/-- The text of a string. -/
def asString? : Json → Option String
  | .string text => some text
  | _ => none

/-- The elements of an array. -/
def asArray? : Json → Option (List Json)
  | .array elements => some elements
  | _ => none

/-- A whole number that is not negative. -/
def asNat? : Json → Option Nat
  | .number (.integer value) => if 0 ≤ value then some value.toNat else none
  | _ => none

/-- Whether the value is an object. -/
def isObject : Json → Bool
  | .object _ => true
  | _ => false

/-- The string member `key` of an object. -/
def getString? (value : Json) (key : String) : Option String := (value.get? key).bind asString?

/-- The string member `key`, or the empty text. -/
def getText (value : Json) (key : String) : String := (value.getString? key).getD ""

/-- A whole number that is not negative. -/
def ofNat (n : Nat) : Json := .number (.integer n)

/-! ### Repeated members -/

mutual
/-- The value with every object's members merged. -/
def merged : Json → Json
  | .array elements => .array (mergedElements elements)
  | .object members => .object (Keyed.merge (mergedMembers members))
  | .null => .null
  | .bool value => .bool value
  | .number value => .number value
  | .string value => .string value
/-- Every element merged. -/
def mergedElements : List Json → List Json
  | [] => []
  | value :: rest => merged value :: mergedElements rest
/-- Every member's value merged. -/
def mergedMembers : List (String × Json) → List (String × Json)
  | [] => []
  | (key, value) :: rest => (key, merged value) :: mergedMembers rest
end

mutual
/-- No object in the value repeats a member. -/
def WellFormed : Json → Prop
  | .array elements => WellFormedElements elements
  | .object members => Keyed.Distinct members ∧ WellFormedMembers members
  | .null => True
  | .bool _ => True
  | .number _ => True
  | .string _ => True
/-- No object in the elements repeats a member. -/
def WellFormedElements : List Json → Prop
  | [] => True
  | value :: rest => WellFormed value ∧ WellFormedElements rest
/-- No object in the members' values repeats a member. -/
def WellFormedMembers : List (String × Json) → Prop
  | [] => True
  | (_, value) :: rest => WellFormed value ∧ WellFormedMembers rest
end

/-! ### Equality -/

mutual
/-- Equality of values is decidable. -/
def decEq : (a b : Json) → Decidable (a = b)
  | .null, .null => isTrue rfl
  | .bool a, .bool b => if h : a = b then isTrue (h ▸ rfl) else isFalse fun e => h (by injection e)
  | .number a, .number b =>
    if h : a = b then isTrue (h ▸ rfl) else isFalse fun e => h (by injection e)
  | .string a, .string b =>
    if h : a = b then isTrue (h ▸ rfl) else isFalse fun e => h (by injection e)
  | .array a, .array b =>
    match decEqElements a b with
    | isTrue h => isTrue (h ▸ rfl)
    | isFalse h => isFalse fun e => h (by injection e)
  | .object a, .object b =>
    match decEqMembers a b with
    | isTrue h => isTrue (h ▸ rfl)
    | isFalse h => isFalse fun e => h (by injection e)
  | .null, .bool _ | .null, .number _ | .null, .string _ | .null, .array _ | .null, .object _
  | .bool _, .null | .bool _, .number _ | .bool _, .string _ | .bool _, .array _
  | .bool _, .object _
  | .number _, .null | .number _, .bool _ | .number _, .string _ | .number _, .array _
  | .number _, .object _ | .string _, .null | .string _, .bool _ | .string _, .number _
  | .string _, .array _ | .string _, .object _ | .array _, .null | .array _, .bool _
  | .array _, .number _ | .array _, .string _ | .array _, .object _ | .object _, .null
  | .object _, .bool _ | .object _, .number _ | .object _, .string _ | .object _, .array _ =>
    isFalse fun e => by injection e
/-- Equality of lists of values is decidable. -/
def decEqElements : (a b : List Json) → Decidable (a = b)
  | [], [] => isTrue rfl
  | [], _ :: _ | _ :: _, [] => isFalse fun e => by injection e
  | x :: xs, y :: ys =>
    match decEq x y, decEqElements xs ys with
    | isTrue h, isTrue g => isTrue (h ▸ g ▸ rfl)
    | isFalse h, _ => isFalse fun e => h (by injection e)
    | _, isFalse g => isFalse fun e => g (by injection e)
/-- Equality of lists of members is decidable. -/
def decEqMembers : (a b : List (String × Json)) → Decidable (a = b)
  | [], [] => isTrue rfl
  | [], _ :: _ | _ :: _, [] => isFalse fun e => by injection e
  | (k, x) :: xs, (l, y) :: ys =>
    if hk : k = l then
      match decEq x y, decEqMembers xs ys with
      | isTrue h, isTrue g => isTrue (hk ▸ h ▸ g ▸ rfl)
      | isFalse h, _ => isFalse fun e => h (by injection e with e _; injection e)
      | _, isFalse g => isFalse fun e => g (by injection e)
    else isFalse fun e => hk (by injection e with e _; injection e)
end

instance : DecidableEq Json := decEq

end Json

end ContentGraph
