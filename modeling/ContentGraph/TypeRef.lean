import ContentGraph.Text.Case
import ContentGraph.Text.Split

/-!
# Type references

A field refers to its type by name, possibly inside list and non-null wrappers: `String!`, `[Card]`,
`[[Int!]]!`.

* `TypeRef.render` — the reference as written in a schema document;
* `TypeRef.parse` — its inverse, which also allows white space around the name and around every
  wrapper.
-/

namespace ContentGraph

/-- A reference to a type. -/
inductive TypeRef
  | named (name : String)
  | nonNull (inner : TypeRef)
  | list (inner : TypeRef)
  deriving DecidableEq, Repr, Inhabited

namespace TypeRef

/-- The innermost name. -/
def baseName : TypeRef → String
  | .named name => name
  | .nonNull inner => inner.baseName
  | .list inner => inner.baseName

/-- Whether the reference is a list, apart from non-null wrappers around it. -/
def isList : TypeRef → Bool
  | .list _ => true
  | .nonNull inner => inner.isList
  | .named _ => false

/-- The characters of a reference. -/
def chars : TypeRef → List Char
  | .named name => name.toList
  | .nonNull inner => inner.chars ++ ['!']
  | .list inner => '[' :: (inner.chars ++ [']'])

/-- The reference as written. -/
def render (ref : TypeRef) : String := String.ofList ref.chars

@[simp] theorem render_named (name : String) : (TypeRef.named name).render = name := by
  rw [render, chars, String.ofList_toList]

@[simp] theorem render_nonNull (inner : TypeRef) :
    (TypeRef.nonNull inner).render = inner.render ++ "!" := by
  rw [render, chars, String.ofList_append]
  rfl

@[simp] theorem render_list (inner : TypeRef) :
    (TypeRef.list inner).render = "[" ++ inner.render ++ "]" := by
  rw [render, chars, ← List.singleton_append, String.ofList_append, String.ofList_append,
    String.append_assoc]
  rfl

/-- A text that is no type reference. -/
structure ParseError where
  text : String
  deriving DecidableEq, Repr

/-- What is wrong with the text. -/
def ParseError.message (e : ParseError) : String := "malformed type reference '" ++ e.text ++ "'"

/-- Whether `c` may stand in a name. -/
def isNameChar (c : Char) : Bool := Text.isAsciiAlphanumeric c || c = '_'

/-- Trimming makes no text longer. -/
theorem length_trim_le (text : List Char) : (Text.trim text).length ≤ text.length := by
  have dropped (l : List Char) : (l.dropWhile Text.isBlank).length ≤ l.length :=
    (List.dropWhile_suffix _).length_le
  simp only [Text.trim, Text.trimEnd, List.length_reverse]
  refine Nat.le_trans (dropped _) ?_
  simpa using dropped text

/-- The reference that the characters write.  A final `!` belongs to the outermost wrapper, then
brackets. -/
def parseChars (text : List Char) : Except ParseError TypeRef :=
  match _trimmed : Text.trim text with
  | [] => .error ⟨""⟩
  | first :: rest =>
    let trimmed := first :: rest
    if (trimmed.getLast? = some '!') then
      (parseChars trimmed.dropLast).map .nonNull
    else if first = '[' then
      if rest.getLast? = some ']' then (parseChars rest.dropLast).map .list
      else .error ⟨String.ofList trimmed⟩
    else if trimmed.all isNameChar then .ok (.named (String.ofList trimmed))
    else .error ⟨String.ofList trimmed⟩
termination_by text.length
decreasing_by
  all_goals
    have := length_trim_le text
    simp only [_trimmed, List.length_cons] at this
    simp only [List.length_dropLast, List.length_cons]
    omega

/-- The reference that a text writes. -/
def parse (text : String) : Except ParseError TypeRef := parseChars text.toList

end TypeRef

end ContentGraph
