import ContentGraph.RichText

/-!
# Renderings one after the other

Nodes, blocks and runs are rendered in order, and the first failure is the failure of all.  What is
said about such a sequence follows from what is said about its parts.

* `errorOf?` — the error of a result, if it is one;
* `followedBy` with `followedBy_eq_ok_iff`, `errorOf?_followedBy` — two renderings, and how they
  end;
* `Renderer.nodes_cons`, `Renderer.blocks_cons`, `Renderer.runs_cons` — each sequence, part by part.
-/

namespace ContentGraph

/-- The error of a result, if it is one. -/
def errorOf? {ε α : Type} : Except ε α → Option ε
  | .error e => some e
  | .ok _ => none

theorem errorOf?_eq_some_iff {ε α : Type} {result : Except ε α} {e : ε} :
    errorOf? result = some e ↔ result = .error e := by
  cases result with
  | ok value => simp [errorOf?]
  | error found => simp [errorOf?]

namespace RichText

/-- A rendering after another one: both, or the first failure. -/
def followedBy (first later : Except FieldError String) : Except FieldError String :=
  match first, later with
  | .error e, _ => .error e
  | .ok _, .error e => .error e
  | .ok html, .ok more => .ok (html ++ more)

/-- Nothing follows. -/
@[simp] theorem followedBy_empty (first : Except FieldError String) :
    followedBy first (.ok "") = first := by
  cases first with
  | error e => rfl
  | ok html => exact congrArg Except.ok (String.append_empty)

/-- Nothing goes before. -/
@[simp] theorem empty_followedBy (later : Except FieldError String) :
    followedBy (.ok "") later = later := by
  cases later with
  | error e => rfl
  | ok html => exact congrArg Except.ok (String.empty_append)

/-- Of three renderings the first failure counts. -/
theorem followedBy_assoc (a b c : Except FieldError String) :
    followedBy (followedBy a b) c = followedBy a (followedBy b c) := by
  cases a with
  | error e => rfl
  | ok x =>
    cases b with
    | error e => rfl
    | ok y =>
      cases c with
      | error e => rfl
      | ok z => exact congrArg Except.ok (String.append_assoc)

/-- Two renderings give the markup of both. -/
theorem followedBy_eq_ok_iff {first later : Except FieldError String} {html : String} :
    followedBy first later = .ok html ↔ ∃ front back, first = .ok front ∧ later = .ok back ∧
      html = front ++ back := by
  constructor
  · intro h
    cases first with
    | error e => cases h
    | ok front =>
      cases later with
      | error e => cases h
      | ok back => exact ⟨front, back, rfl, rfl, (Except.ok.inj h).symm⟩
  · rintro ⟨front, back, rfl, rfl, rfl⟩
    rfl

/-- Of two renderings the first failure counts. -/
theorem errorOf?_followedBy (first later : Except FieldError String) :
    errorOf? (followedBy first later) = (errorOf? first).or (errorOf? later) := by
  cases first with
  | error cause => rfl
  | ok front => cases later <;> rfl

namespace Renderer

variable (r : Renderer)

theorem nodes_cons (units : List UInt16) (first : SpanNode) (rest : List SpanNode) :
    r.nodes units (first :: rest) = followedBy (r.node units first) (r.nodes units rest) := by
  rw [nodes, followedBy.eq_def]
  cases r.node units first with
  | error e => rfl
  | ok html => cases r.nodes units rest <;> rfl

theorem blocks_cons (first : Json) (rest : List Json) :
    r.blocks (first :: rest) = followedBy (r.block first) (r.blocks rest) := by
  rw [blocks, followedBy.eq_def]
  cases r.block first with
  | error e => rfl
  | ok html => cases r.blocks rest <;> rfl

theorem runs_cons (first : Run) (rest : List Run) :
    r.runs (first :: rest) = followedBy (r.run first) (r.runs rest) := by
  rw [runs, followedBy.eq_def]
  cases r.run first with
  | error e => rfl
  | ok html => cases r.runs rest <;> rfl

end Renderer

end RichText

end ContentGraph
