import ContentGraph.Proofs.Declaration.Stored
import ContentGraph.Proofs.Sdl.Grammar

/-!
# Printed declarations as documents

Declarations are printed by putting their names between fixed texts, and nothing is checked.  When
the names are names of the language, the tokens that are printed are known, and whether they are a
document depends on no more than what each declaration holds: braces with nothing between them and
equals signs with nothing after them belong to none.

* `TypeDeclaration.tokens` — the tokens of a declaration;
* `TypeDeclaration.mentions`, `TypeDeclaration.Printable` — the names in a declaration, all of them
  names of the language;
* `tokens?_renderAll` — the tokens of what is printed are those of the declarations;
* `TypeDeclaration.Filled` — objects and interfaces with a field, unions with a member;
* `isDocument_renderAll_iff` — what is printed is a document exactly when every declaration is
  filled.
-/

namespace ContentGraph

open Sdl (Token)

/-! ### Tokens of declarations -/

/-- The tokens of a type reference. -/
def TypeRef.tokens : TypeRef → List Token
  | .named name => [.word name.toList]
  | .nonNull inner => inner.tokens ++ [Token.mark '!']
  | .list inner => .mark '[' :: (inner.tokens ++ [Token.mark ']'])

/-- The tokens of an extension. -/
def FieldExtension.tokens : FieldExtension → List Token
  | .dateFormat => [.mark '@', .word "dateformat".toList]

/-- The tokens of a field. -/
def fieldTokens (field : String × FieldDecl) : List Token :=
  .word field.1.toList :: .mark ':' ::
    (field.2.typeRef.tokens ++ field.2.extensions.flatMap FieldExtension.tokens)

/-- The tokens of a body. -/
def bodyTokens (fields : List (String × FieldDecl)) : List Token :=
  .mark '\x7b' :: (fields.flatMap fieldTokens ++ [Token.mark '\x7d'])

/-- The tokens of names with a mark between them. -/
def namesTokens (mark : Char) : List String → List Token
  | [] => []
  | [name] => [.word name.toList]
  | name :: other :: rest => .word name.toList :: .mark mark :: namesTokens mark (other :: rest)

/-- The tokens of the interfaces of an object. -/
def interfacesTokens (interfaces : List String) : List Token :=
  if interfaces.isEmpty then [] else .word "implements".toList :: namesTokens '&' interfaces

/-- The tokens of a declaration. -/
def TypeDeclaration.tokens : TypeDeclaration → List Token
  | .object type =>
    .word "type".toList :: .word type.name.toList ::
      (interfacesTokens type.interfaces ++ bodyTokens type.fields)
  | .interface type => .word "interface".toList :: .word type.name.toList :: bodyTokens type.fields
  | .union type =>
    .word "union".toList :: .word type.name.toList :: .mark '=' :: namesTokens '|' type.members
  | .scalar type => [.word "scalar".toList, .word type.name.toList]

/-! ### Names in declarations -/

namespace TypeDeclaration

/-- The names that a declaration lists: the interfaces of an object, the members of a union. -/
def listed : TypeDeclaration → List String
  | .object type => type.interfaces
  | .union type => type.members
  | .interface _ | .scalar _ => []

/-- The names that a declaration mentions: its own, those that it lists, those of its fields and of
their types. -/
def mentions (declaration : TypeDeclaration) : List String :=
  declaration.name :: (declaration.listed ++
    declaration.fields.flatMap fun field => [field.1, field.2.typeRef.baseName])

/-- An object or an interface has a field, a union has a member. -/
def Filled : TypeDeclaration → Prop
  | .object type => type.fields ≠ []
  | .interface type => type.fields ≠ []
  | .union type => type.members ≠ []
  | .scalar _ => True

end TypeDeclaration

/-- No non-null wrapper stands right inside another. -/
def TypeRef.Single : TypeRef → Prop
  | .named _ => True
  | .nonNull (.nonNull _) => False
  | .nonNull inner => inner.Single
  | .list inner => inner.Single

/-- A field whose names are names of the language. -/
structure PrintableField (field : String × FieldDecl) : Prop where
  name : Sdl.IsName field.1.toList
  base : Sdl.IsName field.2.typeRef.baseName.toList
  single : field.2.typeRef.Single

/-- A declaration whose names are names of the language. -/
structure TypeDeclaration.Printable (declaration : TypeDeclaration) : Prop where
  name : Sdl.IsName declaration.name.toList
  listed : ∀ name ∈ declaration.listed, Sdl.IsName name.toList
  fields : ∀ field ∈ declaration.fields, PrintableField field

/-- All names that a printable declaration mentions are names of the language. -/
theorem TypeDeclaration.Printable.isName_of_mem_mentions {declaration : TypeDeclaration}
    (h : declaration.Printable) :
    ∀ name ∈ declaration.mentions, Sdl.IsName name.toList := by
  rw [mentions, List.forall_mem_cons, List.forall_mem_append, List.forall_mem_flatMap]
  refine ⟨h.name, h.listed, fun field hfield => ?_⟩
  rw [List.forall_mem_cons, List.forall_mem_singleton]
  exact ⟨(h.fields field hfield).name, (h.fields field hfield).base⟩

/-! ### Reading tokens -/

namespace Sdl

/-- The text is empty or starts with no name character. -/
def StartsApart (text : List Char) : Prop := ∀ c ∈ text.head?, TypeRef.isNameChar c = false

theorem startsApart_cons {c : Char} (h : TypeRef.isNameChar c = false) (rest : List Char) :
    StartsApart (c :: rest) := by
  intro d hd
  cases hd
  exact h

theorem startsApart_append {text rest : List Char} (h : StartsApart text)
    (hrest : StartsApart rest) :
    StartsApart (text ++ rest) := by
  cases text with
  | nil => exact hrest
  | cons c tail => exact startsApart_cons (h c rfl) _

/-- The text holds the tokens, before whatever starts with no name character. -/
def Reads (text : List Char) (tokens : List Token) : Prop :=
  ∀ rest, StartsApart rest →
    tokensAfter [] (text ++ rest) = (tokensAfter [] rest).map fun later => tokens ++ later

theorem reads_nil : Reads [] [] := by
  intro rest _
  have hid : (fun later : List Token => [] ++ later) = id := rfl
  rw [List.nil_append, hid, Option.map_id, id]

/-- Characters of a word are added to what has been read of it. -/
theorem tokensAfter_word {word : List Char} (h : ∀ c ∈ word, TypeRef.isNameChar c = true) :
    ∀ (pending rest : List Char), tokensAfter pending (word ++ rest) =
      tokensAfter (pending ++ word) rest := by
  induction word with
  | nil =>
    intro pending rest
    rw [List.nil_append, List.append_nil]
  | cons c word ih =>
    intro pending rest
    rw [List.forall_mem_cons] at h
    rw [List.cons_append, tokensAfter, if_pos h.1, ih h.2, List.append_assoc, List.singleton_append]

/-- A word ends where no name character follows. -/
theorem tokensAfter_pending (pending : List Char) {rest : List Char} (h : StartsApart rest) :
    tokensAfter pending rest = (tokensAfter [] rest).map fun later => wordOf pending ++ later := by
  cases rest with
  | nil => simp [tokensAfter, wordOf]
  | cons c rest =>
    have hc : ¬TypeRef.isNameChar c = true := by simp [h c rfl]
    simp only [tokensAfter, if_neg hc]
    split
    · rw [Option.map_map]
      rfl
    · split
      · rw [Option.map_map]
        rfl
      · rfl

theorem reads_word {word : List Char} (h : TypeRef.IsName word) : Reads word [.word word] := by
  intro rest hrest
  rw [tokensAfter_word h.2, List.nil_append, tokensAfter_pending word hrest, wordOf, if_neg h.1]

theorem reads_append {text more : List Char} {tokens others : List Token} (h : Reads text tokens)
    (hmore : Reads more others) (apart : StartsApart more) :
    Reads (text ++ more) (tokens ++ others) := by
  intro rest hrest
  rw [List.append_assoc, h _ (startsApart_append apart hrest), hmore rest hrest, Option.map_map]
  congr 1
  funext later
  exact (List.append_assoc tokens others later).symm

theorem reads_ignored {c : Char} (h : TypeRef.isNameChar c = false ∧ isIgnored c = true)
    {text : List Char} {tokens : List Token} (htext : Reads text tokens) :
    Reads (c :: text) tokens := by
  intro rest hrest
  have hc : ¬TypeRef.isNameChar c = true := by simp [h.1]
  rw [List.cons_append, tokensAfter, if_neg hc, if_pos h.2, htext rest hrest, Option.map_map]
  rfl

theorem reads_mark {c : Char}
    (h : TypeRef.isNameChar c = false ∧ isIgnored c = false ∧ isMark c = true) {text : List Char}
    {tokens : List Token} (htext : Reads text tokens) : Reads (c :: text) (.mark c :: tokens) := by
  intro rest hrest
  have hc : ¬TypeRef.isNameChar c = true := by simp [h.1]
  have hignored : ¬isIgnored c = true := by simp [h.2.1]
  rw [List.cons_append, tokensAfter, if_neg hc, if_neg hignored, if_pos h.2.2, htext rest hrest,
    Option.map_map]
  rfl

/-- A word before a character that is none. -/
theorem reads_word_append {word more : List Char} {others : List Token} (h : TypeRef.IsName word)
    (hmore : Reads more others) (apart : StartsApart more) :
    Reads (word ++ more) (.word word :: others) :=
  reads_append (reads_word h) hmore apart

end Sdl

open Sdl (Reads StartsApart)

/-! ### What is printed -/

theorem TypeRef.reads_chars {ref : TypeRef} (h : Sdl.IsName ref.baseName.toList) :
    Reads ref.chars ref.tokens := by
  have mark : ∀ {c : Char}, c = '!' ∨ c = ']' → Reads [c] [.mark c] ∧ StartsApart [c] := by
    rintro c (rfl | rfl) <;>
      exact ⟨Sdl.reads_mark (by decide) Sdl.reads_nil, Sdl.startsApart_cons (by decide) []⟩
  induction ref with
  | named name => exact Sdl.reads_word h.1
  | nonNull inner ih => exact Sdl.reads_append (ih h) (mark (Or.inl rfl)).1 (mark (Or.inl rfl)).2
  | list inner ih =>
    exact Sdl.reads_mark (by decide) (Sdl.reads_append (ih h) (mark (Or.inr rfl)).1
      (mark (Or.inr rfl)).2)

/-- The extensions of a field, each after a space. -/
def extensionsText (extensions : List FieldExtension) : List Char :=
  extensions.flatMap fun extension => ' ' :: extension.directive.toList

theorem startsApart_extensionsText (extensions : List FieldExtension) :
    StartsApart (extensionsText extensions) := by
  cases extensions with
  | nil => exact fun _ h => nomatch h
  | cons extension rest => exact Sdl.startsApart_cons (by decide) _

theorem reads_extensionsText (extensions : List FieldExtension) :
    Reads (extensionsText extensions) (extensions.flatMap FieldExtension.tokens) := by
  induction extensions with
  | nil => exact Sdl.reads_nil
  | cons extension rest ih =>
    have hdirective : Reads (' ' :: extension.directive.toList) extension.tokens := by
      cases extension
      have hword : TypeRef.IsName "dateformat".toList := by decide
      exact Sdl.reads_ignored (by decide) (Sdl.reads_mark (by decide) (Sdl.reads_word hword))
    exact Sdl.reads_append hdirective ih (startsApart_extensionsText rest)

theorem toList_renderField (field : String × FieldDecl) :
    (renderField field).toList =
      ' ' :: ' ' :: (field.1.toList ++ (':' :: ' ' :: (field.2.typeRef.chars ++
      (extensionsText field.2.extensions ++ ['\n'])))) := by
  have hextensions :
      (String.join (field.2.extensions.map fun extension => " " ++ extension.directive)).toList =
      extensionsText field.2.extensions := by
    rw [String.toList_join, List.flatMap_map, extensionsText]
    refine List.flatMap_congr fun extension _ => ?_
    rw [String.toList_append]
    rfl
  rw [renderField, String.toList_append, String.toList_append, String.toList_append,
    String.toList_append, String.toList_append, hextensions, TypeRef.render, String.toList_ofList]
  simp

/-- The line of a field. -/
theorem reads_renderField {field : String × FieldDecl} (h : PrintableField field) :
    Reads (renderField field).toList (fieldTokens field) := by
  have hend : Reads ['\n'] [] := Sdl.reads_ignored (by decide) Sdl.reads_nil
  have hextensions := Sdl.reads_append (reads_extensionsText field.2.extensions) hend
    (Sdl.startsApart_cons (by decide) [])
  have hapart : StartsApart (extensionsText field.2.extensions ++ ['\n']) :=
    Sdl.startsApart_append (startsApart_extensionsText _) (Sdl.startsApart_cons (by decide) [])
  rw [List.append_nil] at hextensions
  have htype := Sdl.reads_append (TypeRef.reads_chars h.base) hextensions hapart
  rw [toList_renderField, fieldTokens]
  refine Sdl.reads_ignored (by decide) (Sdl.reads_ignored (by decide) ?_)
  refine Sdl.reads_word_append h.name.1 ?_ (Sdl.startsApart_cons (by decide) _)
  exact Sdl.reads_mark (by decide) (Sdl.reads_ignored (by decide) htype)

/-- The body of an object or an interface. -/
theorem reads_renderFields {fields : List (String × FieldDecl)}
    (h : ∀ field ∈ fields, PrintableField field) :
    Reads (renderFields fields).toList (bodyTokens fields) := by
  have hclose : Reads ['\x7d'] [.mark '\x7d'] := Sdl.reads_mark (by decide) Sdl.reads_nil
  have hlines : Reads (fields.flatMap (fun field => (renderField field).toList) ++ ['\x7d'])
      (fields.flatMap fieldTokens ++ [Token.mark '\x7d']) ∧
      StartsApart (fields.flatMap (fun field => (renderField field).toList) ++ ['\x7d']) := by
    induction fields with
    | nil => exact ⟨hclose, Sdl.startsApart_cons (by decide) []⟩
    | cons field rest ih =>
      rw [List.forall_mem_cons] at h
      obtain ⟨hrest, hapart⟩ := ih h.2
      rw [List.flatMap_cons, List.flatMap_cons, List.append_assoc, List.append_assoc]
      refine ⟨Sdl.reads_append (reads_renderField h.1) hrest hapart, ?_⟩
      rw [toList_renderField]
      exact Sdl.startsApart_cons (by decide) _
  have htext : (renderFields fields).toList =
      ' ' :: '\x7b' :: '\n' :: (fields.flatMap (fun field => (renderField field).toList) ++
        ['\x7d']) := by
    rw [renderFields, String.toList_append, String.toList_append, String.toList_join,
      List.flatMap_map]
    rfl
  rw [htext, bodyTokens]
  exact Sdl.reads_ignored (by decide) (Sdl.reads_mark (by decide)
    (Sdl.reads_ignored (by decide) hlines.1))

theorem startsApart_renderFields (fields : List (String × FieldDecl)) :
    StartsApart (renderFields fields).toList := by
  have htext : ∃ tail, (renderFields fields).toList = ' ' :: tail := by
    rw [renderFields, String.toList_append, String.toList_append]
    exact ⟨_, rfl⟩
  obtain ⟨tail, heq⟩ := htext
  rw [heq]
  exact Sdl.startsApart_cons (by decide) tail

/-- Names with a mark between them. -/
theorem reads_intercalate {mark : Char} {separator : String}
    (hseparator : separator.toList = [' ', mark, ' '])
    (hmark : TypeRef.isNameChar mark = false ∧ Sdl.isIgnored mark = false ∧ Sdl.isMark mark = true)
    {names : List String} (h : ∀ name ∈ names, Sdl.IsName name.toList) :
    Reads (String.intercalate separator names).toList (namesTokens mark names) := by
  induction names with
  | nil =>
    rw [String.intercalate_nil]
    exact Sdl.reads_nil
  | cons name rest ih =>
    rw [List.forall_mem_cons] at h
    cases rest with
    | nil =>
      rw [String.intercalate_singleton]
      exact Sdl.reads_word h.1.1
    | cons other rest =>
      rw [String.intercalate_cons_cons, String.toList_append, String.toList_append, hseparator,
        List.append_assoc]
      refine Sdl.reads_word_append h.1.1 ?_ (Sdl.startsApart_cons (by decide) _)
      exact Sdl.reads_ignored (by decide) (Sdl.reads_mark hmark
        (Sdl.reads_ignored (by decide) (ih h.2)))

/-- **The tokens of a printed declaration.** -/
theorem TypeDeclaration.reads_render {declaration : TypeDeclaration} (h : declaration.Printable) :
    Reads declaration.render.toList declaration.tokens := by
  -- a keyword, and a name that something follows
  have head : ∀ {keyword name : String} {more : List Char} {others : List Token},
    TypeRef.IsName keyword.toList →
      Sdl.IsName name.toList → Reads more others → StartsApart more →
        Reads (keyword.toList ++ ' ' :: (name.toList ++ more))
          (.word keyword.toList :: .word name.toList :: others) := by
    intro keyword name more others hkeyword hname hmore apart
    refine Sdl.reads_word_append hkeyword ?_ (Sdl.startsApart_cons (by decide) _)
    exact Sdl.reads_ignored (by decide) (Sdl.reads_word_append hname.1 hmore apart)
  have nothing : StartsApart [] := fun _ habsurd => nomatch habsurd
  cases declaration with
  | object type =>
    have hbody := reads_renderFields h.fields
    have hapart := startsApart_renderFields type.fields
    rw [render, tokens, interfacesTokens]
    split
    · have htext : ("type " ++ type.name ++ "" ++ renderFields type.fields).toList =
          "type".toList ++ ' ' :: (type.name.toList ++ (renderFields type.fields).toList) := by
        simp
      rw [htext]
      exact head (by decide) h.name hbody hapart
    · have htext :
          ("type " ++ type.name ++ (" implements " ++ String.intercalate " & " type.interfaces) ++
            renderFields type.fields).toList =
          "type".toList ++ ' ' :: (type.name.toList ++ (' ' :: ("implements".toList ++ (' ' ::
            ((String.intercalate " & " type.interfaces).toList ++
              (renderFields type.fields).toList))))) := by
        simp
      rw [htext]
      refine head (by decide) h.name ?_ (Sdl.startsApart_cons (by decide) _)
      refine Sdl.reads_ignored (by decide) (Sdl.reads_word_append (by decide) ?_
        (Sdl.startsApart_cons (by decide) _))
      refine Sdl.reads_ignored (by decide) (Sdl.reads_append ?_ hbody hapart)
      exact reads_intercalate (by decide) (by decide) h.listed
  | interface type =>
    have htext : ("interface " ++ type.name ++ renderFields type.fields).toList =
        "interface".toList ++ ' ' :: (type.name.toList ++ (renderFields type.fields).toList) := by
      simp
    rw [render, tokens, htext]
    exact head (by decide) h.name (reads_renderFields h.fields)
      (startsApart_renderFields type.fields)
  | union type =>
    have htext : ("union " ++ type.name ++ " = " ++ String.intercalate " | " type.members).toList =
        "union".toList ++ ' ' :: (type.name.toList ++ (' ' :: '=' :: ' ' ::
          (String.intercalate " | " type.members).toList)) := by
      simp
    rw [render, tokens, htext]
    refine head (by decide) h.name (Sdl.reads_ignored (by decide) ?_)
      (Sdl.startsApart_cons (by decide) _)
    refine Sdl.reads_mark (by decide) (Sdl.reads_ignored (by decide) ?_)
    exact reads_intercalate (by decide) (by decide) h.listed
  | scalar type =>
    have htext :
        ("scalar " ++ type.name).toList = "scalar".toList ++ ' ' :: (type.name.toList ++ []) := by
      simp
    rw [render, tokens, htext]
    exact head (by decide) h.name Sdl.reads_nil nothing

/-- **The tokens of what is printed** are those of the declarations, in order. -/
theorem tokens?_renderAll {declarations : List TypeDeclaration}
    (h : ∀ declaration ∈ declarations, declaration.Printable) :
    Sdl.tokens? (renderAll declarations) = some (declarations.flatMap TypeDeclaration.tokens) := by
  have hreads :
      Reads (renderAll declarations).toList (declarations.flatMap TypeDeclaration.tokens) := by
    rw [renderAll]
    induction declarations with
    | nil =>
      rw [List.map_nil, String.intercalate_nil]
      exact Sdl.reads_nil
    | cons declaration rest ih =>
      rw [List.forall_mem_cons] at h
      have hown := TypeDeclaration.reads_render h.1
      have hrest := ih h.2
      cases rest with
      | nil =>
        rw [List.map_singleton, String.intercalate_singleton, List.flatMap_singleton]
        exact hown
      | cons other rest =>
        have htext :
            (String.intercalate "\n\n" ((declaration :: other :: rest).map
              TypeDeclaration.render)).toList =
            declaration.render.toList ++ ('\n' :: '\n' ::
              (String.intercalate "\n\n" ((other :: rest).map TypeDeclaration.render)).toList) := by
          rw [List.map_cons, List.map_cons, String.intercalate_cons_cons]
          simp
        rw [htext, List.flatMap_cons]
        refine Sdl.reads_append hown ?_ (Sdl.startsApart_cons (by decide) _)
        exact Sdl.reads_ignored (by decide) (Sdl.reads_ignored (by decide) hrest)
  have hall := hreads [] (fun _ habsurd => nomatch habsurd)
  rw [List.append_nil] at hall
  rw [Sdl.tokens?, hall]
  simp [Sdl.tokensAfter, Sdl.wordOf]

/-! ### Syntax of what is printed -/

theorem TypeRef.isType_tokens {ref : TypeRef} (h : Sdl.IsName ref.baseName.toList)
    (single : ref.Single) :
    ∃ required, Sdl.IsType required ref.tokens ∧
      (required = true → ∃ inner, ref = .nonNull inner) := by
  induction ref with
  | named name => exact ⟨false, .named h, nofun⟩
  | list inner ih =>
    obtain ⟨required, htype, -⟩ := ih h single
    exact ⟨false, .list htype, nofun⟩
  | nonNull inner ih =>
    have hinner : inner.Single ∧ ∀ deeper, inner ≠ .nonNull deeper := by
      cases inner with
      | named name => exact ⟨trivial, nofun⟩
      | list deeper => exact ⟨single, nofun⟩
      | nonNull deeper => exact single.elim
    obtain ⟨required, htype, hrequired⟩ := ih h hinner.1
    cases required with
    | false => exact ⟨true, .nonNull htype, fun _ => ⟨inner, rfl⟩⟩
    | true =>
      obtain ⟨deeper, heq⟩ := hrequired rfl
      exact absurd heq (hinner.2 deeper)

theorem directives_tokens (extensions : List FieldExtension) :
    Sdl.Directives (extensions.flatMap FieldExtension.tokens) := by
  induction extensions with
  | nil => exact .none
  | cons extension rest ih =>
    cases extension
    exact .more (by decide) ih

/-- Fields that are there are fields of the grammar. -/
theorem fields_tokens {fields : List (String × FieldDecl)} (filled : fields ≠ [])
    (h : ∀ field ∈ fields, PrintableField field) : Sdl.Fields (fields.flatMap fieldTokens) := by
  induction fields with
  | nil => exact absurd rfl filled
  | cons field rest ih =>
    rw [List.forall_mem_cons] at h
    obtain ⟨required, htype, -⟩ := TypeRef.isType_tokens h.1.base h.1.single
    have hdirectives := directives_tokens field.2.extensions
    cases rest with
    | nil =>
      rw [List.flatMap_singleton]
      exact .last h.1.name htype hdirectives
    | cons other rest =>
      have hrest := ih (List.cons_ne_nil _ _) h.2
      have hmore := Sdl.Fields.more h.1.name htype hdirectives hrest
      rwa [← List.append_assoc] at hmore

theorem body_tokens {fields : List (String × FieldDecl)} (filled : fields ≠ [])
    (h : ∀ field ∈ fields, PrintableField field) : Sdl.Body (bodyTokens fields) :=
  .fields (fields_tokens filled h)

/-- Names that are there are names of the grammar. -/
theorem names_tokens {mark : Char} {names : List String} (filled : names ≠ [])
    (h : ∀ name ∈ names, Sdl.IsName name.toList) : Sdl.Names mark (namesTokens mark names) := by
  induction names with
  | nil => exact absurd rfl filled
  | cons name rest ih =>
    rw [List.forall_mem_cons] at h
    cases rest with
    | nil => exact .last h.1
    | cons other rest => exact .more h.1 (ih (List.cons_ne_nil _ _) h.2)

namespace TypeDeclaration

/-- **A filled declaration is a definition.** -/
theorem definition_tokens {declaration : TypeDeclaration} (h : declaration.Printable)
    (filled : declaration.Filled) :
    Sdl.Definition declaration.tokens := by
  cases declaration with
  | object type =>
    have hinterfaces : Sdl.Implements (interfacesTokens type.interfaces) := by
      rw [interfacesTokens]
      split
      · exact .none
      · next hsome =>
        rw [List.isEmpty_iff] at hsome
        exact .some (.names (names_tokens hsome h.listed))
    exact .object h.name hinterfaces .none (body_tokens filled h.fields)
  | interface type => exact .interface h.name .none .none (body_tokens filled h.fields)
  | union type => exact .union h.name .none (.some (.names (names_tokens filled h.listed)))
  | scalar type => exact .scalar h.name .none

/-- A declaration starts with a keyword and its name. -/
theorem exists_tokens_eq (declaration : TypeDeclaration) :
    ∃ keyword tail, declaration.tokens = .word keyword ::
      .word declaration.name.toList :: tail := by
  cases declaration with
  | object type => exact ⟨_, _, rfl⟩
  | interface type => exact ⟨_, _, rfl⟩
  | union type => exact ⟨_, _, rfl⟩
  | scalar type => exact ⟨_, _, rfl⟩

/-- **What is not filled is printed as something that no document holds.** -/
theorem exists_not_follows {declaration : TypeDeclaration} (h : ¬declaration.Filled)
    {after : List Token} (hafter : ¬Sdl.StartsMembers after) :
    ∃ before token rest, declaration.tokens ++ after = before ++ token :: rest ∧
      ¬Sdl.Follows token rest := by
  have hbody : ∀ {rest : List Token}, ¬Sdl.Follows (.mark '\x7b') (.mark '\x7d' :: rest) := by
    intro rest hfollows
    obtain ⟨name, tail, heq⟩ := hfollows.1 rfl
    cases heq
  cases declaration with
  | object type =>
    have hempty : type.fields = [] := not_not.mp h
    refine ⟨.word "type".toList :: .word type.name.toList :: interfacesTokens type.interfaces,
      .mark '\x7b', .mark '\x7d' :: after, ?_, hbody⟩
    rw [tokens, hempty]
    simp [bodyTokens]
  | interface type =>
    have hempty : type.fields = [] := not_not.mp h
    refine ⟨[.word "interface".toList, .word type.name.toList], .mark '\x7b',
      .mark '\x7d' :: after, ?_, hbody⟩
    rw [tokens, hempty]
    rfl
  | union type =>
    have hempty : type.members = [] := not_not.mp h
    refine ⟨[.word "union".toList, .word type.name.toList], .mark '=', after, ?_, fun hfollows =>
      hafter (hfollows.2 rfl)⟩
    rw [tokens, hempty]
    rfl
  | scalar type => exact absurd trivial h

end TypeDeclaration

/-- Declarations whose names are no keywords do not start as the members of a union. -/
theorem not_startsMembers_tokens {declarations : List TypeDeclaration}
    (apart : ∀ declaration ∈ declarations, declaration.name.toList ∉ Sdl.keywords) :
    ¬Sdl.StartsMembers (declarations.flatMap TypeDeclaration.tokens) := by
  rintro ⟨name, tail, hstart, htail⟩
  cases declarations with
  | nil => rcases hstart with hstart | hstart <;> cases hstart
  | cons declaration rest =>
    obtain ⟨keyword, more, heq⟩ := declaration.exists_tokens_eq
    rw [List.flatMap_cons, heq] at hstart
    rcases hstart with hstart | hstart
    · -- the keyword would be the member, and the name would have to start a definition
      cases hstart
      rcases htail with (htail | ⟨found, hfound, later, htail⟩) | ⟨later, htail⟩
      · cases htail
      · cases htail
        exact apart declaration List.mem_cons_self hfound
      · cases htail
    · cases hstart

/-- **What is printed is a document exactly when every declaration is filled**: every body in braces
has a field, and every union has a member. -/
theorem isDocument_renderAll_iff {declarations : List TypeDeclaration}
    (nonempty : declarations ≠ []) (h : ∀ declaration ∈ declarations, declaration.Printable)
    (apart : ∀ declaration ∈ declarations, declaration.name.toList ∉ Sdl.keywords) :
    Sdl.IsDocument (renderAll declarations) ↔ ∀ declaration ∈ declarations, declaration.Filled := by
  have htokens := tokens?_renderAll h
  constructor
  · rintro ⟨tokens, hread, document⟩ declaration hmem
    rw [htokens, Option.some_inj] at hread
    subst hread
    by_contra hempty
    obtain ⟨front, rest, rfl⟩ := List.append_of_mem hmem
    have hrest : ¬Sdl.StartsMembers (rest.flatMap TypeDeclaration.tokens) :=
      not_startsMembers_tokens fun other hother =>
        apart other (List.mem_append_right _ (List.mem_cons_of_mem _ hother))
    obtain ⟨before, token, after, heq, hfollows⟩ := TypeDeclaration.exists_not_follows hempty hrest
    have hscanned := document.scanned.2
    rw [List.flatMap_append, List.flatMap_cons, heq, ← List.append_assoc] at hscanned
    exact hfollows (Sdl.follows_of_scanned hscanned)
  · intro hfilled
    refine ⟨_, htokens, ?_⟩
    clear htokens apart
    induction declarations with
    | nil => exact absurd rfl nonempty
    | cons declaration rest ih =>
      rw [List.forall_mem_cons] at h hfilled
      have hown := TypeDeclaration.definition_tokens h.1 hfilled.1
      cases rest with
      | nil =>
        rw [List.flatMap_singleton]
        exact .last hown
      | cons other rest => exact .more hown (ih (List.cons_ne_nil _ _) h.2 hfilled.2)

end ContentGraph
