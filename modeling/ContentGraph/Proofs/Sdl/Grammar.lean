import ContentGraph.TypeRef
import ContentGraph.Proofs.TypeRef.Written

/-!
# The grammar of type definitions

The schema definition language has a lexical layer, of words and punctuators with white space and
commas passed over between them, and a syntactic one.  This is the part of both in which types are
printed: definitions of scalars, objects, interfaces and unions.  Descriptions, arguments, comments,
numbers and strings are never printed and have no place here, so that what is a document here is one
in the whole language.

* `tokens?` — the tokens of a text, if it has no other characters;
* `IsName` — the names of the language: letters, digits and underscores, no digit first;
* `Definition`, `Document` — the syntax, production by production: a body in braces has a field or
  more, and what follows an equals sign are names with bars between them;
* `Document.scanned` — what a document never holds: an opening brace before anything but a word, an
  equals sign before anything but members.
-/

namespace ContentGraph.Sdl

/-! ### Tokens -/

/-- A lexical token. -/
inductive Token
  /-- A run of letters, digits and underscores. -/
  | word (text : List Char)
  /-- A punctuator. -/
  | mark (c : Char)
  deriving DecidableEq, Repr

/-- The punctuators that are used. -/
def isMark (c : Char) : Bool := ['!', '&', ':', '=', '@', '[', ']', '\x7b', '|', '\x7d'].contains c

/-- What is passed over between tokens: white space, line ends, commas and byte order marks. -/
def isIgnored (c : Char) : Bool := ['\t', '\n', '\r', ' ', ',', '\uFEFF'].contains c

/-- The word that has been read so far, if any. -/
def wordOf (pending : List Char) : List Token := if pending = [] then [] else [.word pending]

/-- The tokens of a text after part of a word. -/
def tokensAfter (pending : List Char) : List Char → Option (List Token)
  | [] => some (wordOf pending)
  | c :: rest =>
    if TypeRef.isNameChar c then tokensAfter (pending ++ [c]) rest
    else if isIgnored c then (tokensAfter [] rest).map fun later => wordOf pending ++ later
    else if isMark c then (tokensAfter [] rest).map fun later => wordOf pending ++ .mark c :: later
    else none

/-- The tokens of a text. -/
def tokens? (text : String) : Option (List Token) := tokensAfter [] text.toList

/-! ### Syntax -/

/-- A name: letters, digits and underscores, no digit first. -/
def IsName (text : List Char) : Prop :=
  TypeRef.IsName text ∧ text.head?.any Text.isAsciiDigit = false

instance (text : List Char) : Decidable (IsName text) := inferInstanceAs (Decidable (_ ∧ _))

/-- A type: a name, or a type in brackets, with or without an exclamation mark.  Types with one are
`required`. -/
inductive IsType : Bool → List Token → Prop
  | named {name : List Char} : IsName name → IsType false [.word name]
  | list {required : Bool} {inner : List Token} :
    IsType required inner → IsType false (.mark '[' :: (inner ++ [Token.mark ']']))
  | nonNull {inner : List Token} : IsType false inner → IsType true (inner ++ [Token.mark '!'])

/-- Directives without arguments. -/
inductive Directives : List Token → Prop
  | none : Directives []
  | more {name : List Char} {rest : List Token} :
    IsName name → Directives rest → Directives (.mark '@' :: .word name :: rest)

/-- One or more fields without arguments. -/
inductive Fields : List Token → Prop
  | last {name : List Char} {required : Bool} {type directives : List Token} :
    IsName name → IsType required type → Directives directives →
      Fields (.word name :: .mark ':' :: (type ++ directives))
  | more {name : List Char} {required : Bool} {type directives rest : List Token} :
    IsName name → IsType required type → Directives directives → Fields rest →
      Fields (.word name :: .mark ':' :: (type ++ (directives ++ rest)))

/-- The body of an object or an interface, which may be missing. -/
inductive Body : List Token → Prop
  | none : Body []
  | fields {inner : List Token} :
    Fields inner → Body (.mark '\x7b' :: (inner ++ [Token.mark '\x7d']))

/-- One or more names with a mark between them. -/
inductive Names (mark : Char) : List Token → Prop
  | last {name : List Char} : IsName name → Names mark [.word name]
  | more {name : List Char} {rest : List Token} :
    IsName name → Names mark rest → Names mark (.word name :: .mark mark :: rest)

/-- One or more names with a mark between them, and possibly before the first. -/
inductive LeadingNames (mark : Char) : List Token → Prop
  | names {names : List Token} : Names mark names → LeadingNames mark names
  | leading {names : List Token} : Names mark names → LeadingNames mark (.mark mark :: names)

/-- The interfaces of an object or an interface, if it has any. -/
inductive Implements : List Token → Prop
  | none : Implements []
  | some {names : List Token} :
    LeadingNames '&' names → Implements (.word "implements".toList :: names)

/-- The members of a union, which may be missing. -/
inductive Members : List Token → Prop
  | none : Members []
  | some {names : List Token} : LeadingNames '|' names → Members (.mark '=' :: names)

/-- The definition of a type. -/
inductive Definition : List Token → Prop
  | scalar {name : List Char} {directives : List Token} :
    IsName name → Directives directives →
      Definition (.word "scalar".toList :: .word name :: directives)
  | object {name : List Char} {interfaces directives body : List Token} :
    IsName name → Implements interfaces → Directives directives → Body body →
      Definition (.word "type".toList :: .word name :: (interfaces ++ (directives ++ body)))
  | interface {name : List Char} {interfaces directives body : List Token} :
    IsName name → Implements interfaces → Directives directives → Body body →
      Definition (.word "interface".toList :: .word name :: (interfaces ++ (directives ++ body)))
  | union {name : List Char} {directives members : List Token} :
    IsName name → Directives directives → Members members →
      Definition (.word "union".toList :: .word name :: (directives ++ members))

/-- One or more definitions. -/
inductive Document : List Token → Prop
  | last {definition : List Token} : Definition definition → Document definition
  | more {definition rest : List Token} :
    Definition definition → Document rest → Document (definition ++ rest)

/-- A text whose tokens are those of one or more definitions. -/
def IsDocument (text : String) : Prop := ∃ tokens, tokens? text = some tokens ∧ Document tokens

/-! ### What documents never hold -/

/-- The words that definitions start with. -/
def keywords : List (List Char) :=
  ["type".toList, "interface".toList, "union".toList, "scalar".toList]

/-- What may stand after a definition: nothing, or a definition. -/
def StartsDefinition (tokens : List Token) : Prop :=
  tokens = [] ∨ ∃ keyword ∈ keywords, ∃ tail, tokens = .word keyword :: tail

/-- Tokens that begin with a name, at most one bar before it, and go on after it as the members of a
union do. -/
def StartsMembers (tokens : List Token) : Prop :=
  ∃ name tail, (tokens = .word name :: tail ∨ tokens = .mark '|' :: .word name :: tail) ∧
    (StartsDefinition tail ∨ ∃ later, tail = .mark '|' :: later)

/-- What may follow a token: a word follows an opening brace, members follow an equals sign. -/
def Follows (token : Token) (after : List Token) : Prop :=
  (token = .mark '\x7b' → ∃ name tail, after = .word name :: tail) ∧
    (token = .mark '=' → StartsMembers after)

/-- Every token is followed by what may follow it. -/
def Scanned : List Token → Prop
  | [] => True
  | token :: rest => Follows token rest ∧ Scanned rest

/-- A token that anything may follow. -/
def Plain (token : Token) : Prop := token ≠ .mark '\x7b' ∧ token ≠ .mark '='

theorem plain_word (text : List Char) : Plain (.word text) := ⟨nofun, nofun⟩

theorem plain_mark {c : Char} (h : c ≠ '\x7b' ∧ c ≠ '=') : Plain (.mark c) :=
  ⟨fun heq => h.1 (Token.mark.inj heq), fun heq => h.2 (Token.mark.inj heq)⟩

theorem Plain.follows {token : Token} (h : Plain token) (after : List Token) :
    Follows token after :=
  ⟨fun heq => absurd heq h.1, fun heq => absurd heq h.2⟩

theorem scanned_append_of_plain {front : List Token} (h : ∀ token ∈ front, Plain token)
    {rest : List Token} :
    Scanned (front ++ rest) ↔ Scanned rest := by
  induction front with
  | nil => rfl
  | cons token front ih =>
    rw [List.forall_mem_cons] at h
    rw [List.cons_append, Scanned, ih h.2]
    exact and_iff_right (h.1.follows _)

/-- Inside a scanned text every token is followed by what may follow it. -/
theorem follows_of_scanned {before after : List Token} {token : Token}
    (h : Scanned (before ++ token :: after)) :
    Follows token after := by
  induction before with
  | nil => exact h.1
  | cons first before ih => exact ih h.2

theorem IsType.plain {required : Bool} {tokens : List Token} (h : IsType required tokens) :
    ∀ token ∈ tokens, Plain token := by
  induction h with
  | named hname => exact List.forall_mem_singleton.mpr (plain_word _)
  | list inner ih =>
    rw [List.forall_mem_cons, List.forall_mem_append, List.forall_mem_singleton]
    exact ⟨plain_mark (by decide), ih, plain_mark (by decide)⟩
  | nonNull inner ih =>
    rw [List.forall_mem_append, List.forall_mem_singleton]
    exact ⟨ih, plain_mark (by decide)⟩

theorem Directives.plain {tokens : List Token} (h : Directives tokens) :
    ∀ token ∈ tokens, Plain token := by
  induction h with
  | none => exact fun _ hmem => absurd hmem List.not_mem_nil
  | more hname rest ih =>
    rw [List.forall_mem_cons, List.forall_mem_cons]
    exact ⟨plain_mark (by decide), plain_word _, ih⟩

theorem Fields.plain {tokens : List Token} (h : Fields tokens) : ∀ token ∈ tokens, Plain token := by
  induction h with
  | last hname type directives =>
    rw [List.forall_mem_cons, List.forall_mem_cons, List.forall_mem_append]
    exact ⟨plain_word _, plain_mark (by decide), type.plain, directives.plain⟩
  | more hname type directives rest ih =>
    rw [List.forall_mem_cons, List.forall_mem_cons, List.forall_mem_append, List.forall_mem_append]
    exact ⟨plain_word _, plain_mark (by decide), type.plain, directives.plain, ih⟩

theorem Fields.starts_word {tokens : List Token} (h : Fields tokens) :
    ∃ name tail, tokens = .word name :: tail := by
  cases h with
  | last => exact ⟨_, _, rfl⟩
  | more => exact ⟨_, _, rfl⟩

theorem Names.plain {mark : Char} (hmark : mark ≠ '\x7b' ∧ mark ≠ '=') {tokens : List Token}
    (h : Names mark tokens) :
    ∀ token ∈ tokens, Plain token := by
  induction h with
  | last hname => exact List.forall_mem_singleton.mpr (plain_word _)
  | more hname rest ih =>
    rw [List.forall_mem_cons, List.forall_mem_cons]
    exact ⟨plain_word _, plain_mark hmark, ih⟩

theorem LeadingNames.plain {mark : Char} (hmark : mark ≠ '\x7b' ∧ mark ≠ '=') {tokens : List Token}
    (h : LeadingNames mark tokens) : ∀ token ∈ tokens, Plain token := by
  cases h with
  | names names => exact names.plain hmark
  | leading names => exact List.forall_mem_cons.mpr ⟨plain_mark hmark, names.plain hmark⟩

theorem Implements.plain {tokens : List Token} (h : Implements tokens) :
    ∀ token ∈ tokens, Plain token := by
  cases h with
  | none => exact fun _ hmem => absurd hmem List.not_mem_nil
  | some names => exact List.forall_mem_cons.mpr ⟨plain_word _, names.plain (by decide)⟩

/-- Names between bars are followed by the next definition. -/
theorem Names.startsMembers {tokens rest : List Token} (h : Names '|' tokens)
    (hrest : StartsDefinition rest) :
    ∃ name tail, tokens ++ rest = .word name :: tail ∧
      (StartsDefinition tail ∨ ∃ later, tail = .mark '|' :: later) := by
  cases h with
  | last hname => exact ⟨_, rest, rfl, Or.inl hrest⟩
  | more hname names => exact ⟨_, _, rfl, Or.inr ⟨_, rfl⟩⟩

theorem LeadingNames.startsMembers {tokens rest : List Token} (h : LeadingNames '|' tokens)
    (hrest : StartsDefinition rest) : StartsMembers (tokens ++ rest) := by
  cases h with
  | names names =>
    obtain ⟨name, tail, heq, htail⟩ := names.startsMembers hrest
    exact ⟨name, tail, Or.inl heq, htail⟩
  | leading names =>
    obtain ⟨name, tail, heq, htail⟩ := names.startsMembers hrest
    exact ⟨name, tail, Or.inr (congrArg (Token.mark '|' :: ·) heq), htail⟩

/-- A body is scanned, whatever is after it. -/
theorem Body.scanned {tokens rest : List Token} (h : Body tokens) (hrest : Scanned rest) :
    Scanned (tokens ++ rest) := by
  cases h with
  | none => exact hrest
  | @fields inner fields =>
    obtain ⟨name, tail, heq⟩ := fields.starts_word
    have hfollows : Follows (.mark '\x7b') (inner ++ [Token.mark '\x7d'] ++ rest) := by
      refine ⟨fun _ => ⟨name, tail ++ [Token.mark '\x7d'] ++ rest, ?_⟩,
        fun habsurd => absurd habsurd (by decide)⟩
      rw [heq]
      rfl
    have hinner : Scanned (inner ++ [Token.mark '\x7d'] ++ rest) := by
      rw [List.append_assoc, scanned_append_of_plain fields.plain]
      exact ⟨(plain_mark (by decide)).follows _, hrest⟩
    exact ⟨hfollows, hinner⟩

/-- Members are scanned before a definition. -/
theorem Members.scanned {tokens rest : List Token} (h : Members tokens)
    (hstarts : StartsDefinition rest) (hrest : Scanned rest) : Scanned (tokens ++ rest) := by
  cases h with
  | none => exact hrest
  | @some names leading =>
    have hfollows : Follows (.mark '=') (names ++ rest) :=
      ⟨fun habsurd => absurd habsurd (by decide), fun _ => leading.startsMembers hstarts⟩
    exact ⟨hfollows, (scanned_append_of_plain (leading.plain (by decide))).mpr hrest⟩

/-- A definition is scanned before a definition, and starts as one. -/
theorem Definition.scanned {tokens rest : List Token} (h : Definition tokens)
    (hstarts : StartsDefinition rest) (hrest : Scanned rest) :
    StartsDefinition (tokens ++ rest) ∧ Scanned (tokens ++ rest) := by
  have starts : ∀ {keyword : List Char} {tail : List Token}, keyword ∈ keywords →
      StartsDefinition (.word keyword :: tail ++ rest) :=
    fun hkeyword => Or.inr ⟨_, hkeyword, _, rfl⟩
  have head : ∀ {keyword name : List Char} {tail : List Token}, Scanned (tail ++ rest) →
      Scanned (.word keyword :: .word name :: tail ++ rest) :=
    fun htail => ⟨(plain_word _).follows _, (plain_word _).follows _, htail⟩
  cases h with
  | scalar hname directives =>
    exact ⟨starts (by decide), head ((scanned_append_of_plain directives.plain).mpr hrest)⟩
  | object hname interfaces directives body =>
    refine ⟨starts (by decide), head ?_⟩
    rw [List.append_assoc, scanned_append_of_plain interfaces.plain, List.append_assoc,
      scanned_append_of_plain directives.plain]
    exact body.scanned hrest
  | interface hname interfaces directives body =>
    refine ⟨starts (by decide), head ?_⟩
    rw [List.append_assoc, scanned_append_of_plain interfaces.plain, List.append_assoc,
      scanned_append_of_plain directives.plain]
    exact body.scanned hrest
  | union hname directives members =>
    refine ⟨starts (by decide), head ?_⟩
    rw [List.append_assoc, scanned_append_of_plain directives.plain]
    exact members.scanned hstarts hrest

/-- **In a document every token is followed by what may follow it.** -/
theorem Document.scanned {tokens : List Token} (h : Document tokens) :
    StartsDefinition tokens ∧ Scanned tokens := by
  induction h with
  | last definition =>
    have hend : StartsDefinition [] := Or.inl rfl
    have hscanned := definition.scanned hend trivial
    rwa [List.append_nil] at hscanned
  | more definition rest ih => exact definition.scanned ih.1 ih.2

end ContentGraph.Sdl
