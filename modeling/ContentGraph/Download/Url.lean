import ContentGraph.Download.Host

/-!
# Addresses

An address has a scheme, for most schemes a host, a path, and perhaps a query and a fragment.  Texts
are read leniently: blanks around them and line breaks within them are dropped, slashes may lean
either way, dots in paths are followed, and characters that may not stand in an address are
percent-encoded.  Without a scheme a text is no address.

* `Url.parse?` — the address that a text is;
* `Url.lastSegment?` — the last part of its path.
-/

namespace ContentGraph

/-- Who asks, where, and for which service of the host, which has a number. -/
structure Authority where
  username : String := ""
  password : String := ""
  host : Host
  service : Option Nat := none
  deriving DecidableEq, Repr

/-- The path of an address. -/
inductive UrlPath
  /-- A path that is not divided. -/
  | plain (text : String)
  /-- The parts after each slash. -/
  | segments (parts : List String)
  deriving DecidableEq, Repr

/-- An address. -/
structure Url where
  scheme : String
  authority : Option Authority := none
  path : UrlPath
  query : Option String := none
  fragment : Option String := none
  deriving DecidableEq, Repr

namespace Url

/-! ### Schemes -/

/-- The number of the service that a scheme asks for, if its addresses are looked up by name. -/
def usualService? (scheme : String) : Option Nat :=
  if scheme = "http" || scheme = "ws" then some 80
  else if scheme = "https" || scheme = "wss" then some 443
  else if scheme = "ftp" then some 21
  else none

/-- Whether addresses of a scheme are looked up by name. -/
def isSpecial (scheme : String) : Bool := (usualService? scheme).isSome || scheme = "file"

/-- The scheme of a text, in lower case, and what follows its colon. -/
def readScheme? (text : List Char) : Option (String × List Char) :=
  let isSchemeChar (c : Char) : Bool := Text.isAsciiAlphanumeric c || c = '+' || c = '-' || c = '.'
  let scheme := text.takeWhile isSchemeChar
  match scheme, text.dropWhile isSchemeChar with
  | first :: _, ':' :: rest =>
    if Text.isAsciiDigit first || !Text.isAsciiAlphanumeric first then none
    else some (String.ofList (scheme.map Char.toLower), rest)
  | _, _ => none

/-! ### Percent encoding -/

/-- The percent-encoded form of a byte. -/
def encodeByte (byte : UInt8) : List Char :=
  ['%', (Text.hexDigit (byte.toNat / 16)).toUpper, (Text.hexDigit (byte.toNat % 16)).toUpper]

/-- A text in which control characters, characters beyond ASCII and those of a list are
percent-encoded. -/
def encode (special : List Char) (text : List Char) : List Char :=
  text.flatMap fun c =>
    if c.toNat < 32 || 127 ≤ c.toNat || special.contains c then
      (String.singleton c).toUTF8.toList.flatMap encodeByte
    else [c]

/-- The characters that are encoded in fragments. -/
def fragmentSet : List Char := [' ', '"', '<', '>', '\x60']

/-- The characters that are encoded in queries. -/
def querySet (scheme : String) : List Char :=
  [' ', '"', '#', '<', '>'] ++ if isSpecial scheme then ['\''] else []

/-- The characters that are encoded in paths. -/
def pathSet : List Char := fragmentSet ++ ['#', '?', '\x7b', '\x7d']

/-- The characters that are encoded in names of users. -/
def userSet : List Char := pathSet ++ ['/', ':', ';', '=', '@', '[', '\\', ']', '^', '|']

/-! ### Authorities -/

/-- Whether a character ends an authority. -/
def endsAuthority (special : Bool) (c : Char) : Bool :=
  c = '/' || c = '?' || c = '#' || (special && c = '\\')

/-- The texts before and after the last `@`. -/
def splitUser? : List Char → Option (List Char × List Char)
  | [] => none
  | c :: rest =>
    match splitUser? rest with
    | some (before, after) => some (c :: before, after)
    | none => if c = '@' then some ([], rest) else none

/-- The text of a host and what follows it: up to a colon that is not between brackets. -/
def splitHost (bracketed : Bool) : List Char → List Char × List Char
  | [] => ([], [])
  | c :: rest =>
    if c = ':' && !bracketed then ([], c :: rest)
    else
      let bracketed := if c = '[' then true else if c = ']' then false else bracketed
      (c :: (splitHost bracketed rest).1, (splitHost bracketed rest).2)

/-- The service after a host and what follows it: `none` when it is no service, and no number when
it is the usual one or left out.  A backslash may follow. -/
def readService? (scheme : String) : List Char → Option (Option Nat × List Char)
  | [] => some (none, [])
  | c :: rest =>
    let digits := rest.takeWhile Text.isAsciiDigit
    let after := rest.dropWhile Text.isAsciiDigit
    if c ≠ ':' || after.head?.any (· ≠ '\\') then none
    else if digits = [] then some (none, after)
    else
      let service := digits.foldl (fun n c => n * 10 + (c.toNat - 48)) 0
      if 65535 < service then none
      else some (if usualService? scheme = some service then none else some service, after)

/-- The authority that a text is, and what follows its service; `last` says whether an address ends
after it.  Where no host is named, there is no user and no service, and an `@` is followed by
nothing unless a user's place is before it. -/
def readAuthority? (scheme : String) (last : Bool) (text : List Char) :
    Option (Authority × List Char) :=
  let special := isSpecial scheme
  let (user, place) := (splitUser? text).getD ([], text)
  let marked := (splitUser? text).isSome
  let (hostText, serviceText) := splitHost false place
  let host? := if special then Host.parse? hostText else Host.parseOpaque? hostText
  let name := user.takeWhile (· ≠ ':')
  let password := user.drop (name.length + 1)
  match host?, readService? scheme serviceText with
  | some host, some (service, after) =>
    let misplaced :=
      serviceText ≠ [] || name ≠ [] || password ≠ [] || (marked && user = [] && !last)
    if hostText = [] && (special || misplaced) then none
    else
      some ({ username := String.ofList (encode userSet name)
              password := String.ofList (encode userSet password)
              host, service }, after)
  | _, _ => none

/-! ### Paths -/

/-- Whether a part of a path stands for its directory. -/
def isHere (part : List Char) : Bool := part = ['.'] || part.map Char.toLower = ['%', '2', 'e']

/-- Whether a part of a path leads one directory up. -/
def isUp (part : List Char) : Bool :=
  let lower := part.map Char.toLower
  lower = ['.', '.'] || lower = ['.', '%', '2', 'e'] || lower = ['%', '2', 'e', '.']
    || lower = ['%', '2', 'e', '%', '2', 'e']

/-- The parts of a path after `before`, with the dots followed; a path that ends in dots ends in a
directory. -/
def followDots (before : List String) : List (List Char) → List String
  | [] => before
  | part :: rest =>
    let next :=
      if isUp part then before.dropLast ++ (if rest = [] then [""] else [])
      else if isHere part then before ++ (if rest = [] then [""] else [])
      else before ++ [String.ofList (encode pathSet part)]
    followDots next rest

/-- The parts of a path that starts with a slash, or with nothing. -/
def readSegments (special : Bool) (text : List Char) : List String :=
  let slashed := if special then text.map fun c => if c = '\\' then '/' else c else text
  match slashed with
  | [] => if special then [""] else []
  | '/' :: rest => followDots [] (Text.splitChars '/' rest)
  | rest => followDots [] (Text.splitChars '/' rest)

/-! ### Addresses -/

/-- The text without control characters and blanks at its ends and without tabs and line breaks. -/
def clean (text : List Char) : List Char :=
  let isEdge (c : Char) : Bool := c.toNat ≤ 32
  let trimmed := ((text.dropWhile isEdge).reverse.dropWhile isEdge).reverse
  trimmed.filter fun c => !(c = '\t' || c = '\n' || c = '\r')

/-- The texts of path, query and fragment. -/
def splitTail (text : List Char) : List Char × Option (List Char) × Option (List Char) :=
  let front := text.takeWhile (· ≠ '#')
  let fragment := match text.dropWhile (· ≠ '#') with
    | [] => none
    | _ :: rest => some rest
  let query := match front.dropWhile (· ≠ '?') with
    | [] => none
    | _ :: rest => some rest
  (front.takeWhile (· ≠ '?'), query, fragment)

/-- An address from its scheme, its authority and the text after that. -/
def assemble (scheme : String) (authority : Option Authority) (undivided : Bool)
    (tail : List Char) : Url :=
  let (path, query, fragment) := splitTail tail
  { scheme, authority
    path := if undivided then .plain (String.ofList (encode [] path))
      else .segments (readSegments (isSpecial scheme) path)
    query := query.map fun query => String.ofList (encode (querySet scheme) query)
    fragment := fragment.map fun fragment => String.ofList (encode fragmentSet fragment) }

/-- An address with an authority at the front of a text. -/
def withAuthority? (scheme : String) (text : List Char) : Option Url :=
  let isEnd := endsAuthority (isSpecial scheme)
  let tail := text.dropWhile fun c => !isEnd c
  (readAuthority? scheme (tail = []) (text.takeWhile fun c => !isEnd c)).map
    fun (authority, after) => assemble scheme (some authority) false (after ++ tail)

/-- Whether a text is the letter of a drive, with a colon or a bar. -/
def isDrive : List Char → Bool
  | [letter, mark] =>
    (mark = ':' || mark = '|') && Text.isAsciiAlphanumeric letter && !Text.isAsciiDigit letter
  | _ => false

/-- The address of a file: its host, which may be missing, and its path.  The letter of a drive is
no host. -/
def fileUrl? (text : List Char) : Option Url :=
  let isSlash (c : Char) : Bool := c = '/' || c = '\\'
  match text with
  | a :: b :: rest =>
    if isSlash a && isSlash b then
      let isEnd := endsAuthority true
      let hostText := rest.takeWhile fun c => !isEnd c
      let tail := rest.dropWhile fun c => !isEnd c
      if hostText = [] then some (assemble "file" none false tail)
      else if isDrive hostText then some (assemble "file" none false ('/' :: rest))
      else (Host.parse? hostText).map fun host =>
        assemble "file" (if host = .domain "localhost" then none else some { host }) false tail
    else some (assemble "file" none false (a :: b :: rest))
  | text => some (assemble "file" none false text)

/-- The address that a text is. -/
def parse? (text : String) : Option Url :=
  match readScheme? (clean text.toList) with
  | none => none
  | some (scheme, rest) =>
    if scheme = "file" then fileUrl? rest
    else if isSpecial scheme then
      withAuthority? scheme (rest.dropWhile fun c => c = '/' || c = '\\')
    else match rest with
      | '/' :: '/' :: rest => withAuthority? scheme rest
      | '/' :: rest => some (assemble scheme none false ('/' :: rest))
      | rest => some (assemble scheme none true rest)

/-- The last part of a path that is divided. -/
def lastSegment? (url : Url) : Option String :=
  match url.path with
  | .plain _ => none
  | .segments parts => parts.getLast?

end Url

end ContentGraph
