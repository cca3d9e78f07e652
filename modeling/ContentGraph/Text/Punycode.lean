/-!
# Punycode

The ASCII spelling of labels with other characters: the ASCII characters come first, then, after a
hyphen, a number per other character that says how far on it is inserted, in digits whose weights
adapt.

* `punycode` — the spelling of a label;
* `punycodeDecode?` — the label of a spelling.
-/

namespace ContentGraph.Text

/-- The digit of a number below 36. -/
def punycodeDigit (n : Nat) : Char := if n < 26 then Char.ofNat (97 + n) else Char.ofNat (22 + n)

/-- The number of a digit. -/
def punycodeValue? (c : Char) : Option Nat :=
  if 'a' ≤ c && c ≤ 'z' then some (c.toNat - 97)
  else if 'A' ≤ c && c ≤ 'Z' then some (c.toNat - 65)
  else if '0' ≤ c && c ≤ '9' then some (c.toNat - 22)
  else none

/-- How much a digit counts at least before a higher digit is needed, at position `k` with a
bias. -/
def punycodeThreshold (k bias : Nat) : Nat :=
  if k ≤ bias then 1 else if bias + 26 ≤ k then 26 else k - bias

/-- The steps of a bias from `delta`; `fuel` bounds them. -/
def punycodeBias : (fuel delta k : Nat) → Nat
  | 0, _, k => k
  | fuel + 1, delta, k =>
    if 455 < delta then punycodeBias fuel (delta / 35) (k + 36) else k + 36 * delta / (delta + 38)

/-- The bias after a number `delta`, when `count` characters are placed. -/
def adaptPunycode (delta count : Nat) (first : Bool) : Nat :=
  let damped := if first then delta / 700 else delta / 2
  punycodeBias 64 (damped + damped / count) 0

/-- The digits of a number; `fuel` bounds them. -/
def punycodeNumber (bias : Nat) : (fuel k q : Nat) → List Char
  | 0, _, _ => []
  | fuel + 1, k, q =>
    let t := punycodeThreshold k bias
    if q < t then [punycodeDigit q]
    else punycodeDigit (t + (q - t) % (36 - t)) :: punycodeNumber bias fuel (k + 36)
      ((q - t) / (36 - t))

/-- What is known while a label is spelled. -/
structure PunycodeState where
  code : Nat := 128
  delta : Nat := 0
  bias : Nat := 72
  placed : Nat
  basic : Nat
  digits : List Char := []

/-- The state after all characters with the code `code` are spelled. -/
def punycodePass (label : List Nat) (code : Nat) (state : PunycodeState) : PunycodeState :=
  let start := { state with delta := state.delta + (code - state.code) * (state.placed + 1), code }
  let passed := label.foldl (fun s c =>
    if c < code then { s with delta := s.delta + 1 }
    else if c = code then
      { s with
        digits := s.digits ++ punycodeNumber s.bias 64 36 s.delta
        bias := adaptPunycode s.delta (s.placed + 1) (s.placed = s.basic)
        delta := 0
        placed := s.placed + 1 }
    else s) start
  { passed with delta := passed.delta + 1, code := code + 1 }

/-- The spelling of a label. -/
def punycode (label : List Char) : List Char :=
  let codes := label.map Char.toNat
  let basic := label.filter fun c => c.toNat < 128
  let others := ((codes.filter fun c => 128 ≤ c).mergeSort fun a b => decide (a ≤ b)).eraseDups
  let state := others.foldl (fun state code => punycodePass codes code state)
    { placed := basic.length, basic := basic.length : PunycodeState }
  basic ++ (if basic = [] then [] else ['-']) ++ state.digits

/-- A number in digits, and what follows it. -/
def readPunycodeNumber (bias : Nat) : (k weight sum : Nat) → List Char → Option (Nat × List Char)
  | _, _, _, [] => none
  | k, weight, sum, c :: rest =>
    match punycodeValue? c with
    | none => none
    | some digit =>
      let sum := sum + digit * weight
      let t := punycodeThreshold k bias
      if digit < t then some (sum, rest)
        else readPunycodeNumber bias (k + 36) (weight * (36 - t)) sum rest

/-- The label of inserted characters; `fuel` bounds their number. -/
def insertPunycode :
    (fuel code index bias : Nat) → (label : List Char) → List Char → Option (List Char)
  | _, _, _, _, label, [] => some label
  | 0, _, _, _, _, _ => none
  | fuel + 1, code, index, bias, label, digits =>
    match readPunycodeNumber bias 36 1 index digits with
    | none => none
    | some (sum, rest) =>
      let count := label.length + 1
      let code := code + sum / count
      let place := sum % count
      if code.isValidChar then
        insertPunycode fuel code (place + 1) (adaptPunycode (sum - index) count (index = 0))
          (label.take place ++ Char.ofNat code :: label.drop place) rest
      else none

/-- The label of a spelling.  A hyphen at its start stands before no ASCII characters and has no
place there. -/
def punycodeDecode? (spelling : List Char) : Option (List Char) :=
  let digits := (spelling.reverse.takeWhile (· ≠ '-')).reverse
  let basic := spelling.take (spelling.length - digits.length - 1)
  if basic.all (fun c => c.toNat < 128) && (basic ≠ [] || digits = spelling) then
    insertPunycode (digits.length + 1) 128 0 72 basic digits
  else none

end ContentGraph.Text
