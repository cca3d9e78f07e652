import ContentGraph.Number.DecimalText
import ContentGraph.Settings.Value
import ContentGraph.Text.Escape

/-!
# Scalars of TOML

Strings in their four spellings, and the scalars without quotes: flags, numbers, dates and times.

* `readString` — a string and what follows it;
* `scalar?` — the value of a scalar without quotes.
-/

namespace ContentGraph.Settings.Toml

/-- Whether `c` is a blank within a line. -/
def isBlank (c : Char) : Bool := c = ' ' || c = '\t'

/-- Whether `c` may stand in a comment or a string as it is: no control character but the tab. -/
def isPrintable (c : Char) : Bool := c = '\t' || (32 ≤ c.toNat && c.toNat ≠ 127)

/-- The text after leading blanks. -/
def skipBlanks (text : List Char) : List Char := text.dropWhile isBlank

/-- The text after a line break, if it starts with one. -/
def lineBreak? : List Char → Option (List Char)
  | '\n' :: rest => some rest
  | '\r' :: '\n' :: rest => some rest
  | _ => none

/-! ### Strings -/

/-- The character of a letter after a backslash. -/
def escapeLetter? (c : Char) : Option Char :=
  if c = '"' || c = '\\' then some c
  else if c = 'b' then some (Char.ofNat 8)
  else if c = 't' then some '\t'
  else if c = 'n' then some '\n'
  else if c = 'f' then some (Char.ofNat 12)
  else if c = 'r' then some '\r'
  else none

/-- How many hexadecimal digits follow a letter after a backslash. -/
def escapeDigits (c : Char) : Nat := if c = 'u' then 4 else if c = 'U' then 8 else 0

/-- The character that the text after a backslash stands for, and what follows it. -/
def readEscape? : List Char → Option (Char × List Char) :=
  Text.readEscape? escapeDigits escapeLetter?

/-- The rest of a one-line string with escapes, and what follows its closing quote. -/
def readBasic (text : List Char) : Option (List Char × List Char) :=
  match text with
  | [] => none
  | '"' :: rest => some ([], rest)
  | '\\' :: rest =>
    match _h : readEscape? rest with
    | none => none
    | some (c, after) => (readBasic after).map fun (text, after) => (c :: text, after)
  | c :: rest =>
    if isPrintable c then (readBasic rest).map fun (text, after) => (c :: text, after) else none
termination_by text.length
decreasing_by
  · have := Text.length_readEscape?_lt _h
    simp only [List.length_cons]
    omega
  · simp

/-- The rest of a one-line string without escapes, and what follows its closing quote. -/
def readLiteral : List Char → Option (List Char × List Char)
  | [] => none
  | c :: rest =>
    if c = '\'' then some ([], rest)
    else if isPrintable c then (readLiteral rest).map fun (text, after) => (c :: text, after)
    else none

/-- The text after blanks and line breaks. -/
def skipLines : List Char → List Char
  | '\r' :: '\n' :: rest => skipLines rest
  | c :: rest => if isBlank c || c = '\n' then skipLines rest else c :: rest
  | [] => []

/-- Blanks and line breaks are taken from the front of the text. -/
theorem length_skipLines_le (text : List Char) : (skipLines text).length ≤ text.length := by
  fun_induction skipLines text <;> simp_all <;> omega

/-- The text after a backslash that ends a line, with the blanks and empty lines that follow. -/
def joinedLine? (text : List Char) : Option (List Char) :=
  (lineBreak? (skipBlanks text)).map skipLines

/-- A joined line is shorter. -/
theorem length_joinedLine?_lt {text rest : List Char} (h : joinedLine? text = some rest) :
    rest.length < text.length := by
  unfold joinedLine? at h
  obtain ⟨after, ha, rfl⟩ := Option.map_eq_some_iff.1 h
  have hs := length_skipLines_le after
  have hb : (skipBlanks text).length ≤ text.length := (List.dropWhile_suffix _).length_le
  have : after.length < (skipBlanks text).length := by
    unfold lineBreak? at ha
    split at ha
    · rename_i heq
      cases ha
      simp only [heq, List.length_cons]
      omega
    · rename_i heq
      cases ha
      simp only [heq, List.length_cons]
      omega
    · cases ha
  omega

/-- The rest of a string over several lines, and what follows its three closing quotes; up to two
quotes before those belong to the string. -/
def readMultiline (quote : Char) (escapes : Bool) (text : List Char) :
    Option (List Char × List Char) :=
  match text with
  | [] => none
  | c :: rest =>
    if c = quote then
      let quotes := (c :: rest).takeWhile (· = quote)
      if 3 ≤ quotes.length && quotes.length ≤ 5 then
        some (List.replicate (quotes.length - 3) quote, (c :: rest).dropWhile (· = quote))
      else if quotes.length < 3 then
        (readMultiline quote escapes rest).map fun (text, after) => (c :: text, after)
      else some ([quote, quote], (c :: rest).drop 5)
    else if escapes && c = '\\' then
      match _hj : joinedLine? rest with
      | some after => readMultiline quote escapes after
      | none =>
        match _he : readEscape? rest with
        | none => none
        | some (char, after) =>
          (readMultiline quote escapes after).map fun (text, after) => (char :: text, after)
    else
      match c, rest with
      | '\r', '\n' :: rest =>
        (readMultiline quote escapes rest).map fun (text, after) => ('\n' :: text, after)
      | '\n', rest =>
        (readMultiline quote escapes rest).map fun (text, after) => ('\n' :: text, after)
      | c, rest =>
        if isPrintable c then
          (readMultiline quote escapes rest).map fun (text, after) => (c :: text, after)
        else none
termination_by text.length
decreasing_by
  all_goals simp only [List.length_cons]
  · omega
  · have shorter := length_joinedLine?_lt _hj
    omega
  · have shorter := Text.length_readEscape?_lt _he
    omega
  all_goals omega

/-- A string over several lines: a line break right after the opening quotes is dropped. -/
def readLongString (quote : Char) (escapes : Bool) (text : List Char) :
    Option (List Char × List Char) :=
  readMultiline quote escapes ((lineBreak? text).getD text)

/-- A string that starts with its opening quotes, and what follows it. -/
def readString? : List Char → Option (List Char × List Char)
  | '"' :: '"' :: '"' :: rest => readLongString '"' true rest
  | '\'' :: '\'' :: '\'' :: rest => readLongString '\'' false rest
  | '"' :: rest => readBasic rest
  | '\'' :: rest => readLiteral rest
  | _ => none

/-! ### Numbers -/

/-- Digits without the underscores between them. -/
def digits? (isDigit : Char → Bool) : List Char → Option (List Char)
  | [] => none
  | [c] => if isDigit c then some [c] else none
  | c :: '_' :: rest => if isDigit c then (digits? isDigit rest).map (c :: ·) else none
  | c :: rest => if isDigit c then (digits? isDigit rest).map (c :: ·) else none

/-- Decimal digits of a whole number, without a leading zero. -/
def wholeDigits? (text : List Char) : Option (List Char) :=
  match digits? Text.isAsciiDigit text with
  | some ('0' :: _ :: _) => none
  | other => other

/-- A whole number of a base other than ten, within 63 bits. -/
def basedNumber? (base : Nat) (text : List Char) : Option Value :=
  let isDigit (c : Char) : Bool := (Text.hexValue? c).any (· < base)
  match digits? isDigit text with
  | none => none
  | some digits =>
    let number := digits.foldl (fun n c => n * base + (Text.hexValue? c).getD 0) 0
    if number < Nat.pow 2 63 then some (.whole number) else none

/-- A whole number within 64 bits, or a number with a fraction or a power of ten that is not beyond
the doubles. -/
def number? (text : List Char) : Option Value :=
  let (negative, unsigned) := DecimalText.splitSign text
  let isMark (c : Char) : Bool := c = '.' || c = 'e' || c = 'E'
  match wholeDigits? (unsigned.takeWhile fun c => !isMark c) with
  | none => none
  | some whole =>
    match unsigned.dropWhile fun c => !isMark c with
    | [] =>
      let size := DecimalText.number 0 whole
      if negative then if size ≤ Nat.pow 2 63 then some (.whole (-(size : Int))) else none
      else if size < Nat.pow 2 63 then some (.whole size)
      else none
    | mark :: rest =>
      let isPower (c : Char) : Bool := c = 'e' || c = 'E'
      let fraction? :=
        if mark = '.' then digits? Text.isAsciiDigit (rest.takeWhile fun c => !isPower c)
        else some []
      let power := if mark = '.' then rest.dropWhile fun c => !isPower c else mark :: rest
      let power? : Option Int := match power with
        | [] => some 0
        | _ :: signed =>
          let (negative, digits) := DecimalText.splitSign signed
          (digits? Text.isAsciiDigit digits).map fun digits =>
            let size : Int := DecimalText.number 0 digits
            if negative then -size else size
      match fraction?, power? with
      | some fraction, some power =>
        if negative || DecimalText.isFinite ⟨negative, whole, fraction, power⟩ then some .real
          else none
      | _, _ => none

/-! ### Dates and times -/

/-- The number that `count` digits at the front of a text write, and what follows them. -/
def fixedDigits? (count : Nat) (text : List Char) : Option (Nat × List Char) :=
  let digits := text.take count
  if digits.length = count && digits.all Text.isAsciiDigit then
    some (DecimalText.number 0 digits, text.drop count)
  else none

/-- The number of days of a month. -/
def daysOfMonth (year month : Nat) : Nat :=
  if month = 2 then if year % 4 = 0 && (year % 100 ≠ 0 || year % 400 = 0) then 29 else 28
  else if month = 4 || month = 6 || month = 9 || month = 11 then 30
  else 31

/-- What follows a date such as `1979-05-27`. -/
def afterDate? (text : List Char) : Option (List Char) :=
  match fixedDigits? 4 text with
  | some (year, '-' :: rest) =>
    match fixedDigits? 2 rest with
    | some (month, '-' :: rest) =>
      match fixedDigits? 2 rest with
      | some (day, rest) =>
        if 1 ≤ month && month ≤ 12 && 1 ≤ day && day ≤ daysOfMonth year month then some rest
          else none
      | none => none
    | _ => none
  | _ => none

/-- What follows hours and minutes such as `07:32`. -/
def afterMinutes? (text : List Char) : Option (List Char) :=
  match fixedDigits? 2 text with
  | some (hour, ':' :: rest) =>
    match fixedDigits? 2 rest with
    | some (minute, rest) => if hour ≤ 23 && minute ≤ 59 then some rest else none
    | none => none
  | _ => none

/-- What follows a time such as `07:32:00` or `07:32:00.999`. -/
def afterTime? (text : List Char) : Option (List Char) :=
  match afterMinutes? text with
  | some (':' :: rest) =>
    match fixedDigits? 2 rest with
    | some (second, rest) =>
      if 60 < second then none
      else match rest with
        | '.' :: digits =>
          if digits.takeWhile Text.isAsciiDigit = [] then none
          else some (digits.dropWhile Text.isAsciiDigit)
        | rest => some rest
    | none => none
  | _ => none

/-- Whether a text is nothing or an offset from universal time, such as `Z` or `-07:00`. -/
def isOffset : List Char → Bool
  | [] => true
  | [c] => c = 'Z' || c = 'z'
  | c :: rest => (c = '+' || c = '-') && afterMinutes? rest = some []

/-- Whether a text is a time with an optional offset. -/
def isOffsetTime (text : List Char) : Bool := (afterTime? text).any isOffset

/-- Whether a text is a date, a time, or both with an optional offset. -/
def isDateTime (text : List Char) : Bool :=
  afterTime? text = some [] ||
    match afterDate? text with
    | some [] => true
    | some (c :: rest) => (c = 'T' || c = 't') && isOffsetTime rest
    | none => false

/-- Dates and times are kept as tables with one reserved key. -/
def dateTime (text : List Char) : Value := .table [("$datetime", .text (String.ofList text))]

/-! ### Scalars without quotes -/

/-- Whether a character belongs to a scalar without quotes. -/
def isScalarChar (c : Char) : Bool :=
  Text.isAsciiAlphanumeric c || c = '+' || c = '-' || c = '_' || c = '.' || c = ':'

/-- The value of a scalar without quotes. -/
def scalar? (text : List Char) : Option Value :=
  if text = "true".toList then some (.flag true)
  else if text = "false".toList then some (.flag false)
  else if isDateTime text then some (dateTime text)
  else
    let unsigned := (DecimalText.splitSign text).2
    if unsigned = "inf".toList || unsigned = "nan".toList then some .real
    else match text with
      | '0' :: 'x' :: digits => basedNumber? 16 digits
      | '0' :: 'o' :: digits => basedNumber? 8 digits
      | '0' :: 'b' :: digits => basedNumber? 2 digits
      | text => number? text

/-- A scalar without quotes at the front of a text, and what follows it.  A blank may stand between
date and time. -/
def readScalar? (text : List Char) : Option (Value × List Char) :=
  let token := text.takeWhile isScalarChar
  let rest := text.dropWhile isScalarChar
  let time := (rest.drop 1).takeWhile isScalarChar
  if rest.head? = some ' ' && afterDate? token = some [] && isOffsetTime time then
    some (dateTime (token ++ ' ' :: time), (rest.drop 1).dropWhile isScalarChar)
  else (scalar? token).map fun value => (value, rest)

end ContentGraph.Settings.Toml
