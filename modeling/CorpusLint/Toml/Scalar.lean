import CorpusLint.Toml.Basic
import CorpusLint.Toml.Quotation

/-!
# Values written without quotes

Booleans, numbers, dates and times, each a *word* of the document. A number may have underscores
between its digits and no zero before the first one; an integer may also be hexadecimal, octal or
binary. A date may be followed by a time, after a `T` or a space, and both together by an offset.
Seconds may be left out.

Of an integer only the beginning and the underscores decide whether it is well-formed. One that has
other characters beside decimal digits is valueless.
-/

namespace CorpusLint

namespace Toml

/-! ## Numbers -/

def digitValue? (base : Nat) (c : Char) : Option Nat :=
  match hexValue? c with
  | some value => if value < base then some value else none
  | none => none

def isDigitOf (base : Nat) (c : Char) : Bool :=
  (digitValue? base c).isSome

/-- The number that a text of digits stands for, after those that make up `value`. -/
def numberFrom? (base value : Nat) : Text → Option Nat
  | [] => some value
  | c :: t =>
    match digitValue? base c with
    | some digit => numberFrom? base (base * value + digit) t
    | none => none

/-- The number that a text of one or more digits stands for. -/
def number? (base : Nat) (t : Text) : Option Nat :=
  if t.isEmpty then none else numberFrom? base 0 t

/-- The text without its underscores, which have to stand between two digits of the given base;
`afterDigit` says whether one precedes. -/
def joinDigits? (base : Nat) (afterDigit : Bool) : Text → Option Text
  | [] => some []
  | ['_'] => none
  | '_' :: c :: t =>
    if afterDigit && isDigitOf base c then (joinDigits? base true t).map (c :: ·) else none
  | c :: t => (joinDigits? base (isDigitOf base c) t).map (c :: ·)

/-- Whether a text begins with a zero that another digit follows, or an underscore. -/
def isPadded : Text → Bool
  | '0' :: c :: _ => c.isDigit || c == '_'
  | _ => false

/-- Whether a text begins with a minus sign, and the text without its sign. -/
def splitSign : Text → Bool × Text
  | '-' :: t => (true, t)
  | '+' :: t => (false, t)
  | t => (false, t)

def signed (negative : Bool) (n : Nat) : Int :=
  if negative then -n else n

/-- The integer in the given base that the digits after its mark stand for. Without digits it is
valueless. -/
def radixInteger? (base : Nat) (digits : Text) : Option Value :=
  match joinDigits? base false digits with
  | none => none
  | some [] => some .valueless
  | some digits => (number? base digits).map (.integer ·)

/-- The integer that a text stands for after its sign and without its underscores. -/
def integer (negative : Bool) (digits : Text) : Value :=
  match number? 10 digits with
  | some n => .integer (signed negative n)
  | none => .valueless

/-- The fraction at the beginning of a text, and what follows it: none is empty, else its digits
follow the point. -/
def splitFraction? : Text → Option (Text × Text)
  | '.' :: t =>
    if (t.takeWhile Char.isDigit).isEmpty then none
    else some (t.takeWhile Char.isDigit, t.dropWhile Char.isDigit)
  | t => some ([], t)

/-- The exponent of a number: none is zero, else its digits follow the letter. -/
def exponent? : Text → Option Int
  | [] => some 0
  | c :: t =>
    let (negative, digits) := splitSign t
    if c == 'e' || c == 'E' then (number? 10 digits).map (signed negative) else none

/-- The number that a text stands for after its sign and without its underscores: decimal digits,
then a fraction or an exponent or both. One that is too large is valueless. -/
def float? (negative : Bool) (t : Text) : Option Value :=
  let whole := t.takeWhile Char.isDigit
  match splitFraction? (t.dropWhile Char.isDigit) with
  | none => none
  | some (fraction, tail) =>
    match number? 10 whole, number? 10 (whole ++ fraction), exponent? tail with
    | some _, some n, some exponent =>
      match Binary64.ofDecimal negative n (exponent - fraction.length) with
      | .infinite _ => some .valueless
      | x => some (.float x)
    | _, _, _ => none

/-- The number that a word stands for. -/
def decimal? (t : Text) : Option Value :=
  let (negative, digits) := splitSign t
  let tail := digits.dropWhile Char.isDigit
  if digits = "inf".toList then some (.float (.infinite negative))
  else if digits = "nan".toList then some (.float .nan)
  else if digits.isEmpty || isPadded digits || tail.contains ' ' then none
  else if tail.any (fun c => c == '.' || c == 'e' || c == 'E') then
    (joinDigits? 10 false digits).bind (float? negative)
  else if tail.isEmpty || tail.head? == some '_' then
    (joinDigits? 16 false digits).map (integer negative)
  else none

/-! ## Dates and times -/

/-- The number of exactly `count` decimal digits. -/
def fixedDigits? (value : Nat) : Nat → Text → Option (Nat × Text)
  | 0, t => some (value, t)
  | _ + 1, [] => none
  | count + 1, c :: t =>
    match digitValue? 10 c with
    | some digit => fixedDigits? (10 * value + digit) count t
    | none => none

def daysOf (year month : Nat) : Nat :=
  if month = 2 then
    if year % 4 = 0 && (year % 100 ≠ 0 || year % 400 = 0) then 29 else 28
  else if month = 4 || month = 6 || month = 9 || month = 11 then 30
  else 31

/-- What follows the date that a text begins with. -/
def afterDate? (t : Text) : Option Text :=
  match fixedDigits? 0 4 t with
  | some (year, '-' :: t) =>
    match fixedDigits? 0 2 t with
    | some (month, '-' :: t) =>
      match fixedDigits? 0 2 t with
      | some (day, t) =>
        if 1 ≤ month && month ≤ 12 && 1 ≤ day && day ≤ daysOf year month then some t else none
      | none => none
    | _ => none
  | _ => none

/-- What follows the fraction of a second that a text may begin with. -/
def afterFraction? : Text → Option Text
  | '.' :: t =>
    if (t.takeWhile Char.isDigit).isEmpty then none else some (t.dropWhile Char.isDigit)
  | t => some t

/-- What follows the hours and the minutes that a text begins with. -/
def afterMinutes? (t : Text) : Option Text :=
  match fixedDigits? 0 2 t with
  | some (hour, ':' :: t) =>
    match fixedDigits? 0 2 t with
    | some (minute, t) => if hour < 24 && minute < 60 then some t else none
    | none => none
  | _ => none

/-- What follows the time that a text begins with. -/
def afterTime? (t : Text) : Option Text :=
  match afterMinutes? t with
  | some (':' :: t) =>
    match fixedDigits? 0 2 t with
    | some (second, t) => if second ≤ 60 then afterFraction? t else none
    | none => none
  | rest => rest

/-- Whether a text is the offset of a time, or empty. -/
def isOffset : Text → Bool
  | [] => true
  | ['Z'] | ['z'] => true
  | '+' :: t | '-' :: t => afterMinutes? t == some []
  | _ => false

def isMoment (t : Text) : Bool :=
  match afterDate? t with
  | none => afterTime? t == some []
  | some [] => true
  | some (c :: rest) =>
    (c == 'T' || c == 't' || c == ' ') &&
      match afterTime? rest with
      | some rest => isOffset rest
      | none => false

/-! ## Reading a value -/

/-- Whether a character can belong to a word. A quotation mark can, although none begins with it. -/
def isWordChar (c : Char) : Bool :=
  !(isSpace c || ['\n', '\r', '#', '=', ',', '[', ']', '\x7b', '\x7d'].contains c)

/-- Whether a word goes on after the spaces at the beginning of a text. A point or a quotation mark
does not carry it on. -/
def wordGoesOn (t : Text) : Bool :=
  match skipSpaces t with
  | [] => false
  | c :: _ => isWordChar c && c != '.' && c != '\"' && c != '\''

/-- The word that a text begins with, and what follows it. Spaces can be part of a word, but not its
end. -/
def splitWord : Text → Text × Text
  | [] => ([], [])
  | c :: t =>
    if isWordChar c || (isSpace c && wordGoesOn t) then
      let (word, rest) := splitWord t
      (c :: word, rest)
    else ([], c :: t)

def word? (t : Text) : Option Value :=
  if t = "true".toList then some (.boolean true)
  else if t = "false".toList then some (.boolean false)
  else if isMoment t then some (.moment t)
  else
    match t with
    | '0' :: 'x' :: digits => radixInteger? 16 digits
    | '0' :: 'o' :: digits => radixInteger? 8 digits
    | '0' :: 'b' :: digits => radixInteger? 2 digits
    | t => decimal? t

/-- The value without brackets that a text begins with, and what follows it. -/
def scalar? (t : Text) : Option (Value × Text) :=
  match t with
  | '\"' :: _ | '\'' :: _ => (string? t).map fun (s, rest) => (.string s, rest)
  | t =>
    let (word, rest) := splitWord t
    (word? word).map (·, rest)

end Toml

end CorpusLint
