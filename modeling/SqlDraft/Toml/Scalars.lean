import SqlDraft.Calendar.Timestamp
import SqlDraft.Decimal.Reading
import SqlDraft.Text.Start
import SqlDraft.Toml
import SqlDraft.Toml.Strings

/-!
# Scalars of a document

Truth values, numbers and moments: everything that is written without quotes or brackets. How a number
is spelled decides whether a document is well formed; what it is worth matters only to whoever asks for
it. So a number that is out of range, or is laid out like one without being one, can still be read.
-/

namespace SqlDraft.Toml

/-- The digits of a number in which single underscores may stand between digits. -/
def digitRun? (isDigit : Char → Bool) : List Char → Option (List Char)
  | [] => none
  | [c] => if isDigit c then some [c] else none
  | c :: '_' :: rest => if isDigit c then (digitRun? isDigit rest).map (c :: ·) else none
  | c :: rest => if isDigit c then (digitRun? isDigit rest).map (c :: ·) else none

/-- The digits of a decimal whole number, which has no leading zero. -/
def wholeDigits? (s : List Char) : Option (List Char) :=
  match s with
  | ['0'] => some ['0']
  | '0' :: _ => none
  | _ => digitRun? Char.isDigit s

/-- The value of digits in some base. -/
def baseValue (base : Nat) (digits : List Char) : Nat :=
  digits.foldl (fun n c => base * n + (Text.hexValue? c).getD 0) 0

/-- The whole number of a value. It has at most 128 bits. -/
def ofInt (n : Int) : Toml :=
  if -(twoTo 127 : Int) ≤ n ∧ n < twoTo 128 then .integer n else .noNumber

/-- A digit of base 16, with letters of either case. -/
def isHexDigit (c : Char) : Bool := (Text.hexValue? c).isSome

/-- Whether every underscore of a text stands between two digits, given the character before the text. -/
def underscoresBetween (isDigit : Char → Bool) (before : Char) : List Char → Bool
  | [] => true
  | c :: rest =>
    (c != '_' || (isDigit before && rest.head?.any isDigit)) && underscoresBetween isDigit c rest

/-- A character that makes a number one with a fraction or a power. -/
def isFractional (c : Char) : Bool := c == '.' || c == 'e' || c == 'E'

/-- Whether a text is laid out like a decimal whole number in groups: digits up to an underscore, the
first of them not zero, underscores between digits of base 16, and no space. What the groups are made of
otherwise is left open, so the text need not stand for a number. -/
def isGrouped : List Char → Bool
  | [] => false
  | c :: rest =>
    c.isDigit && c != '0' && (rest.dropWhile Char.isDigit).head? == some '_' &&
      underscoresBetween isHexDigit c rest && !rest.any fun c => c == ' ' || isFractional c

/-- Reads a decimal whole number without its sign. -/
def decimal? (negative : Bool) (s : List Char) : Option Toml :=
  match wholeDigits? s with
  | some ds => some (ofInt (if negative then -(Text.digitsValue ds : Int) else Text.digitsValue ds))
  | none => if isGrouped s then some .noNumber else none

/-- Reads a whole number in some base behind its mark. The mark alone is well formed too. -/
def based? (base : Nat) (isDigit : Char → Bool) (s : List Char) : Option Toml :=
  if s.isEmpty then some .noNumber else (digitRun? isDigit s).map fun ds => ofInt (baseValue base ds)

/-- Reads a whole number: decimal with an optional sign, or in base 16, 8 or 2 behind its mark. -/
def integer? : List Char → Option Toml
  | '0' :: 'x' :: rest => based? 16 isHexDigit rest
  | '0' :: 'o' :: rest => based? 8 (fun c => '0' ≤ c && c ≤ '7') rest
  | '0' :: 'b' :: rest => based? 2 (fun c => c == '0' || c == '1') rest
  | '-' :: rest => decimal? true rest
  | '+' :: rest => decimal? false rest
  | s => decimal? false s

/-- The text without its sign. -/
def unsigned : List Char → List Char
  | '-' :: rest => rest
  | '+' :: rest => rest
  | s => s

/-- The power of a number: nothing, or its letter, an optional sign and digits. -/
def powerDigits? : List Char → Option (List Char)
  | [] => some []
  | c :: rest =>
    if c = 'e' ∨ c = 'E' then
      (digitRun? Char.isDigit (unsigned rest)).map fun ds => 'e' :: (if rest.head? = some '-' then '-' :: ds else ds)
    else none

/-- Reads a number with a fraction or a power, which is out of range if it is too large for a
floating-point number; or the name of an infinity or of what is not a number. -/
def float? (s : List Char) : Option Toml :=
  let body := unsigned s
  if body = "inf".toList ∨ body = "nan".toList then some .float
  else do
    let whole ← wholeDigits? (body.takeWhile fun c => c.isDigit || c == '_')
    let digits ←
      match body.dropWhile fun c => c.isDigit || c == '_' with
      | '.' :: rest => do
        let fraction ← digitRun? Char.isDigit (rest.takeWhile fun c => c.isDigit || c == '_')
        let power ← powerDigits? (rest.dropWhile fun c => c.isDigit || c == '_')
        pure (whole ++ '.' :: fraction ++ power)
      | [] => none
      | rest => (powerDigits? rest).map (whole ++ ·)
    let x ← Decimal.read? digits
    some (if x.isFinite then .float else .noNumber)

/-- The number of exactly so many digits at the start of a text, if it does not exceed a bound. -/
def fixed? (width most : Nat) (s : List Char) : Option (Nat × List Char) :=
  let digits := s.take width
  if digits.length = width ∧ digits.all Char.isDigit ∧ Text.digitsValue digits ≤ most then
    some (Text.digitsValue digits, s.drop width)
  else none

/-- Reads a date that exists, at the start of a text. -/
def date? (s : List Char) : Option (List Char) := do
  let (year, s) ← fixed? 4 9999 s
  let (month, s) ← Text.after? '-' s >>= fixed? 2 12
  let (day, s) ← Text.after? '-' s >>= fixed? 2 31
  if 1 ≤ month ∧ 1 ≤ day ∧ day ≤ Calendar.daysIn year month then some s else none

/-- Reads the seconds of a time with their fraction, if they are there. -/
def seconds? (s : List Char) : Option (List Char) :=
  match s with
  | ':' :: rest => do
    let (_, rest) ← fixed? 2 60 rest
    match rest with
    | '.' :: fraction =>
      if (fraction.head?.any Char.isDigit) then some (fraction.dropWhile Char.isDigit) else none
    | _ => some rest
  | _ => some s

/-- Reads a time at the start of a text. -/
def time? (s : List Char) : Option (List Char) := do
  let (_, s) ← fixed? 2 23 s
  let (_, s) ← Text.after? ':' s >>= fixed? 2 59
  seconds? s

/-- Reads a distance from universal time, or nothing, up to the end of a text. -/
def zone? : List Char → Option Unit
  | [] => some ()
  | ['Z'] | ['z'] => some ()
  | c :: rest =>
    if c = '+' ∨ c = '-' then do
      let (_, rest) ← fixed? 2 23 rest
      let (_, rest) ← Text.after? ':' rest >>= fixed? 2 59
      if rest.isEmpty then some () else none
    else none

/-- Reads a date, a time, or both with a mark between them. -/
def moment? (s : List Char) : Option Toml :=
  match date? s with
  | some [] => some .moment
  | some (mark :: rest) =>
    if mark = 'T' ∨ mark = 't' ∨ mark = ' ' then do
      let zone ← time? rest
      zone? zone
      return .moment
    else none
  | none =>
    match time? s with
    | some [] => some .moment
    | _ => none

/-- Reads a truth value. -/
def bool? (s : List Char) : Option Toml :=
  if s = "true".toList then some (.bool true) else if s = "false".toList then some (.bool false) else none

/-- Reads a scalar. -/
def scalar? (s : List Char) : Option Toml := bool? s <|> integer? s <|> float? s <|> moment? s

end SqlDraft.Toml
