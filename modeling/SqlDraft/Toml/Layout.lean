import SqlDraft.Text.Start
import SqlDraft.Toml.Strings

/-!
# The layout of a document

Where the keys and values of a document begin and end, before anything is said about what they are worth.
A document is laid out line by line: headers, assignments to dotted keys, comments. Values may contain one
another down to a fixed depth. Lists and tables between braces may run over several lines, with line ends
and comments anywhere but inside a key, and with a comma after the last element or without. Strings,
scalars and the parts of keys are taken as they are written, whether they can be read or not; where one
is missing in its line, it is taken as empty.
-/

namespace SqlDraft.Toml

/-- A value as it is written. -/
inductive Written
  /-- A string with its quotes, or a scalar. -/
  | word (token : List Char)
  | list (items : List Written)
  /-- The members between braces: the parts of a key as they are written, and a value. -/
  | table (members : List (List (List Char) × Written))

/-- A line of a document that is not blank, with the parts of its key as they are written. -/
inductive Line
  | header (key : List (List Char))
  | element (key : List (List Char))
  | assignment (key : List (List Char)) (value : Written)

/-! ## Words -/

/-- A character that a scalar goes on with: anything but blanks, line ends, and the marks that part
values, comments and brackets from it. -/
def isWordChar (c : Char) : Bool :=
  !(c == ' ' || c == '\t' || c == '\r' || c == '\n' || c == ',' || c == '=' || c == '#' || c == '[' || c == ']' ||
    c == '\x7b' || c == '\x7d')

/-- A quote of either kind. -/
def isQuote (c : Char) : Bool := c == '\x22' || c == '\x27'

/-- The part of a text that stands before its rest. -/
def upTo (rest s : List Char) : List Char := s.take (s.length - rest.length)

/-- The text behind a string of one line, given the text behind its opening quote. A string without a
closing quote ends with its line. With escapes, a quote or a backslash behind a backslash is passed over. -/
def behindLine (quote : Char) (escapes : Bool) : List Char → List Char
  | [] => []
  | '\\' :: c :: rest =>
    if escapes && (c == quote || c == '\\') then behindLine quote escapes rest
    else behindLine quote escapes (c :: rest)
  | c :: rest =>
    if c = quote then rest else if c = '\n' then c :: rest else behindLine quote escapes rest

/-- The text behind a string of several lines, given the text behind its opening quotes. A string without
closing quotes ends with the text. Up to two quotes may stand right before the closing ones. -/
def behindLines (quote : Char) (escapes : Bool) : List Char → List Char
  | [] => []
  | '\\' :: c :: rest =>
    if escapes && (c == quote || c == '\\') then behindLines quote escapes rest
    else behindLines quote escapes (c :: rest)
  | c :: rest =>
    let run := (c :: rest).takeWhile (· == quote)
    if 3 ≤ run.length then (c :: rest).drop (min run.length 5) else behindLines quote escapes rest

/-- The text behind a string, given its quote and the text behind that. -/
def behindString (quote : Char) (s : List Char) : List Char :=
  let escapes := quote == '\x22'
  match s with
  | c :: d :: rest =>
    if c = quote ∧ d = quote then behindLines quote escapes rest
    else behindLine quote escapes s
  | _ => behindLine quote escapes s

/-- Whether a scalar that ends before a blank goes on behind it, given the text from the blank on: another
word follows that can be no string. -/
def goesOn (s : List Char) : Bool := (skipSpaces s).head?.any fun c => isWordChar c && !isQuote c && c != '.'

/-- The text behind a scalar. -/
def behindScalar : List Char → List Char
  | [] => []
  | c :: rest =>
    if isWordChar c then behindScalar rest
    else if (c == ' ' || c == '\t') && goesOn rest then behindScalar rest
    else c :: rest

/-- Takes a string or a scalar. -/
def word? (s : List Char) : Option (List Char × List Char) :=
  match s with
  | [] => none
  | c :: rest =>
    if isQuote c then
      let behind := behindString c rest
      some (upTo behind s, behind)
    else if isWordChar c then
      let behind := behindScalar rest
      some (upTo behind s, behind)
    else none

/-- Takes one part of a key: a string, or characters up to a point or the end of a word. A part that is
missing is empty. -/
def keyPart (s : List Char) : List Char × List Char :=
  match s with
  | [] => ([], [])
  | c :: rest =>
    if isQuote c then
      let behind := behindString c rest
      (upTo behind s, behind)
    else
      let isBare (c : Char) : Bool := isWordChar c && c != '.'
      (s.takeWhile isBare, s.dropWhile isBare)

/-- Takes a key: parts with points between them and blanks anywhere. -/
def key? (s : List Char) : Option (List (List Char) × List Char) :=
  let (part, rest) := keyPart (skipSpaces s)
  match skipSpaces rest with
  | '.' :: behind => do
    let behind ← shorter? s behind
    let (parts, rest) ← key? behind.1
    return (part :: parts, rest)
  | rest => some ([part], rest)
termination_by s.length
decreasing_by exact behind.2

/-! ## Lines and blanks -/

/-- The text from the end of the line on, if the line holds a comment or nothing up to there. -/
def endOfLine? (s : List Char) : Option (List Char) :=
  let rest :=
    match skipSpaces s with
    | '#' :: comment => comment.dropWhile isPlain
    | rest => rest
  match rest with
  | [] => some []
  | _ => lineEnd? rest

/-- Skips blanks, comments and line ends. -/
def skipTrivia (s : List Char) : Option (List Char) :=
  match skipLines s with
  | '#' :: comment =>
    match comment.dropWhile isPlain with
    | [] => some []
    | rest => do
      let behind ← lineEnd? rest
      let behind ← shorter? s behind
      skipTrivia behind.1
  | rest => some rest
termination_by s.length
decreasing_by exact behind.2

/-! ## Values -/

/-- How many brackets and braces of values may be open at once. -/
def maxNesting : Nat := 80

mutual

/-- Takes a value in which so many brackets and braces may be open at once. -/
def value? (room : Nat) (s : List Char) : Option (Written × List Char) :=
  match s with
  | [] => none
  | c :: rest =>
    if c = '[' then
      match room with
      | 0 => none
      | room + 1 => do
        let (items, rest) ← items? room rest
        return (.list items, rest)
    else if c = '\x7b' then
      match room with
      | 0 => none
      | room + 1 => do
        let (members, rest) ← members? room rest
        return (.table members, rest)
    else (word? (c :: rest)).map fun (token, rest) => (.word token, rest)
termination_by (s.length, 0)
decreasing_by
  · exact Prod.Lex.left _ _ (by simp)
  · exact Prod.Lex.left _ _ (by simp)

/-- Takes the elements of a list up to its closing bracket. -/
def items? (room : Nat) (s : List Char) : Option (List Written × List Char) := do
  let start ← skipTrivia s
  match start with
  | ']' :: rest => some ([], rest)
  | _ => do
    if start.length ≤ s.length then
      let (item, rest) ← value? room start
      let rest ← skipTrivia rest
      match rest with
      | ']' :: rest => some ([item], rest)
      | ',' :: rest => do
        let rest ← shorter? s rest
        let (others, rest) ← items? room rest.1
        return (item :: others, rest)
      | _ => none
    else none
termination_by (s.length, 1)
decreasing_by
  · rename_i h
    rcases Nat.lt_or_eq_of_le h with h | h
    · exact Prod.Lex.left _ _ h
    · rw [h]; exact Prod.Lex.right _ (by decide)
  · exact Prod.Lex.left _ _ rest.2

/-- Takes the members of a table between braces up to its closing brace. -/
def members? (room : Nat) (s : List Char) : Option (List (List (List Char) × Written) × List Char) := do
  let start ← skipTrivia s
  match start with
  | '\x7d' :: rest => some ([], rest)
  | _ => do
    let (key, rest) ← key? start
    let rest ← skipTrivia rest >>= Text.after? '=' >>= skipTrivia
    let rest ← shorter? s rest
    let (v, rest) ← value? room rest.1
    let rest ← skipTrivia rest
    match rest with
    | '\x7d' :: rest => some ([(key, v)], rest)
    | ',' :: rest => do
      let rest ← shorter? s rest
      let (others, rest) ← members? room rest.1
      return ((key, v) :: others, rest)
    | _ => none
termination_by (s.length, 1)
decreasing_by
  all_goals exact Prod.Lex.left _ _ rest.2

end

/-! ## Documents -/

/-- Takes the key of a header up to its closing bracket. -/
def header? (s : List Char) : Option (List (List Char) × List Char) := do
  let (key, rest) ← key? s
  let rest ← Text.after? ']' rest
  return (key, rest)

/-- Takes the value of an assignment. One that is missing at the end of its line is an empty word. -/
def assigned? (s : List Char) : Option (Written × List Char) :=
  if s.head?.all fun c => c == '#' || c == '\r' || c == '\n' then some (.word [], s) else value? maxNesting s

/-- Takes one line that is not blank. -/
def line? (s : List Char) : Option (Line × List Char) :=
  match s with
  | '[' :: '[' :: rest => do
    let (key, rest) ← header? rest
    let rest ← Text.after? ']' rest
    return (.element key, rest)
  | '[' :: rest => do
    let (key, rest) ← header? rest
    return (.header key, rest)
  | _ => do
    let (key, rest) ← key? s
    let rest ← Text.after? '=' rest
    let (v, rest) ← assigned? (skipSpaces rest)
    return (.assignment key v, rest)

/-- Takes the lines of a text. -/
def lines? (s : List Char) : Option (List Line) :=
  match skipTrivia s with
  | none => none
  | some [] => some []
  | some start => do
    let (line, rest) ← line? start
    let rest ← endOfLine? rest
    let rest ← shorter? s rest
    let others ← lines? rest.1
    return line :: others
termination_by s.length
decreasing_by exact rest.2

end SqlDraft.Toml
