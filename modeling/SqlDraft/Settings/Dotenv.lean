import SqlDraft.Settings.Expansion
import SqlDraft.Text.Alphanumeric
import SqlDraft.Text.Blank

/-!
# Files of variables

Variables in a text file, one assignment a line, as shells write them. A value may stand between
quotes, and then run over several lines; a backslash takes the meaning from the character behind it;
a dollar sign refers to a variable that is already set, except between single quotes. A variable that
is set keeps its value. The first line that is no assignment ends the reading.
-/

namespace SqlDraft.Dotenv

/-! ## Lines -/

/-- Where a reader of lines stands: outside of quotes, right behind a blank there, or between double or
single quotes; and whether the next character stands behind a backslash. -/
inductive Place
  | plain
  | blank
  | escaped
  | double
  | doubleEscaped
  | single
  | singleEscaped
  deriving DecidableEq

/-- Where the reader stands behind a character outside of quotes. -/
def Place.outside (c : Char) : Place :=
  if c = '\\' then .escaped else if c = '\x22' then .double else if c = '\x27' then .single else .plain

/-- Where the reader stands behind a character. -/
def Place.behind (c : Char) : Place → Place
  | plain => if Text.isBlank c ∧ c ≠ '\n' ∧ c ≠ '\r' then .blank else .outside c
  | blank => .outside c
  | escaped => .plain
  | double => if c = '\\' then .doubleEscaped else if c = '\x22' then .plain else .double
  | doubleEscaped => .double
  | single => if c = '\\' then .singleEscaped else if c = '\x27' then .plain else .single
  | singleEscaped => .single

/-- The text behind the end of its first line. -/
def dropLine (s : List Char) : List Char := (s.dropWhile (· ≠ '\n')).drop 1

/-- The rest of a line that may run on between quotes, and the text behind it. A comment behind a blank
is left out. The text must not end between quotes, nor behind a blank or a backslash. -/
def cutLine? : Place → List Char → Option (List Char × List Char)
  | place, [] => if place = .plain then some ([], []) else none
  | place, c :: rest =>
    if place = .blank ∧ c = '#' then some ([], dropLine rest)
    else if c = '\n' ∧ place.behind c = .plain then some ([], rest)
    else (cutLine? (place.behind c) rest).map fun (line, rest) => (c :: line, rest)

/-- Whether a line holds nothing but a comment. -/
def isComment (s : List Char) : Bool := (Text.trimStart (s.takeWhile (· ≠ '\n'))).head? = some '#'

/-- The first line of a text and the text behind it; nothing is left of a comment. -/
def firstLine? (s : List Char) : Option (List Char × List Char) :=
  if isComment s then some ([], dropLine s) else cutLine? .plain s

/-! ## Values -/

/-- The value of a variable, or nothing if it is not set. -/
def valueOf (env : Environment) (name : List Char) : List Char :=
  ((env.get? (String.ofList name)).getD "").toList

/-- The character that an escape stands for. -/
def escape? (c : Char) : Option Char :=
  if c = 'n' then some '\n' else if c ∈ ['\\', '\x27', '\x22', '$', ' '] then some c else none

/-- The text between single quotes and the text behind them. -/
def single? : List Char → Option (List Char × List Char)
  | [] => none
  | c :: rest => if c = '\x27' then some ([], rest) else (single? rest).map fun (inner, rest) => (c :: inner, rest)

/-- Whether nothing but blanks follows, or blanks and a comment. -/
def endsLine (s : List Char) : Bool := ((s.dropWhile fun c => c == ' ' || c == '\t').head?.getD '#') == '#'

theorem length_single?_lt {s inner rest : List Char} (h : single? s = some (inner, rest)) :
    rest.length < s.length := by
  induction s generalizing inner rest with
  | nil => simp [single?] at h
  | cons c tail ih =>
    simp only [single?] at h
    split at h
    · simp only [Option.some.injEq, Prod.mk.injEq] at h
      simp [← h.2]
    · obtain ⟨⟨b, r⟩, hb, he⟩ := Option.map_eq_some_iff.1 h
      simp only [Prod.mk.injEq] at he
      have := ih hb
      simp only [← he.2, List.length_cons]
      omega

/-- The text that a reference gives, and the text behind it. A name without braces ends at the first
other character, which stands for itself unless it starts the next reference. -/
def reference? (env : Environment) (s : List Char) : Option (List Char × List Char) :=
  match s with
  | '\x7b' :: inner => (Expansion.body? inner).map fun (name, rest) => (valueOf env name, rest)
  | _ =>
    let value := valueOf env (s.takeWhile Text.isAlphanumeric)
    match s.dropWhile Text.isAlphanumeric with
    | [] => some (value, [])
    | c :: rest => if c = '$' then some (value, c :: rest) else some (value ++ [c], rest)

theorem length_reference?_le {env : Environment} {s value rest : List Char}
    (h : reference? env s = some (value, rest)) : rest.length ≤ s.length := by
  unfold reference? at h
  split at h
  · obtain ⟨⟨name, r⟩, found, he⟩ := Option.map_eq_some_iff.1 h
    simp only [Prod.mk.injEq] at he
    have := Expansion.length_body?_lt found
    simp only [← he.2, List.length_cons]
    omega
  · have shorter := (List.dropWhile_sublist Text.isAlphanumeric (l := s)).length_le
    split at h
    · simp only [Option.some.injEq, Prod.mk.injEq] at h
      simp [← h.2]
    · next c more drop =>
      rw [drop, List.length_cons] at shorter
      split at h <;> simp only [Option.some.injEq, Prod.mk.injEq] at h <;> simp only [← h.2, List.length_cons] <;> omega

/-- Reads a value, given whether it goes on between double quotes. -/
def value? (env : Environment) (quoted : Bool) : List Char → Option (List Char)
  | [] => if quoted then none else some []
  | c :: rest =>
    if c = '$' then
      match found : reference? env rest with
      | none => none
      | some (value, behind) =>
        have := length_reference?_le found
        (value? env quoted behind).map (value ++ ·)
    else if c = '\\' then
      match rest with
      | [] => if quoted then none else some []
      | d :: more => (escape? d).bind fun e => (value? env quoted more).map (e :: ·)
    else if c = '\x22' then value? env (!quoted) rest
    else if quoted then (value? env quoted rest).map (c :: ·)
    else if c = '\x27' then
      match found : single? rest with
      | none => none
      | some (inner, behind) =>
        have := length_single?_lt found
        (value? env quoted behind).map (inner ++ ·)
    else if c = ' ' ∨ c = '\t' then if endsLine rest then some [] else none
    else (value? env quoted rest).map (c :: ·)
termination_by s => s.length
decreasing_by all_goals simp only [List.length_cons]; omega

/-! ## Assignments -/

/-- Reads the name of a variable at the start of a text. -/
def name? (s : List Char) : Option (List Char × List Char) :=
  if s.head?.any fun c => c.isAlpha || c == '_' then
    let isPart (c : Char) : Bool := c.isAlphanum || c == '_' || c == '.'
    some (s.takeWhile isPart, s.dropWhile isPart)
  else none

/-- Reads a name and the equals sign behind it. -/
def assigned? (s : List Char) : Option (List Char × List Char) := do
  let (name, rest) ← name? s
  match Text.trimStart rest with
  | '=' :: rest => some (name, rest)
  | _ => none

/-- Reads the name that a line assigns to. It may stand behind the word for an export. -/
def target? (s : List Char) : Option (List Char × List Char) :=
  match assigned? s with
  | some found => some found
  | none => do
    let (word, rest) ← name? s
    if word = "export".toList then assigned? (Text.trimStart rest) else none

/-- Reads a line: the assignment in it, or nothing if it is blank or a comment. -/
def line? (env : Environment) (s : List Char) : Option (Option (String × String)) := do
  let s := Text.trim s
  if s.isEmpty ∨ s.head? = some '#' then return none
  let (name, rest) ← target? s
  let rest := Text.trimStart rest
  let value ← if rest.head? = some '#' then pure [] else value? env false rest
  return some (String.ofList name, String.ofList value)

/-- The environment with a variable set, unless it is set already. -/
def assign (env : Environment) : Option (String × String) → Environment
  | some (name, value) => if (env.get? name).isSome then env else env ++ [(name, value)]
  | none => env

theorem length_dropLine_lt {s : List Char} (h : s ≠ []) : (dropLine s).length < s.length := by
  have := (List.dropWhile_sublist (p := fun c => decide (c ≠ '\n')) (l := s)).length_le
  have := List.length_pos_iff.2 h
  simp only [dropLine, List.length_drop]
  omega

theorem length_cutLine?_le {place : Place} {s line rest : List Char}
    (h : cutLine? place s = some (line, rest)) : rest.length ≤ s.length - 1 := by
  induction s generalizing place line rest with
  | nil =>
    simp only [cutLine?] at h
    split at h <;> simp_all
  | cons c tail ih =>
    simp only [cutLine?] at h
    split at h
    · simp only [Option.some.injEq, Prod.mk.injEq] at h
      rw [← h.2]
      by_cases empty : tail = []
      · simp [empty, dropLine]
      · have := length_dropLine_lt empty
        simp only [List.length_cons]
        omega
    · split at h
      · simp only [Option.some.injEq, Prod.mk.injEq] at h
        simp [← h.2]
      · obtain ⟨⟨b, r⟩, hb, he⟩ := Option.map_eq_some_iff.1 h
        simp only [Prod.mk.injEq] at he
        have := ih hb
        simp only [← he.2, List.length_cons]
        omega

theorem length_firstLine?_lt {s line rest : List Char} (nonempty : s ≠ [])
    (h : firstLine? s = some (line, rest)) : rest.length < s.length := by
  unfold firstLine? at h
  split at h
  · simp only [Option.some.injEq, Prod.mk.injEq] at h
    rw [← h.2]
    exact length_dropLine_lt nonempty
  · have := length_cutLine?_le h
    have := List.length_pos_iff.2 nonempty
    omega

/-- Reads a text line by line into an environment, up to the first line that is no assignment. -/
def load (env : Environment) (s : List Char) : Environment :=
  if nonempty : s = [] then env
  else
    match found : firstLine? s with
    | none => env
    | some (line, behind) =>
      match line? env line with
      | none => env
      | some assignment =>
        have : behind.length < s.length := length_firstLine?_lt nonempty found
        load (assign env assignment) behind
termination_by s.length

end SqlDraft.Dotenv
