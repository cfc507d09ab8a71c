import SqlDraft.Settings.Expansion

/-!
# References in a text

The grammar of texts with references, apart from the scanner that replaces them. A text is a part without references, or
such a part, a reference and a text behind it; a reference that nothing closes ends the text. What a reference stands for
is told by its name, its fallback and the environment alone (`Resolves`), and what it becomes is put between the part
before it and the expansion of the text behind it (`Expands`).
Expansion gives exactly the outcome of the grammar, and its complaint is about the leftmost faulty reference
(`expand_grammar`).
-/

namespace SqlDraft

/-- The variable is set to a value that is not empty. -/
def Environment.Gives (env : Environment) (name value : String) : Prop := env.get? name = some value ∧ value ≠ ""

namespace Expansion

/-! ## The grammar -/

/-- What a reference starts with. -/
def opening : List Char := ['$', '\x7b']

/-- What stands between the name and the fallback of a reference. -/
def fallbackMark : List Char := [':', '-']

/-- No reference starts in the text. -/
def Unreferenced (s : List Char) : Prop := ¬ opening <:+: s

/-- A body is a name alone, or the name is what stands before the first mark and the fallback what stands behind it. -/
inductive Parted : List Char → List Char → Option (List Char) → Prop
  | name {name : List Char} (unmarked : ¬ fallbackMark <:+: name) : Parted name name none
  | fallback {name fallback : List Char} (unmarked : ¬ fallbackMark <:+: name) :
    Parted (name ++ fallbackMark ++ fallback) name (some fallback)

/-- What a reference with a body stands for. -/
inductive Resolves (env : Environment) (body : List Char) : Except ConfigError (List Char) → Prop
  | nameless {fallback : Option (List Char)} (parted : Parted body [] fallback) : Resolves env body (.error .emptyReference)
  | given {name : List Char} {fallback : Option (List Char)} {value : String} (parted : Parted body name fallback)
    (named : name ≠ []) (gives : env.Gives (String.ofList name) value) : Resolves env body (.ok value.toList)
  | fallback {name fallback : List Char} (parted : Parted body name (some fallback)) (named : name ≠ [])
    (missing : ∀ value, ¬ env.Gives (String.ofList name) value) : Resolves env body (.ok fallback)
  | unset {name : List Char} (parted : Parted body name none) (named : name ≠ [])
    (missing : ∀ value, ¬ env.Gives (String.ofList name) value) :
    Resolves env body (.error (.unsetVariable (String.ofList name)))

/-- The first reference of a text stands for nothing, or nothing closes it. -/
inductive Faulty (env : Environment) : List Char → ConfigError → Prop
  | reference {text body : List Char} {cause : ConfigError} (plain : Unreferenced text) (braceless : '\x7d' ∉ body)
    (fails : Resolves env body (.error cause)) (rest : List Char) :
    Faulty env (text ++ opening ++ body ++ '\x7d' :: rest) cause
  | unclosed {text tail : List Char} (plain : Unreferenced text) (braceless : '\x7d' ∉ tail) :
    Faulty env (text ++ opening ++ tail) (.unclosedReference (String.ofList tail))

/-- What a text becomes, or the complaint about it. What a reference stands for goes in as it is: only the text behind the
reference is expanded. -/
inductive Expands (env : Environment) : List Char → Except ConfigError (List Char) → Prop
  | plain {text : List Char} (plain : Unreferenced text) : Expands env text (.ok text)
  | reference {text body rest value : List Char} {outcome : Except ConfigError (List Char)} (plain : Unreferenced text)
    (braceless : '\x7d' ∉ body) (stands : Resolves env body (.ok value)) (others : Expands env rest outcome) :
    Expands env (text ++ opening ++ body ++ '\x7d' :: rest) (outcome.map (text ++ value ++ ·))
  | faulty {text : List Char} {cause : ConfigError} (fault : Faulty env text cause) : Expands env text (.error cause)

/-- A part of a text without references, and the body of the reference behind it. -/
structure Passage where
  text : List Char
  body : List Char

def Passage.written (p : Passage) : List Char := p.text ++ opening ++ p.body ++ ['\x7d']

/-- The passage is in order: its reference stands for something. -/
def Passage.Sound (env : Environment) (p : Passage) : Prop :=
  Unreferenced p.text ∧ '\x7d' ∉ p.body ∧ ∃ value, Resolves env p.body (.ok value)

/-! ## Splitting at the first mark -/

/-- A text has no occurrence of a mark, or it splits at the first one. -/
theorem exists_first_infix {mark : List Char} (nonempty : mark ≠ []) (s : List Char) :
    ¬ mark <:+: s ∨ ∃ front back, s = front ++ mark ++ back ∧ ¬ mark <:+: front := by
  have notNil : ¬ mark <:+: [] := fun inside => nonempty (List.eq_nil_of_infix_nil inside)
  induction s with
  | nil => exact .inl notNil
  | cons c rest ih =>
    by_cases here : mark <+: c :: rest
    · obtain ⟨back, same⟩ := here
      exact .inr ⟨[], back, same.symm, notNil⟩
    · obtain none | ⟨front, back, rfl, none⟩ := ih
      · refine .inl fun inside => ?_
        obtain first | later := List.infix_cons_iff.mp inside
        · exact here first
        · exact none later
      · refine .inr ⟨c :: front, back, rfl, fun inside => ?_⟩
        obtain first | later := List.infix_cons_iff.mp inside
        · exact here (first.trans ⟨mark ++ back, by simp⟩)
        · exact none later

/-- A mark of two characters starts neither inside a text without it nor across the end of the text, if what is behind
does not start with its second character. -/
theorem not_start {first second c : Char} {text rest : List Char} (none : ¬ [first, second] <:+: c :: text)
    (apart : rest.head? ≠ some second) : c = first → (text ++ rest).head? ≠ some second := by
  rintro rfl starts
  cases text with
  | nil => exact apart starts
  | cons d more =>
    obtain rfl : d = second := Option.some.inj starts
    exact none ⟨[], more, rfl⟩

/-! ## The scanner on the parts of a text -/

section
variable (env : Environment)

theorem body?_append {body : List Char} (braceless : '\x7d' ∉ body) (rest : List Char) :
    body? (body ++ '\x7d' :: rest) = some (body, rest) := by
  induction body with
  | nil => rw [List.nil_append, body?, if_pos rfl]
  | cons c tail ih =>
    obtain ⟨here, later⟩ := List.ne_and_not_mem_of_not_mem_cons braceless
    rw [List.cons_append, body?, if_neg here.symm, ih later, Option.map_some]

theorem body?_of_not_mem {tail : List Char} (braceless : '\x7d' ∉ tail) : body? tail = none := by
  induction tail with
  | nil => rfl
  | cons c tail ih =>
    obtain ⟨here, later⟩ := List.ne_and_not_mem_of_not_mem_cons braceless
    rw [body?, if_neg here.symm, ih later, Option.map_none]

theorem parts_append {name : List Char} (unmarked : ¬ fallbackMark <:+: name) (rest : List Char)
    (apart : rest.head? ≠ some '-') : parts (name ++ rest) = (name ++ (parts rest).1, (parts rest).2) := by
  induction name with
  | nil => rfl
  | cons c tail ih =>
    have later := ih fun inside => unmarked (List.infix_cons inside)
    have next := not_start unmarked apart
    rw [List.cons_append, parts.eq_3 c (tail ++ rest), later, List.cons_append]
    rintro fallback colon dash
    exact next colon (List.head?_eq_some_iff.mpr ⟨fallback, dash⟩)

theorem parts_eq_iff {body name : List Char} {fallback : Option (List Char)} :
    parts body = (name, fallback) ↔ Parted body name fallback := by
  have unmarkedParts {name : List Char} (unmarked : ¬ fallbackMark <:+: name) : parts name = (name, none) := by
    have whole := parts_append unmarked [] (by decide)
    simpa [parts] using whole
  have markedParts {name : List Char} (unmarked : ¬ fallbackMark <:+: name) (fallback : List Char) :
      parts (name ++ fallbackMark ++ fallback) = (name, some fallback) := by
    have whole := parts_append unmarked (fallbackMark ++ fallback) (by simp [fallbackMark])
    simpa [fallbackMark, parts] using whole
  constructor
  · intro same
    obtain unmarked | ⟨front, back, rfl, unmarked⟩ := exists_first_infix (show fallbackMark ≠ [] by decide) body
    · rw [unmarkedParts unmarked] at same
      cases same
      exact .name unmarked
    · rw [markedParts unmarked] at same
      cases same
      exact .fallback unmarked
  · intro parted
    cases parted with
    | name unmarked => exact unmarkedParts unmarked
    | fallback unmarked => exact markedParts unmarked _

/-- The variable's value if it is not empty. -/
theorem filter_get?_eq_some_iff {name value : String} :
    (env.get? name).filter (· ≠ "") = some value ↔ env.Gives name value := by
  simp [Option.filter_eq_some_iff, Environment.Gives]

theorem filter_get?_eq_none_iff {name : String} :
    (env.get? name).filter (· ≠ "") = none ↔ ∀ value, ¬ env.Gives name value := by
  rw [Option.eq_none_iff_forall_ne_some]
  exact forall_congr' fun value => not_congr (filter_get?_eq_some_iff env)

theorem resolve_eq_iff {body : List Char} {outcome : Except ConfigError (List Char)} :
    resolve env body = outcome ↔ Resolves env body outcome := by
  constructor
  · rintro rfl
    cases cut : parts body with | mk name fallback
    have parted := parts_eq_iff.mp cut
    simp only [resolve, cut]
    by_cases nameless : name = []
    · subst nameless
      exact .nameless parted
    · rw [if_neg (by simpa using nameless)]
      cases found : (env.get? (String.ofList name)).filter (· ≠ "") with
      | some value => exact .given parted nameless ((filter_get?_eq_some_iff env).mp found)
      | none =>
        have missing := (filter_get?_eq_none_iff env).mp found
        cases fallback with
        | some fallback => exact .fallback parted nameless missing
        | none => exact .unset parted nameless missing
  · intro resolves
    cases resolves with
    | nameless parted => simp [resolve, parts_eq_iff.mpr parted]
    | given parted named gives =>
      simp only [resolve, parts_eq_iff.mpr parted, (filter_get?_eq_some_iff env).mpr gives]
      simp [named]
    | fallback parted named missing =>
      simp only [resolve, parts_eq_iff.mpr parted, (filter_get?_eq_none_iff env).mpr missing]
      simp [named]
    | unset parted named missing =>
      simp only [resolve, parts_eq_iff.mpr parted, (filter_get?_eq_none_iff env).mpr missing]
      simp [named]

theorem expand_append {text : List Char} (plain : Unreferenced text) (rest : List Char)
    (apart : rest.head? ≠ some '\x7b') : expand env (text ++ rest) = (expand env rest).map (text ++ ·) := by
  induction text with
  | nil =>
    rw [List.nil_append]
    cases expand env rest <;> rfl
  | cons c tail ih =>
    have later := ih fun inside => plain (List.infix_cons inside)
    have next := not_start plain apart
    rw [List.cons_append, expand.eq_3 env c (tail ++ rest), later]
    · cases expand env rest <;> rfl
    · rintro body dollar brace
      exact next dollar (List.head?_eq_some_iff.mpr ⟨body, brace⟩)

theorem expand_unreferenced {text : List Char} (plain : Unreferenced text) : expand env text = .ok text := by
  have whole := expand_append env plain [] (by decide)
  rw [List.append_nil, expand] at whole
  rw [whole]
  simp [Except.map]

theorem expand_reference {text body : List Char} (plain : Unreferenced text) (braceless : '\x7d' ∉ body)
    (rest : List Char) :
    expand env (text ++ opening ++ body ++ '\x7d' :: rest) =
      resolve env body >>= fun value => (expand env rest).map (text ++ value ++ ·) := by
  rw [List.append_assoc, List.append_assoc, expand_append env plain _ (by simp [opening])]
  show (expand env ('$' :: '\x7b' :: (body ++ '\x7d' :: rest))).map _ = _
  rw [expand]
  split
  · next missing =>
    rw [body?_append braceless] at missing
    cases missing
  · next found =>
    rw [body?_append braceless] at found
    cases found
    cases resolve env body with
    | error cause => rfl
    | ok value =>
      cases expand env rest with
      | error cause => rfl
      | ok others => simp [Except.map, bind, Except.bind, pure, Except.pure]

theorem expand_unclosed {text tail : List Char} (plain : Unreferenced text) (braceless : '\x7d' ∉ tail) :
    expand env (text ++ opening ++ tail) = .error (.unclosedReference (String.ofList tail)) := by
  rw [List.append_assoc, expand_append env plain _ (by simp [opening])]
  show (expand env ('$' :: '\x7b' :: tail)).map _ = _
  rw [expand]
  split
  · rfl
  · next found =>
    rw [body?_of_not_mem braceless] at found
    cases found

/-! ## The grammar of expansion -/

variable {env} {s : List Char}

theorem expand_of_faulty {cause : ConfigError} (fault : Faulty env s cause) : expand env s = .error cause := by
  cases fault with
  | reference plain braceless fails rest =>
    rw [expand_reference env plain braceless, (resolve_eq_iff env).mpr fails]
    rfl
  | unclosed plain braceless => exact expand_unclosed env plain braceless

theorem expand_of_expands {outcome : Except ConfigError (List Char)} (expands : Expands env s outcome) :
    expand env s = outcome := by
  induction expands with
  | plain plain => exact expand_unreferenced env plain
  | @reference text body rest value outcome plain braceless stands others ih =>
    rw [expand_reference env plain braceless, (resolve_eq_iff env).mpr stands, ih]
    rfl
  | faulty fault => exact expand_of_faulty fault

/-- Every text has an outcome by the grammar, and it is the one that the scanner gives. -/
theorem expands_expand (env : Environment) (s : List Char) : Expands env s (expand env s) := by
  obtain plain | ⟨text, behind, rfl, plain⟩ := exists_first_infix (show opening ≠ [] by decide) s
  · rw [expand_unreferenced env plain]
    exact .plain plain
  · by_cases closed : '\x7d' ∈ behind
    · obtain ⟨body, rest, rfl, braceless⟩ := List.eq_append_cons_of_mem closed
      have shorter : rest.length < (text ++ opening ++ (body ++ '\x7d' :: rest)).length := by
        simp only [List.length_append, List.length_cons]
        omega
      have others := expands_expand env rest
      rw [← List.append_assoc, expand_reference env plain braceless]
      cases stands : resolve env body with
      | error cause => exact .faulty (.reference plain braceless ((resolve_eq_iff env).mp stands) rest)
      | ok value => exact .reference plain braceless ((resolve_eq_iff env).mp stands) others
    · rw [expand_unclosed env plain closed]
      exact .faulty (.unclosed plain closed)
termination_by s.length

theorem expand_eq_iff {outcome : Except ConfigError (List Char)} : expand env s = outcome ↔ Expands env s outcome := by
  constructor
  · rintro rfl
    exact expands_expand env s
  · exact expand_of_expands

/-- A complaint is about a fault behind passages that are in order. -/
theorem expands_error_iff {cause : ConfigError} :
    Expands env s (.error cause) ↔
      ∃ (earlier : List Passage) (rest : List Char), s = earlier.flatMap Passage.written ++ rest ∧
        (∀ p ∈ earlier, p.Sound env) ∧ Faulty env rest cause := by
  constructor
  · intro expands
    generalize same : Except.error cause = outcome at expands
    induction expands with
    | plain plain => cases same
    | @reference text body rest value outcome plain braceless stands others ih =>
      cases outcome with
      | ok out => cases same
      | error found =>
        cases same
        obtain ⟨earlier, later, rfl, sound, fault⟩ := ih rfl
        refine ⟨⟨text, body⟩ :: earlier, later, by simp [Passage.written], ?_, fault⟩
        exact List.forall_mem_cons.mpr ⟨⟨plain, braceless, value, stands⟩, sound⟩
    | faulty fault =>
      cases same
      exact ⟨[], _, rfl, by simp, fault⟩
  · rintro ⟨earlier, rest, rfl, sound, fault⟩
    induction earlier with
    | nil => exact .faulty fault
    | cons p earlier ih =>
      obtain ⟨⟨plain, braceless, value, stands⟩, later⟩ := List.forall_mem_cons.mp sound
      have whole := Expands.reference plain braceless stands (ih later)
      simpa [Passage.written, Except.map] using whole

/-- Expansion gives the one outcome that the grammar has for a text: the text itself without references, what its first
reference stands for between the text before it and the expansion of the text behind it, or a complaint. The complaint is
about the first reference that is faulty, wherever it is. -/
theorem expand_grammar (env : Environment) (s : List Char) :
    (∀ outcome, expand env s = outcome ↔ Expands env s outcome) ∧
      ∀ cause, expand env s = .error cause ↔
        ∃ (earlier : List Passage) (rest : List Char), s = earlier.flatMap Passage.written ++ rest ∧
          (∀ p ∈ earlier, p.Sound env) ∧ Faulty env rest cause :=
  ⟨fun _ => expand_eq_iff, fun _ => expand_eq_iff.trans expands_error_iff⟩

-- A reference ends at the first brace, even inside of what looks like another one, and its fallback is not read again.
example : expand [("A", "")] "$$\x7bA:-$\x7bB\x7d\x7d".toList = .ok "$$\x7bB\x7d".toList := by cbv

end

end Expansion
end SqlDraft
