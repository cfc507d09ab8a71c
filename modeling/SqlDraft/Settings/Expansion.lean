import SqlDraft.Failure

/-!
# Expansion of variables

A reference to a variable of the environment stands between a dollar sign with a brace and the next
closing brace. It may name a fallback behind a colon and a dash. A reference becomes the variable's
value, which is not looked at again; a variable that is empty counts as not set.
-/

namespace SqlDraft

/-- The variables that are set. -/
abbrev Environment := List (String × String)

/-- The value of a variable. -/
def Environment.get? (env : Environment) (name : String) : Option String := env.lookup name

namespace Expansion

/-- The text up to a closing brace, and the text behind it. -/
def body? : List Char → Option (List Char × List Char)
  | [] => none
  | c :: rest => if c = '\x7d' then some ([], rest) else (body? rest).map fun (body, rest) => (c :: body, rest)

/-- The name in a reference, and its fallback if it has one. -/
def parts : List Char → List Char × Option (List Char)
  | [] => ([], none)
  | ':' :: '-' :: fallback => ([], some fallback)
  | c :: rest =>
    let (name, fallback) := parts rest
    (c :: name, fallback)

/-- What a reference becomes. -/
def resolve (env : Environment) (body : List Char) : Except ConfigError (List Char) :=
  let (name, fallback) := parts body
  if name.isEmpty then .error .emptyReference
  else
    match (env.get? (String.ofList name)).filter (· ≠ ""), fallback with
    | some v, _ => .ok v.toList
    | none, some text => .ok text
    | none, none => .error (.unsetVariable (String.ofList name))

theorem length_body?_lt {s body rest : List Char} (h : body? s = some (body, rest)) : rest.length < s.length := by
  induction s generalizing body rest with
  | nil => simp [body?] at h
  | cons c tail ih =>
    simp only [body?] at h
    split at h
    · simp only [Option.some.injEq, Prod.mk.injEq] at h
      simp [← h.2]
    · obtain ⟨⟨b, r⟩, hb, he⟩ := Option.map_eq_some_iff.1 h
      simp only [Prod.mk.injEq] at he
      have := ih hb
      simp only [← he.2, List.length_cons]
      omega

/-- Replaces every reference, from left to right. -/
def expand (env : Environment) : List Char → Except ConfigError (List Char)
  | [] => .ok []
  | '$' :: '\x7b' :: rest =>
    match found : body? rest with
    | none => .error (.unclosedReference (String.ofList rest))
    | some (body, behind) => do
      have := length_body?_lt found
      let value ← resolve env body
      let others ← expand env behind
      return value ++ others
  | c :: rest => do
    let others ← expand env rest
    return c :: others
termination_by s => s.length
decreasing_by all_goals simp only [List.length_cons]; omega

end Expansion
end SqlDraft
