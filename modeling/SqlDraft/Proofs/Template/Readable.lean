import SqlDraft.Proofs.Text.Numerals

/-!
# Readable texts

When the parts of a text can be told apart by whoever reads it from the front. A part is readable if what may stand
behind it shows where it ends (`Readable`): two parts, each with something behind it, that come to the same text are
the same up to what the text shows of them, and so is what stands behind. Lists of readable items are readable, if an
item cannot be taken for what stands behind the list (`Readable.many`), and so are texts of several segments of
which each shows where the one before it ends (`Segment.append`).
-/

namespace SqlDraft

variable {α β γ δ : Type} {heads own behind : List String}

/-! ## Heads -/

/-- A text is empty or starts with one of some heads. -/
def Opens (heads : List String) (text : String) : Prop := text = "" ∨ ∃ h ∈ heads, ∃ rest, text = h ++ rest

theorem opens_empty (heads : List String) : Opens heads "" := .inl rfl

theorem opens_append {h : String} (member : h ∈ heads) (rest : String) : Opens heads (h ++ rest) :=
  .inr ⟨h, member, rest, rfl⟩

theorem opens_anything (text : String) : Opens [""] text := .inr ⟨"", List.mem_cons_self, text, by simp⟩

theorem Opens.mono {text : String} (opens : Opens heads text) (more : heads ⊆ own) : Opens own text := by
  rcases opens with empty | ⟨h, member, rest, same⟩
  · exact .inl empty
  · exact .inr ⟨h, more member, rest, same⟩

/-- No text starts both with a head of one kind and with a head of the other. -/
def Apart (own behind : List String) : Prop :=
  ∀ h ∈ own, h ≠ "" ∧ ∀ k ∈ behind, ¬ h.toList <+: k.toList ∧ ¬ k.toList <+: h.toList

instance (own behind : List String) : Decidable (Apart own behind) :=
  inferInstanceAs (Decidable (∀ h ∈ own, h ≠ "" ∧ ∀ k ∈ behind, ¬ h.toList <+: k.toList ∧ ¬ k.toList <+: h.toList))

/-- Of two texts that come to the same with something behind each, one is the start of the other. -/
theorem prefix_or_prefix {a b rest rest' : String} (same : a ++ rest = b ++ rest') :
    a.toList <+: b.toList ∨ b.toList <+: a.toList := by
  have lists := congrArg String.toList same
  rw [String.toList_append, String.toList_append] at lists
  exact List.prefix_or_prefix_of_prefix ⟨rest.toList, lists⟩ ⟨rest'.toList, rfl⟩

theorem Apart.ne_of_opens (apart : Apart own behind) {h text : String} (member : h ∈ own) (opens : Opens behind text)
    (rest : String) : h ++ rest ≠ text := by
  obtain ⟨nonempty, unlike⟩ := apart h member
  rcases opens with rfl | ⟨k, inBehind, rest', rfl⟩
  · intro same
    exact nonempty (String.append_eq_empty_iff.mp same).1
  · intro same
    rcases prefix_or_prefix same with first | second
    · exact (unlike k inBehind).1 first
    · exact (unlike k inBehind).2 second

/-! ## Parts -/

/-- What is written can be read: if one of the heads is behind it, its end is known, and so is what it shows. -/
def Readable (write : α → String) (shows : α → β) (valid : α → Prop) (behind : List String) : Prop :=
  ∀ ⦃a a' rest rest'⦄, valid a → valid a' → Opens behind rest → Opens behind rest' →
    write a ++ rest = write a' ++ rest' → shows a = shows a' ∧ rest = rest'

/-- What is written, with one of some heads behind it, starts with one of other heads. -/
def Leads (write : α → String) (valid : α → Prop) (heads behind : List String) : Prop :=
  ∀ ⦃a rest⦄, valid a → Opens behind rest → Opens heads (write a ++ rest)

section
variable {write : α → String} {shows : α → β} {valid : α → Prop}

theorem Readable.of_anything (reads : Readable write shows valid [""]) (behind : List String) :
    Readable write shows valid behind := by
  intro a a' rest rest' first second _ _ same
  exact reads first second (opens_anything rest) (opens_anything rest') same

theorem Readable.comap (reads : Readable write shows valid behind) (f : γ → α) {given : γ → Prop}
    (valid_of : ∀ c, given c → valid (f c)) : Readable (write ∘ f) (shows ∘ f) given behind := by
  intro c c' rest rest' first second
  exact reads (valid_of c first) (valid_of c' second)

theorem Leads.comap (leads : Leads write valid heads behind) (f : γ → α) {given : γ → Prop}
    (valid_of : ∀ c, given c → valid (f c)) : Leads (write ∘ f) given heads behind := by
  intro c rest given
  exact leads (valid_of c given)

theorem Readable.map (reads : Readable write shows valid behind) {shows' : α → γ}
    (less : ∀ a a', valid a → valid a' → shows a = shows a' → shows' a = shows' a') :
    Readable write shows' valid behind := by
  intro a a' rest rest' first second opens opens' same
  obtain ⟨equal, rests⟩ := reads first second opens opens' same
  exact ⟨less a a' first second equal, rests⟩

/-- Two parts are readable one behind the other, if the second shows where the first ends. -/
theorem Readable.append {write' : α → String} {shows' : α → γ} {between : List String}
    (reads : Readable write shows valid between) (leads : Leads write' valid between behind)
    (reads' : Readable write' shows' valid behind) :
    Readable (fun a => write a ++ write' a) (fun a => (shows a, shows' a)) valid behind := by
  intro a a' rest rest' first second opens opens' same
  rw [String.append_assoc, String.append_assoc] at same
  obtain ⟨equal, later⟩ := reads first second (leads first opens) (leads second opens') same
  obtain ⟨equal', rests⟩ := reads' first second opens opens' later
  exact ⟨Prod.ext equal equal', rests⟩

theorem Readable.after (reads : Readable write shows valid behind) (text : String) :
    Readable (fun a => text ++ write a) shows valid behind := by
  intro a a' rest rest' first second opens opens' same
  rw [String.append_assoc, String.append_assoc, String.append_right_inj] at same
  exact reads first second opens opens' same

theorem Leads.append {write' : α → String} {between : List String} (leads : Leads write valid heads between)
    (leads' : Leads write' valid between behind) :
    Leads (fun a => write a ++ write' a) valid heads behind := by
  intro a rest given opens
  rw [String.append_assoc]
  exact leads given (leads' given opens)

/-- A readable part that shows where the part before it ends: with one of the heads behind it, it starts with one of
its own. -/
structure Segment (write : α → String) (shows : α → β) (valid : α → Prop) (heads behind : List String) : Prop where
  readable : Readable write shows valid behind
  leads : Leads write valid heads behind

theorem Segment.append {write' : α → String} {shows' : α → γ} {between : List String}
    (segment : Segment write shows valid heads between) (segment' : Segment write' shows' valid between behind) :
    Segment (fun a => write a ++ write' a) (fun a => (shows a, shows' a)) valid heads behind :=
  ⟨segment.readable.append segment'.leads segment'.readable, segment.leads.append segment'.leads⟩

theorem Segment.comap (segment : Segment write shows valid heads behind) (f : γ → α) {given : γ → Prop}
    (valid_of : ∀ c, given c → valid (f c)) : Segment (write ∘ f) (shows ∘ f) given heads behind :=
  ⟨segment.readable.comap f valid_of, segment.leads.comap f valid_of⟩

theorem Segment.map (segment : Segment write shows valid heads behind) {shows' : α → γ}
    (less : ∀ a a', valid a → valid a' → shows a = shows a' → shows' a = shows' a') :
    Segment write shows' valid heads behind :=
  ⟨segment.readable.map less, segment.leads⟩

end

/-! ## Lists -/

/-- What is written of several, one directly behind the other. -/
def writeAll (write : α → String) (as : List α) : String := String.join (as.map write)

theorem writeAll_nil (write : α → String) : writeAll write [] = "" := rfl

theorem writeAll_cons (write : α → String) (a : α) (as : List α) :
    writeAll write (a :: as) = write a ++ writeAll write as := by
  rw [writeAll, List.map_cons, String.join_cons, writeAll]

theorem writeAll_map (write : β → String) (f : α → β) (as : List α) :
    writeAll write (as.map f) = writeAll (write ∘ f) as := by
  rw [writeAll, writeAll, List.map_map]

theorem intercalate_cons (between a : String) (rest : List String) :
    String.intercalate between (a :: rest) = a ++ writeAll (between ++ ·) rest := by
  induction rest generalizing a with
  | nil => rw [String.intercalate_singleton, writeAll_nil, String.append_empty]
  | cons b rest ih => rw [String.intercalate_cons_cons, ih, writeAll_cons, String.append_assoc, String.append_assoc]

/-- Whatever is written starts with one of some heads. -/
def Starts (write : α → String) (valid : α → Prop) (own : List String) : Prop :=
  ∀ ⦃a⦄, valid a → ∃ h ∈ own, ∃ rest, write a = h ++ rest

section
variable {write : α → String} {shows : α → β} {valid : α → Prop}

theorem Leads.many (starts : Starts write valid own) (behind : List String) :
    Leads (writeAll write) (fun as => ∀ a ∈ as, valid a) (own ++ behind) behind := by
  intro as rest all opens
  cases as with
  | nil =>
    rw [writeAll_nil, String.empty_append]
    exact opens.mono (List.subset_append_right own behind)
  | cons a as =>
    obtain ⟨h, member, tail, same⟩ := starts (all a List.mem_cons_self)
    rw [writeAll_cons, same, String.append_assoc, String.append_assoc]
    exact opens_append (List.mem_append_left behind member) _

theorem Starts.ne_of_opens (starts : Starts write valid own) (apart : Apart own behind) {a : α} {rest : String}
    (given : valid a) (opens : Opens behind rest) (as : List α) (more : String) :
    writeAll write (a :: as) ++ more ≠ rest := by
  obtain ⟨h, member, tail, same⟩ := starts given
  rw [writeAll_cons, same, String.append_assoc, String.append_assoc]
  exact apart.ne_of_opens member opens _

/-- A list of readable items is readable, if none of them starts like what stands behind the list. -/
theorem Readable.many (reads : Readable write shows valid (own ++ behind)) (starts : Starts write valid own)
    (apart : Apart own behind) :
    Readable (writeAll write) (List.map shows) (fun as => ∀ a ∈ as, valid a) behind := by
  intro as
  -- By induction on the first list, for every second one and whatever is behind them: an item on one side only would
  -- have to be the start of what is behind the other list.
  induction as with
  | nil =>
    intro as' rest rest' _ all' opens opens' same
    rw [writeAll_nil, String.empty_append] at same
    cases as' with
    | nil => exact ⟨rfl, by rw [same, writeAll_nil, String.empty_append]⟩
    | cons a' as' => exact absurd same.symm (starts.ne_of_opens apart (all' a' List.mem_cons_self) opens as' rest')
  | cons a as ih =>
    intro as' rest rest' all all' opens opens' same
    cases as' with
    | nil =>
      rw [writeAll_nil, String.empty_append] at same
      exact absurd same (starts.ne_of_opens apart (all a List.mem_cons_self) opens' as rest)
    | cons a' as' =>
      have others : ∀ b ∈ as, valid b := fun b member => all b (List.mem_cons_of_mem a member)
      have others' : ∀ b ∈ as', valid b := fun b member => all' b (List.mem_cons_of_mem a' member)
      have leads := Leads.many starts behind
      rw [writeAll_cons, writeAll_cons, String.append_assoc, String.append_assoc] at same
      obtain ⟨equal, later⟩ := reads (all a List.mem_cons_self) (all' a' List.mem_cons_self) (leads others opens)
        (leads others' opens') same
      obtain ⟨equals, rests⟩ := ih others others' opens opens' later
      exact ⟨by rw [List.map_cons, List.map_cons, equal, equals], rests⟩

theorem Segment.many (reads : Readable write shows valid (own ++ behind)) (starts : Starts write valid own)
    (apart : Apart own behind) :
    Segment (writeAll write) (List.map shows) (fun as => ∀ a ∈ as, valid a) (own ++ behind) behind :=
  ⟨reads.many starts apart, Leads.many starts behind⟩

/-- A list behind its keyword, whose items are written differently behind the first one. Of an empty list nothing is
written. -/
def writeClause (keyword : String) (write further : α → String) : List α → String
  | [] => ""
  | a :: as => keyword ++ (write a ++ writeAll further as)

theorem writeClause_cons (keyword : String) (write further : α → String) (a : α) (as : List α) (rest : String) :
    writeClause keyword write further (a :: as) ++ rest = keyword ++ (write a ++ writeAll further as ++ rest) :=
  String.append_assoc

variable {keyword : String} {further : α → String} {shows' : α → γ}

/-- An item and more items behind it, which are written differently. -/
theorem Readable.cons (reads : Readable write shows valid (own ++ behind))
    (reads' : Readable further shows' valid (own ++ behind)) (starts : Starts further valid own)
    (apart : Apart own behind) {a a' : α} {as as' : List α} {rest rest' : String} (all : ∀ b ∈ a :: as, valid b)
    (all' : ∀ b ∈ a' :: as', valid b) (opens : Opens behind rest) (opens' : Opens behind rest')
    (same : write a ++ writeAll further as ++ rest = write a' ++ writeAll further as' ++ rest') :
    shows a = shows a' ∧ as.map shows' = as'.map shows' ∧ rest = rest' := by
  obtain ⟨first, others⟩ := List.forall_mem_cons.mp all
  obtain ⟨first', others'⟩ := List.forall_mem_cons.mp all'
  have leads := Leads.many starts behind
  rw [String.append_assoc, String.append_assoc] at same
  obtain ⟨equal, later⟩ := reads first first' (leads others opens) (leads others' opens') same
  obtain ⟨equals, rests⟩ := reads'.many starts apart others others' opens opens' later
  exact ⟨equal, equals, rests⟩

/-- A clause is readable if its items are and neither its keyword nor what stands before its further items starts like
what stands behind the clause. -/
theorem Readable.clause (reads : Readable write shows valid (own ++ behind))
    (reads' : Readable further shows' valid (own ++ behind)) (starts : Starts further valid own)
    (apart : Apart (keyword :: own) behind) :
    Readable (writeClause keyword write further) (fun as => (as.head?.map shows, as.tail.map shows'))
      (fun as => ∀ a ∈ as, valid a) behind := by
  have keywordApart (text : String) {rest : String} (opens : Opens behind rest) : keyword ++ text ≠ rest :=
    apart.ne_of_opens List.mem_cons_self opens text
  have itemsApart : Apart own behind := fun h member => apart h (List.mem_cons_of_mem keyword member)
  intro as as' rest rest' all all' opens opens' same
  cases as with
  | nil =>
    rw [writeClause, String.empty_append] at same
    cases as' with
    | nil => exact ⟨rfl, same.trans String.empty_append⟩
    | cons a' as' =>
      rw [writeClause_cons] at same
      exact absurd same.symm (keywordApart _ opens)
  | cons a as =>
    rw [writeClause_cons] at same
    cases as' with
    | nil =>
      rw [writeClause, String.empty_append] at same
      exact absurd same (keywordApart _ opens')
    | cons a' as' =>
      rw [writeClause_cons, String.append_right_inj] at same
      obtain ⟨first, others, rests⟩ := reads.cons reads' starts itemsApart all all' opens opens' same
      exact ⟨Prod.ext (congrArg some first) others, rests⟩

theorem Leads.clause (keyword : String) (write further : α → String) (valid : List α → Prop)
    (behind : List String) : Leads (writeClause keyword write further) valid (keyword :: behind) behind := by
  intro as rest _ opens
  cases as with
  | nil =>
    rw [writeClause, String.empty_append]
    exact opens.mono (List.subset_cons_self keyword behind)
  | cons a as =>
    rw [writeClause_cons]
    exact opens_append List.mem_cons_self _

theorem Segment.clause (keyword : String) (reads : Readable write shows valid (own ++ behind))
    (reads' : Readable further shows' valid (own ++ behind)) (starts : Starts further valid own)
    (apart : Apart (keyword :: own) behind) :
    Segment (writeClause keyword write further) (fun as => (as.head?.map shows, as.tail.map shows'))
      (fun as => ∀ a ∈ as, valid a) (keyword :: behind) behind :=
  ⟨reads.clause reads' starts apart, Leads.clause keyword write further _ behind⟩

/-- A clause whose items are separated by commas shows all of a list whose items it shows. -/
theorem Segment.commas (reads : Readable write id valid (", " :: behind)) (apart : Apart [keyword, ", "] behind) :
    Segment (writeClause keyword write fun a => ", " ++ write a) id (fun as => ∀ a ∈ as, valid a)
      (keyword :: behind) behind := by
  have starts : Starts (fun a => ", " ++ write a) valid [", "] := fun a _ => ⟨", ", List.mem_cons_self, write a, rfl⟩
  refine (Segment.clause keyword reads (reads.after ", ") starts apart).map ?_
  intro as as' _ _ same
  cases as <;> cases as' <;> simp_all

end

/-! ## Words, names and numbers -/

/-- Words of which none is the start of another one are readable, whatever stands behind. -/
theorem readable_words {word : α → String} (all : List α) (complete : ∀ a, a ∈ all)
    (free : ∀ a ∈ all, ∀ b ∈ all, (word a).toList <+: (word b).toList → a = b) :
    Readable word id (fun _ => True) [""] := by
  intro a a' rest rest' _ _ _ _ same
  have equal : a = a' := by
    rcases prefix_or_prefix same with first | second
    · exact free a (complete a) a' (complete a') first
    · exact (free a' (complete a') a (complete a) second).symm
  subst equal
  exact ⟨rfl, (String.append_right_inj _).mp same⟩

theorem readable_text (text : String) (behind : List String) :
    Readable (fun _ : Unit => text) id (fun _ => True) behind :=
  (readable_words [()] (fun _ => List.mem_cons_self) fun _ _ _ _ _ => rfl).of_anything behind

/-- Every head starts with a letter that is none of these. -/
def Stops (letters : List Char) (heads : List String) : Prop := ∀ h ∈ heads, ∃ c ∈ h.toList.take 1, c ∉ letters

-- Named instances: characters are finitely many, and one that goes through all of them may be found first.
instance (letters : List Char) (heads : List String) : Decidable (Stops letters heads) :=
  @List.decidableBAll String _ (fun h => List.decidableBEx (· ∉ letters) (h.toList.take 1)) heads

/-- A text of some letters is readable before anything that starts with another letter. -/
theorem readable_run {letters : List Char} (stops : Stops letters behind) :
    Readable id id (fun s : String => ∀ c ∈ s.toList, c ∈ letters) behind := by
  have none {rest : String} (opens : Opens behind rest) : rest.toList.takeWhile (· ∈ letters) = [] := by
    rcases opens with rfl | ⟨h, member, tail, rfl⟩
    · rfl
    · obtain ⟨c, first, other⟩ := stops h member
      rw [String.toList_append]
      cases chars : h.toList with
      | nil => simp [chars] at first
      | cons d later =>
        simp only [chars, List.take_succ_cons, List.take_zero, List.mem_singleton] at first
        exact List.takeWhile_cons_of_neg (by simpa using first ▸ other)
  have letter {s rest : String} (all : ∀ c ∈ s.toList, c ∈ letters) (opens : Opens behind rest) :
      (s ++ rest).toList.takeWhile (· ∈ letters) = s.toList := by
    rw [String.toList_append, List.takeWhile_append_of_pos (by simpa using all), none opens, List.append_nil]
  intro a a' rest rest' all all' opens opens' same
  have equal : a = a' := by
    rw [← String.toList_inj, ← letter all opens, ← letter all' opens']
    exact congrArg (fun s : String => s.toList.takeWhile (· ∈ letters)) same
  subst equal
  exact ⟨rfl, (String.append_right_inj _).mp same⟩

namespace Text

def digits : List Char := ['0', '1', '2', '3', '4', '5', '6', '7', '8', '9']

theorem mem_digits_of_mem_decimal {n : Nat} {c : Char} (member : c ∈ decimal n) : c ∈ digits := by
  have single : ∀ d < 10, digitChar d ∈ digits := by decide
  obtain ⟨d, small, rfl⟩ := exists_of_mem_decimal member
  exact single d small

end Text

theorem readable_natText (stops : Stops Text.digits behind) :
    Readable Text.natText id (fun _ => True) behind := by
  refine ((readable_run stops).comap Text.natText ?_).map ?_
  · intro n _ c member
    rw [Text.natText, String.toList_ofList] at member
    exact Text.mem_digits_of_mem_decimal member
  · intro n n' _ _ same
    have decimals := congrArg (Text.digitsValue ∘ String.toList) same
    simpa [Text.natText, Text.digitsValue_decimal] using decimals

theorem segment_number {keyword : String} (stops : Stops Text.digits (keyword :: behind))
    (apart : Apart [keyword] behind) :
    Segment (fun n : Option Nat => writeAll (fun n => keyword ++ Text.natText n) n.toList) id (fun _ => True)
      (keyword :: behind) behind := by
  have starts : Starts (fun n => keyword ++ Text.natText n) (fun _ => True) [keyword] :=
    fun n _ => ⟨keyword, List.mem_cons_self, Text.natText n, rfl⟩
  have list := Segment.many ((readable_natText stops).after keyword) starts apart
  have optional : Segment _ _ (fun _ : Option Nat => True) (keyword :: behind) behind :=
    list.comap Option.toList fun _ _ _ _ => trivial
  refine optional.map ?_
  intro n n' _ _ same
  simpa using congrArg List.head? same

end SqlDraft
