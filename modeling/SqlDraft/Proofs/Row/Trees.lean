import SqlDraft.Proofs.Row.Columns
import SqlDraft.Row.User

/-!
# Trees of rows and typed reading

Data can be read of the columns of a row, where many forms are accepted, or of the members of its tree, where a number is a
number and a text is a text. What the tree is read as the column is read as too, whatever the type, unless the value is a
floating-point number that no tree holds (`tree_read_of_column`).
-/

namespace SqlDraft

/-! ## What trees are read as -/

namespace Json

variable {tree : Json}

theorem integer?_eq_some_iff {low high z : Int} :
    tree.integer? low high = some z ↔ ∃ n : Int64, tree = .int n ∧ (low ≤ n.toInt ∧ n.toInt ≤ high) ∧ n.toInt = z := by
  cases tree with
  | int n => simp [integer?]
  | _ => simp [integer?]

theorem ofJson?_int64_eq_some_iff {n : Int64} : ofJson? tree = some n ↔ tree = .int n := by
  cases tree <;> simp [ofJson?]

theorem ofJson?_bool_eq_some_iff {b : Bool} : ofJson? tree = some b ↔ tree = .bool b := by
  cases tree <;> simp [ofJson?]

theorem ofJson?_text_eq_some_iff {s : String} : ofJson? tree = some s ↔ tree = .text s := by
  cases tree <;> simp [ofJson?]

theorem ofJson?_float_eq_some_iff {x : Binary64} :
    ofJson? tree = some x ↔ tree = .float x ∨ ∃ n : Int64, tree = .int n ∧ Binary64.ofInt n.toInt = x := by
  cases tree <;> simp [ofJson?]

theorem ofJson?_list_eq_some_iff {α : Type} [OfJson α] {as : List α} :
    ofJson? tree = some as ↔ ∃ items, tree = .list items ∧ items.mapM ofJson? = some as := by
  cases tree <;> simp [ofJson?]

theorem ofJson?_option {α : Type} [OfJson α] (notNull : tree ≠ .null) :
    (ofJson? tree : Option (Option α)) = (ofJson? tree).map some := by
  cases tree with
  | null => exact absurd rfl notNull
  | _ => rfl

end Json

/-! ## Which values have a tree -/

namespace Value

variable {v : Value}

/-- A value that is no floating-point number out of the reach of trees. -/
def Held (v : Value) : Prop := ∀ x, v = .float x → x.isFinite = true

theorem toJson_float (x : Binary64) : (Value.float x).toJson = if x.isFinite then .float x else .null := rfl

theorem toJson_eq_int_iff {n : Int64} : v.toJson = .int n ↔ v = .int n := by
  cases v with
  | float x => rw [toJson_float]; split <;> simp
  | _ => simp [toJson]

theorem toJson_eq_bool_iff {b : Bool} : v.toJson = .bool b ↔ v = .bool b := by
  cases v with
  | float x => rw [toJson_float]; split <;> simp
  | _ => simp [toJson]

theorem toJson_eq_float_iff {x : Binary64} : v.toJson = .float x ↔ v = .float x ∧ x.isFinite = true := by
  cases v with
  | float y =>
    rw [toJson_float, float.injEq]
    by_cases finite : y.isFinite = true
    · rw [if_pos finite, Json.float.injEq]
      constructor
      · rintro rfl
        exact ⟨rfl, finite⟩
      · exact And.left
    · rw [if_neg finite]
      constructor
      · rintro ⟨⟩
      · rintro ⟨rfl, held⟩
        exact absurd held finite
  | _ => simp [toJson]

theorem toJson_eq_text_iff {s : String} :
    v.toJson = .text s ↔ v = .text s ∨ v = .raw s ∨ ∃ t : Calendar.Timestamp, v = .timestamp t ∧ t.text = s := by
  cases v with
  | float x => rw [toJson_float]; split <;> simp
  | _ => simp [toJson]

theorem toJson_eq_list_iff {items : List Json} :
    v.toJson = .list items ↔ ∃ bs : Bytes, v = .bytes bs ∧ bs.map (fun b => Json.int (Int64.ofNat b.toNat)) = items := by
  cases v with
  | float x => rw [toJson_float]; split <;> simp
  | _ => simp [toJson]

theorem toJson_eq_null_iff (held : v.Held) : v.toJson = .null ↔ v = .null := by
  cases v with
  | float x => simp [toJson_float, held x rfl]
  | _ => simp [toJson]

/-! ## Agreement of the two readings -/

/-- Whatever data of a type the tree of a value holds is read of the value. -/
def AgreesAs (v : Value) (α : Type) [OfJson α] [OfValue α] : Prop :=
  ∀ a : α, ofJson? v.toJson = some a → ofValue v = .ok a

theorem agreesAs_int64 (v : Value) : v.AgreesAs Int64 := by
  intro n read
  obtain rfl := toJson_eq_int_iff.mp (Json.ofJson?_int64_eq_some_iff.mp read)
  rfl

theorem agreesAs_int32 (v : Value) : v.AgreesAs Int32 := by
  intro m read
  obtain ⟨z, inside, rfl⟩ := Option.map_eq_some_iff.mp read
  obtain ⟨n, tree, ⟨low, high⟩, rfl⟩ := Json.integer?_eq_some_iff.mp inside
  obtain rfl := toJson_eq_int_iff.mp tree
  have fits : -0x80000000 ≤ n.toInt ∧ n.toInt < 0x80000000 := by omega
  have narrowed : (ofValue (.int n) : Except DecodeCause Int32) = .ok n.toInt32 := if_pos fits
  rw [narrowed]
  rfl

theorem agreesAs_uint64 (v : Value) : v.AgreesAs UInt64 := by
  intro m read
  obtain ⟨z, inside, rfl⟩ := Option.map_eq_some_iff.mp read
  obtain ⟨n, tree, ⟨low, _⟩, rfl⟩ := Json.integer?_eq_some_iff.mp inside
  obtain rfl := toJson_eq_int_iff.mp tree
  have narrowed : (ofValue (.int n) : Except DecodeCause UInt64) = .ok n.toUInt64 := if_pos low
  have number : n.toUInt64.toNat = n.toInt.toNat := Int64.toNat_toUInt64_of_le (Int64.le_iff_toInt_le.mpr low)
  rw [narrowed, ← number, UInt64.ofNat_toNat]

theorem agreesAs_bool (v : Value) : v.AgreesAs Bool := by
  intro b read
  obtain rfl := toJson_eq_bool_iff.mp (Json.ofJson?_bool_eq_some_iff.mp read)
  rfl

theorem agreesAs_text (v : Value) : v.AgreesAs String := by
  intro s read
  obtain rfl | rfl | ⟨t, rfl, rfl⟩ := toJson_eq_text_iff.mp (Json.ofJson?_text_eq_some_iff.mp read) <;> rfl

theorem agreesAs_float (v : Value) : v.AgreesAs Binary64 := by
  intro x read
  obtain tree | ⟨n, tree, rfl⟩ := Json.ofJson?_float_eq_some_iff.mp read
  · obtain ⟨rfl, -⟩ := toJson_eq_float_iff.mp tree
    rfl
  · obtain rfl := toJson_eq_int_iff.mp tree
    rfl

theorem ofJson?_byte (b : UInt8) : ofJson? (Json.int (Int64.ofNat b.toNat)) = some b := by
  have bound := b.toNat_lt
  have number : (Int64.ofNat b.toNat).toInt = b.toNat := Int64.toInt_ofNat_of_lt (by omega)
  have inside : (Json.int (Int64.ofNat b.toNat)).integer? 0 255 = some (b.toNat : Int) := by
    rw [Json.integer?, number, if_pos (by omega)]
  show ((Json.int (Int64.ofNat b.toNat)).integer? 0 255).map (fun n => UInt8.ofNat n.toNat) = some b
  rw [inside, Option.map_some, Int.toNat_natCast, UInt8.ofNat_toNat]

theorem mapM_ofJson?_bytes (bs : Bytes) :
    (bs.map fun b => Json.int (Int64.ofNat b.toNat)).mapM ofJson? = some bs := by
  induction bs with
  | nil => rfl
  | cons b rest ih => simp [ofJson?_byte, ih]

theorem agreesAs_bytes (v : Value) : v.AgreesAs Bytes := by
  intro bs read
  obtain ⟨items, tree, items_read⟩ := Json.ofJson?_list_eq_some_iff.mp read
  obtain ⟨own, rfl, rfl⟩ := toJson_eq_list_iff.mp tree
  rw [mapM_ofJson?_bytes] at items_read
  obtain rfl := Option.some.inj items_read
  rfl

/-- Null is missing data on both sides, and the tree of a value is null for no other reason. -/
theorem AgreesAs.option {α : Type} [OfJson α] [OfValue α] (agrees : v.AgreesAs α) (held : v.Held) :
    v.AgreesAs (Option α) := by
  intro a read
  by_cases isNull : v = .null
  · subst isNull
    cases read
    rfl
  · have tree : v.toJson ≠ .null := mt (toJson_eq_null_iff held).mp isNull
    rw [Json.ofJson?_option tree] at read
    obtain ⟨b, present, rfl⟩ := Option.map_eq_some_iff.mp read
    rw [ofValue_option isNull, agrees b present]
    rfl

end Value

namespace Row

/-- Whatever data of a type the tree of a row holds for a column is read of the column. -/
def AgreesAs (r : Row) (column : String) (α : Type) [OfJson α] [OfValue α] : Prop :=
  ∀ a : α, (r.toJson.member? column).bind ofJson? = some a → r.read column = .ok a

/-- The tree of a row and a column agree for data that must be there and for data that may be missing. -/
def Agrees (r : Row) (column : String) (α : Type) [OfJson α] [OfValue α] : Prop :=
  r.AgreesAs column α ∧ r.AgreesAs column (Option α)

/-- The tree of a row and a column agree whatever type is asked for. -/
structure TreeAgrees (r : Row) (column : String) : Prop where
  int64 : r.Agrees column Int64
  int32 : r.Agrees column Int32
  uint64 : r.Agrees column UInt64
  bool : r.Agrees column Bool
  text : r.Agrees column String
  float : r.Agrees column Binary64
  bytes : r.Agrees column Bytes

variable {r : Row} {column : String} {v : Value} {α : Type} [OfJson α] [OfValue α]

theorem agreesAs_iff (here : r.get? column = some v) : r.AgreesAs column α ↔ v.AgreesAs α := by
  have tree : r.toJson.member? column = some v.toJson := by rw [member?_toJson, here, Option.map_some]
  have same (a : α) : r.read column = .ok a ↔ ofValue v = .ok a := by
    simp [r.read_eq_ok_iff, here]
  simp only [AgreesAs, Value.AgreesAs, tree, Option.bind_some, same]

theorem agreesAs_of_values (agrees : ∀ v : Value, v.AgreesAs α) : r.AgreesAs column α := by
  cases here : r.get? column with
  | none =>
    intro a read
    rw [member?_toJson, here] at read
    cases read
  | some v => exact (agreesAs_iff here).mpr (agrees v)

theorem agrees_of_value (here : r.get? column = some v) (held : v.Held) (agrees : v.AgreesAs α) : r.Agrees column α :=
  ⟨(agreesAs_iff here).mpr agrees, (agreesAs_iff here).mpr (agrees.option held)⟩

theorem treeAgrees_iff (here : r.get? column = some v) : r.TreeAgrees column ↔ v.Held := by
  constructor
  · rintro agrees x rfl
    cases finite : x.isFinite with
    | true => rfl
    | false =>
      have isNull : (Value.float x).toJson = .null := by simp [Value.toJson_float, finite]
      have read : ofValue (.float x) = .ok (none : Option Binary64) :=
        (agreesAs_iff here).mp agrees.float.2 none (by rw [isNull]; rfl)
      cases read
  · intro held
    exact {
      int64 := agrees_of_value here held v.agreesAs_int64
      int32 := agrees_of_value here held v.agreesAs_int32
      uint64 := agrees_of_value here held v.agreesAs_uint64
      bool := agrees_of_value here held v.agreesAs_bool
      text := agrees_of_value here held v.agreesAs_text
      float := agrees_of_value here held v.agreesAs_float
      bytes := agrees_of_value here held v.agreesAs_bytes }

end Row

/-! ## Users -/

theorem User.ofTree?_eq_some {tree t : Json} {user : User} (scored : tree.member? "score" = some t)
    (read : User.ofTree? tree = some user) :
    (tree.member? "id").bind ofJson? = some user.id ∧ (tree.member? "name").bind ofJson? = some user.name ∧
      ofJson? t = some user.score := by
  unfold User.ofTree? at read
  simp only [scored, Option.bind_eq_bind, Option.bind_eq_some_iff, Option.pure_def, Option.some.injEq] at read
  obtain ⟨id, isId, name, isName, score, isScore, rfl⟩ := read
  exact ⟨Option.bind_eq_some_iff.mpr isId, Option.bind_eq_some_iff.mpr isName, isScore⟩

theorem User.ofColumns_of_ofRowTree {r : Row} {user : User} {v : Value} (here : r.get? "score" = some v) (held : v.Held)
    (read : User.ofRowTree r = .ok user) : User.ofColumns r = .ok user := by
  have scored : r.toJson.member? "score" = some v.toJson := by rw [Row.member?_toJson, here, Option.map_some]
  have tree : User.ofTree? r.toJson = some user := by
    unfold User.ofRowTree at read
    split at read
    · next found => rw [found, Except.ok.inj read]
    · cases read
  obtain ⟨isId, isName, isScore⟩ := User.ofTree?_eq_some scored tree
  have id : r.read "id" = .ok user.id := Row.agreesAs_of_values Value.agreesAs_int64 user.id isId
  have name : r.read "name" = .ok user.name := Row.agreesAs_of_values Value.agreesAs_text user.name isName
  have score : r.read "score" = .ok user.score := by
    refine (Row.treeAgrees_iff here).mpr held |>.float.2 user.score ?_
    rw [scored, Option.bind_some, isScore]
  unfold User.ofColumns
  rw [id, name, score]
  rfl

/-- Whatever type is asked for, a column is read as what the tree of the row says of it, exactly if its value is no
floating-point number out of the reach of trees; and a user that the tree of a row holds is read of the columns. -/
theorem tree_read_of_column :
    (∀ (r : Row) (column : String) (v : Value), r.get? column = some v →
      (r.TreeAgrees column ↔ ∀ x, v = .float x → x.isFinite = true)) ∧
    ∀ (r : Row) (v : Value) (user : User), r.get? "score" = some v → (∀ x, v = .float x → x.isFinite = true) →
      User.ofRowTree r = .ok user → User.ofColumns r = .ok user :=
  ⟨fun _ _ _ here => Row.treeAgrees_iff here, fun _ _ _ here held read => User.ofColumns_of_ofRowTree here held read⟩

-- The last of three numbers counts, and the name is an expression.
theorem tree_read_of_column_repeated :
    let r := Row.ofColumns ["id", "id", "score", "name", "id"] [.text "1", .int 2, .int 5, .raw "now()", .int 3]
    let user : User := ⟨3, "now()", some (Binary64.ofInt 5)⟩
    (r.get? "score" = some (.int 5) ∧ (∀ x, Value.int 5 = .float x → x.isFinite = true) ∧ User.ofRowTree r = .ok user) ∧
      r.TreeAgrees "score" ∧ User.ofColumns r = .ok user := by
  intro r user
  have here : r.get? "score" = some (.int 5) := by decide
  have held : ∀ x, Value.int 5 = .float x → x.isFinite = true := by rintro x ⟨⟩
  have read : User.ofRowTree r = .ok user := by rfl
  exact ⟨⟨here, held, read⟩, (tree_read_of_column.1 r "score" (.int 5) here).mpr held,
    tree_read_of_column.2 r (.int 5) user here held read⟩

end SqlDraft
