import SqlDraft.Text.Digits
import SqlDraft.Text.Utf8
import SqlDraft.Value

/-!
# Where a database is

The text that says where a database is. It is a path, or behind the mark `file:` a path with a host in
front of it and parameters behind it, where a byte may be spelled by two hexadecimal digits behind a
percent sign. The parameters ask for a way of access, and each may only narrow what the ones before it
left. A database in memory or without a path can always be opened; every other is a file that is created in
the folder at hand.
-/

namespace SqlDraft

/-- What may be done with a database. -/
inductive Access
  | read
  | write
  /-- Reading, writing, and creating a file that is not there. -/
  | create
  /-- Everything, on a database in memory that no path leads to. -/
  | memory
  deriving DecidableEq

namespace Access

/-- The access with a name. -/
def read? : String → Option Access
  | "ro" => some read
  | "rw" => some write
  | "rwc" => some create
  | "memory" => some memory
  | _ => none

/-- The place of an access among those that include one another. -/
def rank : Access → Nat
  | read => 0
  | write => 1
  | create => 2
  | memory => 3

/-- Whether one access may be asked for where another is granted. One to memory always may. -/
def allows (granted asked : Access) : Bool := asked == memory || asked.rank ≤ granted.rank

end Access

/-- Why a database cannot be opened. -/
inductive LocationError
  /-- A zero in the text, with the number of bytes before it. -/
  | zero (position : Nat)
  | foreignHost (host : String)
  | unknownSharing (name : String)
  | unknownAccess (name : String)
  | widerAccess (name : String)
  | unknownSystem (name : String)
  | unopened (location : String)
  deriving DecidableEq

def LocationError.message : LocationError → String
  | zero position => "nul byte found in provided data at position: " ++ Text.natText position
  | foreignHost host => "invalid uri authority: " ++ host
  | unknownSharing name => "no such cache mode: " ++ name
  | unknownAccess name => "no such access mode: " ++ name
  | widerAccess name => "access mode not allowed: " ++ name
  | unknownSystem name => "no such vfs: " ++ name
  | unopened location => "unable to open database file: " ++ location

/-- Where a database is and what may be done with it. -/
structure Location where
  path : Bytes
  access : Access := .create
  /-- The name of the file system that the path belongs to. -/
  system : String := "unix"
  deriving DecidableEq

namespace Location

/-! ## Marked texts -/

/-- A character behind the mark: one that stands for itself, or a byte that is spelled by its digits.
A spelled byte never parts anything. -/
inductive Letter
  | plain (c : Char)
  | spelled (b : UInt8)
  deriving DecidableEq

/-- The bytes of a letter. -/
def Letter.bytes : Letter → Bytes
  | plain c => String.utf8EncodeChar c
  | spelled b => [b]

/-- The letters of a text. -/
def letters : List Char → List Letter
  | [] => []
  | '%' :: a :: b :: rest =>
    match Text.hexValue? a, Text.hexValue? b with
    | some high, some low => .spelled (UInt8.ofNat (16 * high + low)) :: letters rest
    | _, _ => .plain '%' :: letters (a :: b :: rest)
  | c :: rest => .plain c :: letters rest

/-- The letters before the first mark of a kind, and those behind it. -/
def cutAt (mark : Char) (s : List Letter) : List Letter × List Letter :=
  (s.takeWhile (· ≠ .plain mark), (s.dropWhile (· ≠ .plain mark)).drop 1)

/-- The bytes that letters spell. A spelled zero ends them. -/
def bytesOf (s : List Letter) : Bytes := (s.takeWhile (· ≠ .spelled 0)).flatMap Letter.bytes

/-- The text that letters spell. -/
def textOf (s : List Letter) : String := String.ofList (Text.ofUtf8 (bytesOf s))

/-- The names and values of parameters. A parameter without a name does not count. -/
def parameters (s : List Letter) : List (String × String) :=
  let pairs := (s.splitOn (.plain '&')).map fun part =>
    let (name, value) := cutAt '=' part
    (textOf name, textOf value)
  pairs.filter fun p => p.1 != ""

/-- A location that a parameter changes. Parameters with other names have no meaning. -/
def adjust (l : Location) (parameter : String × String) : Except LocationError Location :=
  let (name, value) := parameter
  if name = "vfs" then .ok { l with system := value }
  else if name = "cache" then
    if value = "shared" ∨ value = "private" then .ok l else .error (.unknownSharing value)
  else if name = "mode" then
    match Access.read? value with
    | some access => if l.access.allows access then .ok { l with access } else .error (.widerAccess value)
    | none => .error (.unknownAccess value)
  else .ok l

/-- The text behind a host. Only this computer is known. -/
def behindHost : List Char → Except LocationError (List Char)
  | '/' :: '/' :: rest =>
    let host := rest.takeWhile (· ≠ '/')
    if host = [] ∨ host = "localhost".toList then .ok (rest.dropWhile (· ≠ '/'))
    else .error (.foreignHost (String.ofList host))
  | s => .ok s

/-- Reads what stands behind the mark. A number sign ends it. -/
def ofMarked (s : List Char) : Except LocationError Location := do
  let rest ← behindHost s
  let (path, behind) := cutAt '?' (letters (rest.takeWhile (· ≠ '#')))
  (parameters behind).foldlM adjust { path := bytesOf path }

/-- Reads a location. -/
def read (s : List Char) : Except LocationError Location :=
  let before := s.takeWhile (· ≠ '\x00')
  if before.length < s.length then .error (.zero (Text.utf8 before).length)
  else
    match s with
    | 'f' :: 'i' :: 'l' :: 'e' :: ':' :: rest => ofMarked rest
    | _ => .ok { path := Text.utf8 s }

/-! ## Opening -/

/-- The names of the file systems that there are. The last one has its files in memory. -/
def systems : List String := ["unix", "unix-none", "unix-dotfile", "unix-excl", "memdb"]

/-- The names on the way to a place, the last one first, with one part of a path added. Names are not
longer than a folder allows. -/
def enter (names : List Bytes) (part : Bytes) : Option (List Bytes) :=
  if part = [] ∨ part = Text.utf8 ['.'] then some names
  else if part = Text.utf8 ['.', '.'] then
    match names with
    | [] => none
    | _ :: up => some up
  else if part.length ≤ 255 then some (part :: names)
  else none

/-- The names on the way from the folder at hand to where a path leads, if it stays inside. -/
def names? (path : Bytes) : Option (List Bytes) :=
  if path.head? = some 0x2f then none else (path.splitOn 0x2f).foldlM enter []

/-- Whether a database is in memory, or in a file that no path leads to. -/
def isHeld (l : Location) : Bool :=
  l.access == .memory || l.system == "memdb" || l.path == [] || l.path == Text.utf8 ":memory:".toList

/-- Whether the database can be opened: a file must lie right in the folder at hand, which has no folders
in it, and must be one that may be created. -/
def opens (l : Location) : Bool :=
  l.isHeld || (l.access == .create && (names? l.path).any fun names => names.length == 1)

/-- Reads where a database is and checks that it can be opened. -/
def find (database : String) : Except LocationError Location := do
  let l ← read database.toList
  if !systems.contains l.system then throw (.unknownSystem l.system)
  if !l.opens then throw (.unopened database)
  return l

end Location
end SqlDraft
