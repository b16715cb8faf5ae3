import ScatterGather.Error

/-!
# Schema — the logical tables

Tables are found by their name in lower case, columns by their name up to the case of ASCII
letters.  A table that is not there is an error, never an empty definition.
-/

namespace ScatterGather

/-- The declared type of a column. -/
inductive DataType where
  | smallInt
  | integer
  | real
  | numeric (precision scale : Nat)
  | text
  | varchar (maxLength : Nat)
  | char (length : Nat)
  | boolean
  | date
  | timestamp
  | timestampTz
  | uuid
  | json
  | bytea
  deriving DecidableEq

/-- The types whose order depends on the collation. -/
def DataType.isTextual : DataType → Bool
  | text | varchar _ | char _ => true
  | _ => false

/-- A column of a logical table. -/
structure Column where
  name : String
  type : DataType
  primaryKey : Bool
  /-- Filled by the database or a key generator rather than the client. -/
  generated : Bool
  /-- Compared without folding case. -/
  caseSensitive : Bool
  deriving DecidableEq

/-- A logical table. -/
structure Table where
  name : String
  columns : List Column
  indexes : List String
  deriving DecidableEq

namespace Table

/-- The position of a column. -/
def columnIndex? (t : Table) (name : String) : Option Nat :=
  t.columns.findIdx? fun c => Text.sameName c.name name

/-- The column of that name. -/
def column? (t : Table) (name : String) : Option Column :=
  t.columns.find? fun c => Text.sameName c.name name

/-- The names of the columns, as declared. -/
def columnNames (t : Table) : List String := t.columns.map (·.name)

end Table

/-- The tables by lower-case name. -/
structure Schema where
  tables : List (String × Table)
  deriving DecidableEq

namespace Schema

/-- A schema without tables. -/
def empty : Schema := ⟨[]⟩

/-- Adds a table; one of the same name gives way. -/
def add (s : Schema) (t : Table) : Schema :=
  let key := Text.lower t.name
  ⟨s.tables.filter (fun entry => entry.1 ≠ key) ++ [(key, t)]⟩

/-- The schema of these tables, later ones first to be found. -/
def ofTables (tables : List Table) : Schema := tables.foldl add empty

/-- The table of that name, in any case. -/
def find? (s : Schema) (name : String) : Option Table := s.tables.lookup (Text.lower name)

/-- The table of that name, or an error. -/
def get (s : Schema) (name : String) : Except Error Table :=
  match s.find? name with
  | some t => .ok t
  | none => .error (.tableNotFound name)

/-- Whether there is a table of that name. -/
def contains (s : Schema) (name : String) : Bool := (s.find? name).isSome

/-- The names of the tables. -/
def tableNames (s : Schema) : List String := s.tables.map (·.2.name)

end Schema

end ScatterGather
