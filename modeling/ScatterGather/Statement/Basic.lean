import ScatterGather.Statement.Condition
import ScatterGather.Statement.OrderItem
import ScatterGather.Statement.Pagination
import ScatterGather.Statement.SelectList

/-!
# Statement/Basic — parsed statements

A `Statement` is what the SQL front end hands over: enough of a statement's shape to route it,
send it to the actual tables and merge its results.
-/

namespace ScatterGather

/-- A SELECT. -/
structure Select where
  tables : List String
  list : SelectList
  condition : Option Condition
  groupBy : List OrderItem
  orderBy : List OrderItem
  having : Option Condition
  pagination : Option Pagination
  /-- Takes row locks. -/
  lock : Bool
  subquery : Bool
  deriving DecidableEq

namespace Select

/-- Whether rows arrive in group order: GROUP BY and ORDER BY are the same. -/
def groupsInOrder (s : Select) : Bool := OrderItem.sameAll s.groupBy s.orderBy

/-- The window, if it limits anything. -/
def window? (s : Select) : Option Pagination := s.pagination.filter Pagination.isPresent

end Select

/-- An INSERT of value rows, or of the rows of a SELECT. -/
structure Insert where
  table : String
  /-- The declared columns; none declared means all, in schema order. -/
  columns : List String
  values : List (List Expression)
  select : Option Select
  /-- The assignments of ON DUPLICATE KEY UPDATE. -/
  onDuplicate : List (String × Expression)
  deriving DecidableEq

/-- An UPDATE. -/
structure Update where
  tables : List String
  assignments : List (String × Expression)
  condition : Option Condition
  limit : Option Nat
  deriving DecidableEq

/-- A DELETE. -/
structure Delete where
  tables : List String
  condition : Option Condition
  limit : Option Nat
  deriving DecidableEq

/-- The kinds of schema changes. -/
inductive DdlKind where
  | createTable
  | alterTable
  | dropTable
  | truncateTable
  | createIndex
  | dropIndex
  | createView
  deriving DecidableEq

/-- A schema change. -/
structure Ddl where
  kind : DdlKind
  tables : List String
  index : Option String
  deriving DecidableEq

/-- A statement. -/
inductive Statement where
  | select (s : Select)
  | insert (s : Insert)
  | update (s : Update)
  | delete (s : Delete)
  | ddl (s : Ddl)
  /-- An administrative command. -/
  | dal (command : String)
  deriving DecidableEq

namespace Statement

/-- The names whose lower case has not come before, `seen` being the lower cases so far. -/
def distinctNames (seen : List String) : List String → List String
  | [] => []
  | name :: rest =>
    let key := Text.lower name
    if key ∈ seen then distinctNames seen rest else name :: distinctNames (key :: seen) rest

/-- The tables as the statement names them, repetitions included. -/
def namedTables : Statement → List String
  | select s => s.tables
  | insert s => s.table :: (s.select.map Select.tables).getD []
  | update s => s.tables
  | delete s => s.tables
  | ddl s => s.tables
  | dal _ => []

/-- The tables of a statement, each once, whatever the case of its name. -/
def tables (s : Statement) : List String := distinctNames [] s.namedTables

/-- Whether the statement reads or changes rows. -/
def isDml : Statement → Bool
  | select _ | insert _ | update _ | delete _ => true
  | ddl _ | dal _ => false

/-- Whether the statement is a SELECT. -/
def isSelect : Statement → Bool
  | select _ => true
  | _ => false

/-- The WHERE clause. -/
def condition? : Statement → Option Condition
  | select s => s.condition
  | update s => s.condition
  | delete s => s.condition
  | _ => none

/-- Whether the statement is a SELECT with row locks. -/
def locks : Statement → Bool
  | select s => s.lock
  | _ => false

/-- Whether the statement contains another one. -/
def hasSubquery : Statement → Bool
  | select s => s.subquery
  | insert s => s.select.isSome
  | _ => false

end Statement

/-- A statement with its SQL text and bound parameters. -/
structure LogicSql where
  statement : Statement
  sql : String
  parameters : List Value
  deriving DecidableEq

end ScatterGather
