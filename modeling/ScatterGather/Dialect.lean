/-!
# Dialect — the SQL dialects of the databases

Dialects fall into families that page alike: `trunk` is the member that stands for its family.
-/

namespace ScatterGather

/-- The SQL dialect of the physical databases. -/
inductive Dialect where
  | mySQL
  | mariaDB
  | h2
  | postgreSQL
  | openGauss
  | oracle
  | sqlServer
  | sql92
  deriving DecidableEq

namespace Dialect

/-- The dialect whose paging syntax this one shares. -/
def trunk : Dialect → Dialect
  | mariaDB | h2 => mySQL
  | openGauss => postgreSQL
  | d => d

/-- The name of the dialect. -/
def name : Dialect → String
  | mySQL => "MySQL"
  | mariaDB => "MariaDB"
  | h2 => "H2"
  | postgreSQL => "PostgreSQL"
  | openGauss => "openGauss"
  | oracle => "Oracle"
  | sqlServer => "SQLServer"
  | sql92 => "SQL92"

/-- Every dialect. -/
def all : List Dialect :=
  [mySQL, mariaDB, h2, postgreSQL, openGauss, oracle, sqlServer, sql92]

/-- The dialect of that name. -/
def ofName? (name : String) : Option Dialect := all.find? fun d => d.name = name

/-- How a dialect pages rows. -/
inductive Paging where
  | limit
  | rowNumber
  | top
  | none
  deriving DecidableEq

/-- The paging of a dialect: LIMIT with OFFSET, ROWNUM, TOP with ROW_NUMBER, or nothing known. -/
def paging (d : Dialect) : Paging :=
  match d.trunk with
  | mySQL | postgreSQL => .limit
  | oracle => .rowNumber
  | sqlServer => .top
  | _ => .none

end Dialect

end ScatterGather
