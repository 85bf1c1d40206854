/-! # Drivers

The packages through which generated code talks to a database, the drivers under them, and what the
rest of the library has to know about a driver: how it takes lists, and how it spells a table. -/

namespace QueryBinding

/-- The package that generated code imports. -/
inductive Package where
  | databaseSql
  | pgxV4
  | pgxV5
deriving DecidableEq, Repr

def Package.all : List Package := [.databaseSql, .pgxV4, .pgxV5]

def Package.path : Package → String
  | .databaseSql => "database/sql"
  | .pgxV4 => "pgx/v4"
  | .pgxV5 => "pgx/v5"

def Package.label : Package → String
  | .databaseSql => "DatabaseSql"
  | .pgxV4 => "PgxV4"
  | .pgxV5 => "PgxV5"

/-- The driver that carries statements to the database. -/
inductive Driver where
  | libPq
  | pgxV4
  | pgxV5
  | mysql
deriving DecidableEq, Repr

def Driver.all : List Driver := [.libPq, .pgxV4, .pgxV5, .mysql]

def Driver.path : Driver → String
  | .libPq => "github.com/lib/pq"
  | .pgxV4 => "github.com/jackc/pgx/v4"
  | .pgxV5 => "github.com/jackc/pgx/v5"
  | .mysql => "github.com/go-sql-driver/mysql"

def Driver.label : Driver → String
  | .libPq => "LibPq"
  | .pgxV4 => "PgxV4"
  | .pgxV5 => "PgxV5"
  | .mysql => "GoSqlDriverMysql"

def Driver.isPgx : Driver → Bool
  | .pgxV4 | .pgxV5 => true
  | _ => false

/-- The driver that a package works with by itself. -/
def Package.driver : Package → Driver
  | .databaseSql => .libPq
  | .pgxV4 => .pgxV4
  | .pgxV5 => .pgxV5

/-- How a driver takes lists: by itself, or through a function that adapts them. -/
structure ArraySupport where
  native : Bool
  adapter : String
deriving DecidableEq, Repr

def ArraySupport.needsAdapter (a : ArraySupport) : Bool := !a.native

/-- Only the pgx drivers encode lists themselves. -/
def Driver.arrays (d : Driver) : ArraySupport := ⟨d.isPgx, "pq.Array"⟩

/-- How a driver's bulk interface wants a table to be spelled. -/
inductive Dialect where
  | postgresql
  | mysql
deriving DecidableEq, Repr

def Driver.dialect : Driver → Dialect
  | .mysql => .mysql
  | _ => .postgresql

end QueryBinding
