import DigestSync.Store.Fault

set_option autoImplicit false

/-! # The schema of the table store

A database says in a table of its own which versions of the schema it has.
Bringing it up to date adds the tables of the current version in one go: if one
of their names is taken, none of them is added.
-/

namespace DigestSync

/-- What a database holds, as far as bringing it up to date is concerned. -/
structure Catalog where
  /-- The names of its tables, that of the versions left out. -/
  tables : List String
  /-- The versions it has, if there is a table of versions. -/
  versions : Option (List Nat)
deriving DecidableEq, Repr, Inhabited

namespace Catalog

/-- The version that the store works with. -/
def currentVersion : Nat := 1

/-- The name of the table of versions. -/
def versionTable : String := "schema_migrations"

/-- The tables of the current version. -/
def storeTables : List String := ["device_seq", "digest_log", "digest_snapshot", "fetch_tasks"]

/-- The index of the current version. -/
def storeIndex : String := "idx_digest_log_recorded"

/-- The name is taken; letter case does not matter. -/
def isTaken (catalog : Catalog) (name : String) : Bool :=
  catalog.tables.any fun other => other.toLower == name.toLower

/-- The highest version, zero if there is none. -/
def version (versions : List Nat) : Nat := versions.foldl max 0

/-- Bring a database up to date.  A table of versions is added even if the rest
fails. -/
def migrate (catalog : Catalog) : Except StoreFault Unit × Catalog :=
  if catalog.versions.isNone && catalog.isTaken versionTable then (.error .engine, catalog)
  else
    let versions := catalog.versions.getD []
    let opened := { catalog with versions := some versions }
    if UInt32.size ≤ version versions then (.error .engine, opened)
    else if currentVersion ≤ version versions then (.ok (), opened)
    else if (storeIndex :: storeTables).any opened.isTaken then (.error .engine, opened)
    else
      (.ok (),
        { tables := opened.tables ++ storeTables
          versions := some (versions ++ [currentVersion]) })

/-- Bring a database up to date several times. -/
def migrateTimes : Nat → Catalog → List (Except StoreFault Unit) × Catalog
  | 0, catalog => ([], catalog)
  | count + 1, catalog =>
    let (answer, catalog) := catalog.migrate
    let (answers, catalog) := migrateTimes count catalog
    (answer :: answers, catalog)

/-- The names of all tables. -/
def allTables (catalog : Catalog) : List String :=
  if catalog.versions.isSome then catalog.tables ++ [versionTable] else catalog.tables

end Catalog

end DigestSync
