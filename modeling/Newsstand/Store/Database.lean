import Newsstand.Store.Fault
import Newsstand.Store.Table

/-!
# Databases

A database is a list of tables, each of which has an index on its users. Tables and indexes share
one space of names, in which the case of ASCII letters does not count. Some names are words of the
query language and cannot be used, and some the database keeps for itself.
-/

namespace Newsstand

/-- The tables of a database. -/
abbrev Database := List Table

/-- A name without regard to the case of its letters. -/
def foldCase (name : String) : String :=
  name.map Char.toLower

/-- Whether two names are the same to a database. -/
def sameName (a b : String) : Bool :=
  foldCase a == foldCase b

/-- The words of the query language that cannot be names. -/
def reservedWords : List String := [
  "add", "all", "alter", "and", "as", "autoincrement", "between", "case", "check", "collate",
  "commit", "constraint", "create", "default", "deferrable", "delete", "distinct", "drop", "else",
  "escape", "except", "exists", "foreign", "from", "group", "having", "in", "index", "insert",
  "intersect", "into", "is", "isnull", "join", "limit", "not", "nothing", "notnull", "null", "on",
  "or", "order", "primary", "references", "returning", "select", "set", "table", "then", "to",
  "transaction", "union", "unique", "update", "using", "values", "when", "where"]

/-- Whether a name starts a table: a letter or a low line, and then digits too. -/
def isTableName (name : String) : Bool :=
  match name.toList with
  | [] => false
  | c :: cs => (c.isAlpha || c == '_') && cs.all fun c => c.isAlphanum || c == '_'

/-- The name of the index of a table. -/
def indexName (table : String) : String :=
  s!"idx_{table}_user"

namespace Database

/-- The table of a name. -/
def find? (d : Database) (name : String) : Option Table :=
  List.find? (sameName ·.name name) d

/-- Makes sure that there is a table of a name, with its index. -/
def require (d : Database) (name : String) : Except TableFault Database :=
  if reservedWords.contains (foldCase name) then .error (.reservedWord name)
  else if "sqlite_".toList.isPrefixOf (foldCase name).toList then .error (.internalName name)
  else if (d.find? name).isSome then .ok d
  else if d.any fun t => sameName (indexName t.name) name then .error (.indexExists name)
  else if (d.find? (indexName name)).isSome then .error (.tableExists (indexName name))
  else .ok (d ++ [⟨name, []⟩])

/-- Changes the table of a name. -/
def modify (d : Database) (name : String) (f : Table → Table) : Database :=
  d.map fun t => if sameName t.name name then f t else t

end Database

end Newsstand
