import Newsstand.Text.Blank
import Newsstand.Text.Quoted
import Newsstand.Text.Utf8
import Newsstand.Url.FeedUrl

/-!
# Faults of stores

Why a store refuses an operation: what was asked for is not valid, or the database cannot be used.
-/

namespace Newsstand

open Text

/-- Why a database cannot be reached. -/
inductive ConnectionFault where
  /-- The path is not well-formed after its percent signs are decoded. -/
  | malformedPath (breach : Utf8.Breach)
  /-- A parameter of the path has a value that is not known. -/
  | unknownValue (parameter value : String)
  /-- The path has a parameter that is not known. -/
  | unknownParameter (parameter : String)
  /-- The path holds the character zero. -/
  | zeroInPath
  /-- The path asks for a file system that is not known. -/
  | unknownFileSystem (name : String)
  /-- The path names a host. -/
  | unknownHost (name : String)
  /-- There is no file at the path and none can be made. -/
  | cannotOpen
  /-- The file at the path holds something else. -/
  | notDatabase
  deriving DecidableEq, Repr

/-- The wording of a fault that the database reports. -/
def databaseReport (code : Nat) (text : String) : String :=
  s!"error returned from database: (code: {code}) {text}"

/-- The wording of a fault. -/
def ConnectionFault.message : ConnectionFault → String
  | .malformedPath ⟨index, none⟩ =>
    s!"error with configuration: incomplete utf-8 byte sequence from index {index}"
  | .malformedPath ⟨index, some length⟩ =>
    s!"error with configuration: invalid utf-8 sequence of {length} bytes from index {index}"
  | .unknownValue parameter value =>
    s!"error with configuration: unknown value {quote value} for `{parameter}`"
  | .unknownParameter parameter =>
    s!"error with configuration: unknown query parameter `{parameter}` while parsing connection URL"
  | .zeroInPath =>
    "error communicating with database: filename passed to SQLite must not contain nul bytes"
  | .unknownFileSystem name => databaseReport 1 s!"no such vfs: {name}"
  | .unknownHost name => databaseReport 1 s!"invalid uri authority: {name}"
  | .cannotOpen => databaseReport 14 "unable to open database file"
  | .notDatabase => databaseReport 26 "file is not a database"

/-- Why a database does not take a table of some name. -/
inductive TableFault where
  /-- The name is a word of the query language. -/
  | reservedWord (name : String)
  /-- The name is one of those that the database keeps for itself. -/
  | internalName (name : String)
  /-- The name is that of an index. -/
  | indexExists (name : String)
  /-- The index of the table would have the name of another table. -/
  | tableExists (indexName : String)
  deriving DecidableEq, Repr

/-- The wording of a fault. -/
def TableFault.message : TableFault → String
  | .reservedWord name => databaseReport 1 s!"near \"{name}\": syntax error"
  | .internalName name => databaseReport 1 s!"object name reserved for internal use: {name}"
  | .indexExists name => databaseReport 1 s!"there is already an index named {name}"
  | .tableExists name => databaseReport 1 s!"there is already a table named {name}"

/-- Why a store refuses an operation. -/
inductive StoreFault where
  | blankUser
  | blankUrl
  /-- The URL is not that of a feed. -/
  | feedUrl (fault : FeedUrlFault)
  /-- The name of the table is not made of letters, digits and low lines. -/
  | tableName (name : String)
  | connection (fault : ConnectionFault)
  | table (fault : TableFault)
  /-- The store is closed. -/
  | closed
  deriving DecidableEq, Repr

/-- Whether a fault lies in what was asked for. -/
def StoreFault.isValidation : StoreFault → Bool
  | .blankUser => true
  | .blankUrl => true
  | .feedUrl _ => true
  | .tableName _ => true
  | .connection _ => false
  | .table _ => false
  | .closed => false

/-- The wording of the cause of a fault. -/
def StoreFault.cause : StoreFault → String
  | .blankUser => "user id must not be empty"
  | .blankUrl => "feed url must not be empty"
  | .feedUrl fault => fault.message
  | .tableName name => s!"invalid table name '{name}': expected [A-Za-z_][A-Za-z0-9_]*"
  | .connection fault => fault.message
  | .table fault => fault.message
  | .closed => "attempted to acquire a connection on a closed pool"

/-- The wording of a fault. -/
def StoreFault.message (fault : StoreFault) : String :=
  (if fault.isValidation then "Validation failed: " else "Subscription store unavailable: ")
    ++ fault.cause

/-- Checks that neither the user nor the URL of a change is blank. -/
def requireUserAndUrl (user url : String) : Except StoreFault Unit :=
  if isBlankString user then .error .blankUser
  else if isBlankString url then .error .blankUrl
  else .ok ()

end Newsstand
