/-!
# Tables of subscriptions

One row for each user and URL, in the order in which the rows came in. A pair of a user and a URL is
in at most one row; adding it again leaves that row where it is.
-/

namespace Newsstand

/-- A user and a URL to which this user subscribes. -/
structure Subscription where
  user : String
  url : String
  deriving DecidableEq, Repr

/-- A table with its name and its rows, the oldest one first. -/
structure Table where
  name : String
  rows : List Subscription
  deriving DecidableEq, Repr

namespace Table

/-- The URLs of a user. -/
def urls (t : Table) (user : String) : List String :=
  (t.rows.filter (·.user == user)).map (·.url)

/-- Whether there is a row. -/
def holds (t : Table) (row : Subscription) : Bool :=
  t.rows.contains row

/-- Puts a row in unless it is there. -/
def insert (t : Table) (row : Subscription) : Table :=
  if t.holds row then t else { t with rows := t.rows ++ [row] }

/-- Takes a row out. -/
def delete (t : Table) (row : Subscription) : Table :=
  { t with rows := t.rows.filter (· != row) }

end Table

end Newsstand
