/-!
# Subscriptions in memory

For every user the URLs in the order in which they were added. A URL is listed once.
-/

namespace Newsstand

/-- The URLs of each user. -/
abbrev Listings := List (String × List String)

namespace Listings

/-- The URLs of a user; someone unknown has none. -/
def urls (l : Listings) (user : String) : List String :=
  (List.lookup user l).getD []

/-- The listings with other URLs for a user. -/
def put (l : Listings) (user : String) (urls : List String) : Listings :=
  if (List.lookup user l).isSome then
    l.map fun (name, old) => if name == user then (name, urls) else (name, old)
  else l ++ [(user, urls)]

/-- Adds a URL behind the others of a user unless it is there. -/
def add (l : Listings) (user url : String) : Listings :=
  let old := l.urls user
  l.put user (if old.contains url then old else old ++ [url])

/-- Removes a URL of a user. -/
def remove (l : Listings) (user url : String) : Listings :=
  if (List.lookup user l).isSome then l.put user ((l.urls user).filter (· != url)) else l

end Listings

end Newsstand
