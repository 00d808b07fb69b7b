import Newsstand.Url.Host

/-!
# URLs

A URL as a record of its parts, and its written form. The parts hold their characters as they are
written, percent-encoded where they have to be.
-/

namespace Newsstand

/-- What a scheme says about the rest of its URLs. -/
inductive SchemeKind where
  | file
  | special
  | other
  deriving DecidableEq, Repr

/-- The kind of a scheme. -/
def SchemeKind.ofScheme (scheme : String) : SchemeKind :=
  if scheme = "file" then .file
  else if ["http", "https", "ws", "wss", "ftp"].contains scheme then .special
  else .other

/-- The port that a scheme uses if none is given. -/
def defaultPort? (scheme : String) : Option Nat :=
  if scheme = "http" ∨ scheme = "ws" then some 80
  else if scheme = "https" ∨ scheme = "wss" then some 443
  else if scheme = "ftp" then some 21
  else none

/-- The path of a URL: a list of segments, or, for URLs without a hierarchy, a bare text. -/
inductive UrlPath where
  | segments (list : List String)
  | bare (text : String)
  deriving DecidableEq, Repr

/-- The written form of a path. -/
def UrlPath.text : UrlPath → String
  | .segments list => String.join (list.map ("/" ++ ·))
  | .bare text => text

/-- A URL in its parts. -/
structure Url where
  scheme : String
  username : String
  password : String
  host? : Option Host
  port? : Option Nat
  path : UrlPath
  query? : Option String
  fragment? : Option String
  deriving DecidableEq, Repr

namespace Url

/-- The kind of the URL's scheme. -/
def kind (url : Url) : SchemeKind :=
  .ofScheme url.scheme

/-- The written user name and password, with the sign behind them. -/
def credentials (url : Url) : String :=
  if url.username = "" ∧ url.password = "" then ""
  else
    url.username ++ (if url.password = "" then "" else ":" ++ url.password) ++ "@"

/-- The written host with all that belongs to it. Where there is none, a path that starts with an
empty segment is kept from being taken for one. -/
def authority (url : Url) : String :=
  match url.host? with
  | some host =>
    "//" ++ url.credentials ++ host.text
      ++ (match url.port? with
        | some port => s!":{port}"
        | none => "")
  | none =>
    match url.path with
    | .segments ("" :: _ :: _) => "/."
    | _ => ""

/-- The written form of the URL up to its query. -/
def textBeforeQuery (url : Url) : String :=
  url.scheme ++ ":" ++ url.authority ++ url.path.text

/-- The written form of the URL up to its fragment. -/
def textBeforeFragment (url : Url) : String :=
  match url.query? with
  | some query => url.textBeforeQuery ++ "?" ++ query
  | none => url.textBeforeQuery

/-- The written form of the URL. -/
def text (url : Url) : String :=
  match url.fragment? with
  | some fragment => url.textBeforeFragment ++ "#" ++ fragment
  | none => url.textBeforeFragment

/-- The written host, if there is one that is not empty. -/
def hostText? (url : Url) : Option String :=
  (url.host?.map Host.text).filter (· ≠ "")

end Url

end Newsstand
