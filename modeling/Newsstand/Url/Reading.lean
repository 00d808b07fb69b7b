import Newsstand.Url.Basic

/-!
# Reading URLs

A text is cut at its first number sign and at the first question mark before that. What is left
starts with a scheme or is relative to a base; it holds an authority, cut at its at sign, its
brackets and its colon, and a path, whose dot segments are resolved. Schemes of the `special` kind
take a backslash for a slash and always have a host.
-/

namespace Newsstand.Url

open Newsstand.Text

/-! ### Characters -/

/-- The characters that are encoded in a fragment. -/
def inFragmentSet (c : Char) : Bool :=
  Host.isControl c || [' ', '"', '<', '>', '`'].contains c

/-- The characters that are encoded in a path. -/
def inPathSet (c : Char) : Bool :=
  inFragmentSet c || ['#', '?', '\x7b', '\x7d'].contains c

/-- The characters that are encoded in a user name or a password. -/
def inUserSet (c : Char) : Bool :=
  inPathSet c || ['/', ':', ';', '=', '@', '[', '\\', ']', '^', '|'].contains c

/-- The characters that are encoded in a query. -/
def inQuerySet (kind : SchemeKind) (c : Char) : Bool :=
  Host.isControl c || [' ', '"', '#', '<', '>'].contains c || (kind != .other && c == '\'')

/-- The encoded text of some characters. -/
def encoded (set : Char → Bool) (cs : List Char) : String :=
  String.ofList (Percent.encode set cs)

/-- Whether a character separates the segments of a path. -/
def isSlash (kind : SchemeKind) (c : Char) : Bool :=
  c == '/' || (kind != .other && c == '\\')

/-- The text without the control characters and spaces at its ends and without the tabs and line
ends inside. -/
def cleaned (cs : List Char) : List Char :=
  let blank (c : Char) : Bool := c.toNat ≤ 0x20
  (dropEndWhile blank (cs.dropWhile blank)).filter fun c => c != '\t' && c != '\n' && c != '\r'

/-! ### Parts of the text -/

/-- The text before its query and fragment, and these two. -/
structure Pieces where
  body : List Char
  query? : Option (List Char)
  fragment? : Option (List Char)

/-- What follows the first `sep`, if there is one. -/
def behind? (sep : Char) (cs : List Char) : Option (List Char) :=
  match cs.dropWhile (· != sep) with
  | _ :: rest => some rest
  | [] => none

/-- Cuts off the fragment and the query. -/
def Pieces.ofText (cs : List Char) : Pieces :=
  let front := cs.takeWhile (· != '#')
  ⟨front.takeWhile (· != '?'), behind? '?' front, behind? '#' cs⟩

/-- The encoded query. -/
def Pieces.query (p : Pieces) (kind : SchemeKind) : Option String :=
  p.query?.map (encoded (inQuerySet kind))

/-- The encoded fragment. -/
def Pieces.fragment (p : Pieces) : Option String :=
  p.fragment?.map (encoded inFragmentSet)

/-- Whether a character may stand in a scheme behind its first one. -/
def inScheme (c : Char) : Bool :=
  c.isAlphanum || c == '+' || c == '-' || c == '.'

/-- Splits off a scheme, in small letters. -/
def splitScheme? (cs : List Char) : Option (String × List Char) :=
  match cs with
  | [] => none
  | c :: _ =>
    if c.isAlpha then
      match cs.dropWhile inScheme with
      | ':' :: rest => some (String.ofList ((cs.takeWhile inScheme).map Char.toLower), rest)
      | _ => none
    else none

/-! ### Paths -/

/-- Whether a segment stands for the one it is in. -/
def isSingleDot (segment : List Char) : Bool :=
  let s := segment.map Char.toLower
  s == ".".toList || s == "%2e".toList

/-- Whether a segment stands for the one above. -/
def isDoubleDot (segment : List Char) : Bool :=
  let s := segment.map Char.toLower
  s == "..".toList || s == ".%2e".toList || s == "%2e.".toList || s == "%2e%2e".toList

/-- Whether a segment names a drive, written with a colon or a vertical line. -/
def isDrive (segment : List Char) : Bool :=
  match segment with
  | [c, d] => c.isAlpha && (d == ':' || d == '|')
  | _ => false

/-- The segments without the last one; a drive stays. The last segment comes first. -/
def shorten (kind : SchemeKind) (done : List String) : List String :=
  match done with
  | last :: rest => if kind = .file ∧ isDrive last.toList then last :: rest else rest
  | [] => []

/-- The written form of a segment. -/
def segmentText (kind : SchemeKind) (segment : List Char) : String :=
  match segment with
  | [c, _] =>
    if kind = .file ∧ isDrive segment then String.ofList [c, ':'] else encoded inPathSet segment
  | _ => encoded inPathSet segment

/-- Resolves the segments of a path behind those that are done; these have the last one first. -/
def resolveSegments (kind : SchemeKind) (done : List String) : List (List Char) → List String
  | [] => done.reverse
  | segment :: rest =>
    let closing := if rest.isEmpty then [""] else []
    if isDoubleDot segment then resolveSegments kind (closing ++ shorten kind done) rest
    else if isSingleDot segment then resolveSegments kind (closing ++ done) rest
    else resolveSegments kind (segmentText kind segment :: done) rest

/-- The list without its leading empty segments, its last one apart. -/
def dropEmpty : List String → List String
  | "" :: next :: rest => dropEmpty (next :: rest)
  | segments => segments

/-- The path that a text without its first slash writes, behind the segments that are done. -/
def readPath (kind : SchemeKind) (done : List String) (cs : List Char) : UrlPath :=
  let text := if kind = .other then cs else cs.map fun c => if c = '\\' then '/' else c
  let segments := resolveSegments kind done (splitAtChar '/' text)
  .segments (if kind = .file then dropEmpty segments else segments)

/-- The path behind an authority. -/
def readPathFromSlash (kind : SchemeKind) (cs : List Char) : UrlPath :=
  match cs with
  | [] => if kind = .other then .segments [] else readPath kind [] []
  | c :: rest => if isSlash kind c then readPath kind [] rest else readPath kind [] (c :: rest)

/-! ### Authorities -/

/-- The user name and the password, encoded. -/
def readCredentials (cs : List Char) : String × String :=
  match behind? ':' cs with
  | some password => (encoded inUserSet (cs.takeWhile (· != ':')), encoded inUserSet password)
  | none => (encoded inUserSet cs, "")

/-- Splits an authority behind its last at sign. -/
def splitCredentials (cs : List Char) : Option (List Char) × List Char :=
  if cs.contains '@' then
    (some ((cs.reverse.dropWhile (· != '@')).drop 1).reverse,
      (cs.reverse.takeWhile (· != '@')).reverse)
  else (none, cs)

/-- Splits a host off, at the first colon outside brackets. -/
def splitHost (inBrackets : Bool) (done : List Char) : List Char → List Char × List Char
  | [] => (done.reverse, [])
  | c :: rest =>
    if c = ':' ∧ inBrackets = false then (done.reverse, c :: rest)
    else
      splitHost (if c = '[' then true else if c = ']' then false else inBrackets) (c :: done) rest

/-- Reads the port that follows a colon, up to a backslash; also gives what follows. A port that is
the scheme's own is none. -/
def readPort (scheme : String) (cs : List Char) : Except UrlFault (Option Nat × List Char) :=
  let digits := cs.takeWhile (· != '\\')
  let rest := cs.dropWhile (· != '\\')
  if digits.all Char.isDigit then
    let port := digits.foldl (fun n c => n * 10 + (c.toNat - 0x30)) 0
    if 65535 < port then .error .invalidPort
    else if digits = [] ∨ defaultPort? scheme = some port then .ok (none, rest)
    else .ok (some port, rest)
  else .error .invalidPort

/-- Reads the text behind the two slashes of an authority. -/
def readAuthority (scheme : String) (p : Pieces) (cs : List Char) : Except UrlFault Url := do
  let kind := SchemeKind.ofScheme scheme
  let front := cs.takeWhile (!isSlash kind ·)
  let path := cs.dropWhile (!isSlash kind ·)
  let (credentials?, rest) := splitCredentials front
  let more := !path.isEmpty || p.query?.isSome || p.fragment?.isSome
  if credentials? = some [] ∧ rest = [] ∧ more = true then throw .emptyHost
  let (username, password) := readCredentials (credentials?.getD [])
  let (hostText, portText) := splitHost false [] rest
  if kind = .special ∧ hostText = [] then throw .emptyHost
  let host ← if kind = .other then Host.readPlain hostText else Host.read hostText
  if hostText = [] ∧ portText ≠ [] then throw .emptyHost
  let (port?, rest) ←
    match portText with
    | _ :: digits => readPort scheme digits
    | [] => pure (none, [])
  if hostText = [] ∧ (username ≠ "" ∨ password ≠ "") then throw .emptyHost
  pure ⟨scheme, username, password, some host, port?, readPathFromSlash kind (rest ++ path),
    p.query kind, p.fragment⟩

/-! ### Files -/

/-- A URL of a file on a host. -/
def fileUrl (host : Host) (path : UrlPath) (p : Pieces) : Url :=
  ⟨"file", "", "", some host, none, path, p.query .file, p.fragment⟩

/-- Whether a text starts with a segment that names a drive. -/
def startsWithDrive (cs : List Char) : Bool :=
  isDrive (cs.takeWhile (!isSlash .file ·))

/-- The drive that the first segment of a path names. -/
def firstDrive? : UrlPath → Option String
  | .segments (first :: _) => if isDrive first.toList then some first else none
  | _ => none

/-- Whether some segment of a path names a drive. -/
def hasDrive : UrlPath → Bool
  | .segments list => list.any (isDrive ·.toList)
  | .bare _ => false

/-- The host that stands between the two slashes of a file URL and its path. -/
def readFileHost (cs : List Char) : Except UrlFault Host :=
  if cs = [] then .ok (.name "")
  else
    match Host.read cs with
    | .ok (.name name) => .ok (.name (if name = "localhost" then "" else name))
    | other => other

/-- Reads the text behind the two slashes of a file URL; a drive has no host. -/
def readFileAuthority (p : Pieces) (cs : List Char) : Except UrlFault Url :=
  let front := cs.takeWhile (!isSlash .file ·)
  if isDrive front then .ok (fileUrl (.name "") (readPath .file [] cs) p)
  else
    match readFileHost front with
    | .error fault => .error fault
    | .ok host =>
      let path := readPathFromSlash .file (cs.dropWhile (!isSlash .file ·))
      .ok (fileUrl (if hasDrive path then .name "" else host) path p)

/-- Reads the text behind the first slash of a file URL without an authority; it keeps the drive of
its base, or else the host. -/
def readFileRooted (base? : Option Url) (p : Pieces) (cs : List Char) : Url :=
  match if startsWithDrive cs then none else base? with
  | none => fileUrl (.name "") (readPath .file [] cs) p
  | some base =>
    match firstDrive? base.path with
    | some drive => fileUrl (.name "") (readPath .file [drive] cs) p
    | none => fileUrl (base.host?.getD (.name "")) (readPath .file [] cs) p

/-- Reads the path of a file URL that starts with no slash. -/
def readFileRelative (base? : Option Url) (p : Pieces) (cs : List Char) : Url :=
  match if startsWithDrive cs then none else base? with
  | none => fileUrl (.name "") (readPath .file [] cs) p
  | some base =>
    let done :=
      match base.path with
      | .segments list => shorten .file list.reverse
      | .bare _ => []
    fileUrl (base.host?.getD (.name "")) (readPath .file done cs) p

/-- Reads the body of a file URL; `base?` is a file URL that it may be relative to. -/
def readFile (base? : Option Url) (p : Pieces) : Except UrlFault Url :=
  match p.body with
  | [] =>
    match base? with
    | some base =>
      .ok { base with query? := (p.query .file).or base.query?, fragment? := p.fragment }
    | none => .ok (fileUrl (.name "") (readPath .file [] []) p)
  | c :: rest =>
    if isSlash .file c then
      if rest.head?.any (isSlash .file) then readFileAuthority p (rest.drop 1)
      else .ok (readFileRooted base? p rest)
    else .ok (readFileRelative base? p (c :: rest))

/-! ### Whole URLs -/

/-- Reads a body without a scheme relative to a base that has a hierarchy and names no file. -/
def readRelative (base : Url) (p : Pieces) : Except UrlFault Url :=
  let kind := base.kind
  let withPath (path : UrlPath) : Url :=
    { base with path, query? := p.query kind, fragment? := p.fragment }
  match p.body with
  | [] => .ok { base with query? := (p.query kind).or base.query?, fragment? := p.fragment }
  | c :: rest =>
    if c = '/' ∨ c = '\\' then
      match rest with
      | [] => .ok (withPath (readPath kind [] []))
      | d :: rest' =>
        if d = '/' ∨ d = '\\' then
          let behind := rest'.dropWhile fun e => e == '/' || e == '\\'
          readAuthority base.scheme p (if c = '/' ∧ d = '/' then rest' else behind)
        else .ok (withPath (readPath kind [] rest))
    else
      match base.path with
      | .segments list => .ok (withPath (readPath kind list.dropLast.reverse (c :: rest)))
      | .bare _ => .error .relativeToBarePath

/-- Reads the body behind a scheme that neither names files nor is special. -/
def readOther (scheme : String) (p : Pieces) : Except UrlFault Url :=
  let withoutHost (path : UrlPath) : Url :=
    ⟨scheme, "", "", none, none, path, p.query .other, p.fragment⟩
  match p.body with
  | '/' :: '/' :: rest => readAuthority scheme p rest
  | '/' :: rest => .ok (withoutHost (readPath .other [] rest))
  | body => .ok (withoutHost (.bare (encoded Host.isControl body)))

/-- Reads the text behind a scheme. -/
def readScheme (base? : Option Url) (scheme : String) (cs : List Char) : Except UrlFault Url :=
  let p := Pieces.ofText cs
  match SchemeKind.ofScheme scheme with
  | .file => readFile (base?.filter (·.scheme == "file")) p
  | .other => readOther scheme p
  | .special =>
    let slashes := p.body.takeWhile (isSlash .special)
    match base?.filter (·.scheme == scheme) with
    | some base =>
      if slashes.length < 2 then readRelative base p
      else readAuthority scheme p (p.body.dropWhile (isSlash .special))
    | none => readAuthority scheme p (p.body.dropWhile (isSlash .special))

/-- Reads a text without a scheme. -/
def readWithoutScheme (base? : Option Url) (cs : List Char) : Except UrlFault Url :=
  let p := Pieces.ofText cs
  match base? with
  | none => .error .relativeWithoutBase
  | some base =>
    match base.path with
    | .bare _ =>
      if cs.head? = some '#' then .ok { base with fragment? := p.fragment }
      else .error .relativeToBarePath
    | .segments _ => if base.kind = .file then readFile (some base) p else readRelative base p

/-- Reads a text as a URL, relative to a base if there is one. -/
def readWith (base? : Option Url) (cs : List Char) : Except UrlFault Url :=
  let cs := cleaned cs
  match splitScheme? cs with
  | some (scheme, rest) => readScheme base? scheme rest
  | none => readWithoutScheme base? cs

/-- Reads a text as an absolute URL. -/
def read (s : String) : Except UrlFault Url :=
  readWith none s.toList

/-- Reads a text as a URL relative to a base. -/
def join (base : Url) (s : String) : Except UrlFault Url :=
  readWith (some base) s.toList

end Newsstand.Url
