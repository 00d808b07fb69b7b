import Newsstand.Text.Percent
import Newsstand.Url.Reading

/-!
# Requests

A request asks for the document at a URL and says who asks. Not every URL can be asked for: the
scheme has to be `http` or `https`, the host may hold no quotes and braces, and the whole text may
not be too long. Credentials are not part of the request's URL.
-/

namespace Newsstand

open Text

/-- A request: the URL without its fragment, and the name of the client. -/
structure Request where
  url : String
  agent : String
  deriving DecidableEq, Repr

/-- The line that stands for a request. -/
def Request.text (r : Request) : String :=
  s!"GET {r.url} {r.agent}"

/-- Why a request is not made or not answered. -/
inductive RequestFault where
  /-- The text is no URL. -/
  | notUrl
  /-- The URL cannot be asked for. -/
  | unsupported (url : String)
  /-- Nothing comes back. -/
  | unanswered (url : String)
  /-- There are too many redirects. -/
  | tooManyRedirects (url : String)
  /-- The body breaks off. -/
  | brokenBody
  deriving DecidableEq, Repr

/-- The wording of a fault. -/
def RequestFault.message : RequestFault → String
  | .notUrl => "builder error"
  | .unsupported url => s!"builder error for url ({url})"
  | .unanswered url => s!"error sending request for url ({url})"
  | .tooManyRedirects url => s!"error following redirect for url ({url})"
  | .brokenBody => "error decoding response body"

namespace Url

/-- The URL without user name and password. A user name that is no text is left, and so is a
password that is none if there is no user name. -/
def withoutCredentials (url : Url) : Url :=
  let named := url.username ≠ ""
  let passed := url.password ≠ "" ∧ (Percent.decode? url.password.toList).isSome
  if (Percent.decode? url.username.toList).isSome ∧ (named ∨ passed) then
    { url with username := "", password := "" }
  else url

/-- The largest number of octets of a URL that is asked for. -/
def maxRequestLength : Nat := 65534

/-- Whether a URL has a form in which it can be asked for. -/
def canBeRequested (url : Url) : Bool :=
  (url.scheme == "http" || url.scheme == "https")
    && url.text.utf8ByteSize ≤ maxRequestLength
    && ((url.hostText?.getD "").toList.all fun c => !("\"\x60\x7b\x7d".toList.contains c))

/-- The URL for which a request is made. -/
def prepare (url : Url) : Except RequestFault Url :=
  if url.hostText?.isNone then .error (.unsupported url.text)
  else
    let url := url.withoutCredentials
    if url.canBeRequested then .ok url else .error (.unsupported url.text)

/-- Reads a text as a URL for which a request is made. -/
def readRequest (text : String) : Except RequestFault Url :=
  match read text with
  | .error _ => .error .notUrl
  | .ok url => url.prepare

end Url

end Newsstand
