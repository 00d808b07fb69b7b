import Newsstand.Text.Blank
import Newsstand.Url.Reading

/-!
# URLs of feeds

A feed is fetched over `http` or `https` from a named host. Every host is allowed, also one that is
only known locally.
-/

namespace Newsstand

open Newsstand.Text

/-- Why a text is no URL of a feed. -/
inductive FeedUrlFault where
  | invalidUrl (fault : UrlFault)
  | unsupportedScheme (scheme : String)
  | missingHost
  deriving DecidableEq, Repr

/-- The wording of a fault. -/
def FeedUrlFault.message : FeedUrlFault → String
  | .invalidUrl fault => s!"Invalid URL: {fault.message}"
  | .unsupportedScheme scheme =>
    s!"Unsupported scheme: {scheme} (only http/https allowed)"
  | .missingHost => "URL has no host"

namespace Url

/-- Reads a text, blanks at its ends apart, as the URL of a feed. -/
def readFeedUrl (s : String) : Except FeedUrlFault Url :=
  match read (trim s) with
  | .error fault => .error (.invalidUrl fault)
  | .ok url =>
    if url.scheme = "http" ∨ url.scheme = "https" then
      if url.hostText?.isSome then .ok url else .error .missingHost
    else .error (.unsupportedScheme url.scheme)

end Url

end Newsstand
