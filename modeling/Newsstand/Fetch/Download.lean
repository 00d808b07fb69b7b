import Newsstand.Config.Basic
import Newsstand.Http.Network
import Newsstand.Log
import Newsstand.Text.Utf8

/-!
# Downloads

A download asks for a URL and reads what comes as text. Whether octets are cut in pieces, and where,
does not show in the text.
-/

namespace Newsstand

open Text

/-- Why a fetch gives no document. -/
inductive FetchFault where
  | request (fault : RequestFault)
  /-- The response says that the document is not given. -/
  | status (code : Nat)
  | timeout (limit : Duration)
  /-- The document has more octets than the limit. -/
  | tooLarge (limit : Nat)
  /-- The circuit breaker of the group refuses the call. -/
  | refused (group : String)
  /-- All workers of the group are busy and the queue is full. -/
  | rejected (group : String)
  deriving DecidableEq, Repr

namespace FetchFault

/-- The wording of a fault. -/
def message : FetchFault → String
  | .request fault => s!"Request failed: {fault.message}"
  | .status code => s!"HTTP error: status {code}"
  | .timeout limit => s!"Request timed out after {limit.text}"
  | .tooLarge limit => s!"Response too large (exceeds {limit} bytes)"
  | .refused group => s!"Circuit open for group '{group}'"
  | .rejected group => s!"Worker queue full for group '{group}'"

/-- Whether a request was tried. -/
def wasAttempted : FetchFault → Bool
  | .refused _ => false
  | .rejected _ => false
  | _ => true

end FetchFault

/-- A download as it will go: its result, the requests that reach a server, the network behind it,
the log, and whether its failure shows at once. -/
structure Download where
  result : Except FetchFault String
  requests : List Request
  network : Network
  log : Log
  atOnce : Bool

/-- The report on a response of success. -/
def reportFetched (url : String) (response : Response) : LogEvent :=
  ⟨.debug, "Fetched feed", [("url", url), ("status", response.statusText)]⟩

/-- The text of a body within the limit. -/
def Response.text (config : FetchConfig) (response : Response) : Except FetchFault String :=
  match response.body.read config.maxBodyBytes with
  | .ok octets => .ok (Utf8.decodeLossy octets)
  | .error .tooLarge => .error (.tooLarge config.maxBodyBytes)
  | .error .cutOff => .error (.request .brokenBody)

/-- The document that a response holds, with the log. -/
def Response.document (config : FetchConfig) (url : String) (response : Response) :
    Except FetchFault String × Log :=
  if response.isSuccess then (response.text config, [reportFetched url response])
  else (.error (.status response.status), [])

/-- Downloads the document at a URL. -/
def Network.download (n : Network) (config : FetchConfig) (url : String) : Download :=
  match Url.readRequest url with
  | .error fault => ⟨.error (.request fault), [], n, [], true⟩
  | .ok target =>
    let exchange := n.exchange config.userAgent config.timeoutMs maxRedirects 0 target
    let (result, log) :=
      match exchange.reply with
      | .error (.request fault) => (.error (.request fault), [])
      | .error .timeout => (.error (.timeout config.timeout), [])
      | .ok response => response.document config url
    ⟨result, exchange.requests, exchange.network, log, exchange.atOnce⟩

end Newsstand
