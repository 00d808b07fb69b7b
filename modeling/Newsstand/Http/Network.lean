import Newsstand.Http.Request
import Newsstand.Http.Response

/-!
# Networks

A network as far as it can be told beforehand: the answers that each URL gives, one request after
another. Two restrictions are those of such a network, not of the client that asks on it. No secure
connection can be made, so that a request for `https` fails at once; and the pieces of a body take no
time of their own after the head of the response.
-/

namespace Newsstand

/-- What comes back for a request. -/
inductive Answer where
  /-- No connection can be made, which shows at once. -/
  | unreachable
  /-- The connection ends without a response. -/
  | closed
  /-- Nothing ever comes. -/
  | silent
  /-- A response comes after some milliseconds. -/
  | response (afterMs : Nat) (response : Response)
  deriving DecidableEq, Repr

/-- The answers that are still to come from each URL, and the one that every other URL gives. Of the
answers of a URL the last one stays. -/
structure Network where
  answers : List (String × List Answer)
  elsewhere : Answer
  deriving Repr

namespace Network

/-- A network on which nothing can be reached. -/
def unreachable : Network :=
  ⟨[], .unreachable⟩

/-- A network that gives the listed answers, and elsewhere says that there is nothing. -/
def scripted (answers : List (String × List Answer)) : Network :=
  ⟨answers, .response 0 (.plain 404 [])⟩

/-- The answers of a URL, changed. -/
def put (n : Network) (url : String) (answers : List Answer) : Network :=
  { n with answers := n.answers.map fun (u, old) => if u == url then (u, answers) else (u, old) }

/-- The next answer of a URL. -/
def answer (n : Network) (url : String) : Answer × Network :=
  match n.answers.lookup url with
  | none => (n.elsewhere, n)
  | some [] => (n.elsewhere, n)
  | some [last] => (last, n)
  | some (next :: rest) => (next, n.put url rest)

end Network

/-- Why there is no response within the time. -/
inductive ExchangeFault where
  | request (fault : RequestFault)
  | timeout
  deriving DecidableEq, Repr

/-- What comes of asking for a URL: the response in the end, the requests that reached a server, the
network behind it, and whether it was clear at once that there would be no response. -/
structure Exchange where
  reply : Except ExchangeFault Response
  requests : List Request
  network : Network
  atOnce : Bool

/-- The number of redirects that are followed. -/
def maxRedirects : Nat := 10

namespace Network

/-- Asks for a URL and follows up to `redirects` redirects, all within `timeoutMs` milliseconds, of
which `elapsed` are over. -/
def exchange (agent : String) (timeoutMs : Nat) (redirects : Nat) (n : Network) (elapsed : Nat)
    (url : Url) : Exchange :=
  let unanswered := Except.error (.request (.unanswered url.text))
  let request : Request := ⟨url.textBeforeFragment, agent⟩
  if url.scheme != "http" then ⟨unanswered, [], n, true⟩
  else
    match n.answer request.url with
    | (.unreachable, n) => ⟨unanswered, [], n, true⟩
    | (.closed, n) => ⟨unanswered, [request], n, false⟩
    | (.silent, n) => ⟨.error .timeout, [request], n, false⟩
    | (.response afterMs response, n) =>
      if timeoutMs ≤ elapsed + afterMs then ⟨.error .timeout, [request], n, false⟩
      else
        match response.redirect? url, redirects with
        | none, _ => ⟨.ok response, [request], n, false⟩
        | some _, 0 => ⟨.error (.request (.tooManyRedirects url.text)), [request], n, false⟩
        | some next, redirects + 1 =>
          if next.canBeRequested then
            let rest := exchange agent timeoutMs redirects n (elapsed + afterMs) next
            { rest with requests := request :: rest.requests, atOnce := false }
          else ⟨.error (.request (.unsupported next.text)), [request], n, false⟩

end Network

end Newsstand
