import Newsstand.Url.Reading

/-!
# Responses

What a server answers: a status, for a redirect the place to go to, and a body. The octets of a body
come in pieces; a body may declare how many there will be, and it may be cut off before its end.
Reading stops as soon as there are too many of them.
-/

namespace Newsstand

/-- A body as it comes in: the declared number of octets, the pieces, and whether the end is
reached. -/
structure Body where
  declared? : Option Nat
  pieces : List (List UInt8)
  complete : Bool
  deriving DecidableEq, Repr

/-- Why a body is not read. -/
inductive BodyFault where
  | tooLarge
  | cutOff
  deriving DecidableEq, Repr

namespace Body

/-- Reads pieces behind the octets that are there already. -/
def readPieces (limit : Nat) (complete : Bool) (done : List UInt8) :
    List (List UInt8) → Except BodyFault (List UInt8)
  | [] => if complete then .ok done else .error .cutOff
  | piece :: pieces =>
    if limit < done.length + piece.length then .error .tooLarge
    else readPieces limit complete (done ++ piece) pieces

/-- Reads a body of at most `limit` octets. One that declares more is not begun. -/
def read (limit : Nat) (body : Body) : Except BodyFault (List UInt8) :=
  if body.declared?.any (limit < ·) then .error .tooLarge
  else readPieces limit body.complete [] body.pieces

end Body

/-- A response. -/
structure Response where
  status : Nat
  location? : Option String
  body : Body
  deriving DecidableEq, Repr

/-- The reason that belongs to a status of success. -/
def statusReason : Nat → String
  | 200 => "OK"
  | 201 => "Created"
  | 202 => "Accepted"
  | 203 => "Non Authoritative Information"
  | 204 => "No Content"
  | 205 => "Reset Content"
  | 206 => "Partial Content"
  | 207 => "Multi-Status"
  | 208 => "Already Reported"
  | 226 => "IM Used"
  | _ => "<unknown status code>"

namespace Response

/-- A response with a status and a whole body of known length. -/
def plain (status : Nat) (octets : List UInt8) : Response :=
  ⟨status, none, ⟨some octets.length, [octets], true⟩⟩

/-- Whether the request has been granted. -/
def isSuccess (r : Response) : Bool :=
  200 ≤ r.status && r.status < 300

/-- The status with its reason. -/
def statusText (r : Response) : String :=
  s!"{r.status} {statusReason r.status}"

/-- Where a redirect from a URL leads; a redirect that does not say so is none. -/
def redirect? (r : Response) (url : Url) : Option Url :=
  if [301, 302, 303, 307, 308].contains r.status then
    r.location?.bind fun location => (url.join location).toOption
  else none

end Response

end Newsstand
