/-!
# Calls over HTTP

What is sent to the service and what may come back, apart from how it gets there.
-/

namespace CloudSearch.Http

/-- What is sent. -/
inductive Call
  | get (url : String)
  | post (url body : String) (headers : List (String × String))
deriving DecidableEq, Repr

/-- A response of the service. -/
structure Response where
  status : UInt16
  reason : String := ""
  body : String := ""
deriving DecidableEq, Repr

/-- Why there is no response. -/
inductive TransportError
  | io (cause : String)
  | other (cause : String)
deriving DecidableEq, Repr

/-- What comes back from a call. -/
inductive Reply
  | response (r : Response)
  | failed (e : TransportError)
deriving DecidableEq, Repr

/-- The call was carried out. -/
def Response.isSuccess (r : Response) : Bool :=
  decide (200 ≤ r.status) && decide (r.status < 300)

/-- The status and its reason, if one is given. -/
def Response.statusLine (r : Response) : String :=
  if r.reason = "" then toString r.status.toNat else toString r.status.toNat ++ " " ++ r.reason

/-- The cause in words. -/
def TransportError.message : TransportError → String
  | .io cause => "IO error: " ++ cause
  | .other cause => cause

end CloudSearch.Http
