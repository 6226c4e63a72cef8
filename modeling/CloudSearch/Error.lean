import CloudSearch.Filter.Error
import CloudSearch.Http
import CloudSearch.Json.Reader

/-!
# Why a request fails

The reasons for which a client or a resolver cannot do what it is asked to, and their wording.
-/

namespace CloudSearch

/-- Why a call was of no use. -/
inductive Failure
  | transport (e : Http.TransportError)
  | rejected (r : Http.Response)
  /-- The body of the response cannot be read. -/
  | unreadable (fault : Json.Fault)
deriving DecidableEq, Repr

/-- A reason for which a request fails. -/
inductive Error
  | config (problem : String)
  | compilation (e : Filter.CompileError)
  | searchFailure (failure : Failure) (url : String)
  | writeFailure (failure : Failure) (url body : String)
  | domainDiscovery (domain cause : String)
deriving DecidableEq, Repr

/-- The failure in words. -/
def Failure.message : Failure → String
  | .transport e => e.message
  | .rejected r => r.statusLine ++ ": " ++ r.body
  | .unreadable _ => "Unreadable search response"

/-- The reason in words. -/
def Error.message : Error → String
  | .config problem => "Configuration error: " ++ problem
  | .compilation e => "Compilation error: " ++ e.message
  | .searchFailure failure url => "Search failed: " ++ failure.message ++ " (" ++ url ++ ")"
  | .writeFailure failure url _ =>
    "Document update failed: " ++ failure.message ++ " (" ++ url ++ ")"
  | .domainDiscovery domain cause =>
    "Domain discovery for `" ++ domain ++ "` failed: " ++ cause

end CloudSearch
