import CloudSearch.Proofs.Outcome
import CloudSearch.Proofs.Text.FormUrl
import CloudSearch.Search.Request

/-!
# URLs of search requests

A request is sent by its URL alone. `request_url_carries_params` says that nothing is lost by this:
behind the question mark stands a query string from which exactly the parameters of the request can
be got back.
-/

namespace CloudSearch.Search
open Outcome Text

/-- The size of a page is always asked for. -/
theorem Options.params_ne_nil (o : Options) (d : Dialect) (distance : Option Geo.DistanceSort) :
    o.params d distance ≠ [] := by
  intro none
  have size : ("size", toString o.pageSize.toNat) ∈ o.params d distance := by
    simp [Options.params]
  rw [none] at size
  cases size

/-- Whatever is asked for, a request is made of at least one parameter. -/
theorem Options.request_eq_ofParams {o : Options} {endpoint term : String} {d : Dialect}
    {r : Request} (made : o.request endpoint term d = .ok r) :
    ∃ params, params ≠ [] ∧ r = .ofParams endpoint params := by
  obtain ⟨-, -, made⟩ := bind_eq_ok_iff.1 made
  obtain ⟨clauses, -, made⟩ := bind_eq_ok_iff.1 made
  obtain ⟨constraint, -, made⟩ := bind_eq_ok_iff.1 made
  obtain ⟨query, -, made⟩ := bind_eq_ok_iff.1 made
  cases made
  refine ⟨_, ?_, rfl⟩
  intro none
  exact o.params_ne_nil _ _ (List.append_eq_nil_iff.1 none).2

/-- **The URL carries exactly the parameters.** It is the endpoint, a question mark and a query
string of harmless characters, and what the query string carries are the parameters, each with its
key and value and in their order. -/
theorem request_url_carries_params {o : Options} {endpoint term : String} {d : Dialect}
    {r : Request} (made : o.request endpoint term d = .ok r) :
    ∃ query : String, r.url = endpoint ++ "?" ++ query ∧
      (∀ c ∈ query.toList, FormUrl.isQueryChar c = true) ∧
      FormUrl.decodePairs query.toList = some r.params := by
  obtain ⟨params, filled, rfl⟩ := Options.request_eq_ofParams made
  refine ⟨FormUrl.encodePairs params, rfl, ?_, FormUrl.decodePairs_encodePairs filled⟩
  intro c mem
  exact FormUrl.isQueryChar_of_mem_encodePairs mem

/-- A search whose parameters hold everything that has a meaning in query strings. -/
def markedOptions : Options :=
  .ofSettings [.facets ["größe&=+%"], .returnFields ["a b", "c"]]

/-- Its parameters can be got back from its URL. -/
theorem request_url_carries_params_markedOptions :
    ∃ query : String,
      (Request.ofParams "http://search" [("q", "café = ☕ & cie"),
        ("facet.größe&=+%", "\x7bsort:'bucket',size:999\x7d"), ("size", "10"),
        ("return", "a b,c")]).url = "http://search" ++ "?" ++ query ∧
      (∀ c ∈ query.toList, FormUrl.isQueryChar c = true) ∧
      FormUrl.decodePairs query.toList = some [("q", "café = ☕ & cie"),
        ("facet.größe&=+%", "\x7bsort:'bucket',size:999\x7d"), ("size", "10"),
        ("return", "a b,c")] :=
  have made : markedOptions.request "http://search" "café = ☕ & cie" .structured =
      .ok (.ofParams "http://search" [("q", "café = ☕ & cie"),
        ("facet.größe&=+%", "\x7bsort:'bucket',size:999\x7d"), ("size", "10"),
        ("return", "a b,c")]) := by rfl
  request_url_carries_params made

end CloudSearch.Search
