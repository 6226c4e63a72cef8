import CloudSearch.Proofs.Client
import CloudSearch.Proofs.Domain.Endpoint

/-!
# Ids in search URLs

A client that has no base URL of its own writes its search domain into the host of its search URL,
behind the prefix of search endpoints and in front of the dot of the region. So its search URL is an
endpoint with an id again, which is the domain up to its first dot (`idOfEndpoint?_searchUrl_iff`). Ids
of endpoints have no dots, and therefore they all come back from there, whatever else is in them and
whatever the region and the version are (`discovered_iff_comes_back`).
-/

namespace CloudSearch

open Outcome

namespace Config

/-- The search URL of a client without a base URL has its domain in the first label of its host. -/
theorem searchUrl_of_domain {c : Config} {domain : String} (set : c.searchDomain = some domain)
    (nonempty : domain ≠ "") (direct : c.baseUrl = none) :
    c.searchUrl = .ok ("http://search-" ++ domain ++ "." ++ c.region ++
      ".cloudsearch.amazonaws.com/" ++ c.apiVersion ++ "/search") := by
  have domain_eq : c.domain = .ok domain := by
    rw [Config.domain, set]
    exact if_neg nonempty
  have host_eq : c.host "search" = .ok ("http://search-" ++ domain ++ "." ++ c.region ++
      ".cloudsearch.amazonaws.com") := by
    rw [host, domain_eq, ok_bind, direct]
    rfl
  rw [searchUrl, host_eq, ok_bind, pure_eq_ok]
  simp [String.append_assoc]

end Config

namespace Domain

theorem afterScheme_http (rest : List Char) :
    afterScheme ("http://".toList ++ rest) = rest := by
  have scheme : "http://".toList = ['h', 't', 't', 'p', ':', '/', '/'] := by decide
  rw [scheme]
  rfl

/-- The first label of the host in a search URL is that of a search endpoint. -/
theorem afterScheme_searchUrl (domain region rest : String) :
    afterScheme ("http://search-" ++ domain ++ "." ++ region ++ rest).toList =
      hostPrefix ++ domain.toList ++ '.' :: (region ++ rest).toList := by
  have parted : ("http://search-" ++ domain ++ "." ++ region ++ rest).toList =
      "http://".toList ++ (hostPrefix ++ domain.toList ++ '.' :: (region ++ rest).toList) := by
    simp [hostPrefix]
  rw [parted, afterScheme_http]

/-- A dot behind the text ends its first label if nothing before does. -/
theorem takeWhile_append_dot (domain rest : List Char) :
    (domain ++ '.' :: rest).takeWhile (· != '.') = domain.takeWhile (· != '.') := by
  induction domain with
  | nil => rfl
  | cons c domain ih => simp only [List.cons_append, List.takeWhile_cons, ih]

/-- **The id in a search URL** is the domain up to its first dot, if there is anything before it. -/
theorem idOfEndpoint?_searchUrl_iff {c : Config} {domain id : String}
    (set : c.searchDomain = some domain) (nonempty : domain ≠ "") (direct : c.baseUrl = none) :
    (∃ url, c.searchUrl = .ok url ∧ idOfEndpoint? url = some id) ↔
      id ≠ "" ∧ domain.toList.takeWhile (· != '.') = id.toList := by
  have begins_dotless : ∀ x ∈ hostPrefix, (x != '.') = true := List.all_eq_true.1 rfl
  have host (rest : String) :
      (afterScheme ("http://search-" ++ domain ++ "." ++ c.region ++ rest).toList).takeWhile
        (· != '.') = hostPrefix ++ domain.toList.takeWhile (· != '.') := by
    rw [afterScheme_searchUrl, List.append_assoc, List.takeWhile_append_of_pos begins_dotless,
      takeWhile_append_dot]
  have url_eq := c.searchUrl_of_domain set nonempty direct
  rw [String.append_assoc, String.append_assoc] at url_eq
  constructor
  · rintro ⟨url, there, named⟩
    cases url_eq.symm.trans there
    obtain ⟨filled, label⟩ := idOfEndpoint?_eq_some_iff_label.1 named
    rw [host, List.append_cancel_left_eq] at label
    exact ⟨filled, label⟩
  · rintro ⟨filled, label⟩
    refine ⟨_, url_eq, idOfEndpoint?_eq_some_iff_label.2 ⟨filled, ?_⟩⟩
    rw [host, label]

/-- **Ids that are discovered come back.** A text is the id of some endpoint exactly if every client
that has it for its domain, and no base URL, has a search URL with this id. -/
theorem discovered_iff_comes_back {id : String} :
    (∃ endpoint, idOfEndpoint? endpoint = some id) ↔
      ∀ c : Config, c.searchDomain = some id → c.baseUrl = none →
        ∃ url, c.searchUrl = .ok url ∧ idOfEndpoint? url = some id := by
  constructor
  · rintro ⟨endpoint, named⟩ c set direct
    obtain ⟨nonempty, dotless, -⟩ := idOfEndpoint?_eq_some_iff.1 named
    apply (idOfEndpoint?_searchUrl_iff set nonempty direct).2
    refine ⟨nonempty, takeWhile_eq_label_iff.2 ⟨dotless, [], ?_, by simp⟩⟩
    rw [List.append_nil]
  · intro comes_back
    obtain ⟨url, -, named⟩ := comes_back { searchDomain := some id } rfl rfl
    exact ⟨url, named⟩

/-- A client for a domain whose id looks like an endpoint itself. -/
def endpointLikeId : Config :=
  { searchDomain := some "a://search-b-1", region := "eu.x://search-y", apiVersion := "://v" }

theorem discovered_iff_comes_back_endpointLikeId :
    idOfEndpoint? "https://search-a://search-b-1.eu" = some "a://search-b-1" ∧
      ∃ url, endpointLikeId.searchUrl = .ok url ∧ idOfEndpoint? url = some "a://search-b-1" :=
  have named : idOfEndpoint? "https://search-a://search-b-1.eu" = some "a://search-b-1" := by
    decide
  ⟨named, discovered_iff_comes_back.1 ⟨_, named⟩ endpointLikeId rfl rfl⟩

end Domain

end CloudSearch
