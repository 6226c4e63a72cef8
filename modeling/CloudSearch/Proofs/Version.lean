import CloudSearch.Proofs.Client
import CloudSearch.Proofs.Search.Url

/-!
# The version in the path and the dialect

A client takes its version twice: as it is, for the paths of its URLs, and without the blanks around
it, for the dialect of its queries. So it speaks the structured dialect exactly where that version
stands in its paths with nothing but blanks beside it (`dialect_eq_structured_iff_isPadding`). A
legacy query therefore never goes to the path of the structured dialect. A structured query goes
there too, **unless there are blanks around the version** (`speaksItsVersion_iff`).
-/

namespace CloudSearch

open Outcome

/-! ## Blanks around a text -/

namespace Text

/-- The text stands in the padded one with nothing but blanks on either side of it. -/
def IsPadding (padded s : String) : Prop :=
  ∃ before after, padded = before ++ s ++ after ∧
    isBlankText before = true ∧ isBlankText after = true

theorem isPadding_self (s : String) : IsPadding s s :=
  ⟨"", "", by simp, rfl, rfl⟩

/-- Blanks are dropped as far as the first other character. -/
theorem dropWhile_isBlank_eq_cons_iff {cs rest : List Char} {c : Char} (solid : isBlank c = false) :
    cs.dropWhile isBlank = c :: rest ↔
      ∃ before, cs = before ++ c :: rest ∧ ∀ b ∈ before, isBlank b = true := by
  constructor
  · intro dropped
    refine ⟨cs.takeWhile isBlank, ?_, fun b mem => List.all_eq_true.1 List.all_takeWhile b mem⟩
    rw [← dropped, List.takeWhile_append_dropWhile]
  · rintro ⟨before, rfl, blank⟩
    rw [List.dropWhile_append_of_pos blank, List.dropWhile_cons_of_neg (by simp [solid])]

/-- What is left between the first and the last character that is not blank. -/
theorem trimBlank_eq_iff {cs ts : List Char} (nonempty : ts ≠ [])
    (solid : ∀ c ∈ ts, isBlank c = false) :
    trimBlank cs = ts ↔ ∃ before after, cs = before ++ ts ++ after ∧
      (∀ b ∈ before, isBlank b = true) ∧ ∀ a ∈ after, isBlank a = true := by
  -- the last character is the first one of the reversed text, so both ends are the same lemma
  obtain ⟨first, rest, starts⟩ := List.exists_cons_of_ne_nil nonempty
  obtain ⟨last, rest', ends⟩ := List.exists_cons_of_ne_nil (mt List.reverse_eq_nil_iff.1 nonempty)
  have solid_first : isBlank first = false := solid first (starts ▸ List.mem_cons_self)
  have solid_last : isBlank last = false :=
    solid last (List.mem_reverse.1 (ends ▸ List.mem_cons_self))
  have front (after : List Char) : cs.dropWhile isBlank = ts ++ after ↔
      ∃ before, cs = before ++ (ts ++ after) ∧ ∀ b ∈ before, isBlank b = true := by
    rw [starts, List.cons_append]
    exact dropWhile_isBlank_eq_cons_iff solid_first
  have back (ds : List Char) : (ds.reverse.dropWhile isBlank).reverse = ts ↔
      ∃ after, ds = ts ++ after ∧ ∀ a ∈ after, isBlank a = true := by
    rw [List.reverse_eq_iff, ends, dropWhile_isBlank_eq_cons_iff solid_last, ← ends]
    constructor
    · rintro ⟨before, split, blank⟩
      refine ⟨before.reverse, ?_, fun a mem => blank a (List.mem_reverse.1 mem)⟩
      rw [List.reverse_eq_iff.1 split, List.reverse_append, List.reverse_reverse]
    · rintro ⟨after, rfl, blank⟩
      exact ⟨after.reverse, List.reverse_append, fun b mem => blank b (List.mem_reverse.1 mem)⟩
  rw [trimBlank, back]
  constructor
  · rintro ⟨after, dropped, blank_after⟩
    obtain ⟨before, rfl, blank_before⟩ := (front after).1 dropped
    exact ⟨before, after, (List.append_assoc ..).symm, blank_before, blank_after⟩
  · rintro ⟨before, after, rfl, blank_before, blank_after⟩
    exact ⟨after, (front after).2 ⟨before, List.append_assoc .., blank_before⟩, blank_after⟩

/-- **What trims to a text without blanks** is the text with blanks around it. -/
theorem trim_eq_iff_isPadding {padded s : String} (nonempty : s ≠ "")
    (solid : s.toList.any isBlank = false) : trim padded = s ↔ IsPadding padded s := by
  have none_blank : ∀ c ∈ s.toList, isBlank c = false := by
    simpa using solid
  rw [trim, ← String.toList_inj, String.toList_ofList,
    trimBlank_eq_iff (mt String.toList_eq_nil_iff.1 nonempty) none_blank]
  constructor
  · rintro ⟨before, after, split, blank_before, blank_after⟩
    refine ⟨String.ofList before, String.ofList after, ?_, ?_, ?_⟩
    · rw [← String.toList_inj]
      simpa using split
    · rw [isBlankText_iff]
      simpa using blank_before
    · rw [isBlankText_iff]
      simpa using blank_after
  · rintro ⟨before, after, rfl, blank_before, blank_after⟩
    exact ⟨before.toList, after.toList, by simp, isBlankText_iff.1 blank_before,
      isBlankText_iff.1 blank_after⟩

end Text

/-! ## The version in the paths -/

namespace Config

/-- The version stands in the paths of both URLs, between the address of the service and what is
asked of it. -/
structure Names (c : Config) (version : String) : Prop where
  search : ∃ host, c.host "search" = .ok host ∧
    c.searchUrl = .ok (host ++ "/" ++ version ++ "/search")
  document : ∃ host, c.host "doc" = .ok host ∧
    c.documentUrl = .ok (host ++ "/" ++ version ++ "/documents/batch")

/-- The paths of a client with a domain have its version, and no other text stands there. -/
theorem names_iff {c : Config} (has : c.HasDomain) {version : String} :
    c.Names version ↔ version = c.apiVersion := by
  have address (service : String) : ∃ host, c.host service = .ok host := by
    rcases c.host_cases service with ⟨-, there⟩ | ⟨has_not, -⟩
    · exact there
    · exact absurd has has_not
  obtain ⟨host, host_eq⟩ := address "search"
  obtain ⟨host', host_eq'⟩ := address "doc"
  have search_eq : c.searchUrl = .ok (host ++ "/" ++ c.apiVersion ++ "/search") := by
    rw [searchUrl, host_eq, ok_bind, pure_eq_ok]
  have document_eq : c.documentUrl = .ok (host' ++ "/" ++ c.apiVersion ++ "/documents/batch") := by
    rw [documentUrl, host_eq', ok_bind, pure_eq_ok]
  constructor
  · rintro ⟨⟨host₁, host_eq₁, url_eq⟩, -⟩
    cases host_eq.symm.trans host_eq₁
    have same := Except.ok.inj (url_eq.symm.trans search_eq)
    rwa [String.append_left_inj, String.append_right_inj] at same
  · rintro rfl
    exact ⟨⟨host, host_eq, search_eq⟩, host', host_eq', document_eq⟩

/-- **The structured dialect is spoken** exactly where its version is the one of the client, up to
blanks around it. -/
theorem dialect_eq_structured_iff_isPadding (c : Config) :
    c.dialect = .structured ↔ Text.IsPadding c.apiVersion "2013-01-01" := by
  rw [← Text.trim_eq_iff_isPadding (by decide) (by decide)]
  unfold dialect Dialect.ofApiVersion
  split
  next same => exact iff_of_true rfl same
  next other => exact iff_of_false (by decide) other

/-- A legacy query never goes to the path of the structured dialect. -/
theorem structured_of_names {c : Config} (has : c.HasDomain) (names : c.Names "2013-01-01") :
    c.dialect = .structured := by
  rw [dialect_eq_structured_iff_isPadding, ← (names_iff has).1 names]
  exact Text.isPadding_self _

/-- The dialect is the one of the version in the paths: it is the structured one exactly where its
version stands there, and every search is written in the dialect of the path that it is sent to. -/
structure SpeaksItsVersion (c : Config) (version : String) : Prop where
  dialect_iff : c.dialect = .structured ↔ version = "2013-01-01"
  requests : ∀ term o r, c.searchRequest term o = .ok r → ∃ host query,
    c.host "search" = .ok host ∧ r.url = host ++ "/" ++ version ++ "/search" ++ "?" ++ query ∧
    o.request (host ++ "/" ++ version ++ "/search") term
      (if version = "2013-01-01" then .structured else .legacy) = .ok r

/-- Every search is written in the dialect of the client and sent to the path that names its
version. -/
theorem searchRequest_eq_ok {c : Config} {version term : String} {o : Search.Options}
    {r : Search.Request} (names : c.Names version) (built : c.searchRequest term o = .ok r) :
    ∃ host query, c.host "search" = .ok host ∧
      r.url = host ++ "/" ++ version ++ "/search" ++ "?" ++ query ∧
      o.request (host ++ "/" ++ version ++ "/search") term c.dialect = .ok r := by
  obtain ⟨host, host_eq, url_eq⟩ := names.search
  rw [searchRequest, url_eq, ok_bind, mapError_eq_ok_iff] at built
  obtain ⟨params, -, rfl⟩ := Search.Options.request_eq_ofParams built
  exact ⟨host, _, host_eq, rfl, built⟩

/-- **A client speaks the version in its paths unless blanks stand around it.** There is one version
in its paths, and the dialect is the structured one where this is `2013-01-01` up to blanks. So the
two agree but for the versions that are `2013-01-01` with blanks around it. -/
theorem speaksItsVersion_iff {c : Config} (has : c.HasDomain) :
    ∃ version, (∀ other, c.Names other ↔ other = version) ∧
      (c.dialect = .structured ↔ Text.IsPadding version "2013-01-01") ∧
      (c.SpeaksItsVersion version ↔
        (Text.IsPadding version "2013-01-01" → version = "2013-01-01")) := by
  have structured_iff := c.dialect_eq_structured_iff_isPadding
  refine ⟨c.apiVersion, fun _ => names_iff has, structured_iff, ?_⟩
  constructor
  · intro speaks padding
    exact speaks.dialect_iff.1 (structured_iff.2 padding)
  · intro exact_only
    have dialect_iff : c.dialect = .structured ↔ c.apiVersion = "2013-01-01" := by
      refine structured_iff.trans ⟨exact_only, ?_⟩
      intro same
      rw [same]
      exact Text.isPadding_self _
    refine ⟨dialect_iff, fun term o r built => ?_⟩
    obtain ⟨host, query, host_eq, url_eq, request_eq⟩ :=
      searchRequest_eq_ok ((names_iff has).2 rfl) built
    refine ⟨host, query, host_eq, url_eq, ?_⟩
    rw [← request_eq]
    congr 1
    split
    next same => exact (dialect_iff.2 same).symm
    next other =>
      cases spoken : c.dialect with
      | legacy => rfl
      | structured => exact absurd (dialect_iff.1 spoken) other

/-- A client whose version was read with a blank before it. -/
def blankBeforeVersion : Config :=
  { searchDomain := some "d", apiVersion := " 2013-01-01" }

theorem speaksItsVersion_iff_blankBeforeVersion :
    blankBeforeVersion.HasDomain ∧ ∃ version,
      (∀ other, blankBeforeVersion.Names other ↔ other = version) ∧
      (blankBeforeVersion.dialect = .structured ↔ Text.IsPadding version "2013-01-01") ∧
      (blankBeforeVersion.SpeaksItsVersion version ↔
        (Text.IsPadding version "2013-01-01" → version = "2013-01-01")) :=
  have has : blankBeforeVersion.HasDomain := ⟨"d", rfl, by decide⟩
  ⟨has, speaksItsVersion_iff has⟩

/-- With a blank before its version a client writes structured queries and sends them to a path that
names another version. -/
theorem not_speaksItsVersion_blankBeforeVersion :
    ¬∀ c : Config, c.HasDomain → ∀ version, c.Names version → c.SpeaksItsVersion version := by
  intro all
  have has : blankBeforeVersion.HasDomain := ⟨"d", rfl, by decide⟩
  have speaks := all blankBeforeVersion has " 2013-01-01" ((names_iff has).2 rfl)
  have same : " 2013-01-01" = "2013-01-01" := speaks.dialect_iff.1 (by decide)
  exact absurd same (by decide)

end Config

end CloudSearch
