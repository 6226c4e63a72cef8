import CloudSearch.Proofs.Page.Numbers
import CloudSearch.Proofs.Page.Response
import CloudSearch.Proofs.Search.Dialects

/-!
# Paging through a search

The page that a search asks for goes out as the index of its first hit, and comes back as a page
number that is computed from the index in the response. `page_of_echo` says that a response which
starts where it was asked to start is the page that was asked for, and that none of the words in
between is too large for what it stands for.
-/

namespace CloudSearch.Search
open Outcome CloudSearch.Filter

/-! ## What settings ask for -/

/-- The page that a setting asks for. -/
def Setting.page? : Setting → Option UInt64
  | .page n => some n
  | _ => none

/-- The page size that a setting asks for. -/
def Setting.pageSize? : Setting → Option UInt64
  | .pageSize n => some n
  | _ => none

/-- What the settings ask for last, of what each of them may ask for. -/
def lastAsked {α : Type} (asks : Setting → Option α) : List Setting → Option α
  | [] => none
  | s :: rest => (lastAsked asks rest).or (asks s)

/-- The number of the page that the settings ask for, the first if they ask for none or for page
zero. -/
def pageAsked (settings : List Setting) : Nat :=
  max ((lastAsked Setting.page? settings).getD 1).toNat 1

/-- The page size that the settings ask for. -/
def sizeAsked (settings : List Setting) : UInt64 :=
  (lastAsked Setting.pageSize? settings).getD 10

/-- Where each setting stores what it asks for and nothing else, the options have what was asked for
last. -/
theorem foldl_set_of_asks {α β : Type} {field : Options → β} {asks : Setting → Option α}
    {store : α → β}
    (set_eq : ∀ o s, field (o.set s) = ((asks s).map store).getD (field o))
    (settings : List Setting) (o : Options) :
    field (settings.foldl Options.set o) =
      ((lastAsked asks settings).map store).getD (field o) := by
  induction settings generalizing o with
  | nil => rfl
  | cons s settings ih =>
    rw [List.foldl_cons, ih, lastAsked]
    cases lastAsked asks settings with
    | some a => rfl
    | none => exact set_eq o s

/-- A page size is raised to one, and nothing else of the page is touched. -/
theorem Options.set_pageSize (o : Options) (n : UInt64) :
    (o.set (.pageSize n)).page = o.page ∧ (o.set (.pageSize n)).pageSize = max 1 n := by
  rw [Options.set]
  split
  · next pos => exact ⟨rfl, (max_one_eq_self pos).symm⟩
  · next none =>
    have zero : n = 0 := UInt64.le_zero_iff.1 (UInt64.not_lt.1 none)
    rw [zero]
    exact ⟨rfl, rfl⟩

theorem Options.page_ofSettings (settings : List Setting) :
    (ofSettings settings).page = lastAsked Setting.page? settings := by
  have set_eq : ∀ (o : Options) s, (o.set s).page = ((Setting.page? s).map some).getD o.page := by
    intro o s
    cases s with
    | pageSize n => exact (o.set_pageSize n).1
    | filter | geo | page | rank | facets | weight | returnFields => rfl
  rw [ofSettings, foldl_set_of_asks set_eq]
  cases lastAsked Setting.page? settings <;> rfl

theorem Options.pageSize_ofSettings (settings : List Setting) :
    (ofSettings settings).pageSize = max 1 (sizeAsked settings) := by
  have set_eq : ∀ (o : Options) s,
      (o.set s).pageSize = ((Setting.pageSize? s).map (max 1)).getD o.pageSize := by
    intro o s
    cases s with
    | pageSize n => exact (o.set_pageSize n).2
    | filter | geo | page | rank | facets | weight | returnFields => rfl
  rw [ofSettings, foldl_set_of_asks set_eq, sizeAsked]
  cases lastAsked Setting.pageSize? settings <;> rfl

/-! ## The start of the page -/

/-- The index is the one that the request has for a start, or the first where it has none. -/
def Request.IsEchoedBy (r : Request) (start : UInt64) : Prop :=
  match r.param? "start" with
  | some text => text = toString start.toNat
  | none => start = 0

theorem Request.param?_eq (r : Request) (name : String) : r.param? name = (r.values name).head? := by
  rw [Request.param?, Request.values, valuesOf, List.head?_map, List.head?_filter]

/-- A request has a start exactly where a page was asked for, and then it is that of the page. -/
theorem Options.values_start {o : Options} {endpoint term : String} {d : Dialect} {r : Request}
    (built : o.request endpoint term d = .ok r) :
    r.values "start" = if o.page.isNone then [] else [toString o.offset.toNat] := by
  rw [o.request_eq] at built
  obtain ⟨p, -, built⟩ := bind_eq_ok_iff.1 built
  obtain ⟨query, written, form⟩ := map_eq_ok_iff.1 built
  have no_query : valuesOf query "start" = [] := by
    cases d with
    | legacy => exact (valuesOf_legacyQuery written).2.2 _ (by decide)
    | structured => exact (valuesOf_structuredQuery written).2 _ (by decide)
  have others : valuesOf (weightParams o.weights) "start" = [] := by
    refine valuesOf_eq_nil fun p mem same => ?_
    unfold weightParams at mem
    split at mem
    · cases mem
    · rw [List.mem_singleton.1 mem] at same
      have apart : "q.options" ≠ "start" := by decide
      exact apart same
  rw [← form, values_ofParams, no_query, Options.valuesOf_shared (by decide), List.nil_append,
    Options.sharedParams, valuesOf_append, valuesOf_append, others, List.append_nil]
  cases o.page.isNone <;> simp [valuesOf]

/-- A number is known by its digits. -/
theorem eq_of_toString_eq {m n : Nat} (same : toString m = toString n) : m = n := by
  have digits : Nat.toDigits 10 m = Nat.toDigits 10 n := by
    rw [← Nat.toList_repr, ← Nat.toList_repr]
    exact congrArg String.toList same
  rw [← @Nat.ofDigitChars_ten_toDigits m, digits, Nat.ofDigitChars_ten_toDigits]

/-- What echoes the start of a request is the number of entries before the page, and nothing else. -/
theorem Options.isEchoedBy_iff {o : Options} {endpoint term : String} {d : Dialect} {r : Request}
    (built : o.request endpoint term d = .ok r) {start : UInt64} :
    r.IsEchoedBy start ↔ start = o.offset := by
  rw [Request.IsEchoedBy, r.param?_eq, o.values_start built]
  cases page : o.page with
  | none =>
    have first : o.offset = 0 := by
      apply UInt64.toNat_inj.1
      rw [Options.offset, toNat_pageOffset, Options.currentPage, page]
      simp
    rw [first]
    rfl
  | some n =>
    constructor
    · intro same
      exact UInt64.toNat_inj.1 (eq_of_toString_eq same).symm
    · rintro rfl
      rfl

/-! ## The page of an echo -/

/-- The page is the one that the settings ask for, and every number on the way to it is exact: the
start of the page is no clamped product, and neither the number that is computed from the start of
the response nor the offset of the page is a wrapped or clamped word. -/
structure IsPageAsked (settings : List Setting) (start : UInt64) (page : Page Hits) : Prop where
  current : page.current.toNat = pageAsked settings
  size : page.size = (Options.ofSettings settings).pageSize
  offset : page.offset = (Options.ofSettings settings).offset
  start_exact : (Options.ofSettings settings).offset.toNat =
    (pageAsked settings - 1) * (Options.ofSettings settings).pageSize.toNat
  current_exact : page.current.toNat = start.toNat / page.size.toNat + 1
  offset_exact : page.offset.toNat = (page.current.toNat - 1) * page.size.toNat

theorem pageAsked_eq (settings : List Setting) :
    pageAsked settings = max (Options.ofSettings settings).currentPage.toNat 1 := by
  rw [pageAsked, Options.currentPage, Options.page_ofSettings]

/-- The pages before the one asked for have a whole number of entries, counted without clamping. -/
theorem toNat_offset_ofSettings {settings : List Setting}
    (fits : (pageAsked settings - 1) * (sizeAsked settings).toNat < 0x10000000000000000) :
    (Options.ofSettings settings).offset.toNat =
      (pageAsked settings - 1) * (Options.ofSettings settings).pageSize.toNat := by
  have before : (Options.ofSettings settings).currentPage.toNat - 1 = pageAsked settings - 1 := by
    rw [pageAsked_eq]
    omega
  have word := (Options.ofSettings settings).currentPage.toNat_lt
  have in_range : (pageAsked settings - 1) * max 1 (sizeAsked settings).toNat <
      0x10000000000000000 := by
    by_cases none : (sizeAsked settings).toNat = 0
    · -- a size of zero is raised to one, and the number of the page is a word itself
      rw [none, Nat.max_eq_left (Nat.zero_le 1)]
      omega
    · rw [Nat.max_eq_right (Nat.pos_of_ne_zero none)]
      exact fits
  rw [Options.offset, toNat_pageOffset, before, Options.pageSize_ofSettings, toNat_max_one]
  exact Nat.min_eq_left (Nat.le_of_lt_succ in_range)

/-- A response that starts where the page asked for does is that page. -/
theorem exists_page_of_start {settings : List Setting}
    (fits : (pageAsked settings - 1) * (sizeAsked settings).toNat < 0x10000000000000000)
    (response : Response) (start : response.start = (Options.ofSettings settings).offset) :
    ∃ page, response.page (Options.ofSettings settings).pageSize = some page ∧
      IsPageAsked settings response.start page := by
  have exact := toNat_offset_ofSettings fits
  have number := pageAsked_eq settings
  have word := (Options.ofSettings settings).currentPage.toNat_lt
  have size_pos := (Options.ofSettings settings).pageSize_pos
  obtain ⟨page, held, size, current, offset⟩ :
      ∃ page, response.page (Options.ofSettings settings).pageSize = some page ∧
        page.size = (Options.ofSettings settings).pageSize ∧
        page.current.toNat = pageAsked settings ∧ page.offset = response.start :=
    Page.exists_ofStart_of_first size_pos (by omega) (by omega) (start ▸ exact)
  refine ⟨page, held, ?_⟩
  constructor
  case current => exact current
  case size => exact size
  case offset => exact offset.trans start
  case start_exact => exact exact
  case current_exact =>
    have pos : 0 < (Options.ofSettings settings).pageSize.toNat := UInt64.lt_iff_toNat_lt.1 size_pos
    rw [current, size, start, exact, Nat.mul_div_cancel _ pos]
    omega
  case offset_exact => rw [offset, start, exact, current, size]

/-- **A page round-trips.** A response to a search that starts where the request asked it to start is
read, and it is the page that the settings asked for: with its number, its size and its offset. No
word is clamped and nothing overflows on the way, as long as the offset of the page is a word. The first
statement is about any response that can be read, the second says which can. -/
theorem page_of_echo {settings : List Setting} {endpoint term : String} {d : Dialect} {r : Request}
    (built : (Options.ofSettings settings).request endpoint term d = .ok r)
    (fits : (pageAsked settings - 1) * (sizeAsked settings).toNat < 0x10000000000000000) :
    (∀ (body : String) (response : Response), Response.ofText body = .ok response →
      r.IsEchoedBy response.start →
      ∃ page, Page.ofText body (Options.ofSettings settings).pageSize = some (.ok page) ∧
        IsPageAsked settings response.start page) ∧
    (∀ (body : String) (parts : ResultParts), IsResponseBody body parts →
      r.IsEchoedBy (parts.start.getD 0) →
      ∃ page, Page.ofText body (Options.ofSettings settings).pageSize = some (.ok page) ∧
        IsPageAsked settings (parts.start.getD 0) page) := by
  have answered : ∀ (body : String) (response : Response), Response.ofText body = .ok response →
      r.IsEchoedBy response.start →
      ∃ page, Page.ofText body (Options.ofSettings settings).pageSize = some (.ok page) ∧
        IsPageAsked settings response.start page := by
    intro body response read echo
    have start := (Options.isEchoedBy_iff built).1 echo
    obtain ⟨page, held, asked⟩ := exists_page_of_start fits response start
    exact ⟨page, Page.ofText_eq_ok_iff.2 ⟨response, read, held⟩, asked⟩
  refine ⟨answered, ?_⟩
  intro body parts response echo
  exact answered body parts.response (ofText_of_isResponseBody response) echo

/-- The third page of a search, after another one was asked for. -/
def thirdPage : List Setting :=
  [.page 9, .pageSize 25, .rank { field := "year" }, .page 3]

/-- The members of a response to it, some of which nobody asks for. -/
def thirdPageMembers : List (String × Json) :=
  [("rank", .null), ("hits", .object [("start", .word 50), ("x", .array [.float 0.5]),
    ("hit", .array [.text "a", .object [("id", .text "b")]])])]

theorem isResponseBody_thirdPage : IsResponseBody (Json.object thirdPageMembers).print
    { start := some 50, hits := some [{ id := "a" }, { id := "b" }] } := by
  refine isResponseBody_print (by decide +kernel) (by decide) rfl ⟨_, rfl, ?_⟩
  exact ⟨.nothing, .value rfl, .value ⟨_, rfl, rfl⟩⟩

theorem page_of_echo_thirdPage : ∃ r page,
    (Options.ofSettings thirdPage).request "http://search" "jazz" .structured = .ok r ∧
    r.IsEchoedBy 50 ∧ Page.ofText (Json.object thirdPageMembers).print 25 = some (.ok page) ∧
    IsPageAsked thirdPage 50 page := by
  have built : ∃ r,
      (Options.ofSettings thirdPage).request "http://search" "jazz" .structured = .ok r :=
    ⟨_, rfl⟩
  obtain ⟨r, built⟩ := built
  have echo : r.IsEchoedBy 50 := (Options.isEchoedBy_iff built).2 (by decide)
  obtain ⟨page, read, asked⟩ :=
    (page_of_echo built (by decide)).2 _ _ isResponseBody_thirdPage echo
  exact ⟨r, page, built, echo, read, asked⟩

end CloudSearch.Search
