import CloudSearch.Geo.Query
import CloudSearch.Page.Numbers
import CloudSearch.Table

/-!
# Search options

What a search asks for apart from its term: filters, the page of the hits and their order, facets,
the weights of fields and the fields to return.
-/

namespace CloudSearch.Search

/-- A ranking by a field. -/
structure Rank where
  field : String
  direction : Direction := .ascending
deriving DecidableEq, Repr

/-- What a search asks for apart from its term. -/
structure Options where
  filter : Option Filter.Expression := none
  geo : Option Geo.Query := none
  page : Option UInt64 := none
  pageSize : UInt64 := 10
  rank : Option Rank := none
  facets : List String := []
  weights : Table Float := .empty
  returnFields : List String := []
  pageSize_pos : 0 < pageSize := by decide

/-- One thing to ask for. -/
inductive Setting
  | filter (e : Filter.Expression)
  | geo (q : Geo.Query)
  | page (n : UInt64)
  | pageSize (n : UInt64)
  | rank (r : Rank)
  | facets (names : List String)
  | weight (field : String) (weight : Float)
  | returnFields (names : List String)

namespace Options

/-- The options with one more thing asked for. It takes the place of what was asked before, except
that weights of different fields stand side by side. A page has at least one entry. -/
def set (o : Options) : Setting → Options
  | .filter e => { o with filter := some e }
  | .geo q => { o with geo := some q }
  | .page n => { o with page := some n }
  | .pageSize n =>
    if h : 0 < n then { o with pageSize := n, pageSize_pos := h }
    else { o with pageSize := 1, pageSize_pos := by decide }
  | .rank r => { o with rank := some r }
  | .facets names => { o with facets := names }
  | .weight field w => { o with weights := o.weights.insert field w }
  | .returnFields names => { o with returnFields := names }

/-- The options that ask for the given things, one after the other. -/
def ofSettings (settings : List Setting) : Options :=
  settings.foldl set {}

/-- The number of the page, the first if none is asked for. -/
def currentPage (o : Options) : UInt64 :=
  o.page.getD 1

/-- The number of entries before the page. -/
def offset (o : Options) : UInt64 :=
  pageOffset o.currentPage o.pageSize

end Options

end CloudSearch.Search
