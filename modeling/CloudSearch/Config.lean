import CloudSearch.Dialect
import CloudSearch.Document.Operation
import CloudSearch.Error

/-!
# Client configuration

Where a client sends its requests, which version of the interface it speaks and how it writes
documents. Without a search domain there is nowhere to send anything.
-/

namespace CloudSearch

/-- Whether a client sends anything. -/
inductive Mode
  | live
  | sandbox
deriving DecidableEq, Repr

/-- The configuration of a client. -/
structure Config where
  searchDomain : Option String := none
  region : String := "us-east-1"
  apiVersion : String := Dialect.legacy.apiVersion
  mode : Mode := .live
  /-- Takes the place of the hosts of the domain. -/
  baseUrl : Option String := none
  lang : String := "en"
  nullFields : Document.NullPolicy := .emptyText
deriving DecidableEq, Repr

/-- One thing to set in a configuration. -/
inductive Config.Setting
  | searchDomain (domain : String)
  | region (region : String)
  | apiVersion (version : String)
  | mode (m : Mode)
  | baseUrl (url : String)
  | lang (lang : String)
  | nullFields (p : Document.NullPolicy)
deriving DecidableEq, Repr

namespace Config

/-- A configuration that speaks the structured dialect. -/
def structured : Config :=
  { apiVersion := Dialect.structured.apiVersion }

/-- A configuration that sends nothing. -/
def sandbox : Config :=
  { mode := .sandbox }

/-- The configuration with one more thing set. It takes the place of what was set before. -/
def set (c : Config) : Setting → Config
  | .searchDomain domain => { c with searchDomain := some domain }
  | .region region => { c with region }
  | .apiVersion version => { c with apiVersion := version }
  | .mode m => { c with mode := m }
  | .baseUrl url => { c with baseUrl := some url }
  | .lang lang => { c with lang }
  | .nullFields p => { c with nullFields := p }

/-- The configuration with the given things set, one after the other. -/
def setAll (c : Config) (settings : List Setting) : Config :=
  settings.foldl set c

/-- Whatever a configuration is, there are things to set that make it of the one without any. -/
theorem exists_setAll (c : Config) : ∃ settings, ({} : Config).setAll settings = c := by
  obtain ⟨domain, region, version, mode, url, lang, p⟩ := c
  refine ⟨(domain.map Setting.searchDomain).toList ++ (url.map Setting.baseUrl).toList ++
    [.region region, .apiVersion version, .mode mode, .lang lang, .nullFields p], ?_⟩
  cases domain <;> cases url <;> rfl

/-- The dialect that the version of the interface speaks. -/
def dialect (c : Config) : Dialect :=
  .ofApiVersion c.apiVersion

/-- The encoder for documents. -/
def encoder (c : Config) : Document.Encoder :=
  ⟨c.lang, c.nullFields⟩

/-- The search domain, which may not be empty. -/
def domain (c : Config) : Except Error String :=
  match c.searchDomain with
  | some domain => if domain = "" then .error missing else .ok domain
  | none => .error missing
where
  missing : Error := .config
    "No search domain configured. Set one with `ClientConfigBuilder::search_domain`"

/-- The text without the slashes at its end. -/
def dropSlashes (s : String) : String :=
  String.ofList (s.toList.reverse.dropWhile (· == '/')).reverse

/-- The address of one of the services of the domain. -/
def host (c : Config) (service : String) : Except Error String := do
  let domain ← c.domain
  match c.baseUrl with
  | some base => return dropSlashes base
  | none =>
    return "http://" ++ service ++ "-" ++ domain ++ "." ++ c.region ++ ".cloudsearch.amazonaws.com"

/-- Where searches are sent. -/
def searchUrl (c : Config) : Except Error String := do
  let host ← c.host "search"
  return host ++ "/" ++ c.apiVersion ++ "/search"

/-- Where batches of documents are sent. -/
def documentUrl (c : Config) : Except Error String := do
  let host ← c.host "doc"
  return host ++ "/" ++ c.apiVersion ++ "/documents/batch"

end Config

end CloudSearch
