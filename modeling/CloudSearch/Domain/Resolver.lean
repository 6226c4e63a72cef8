import CloudSearch.Domain.Name
import CloudSearch.Error
import CloudSearch.Table

/-!
# Resolving models to domain ids

The id of a domain has to be discovered once and is then kept in a cache under the full name of the
domain. Resolvers may share a cache.
-/

namespace CloudSearch.Domain

/-- The ids of domains that have been discovered, by full name. -/
abbrev Cache := Table String

/-- Tells the search endpoint of a domain, or why it cannot. -/
abbrev Discovery := String → Except String String

/-- The cache with an id for a name that it has none for yet. -/
def Cache.store (cache : Cache) (name id : String) : Cache :=
  match cache.get? name with
  | some _ => cache
  | none => cache.insert name id

/-- What comes of resolving a name: its id or an error, the names that discovery was asked for, and
the cache afterwards. -/
structure Resolution where
  result : Except Error String
  asked : List String
  cache : Cache

/-- The id in what discovery says of a domain. -/
def discovered (name : String) (answer : Except String String) : Except Error String :=
  match answer with
  | .error cause => .error (.domainDiscovery name cause)
  | .ok endpoint => match idOfEndpoint? endpoint with
    | some id => .ok id
    | none => .error (.domainDiscovery name ("Unexpected search endpoint `" ++ endpoint ++ "`"))

/-- Resolves the full name of a domain, by discovery only where the cache has no id. -/
def Cache.resolve (cache : Cache) (discovery : Discovery) (name : String) : Resolution :=
  match cache.get? name with
  | some id => ⟨.ok id, [], cache⟩
  | none => match discovered name (discovery name) with
    | .ok id =>
      let stored := cache.store name id
      ⟨.ok ((stored.get? name).getD id), [name], stored⟩
    | .error e => ⟨.error e, [name], cache⟩

/-- A resolver for the models of one scope, which keeps ids in the cache of the given number. -/
structure Resolver where
  scope : String
  cache : Nat
deriving DecidableEq, Repr

/-- All caches by number. -/
abbrev Caches := Nat → Cache

/-- Resolves a model; of the caches only the resolver's own can change. -/
def Resolver.resolve (r : Resolver) (caches : Caches) (discovery : Discovery) (model : String) :
    Resolution × Caches :=
  let resolution := (caches r.cache).resolve discovery (safeName r.scope model)
  (resolution, fun i => if i = r.cache then resolution.cache else caches i)

end CloudSearch.Domain
