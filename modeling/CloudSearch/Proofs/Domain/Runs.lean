import CloudSearch.Proofs.Domain.Endpoint
import CloudSearch.Proofs.Domain.Interleaving

/-!
# Resolvers one after the other

A run takes lookups one by one, each with a resolver of its own choice. Resolvers may share a cache or
not, and discovery may fail, answer with an endpoint that has no usable id, or answer differently the
next time.

All that resolving a name can do is one of four things (`Cache.Resolves`), from which it follows that a
lookup is clean (`Lookup.IsClean`): it asks discovery only for a name that is missing, adds at most the
entry that it returns, and leaves every cache as it was where it fails. Entries stay through a run
(`Caches.run_keeps`) and their ids are sound (`Caches.Sound.run`), and so **discovery succeeds at most
once for each cache and name** (`resolver_runs`).
-/

namespace CloudSearch.Domain

/-! ## Resolving one name -/

/-- All that resolving a name can do: the result, the names that discovery is asked for, and the cache
afterwards. -/
inductive Cache.Resolves (cache : Cache) (discovery : Discovery) (name : String) :
    Except Error String → List String → Cache → Prop
  | known {id : String} (found : cache.get? name = some id) :
      Resolves cache discovery name (.ok id) [] cache
  | discovered {endpoint id : String} (missing : cache.get? name = none)
      (said : discovery name = .ok endpoint) (usable : IsIdIn id endpoint) :
      Resolves cache discovery name (.ok id) [name] (cache.insert name id)
  | refused {cause : String} (missing : cache.get? name = none)
      (said : discovery name = .error cause) :
      Resolves cache discovery name (.error (.domainDiscovery name cause)) [name] cache
  | useless {endpoint : String} (missing : cache.get? name = none)
      (said : discovery name = .ok endpoint) (idless : ∀ id, ¬IsIdIn id endpoint) :
      Resolves cache discovery name
        (.error (.domainDiscovery name ("Unexpected search endpoint \x60" ++ endpoint ++ "\x60")))
        [name] cache

theorem Cache.resolves (cache : Cache) (discovery : Discovery) (name : String) :
    cache.Resolves discovery name (cache.resolve discovery name).result
      (cache.resolve discovery name).asked (cache.resolve discovery name).cache := by
  unfold Cache.resolve
  cases found : cache.get? name with
  | some id => exact .known found
  | none =>
    cases said : discovery name with
    | error cause => exact .refused found said
    | ok endpoint =>
      cases read : idOfEndpoint? endpoint with
      | none =>
        simp only [Domain.discovered, read]
        refine .useless found said fun id usable => ?_
        rw [← idOfEndpoint?_eq_some_iff, read] at usable
        cases usable
      | some id =>
        simp only [Domain.discovered, read, Cache.store, found, Table.get?_insert, if_true,
          Option.getD_some]
        exact .discovered found said (idOfEndpoint?_eq_some_iff.1 read)

/-- What the cache has for a name stays. -/
theorem Cache.Resolves.keeps {cache cache' : Cache} {discovery : Discovery} {name : String}
    {result : Except Error String} {asked : List String}
    (resolves : cache.Resolves discovery name result asked cache') {other id : String}
    (found : cache.get? other = some id) : cache'.get? other = some id := by
  cases resolves with
  | discovered missing said usable =>
    have differ : other ≠ name := by
      rintro rfl
      rw [missing] at found
      cases found
    rw [Table.get?_insert, if_neg differ, found]
  | known | refused | useless => exact found

/-- What the cache has afterwards it had before, or it stands in an endpoint. -/
theorem Cache.Resolves.get?_eq_some {cache cache' : Cache} {discovery : Discovery} {name : String}
    {result : Except Error String} {asked : List String}
    (resolves : cache.Resolves discovery name result asked cache') {other id : String}
    (found : cache'.get? other = some id) :
    cache.get? other = some id ∨ ∃ endpoint, IsIdIn id endpoint := by
  cases resolves with
  | discovered missing said usable =>
    rw [Table.get?_insert] at found
    split at found
    next =>
      cases found
      exact .inr ⟨_, usable⟩
    next => exact .inl found
  | known | refused | useless => exact .inl found

theorem Cache.Resolves.asked_eq {cache cache' : Cache} {discovery : Discovery} {name : String}
    {result : Except Error String} {asked : List String}
    (resolves : cache.Resolves discovery name result asked cache') :
    asked = if cache.get? name = none then [name] else [] := by
  cases resolves with
  | known found => simp [found]
  | discovered missing | refused missing | useless missing => simp [missing]

/-- A name that the cache has an id for is resolved to that id, and nothing is asked. -/
theorem Cache.Resolves.of_known {cache cache' : Cache} {discovery : Discovery} {name : String}
    {result : Except Error String} {asked : List String}
    (resolves : cache.Resolves discovery name result asked cache') {id : String}
    (known : cache.get? name = some id) : result = .ok id ∧ asked = [] := by
  cases resolves with
  | known found =>
    rw [known] at found
    cases found
    exact ⟨rfl, rfl⟩
  | discovered missing | refused missing | useless missing =>
    rw [known] at missing
    cases missing

/-- What discovery says of names that it is not asked for does not matter. -/
theorem Cache.resolve_congr {cache : Cache} {discovery other : Discovery} {name : String}
    (same : ∀ n ∈ (cache.resolve discovery name).asked, other n = discovery n) :
    cache.resolve other name = cache.resolve discovery name := by
  cases found : cache.get? name with
  | some id => simp only [Cache.resolve, found]
  | none =>
    rw [(cache.resolves discovery name).asked_eq, if_pos found] at same
    simp only [Cache.resolve, found, same name (List.mem_singleton.2 rfl)]

/-! ## Lookups -/

/-- A model to be resolved, the resolver for it, and what discovery says at that time. -/
structure Lookup where
  resolver : Resolver
  model : String
  discovery : Discovery

/-- The caches with another cache under one number. -/
def Caches.put (caches : Caches) (n : Nat) (cache : Cache) : Caches :=
  fun i => if i = n then cache else caches i

theorem Caches.put_self (caches : Caches) (n : Nat) : caches.put n (caches n) = caches := by
  funext i
  unfold Caches.put
  split
  next same => rw [same]
  next => rfl

namespace Lookup

/-- The full name of the domain. -/
def name (l : Lookup) : String :=
  safeName l.resolver.scope l.model

/-- What comes of the lookup, and all caches afterwards. -/
def take (l : Lookup) (caches : Caches) : Resolution × Caches :=
  l.resolver.resolve caches l.discovery l.model

/-- The id that the cache of the resolver has for the full name. -/
def known? (l : Lookup) (caches : Caches) : Option String :=
  (caches l.resolver.cache).get? l.name

theorem take_eq (l : Lookup) (caches : Caches) :
    l.take caches =
      ((caches l.resolver.cache).resolve l.discovery l.name,
        caches.put l.resolver.cache ((caches l.resolver.cache).resolve l.discovery l.name).cache) :=
  rfl

/-- The lookup is clean: what it asks discovery for, what it adds, and what it leaves as it was. -/
structure IsClean (l : Lookup) (caches : Caches) : Prop where
  /-- Discovery is asked exactly if the cache has no id for the full name, and for that name only. -/
  asks : (l.take caches).1.asked = if l.known? caches = none then [l.name] else []
  /-- Nothing else that discovery might say matters. -/
  relies : ∀ other : Discovery, (∀ name ∈ (l.take caches).1.asked, other name = l.discovery name) →
    Lookup.take { l with discovery := other } caches = l.take caches
  /-- The id that is returned is the one that the cache has for the name afterwards. -/
  returns : ∀ id, (l.take caches).1.result = .ok id → l.known? (l.take caches).2 = some id
  /-- Nothing is added but the id that is returned, and that only to the one cache. -/
  adds : ∀ id, (l.take caches).1.result = .ok id →
    (l.take caches).2 = caches ∨
      l.known? caches = none ∧
        ((l.take caches).2 l.resolver.cache).entries =
          (caches l.resolver.cache).entries ++ [(l.name, id)] ∧
        ∀ i, i ≠ l.resolver.cache → (l.take caches).2 i = caches i
  /-- The name is at fault where the lookup fails, and every cache is left as it was. -/
  fails : ∀ e, (l.take caches).1.result = .error e →
    (∃ cause, e = .domainDiscovery l.name cause) ∧ (l.take caches).2 = caches
  /-- A lookup fails exactly if discovery has no usable id for a name that the cache has none for. -/
  fails_iff : (∃ e, (l.take caches).1.result = .error e) ↔
    l.known? caches = none ∧
      ∀ endpoint, l.discovery l.name = .ok endpoint → ∀ id, ¬IsIdIn id endpoint

theorem isClean (l : Lookup) (caches : Caches) : l.IsClean caches := by
  have resolves := (caches l.resolver.cache).resolves l.discovery l.name
  refine ⟨resolves.asked_eq, ?relies, ?returns, ?adds, ?fails, ?fails_iff⟩
  case relies =>
    intro other same
    rw [take_eq, take_eq]
    rw [take_eq] at same
    simp only [name] at same ⊢
    rw [Cache.resolve_congr same]
  all_goals
    simp only [take_eq, known?, Caches.put, if_true]
    generalize (caches l.resolver.cache).resolve l.discovery l.name = r at resolves ⊢
    obtain ⟨result, asked, cache⟩ := r
    simp only at resolves ⊢
  case returns =>
    rintro id rfl
    cases resolves with
    | known found => exact found
    | discovered => rw [Table.get?_insert, if_pos rfl]
  case adds =>
    rintro id rfl
    cases resolves with
    | known found => exact .inl (caches.put_self _)
    | discovered missing =>
      refine .inr ⟨missing, Table.place_of_not_mem ?_ id, fun i differ => if_neg differ⟩
      intro listed
      obtain ⟨entry, mem, same⟩ := List.mem_map.1 listed
      rw [← same, Table.mem_entries_iff.1 mem] at missing
      cases missing
  case fails =>
    rintro e rfl
    cases resolves with
    | refused | useless => exact ⟨⟨_, rfl⟩, caches.put_self _⟩
  case fails_iff =>
    cases resolves with
    | known found => simp [found]
    | discovered missing said usable =>
      simp only [reduceCtorEq, exists_false, false_iff]
      rintro ⟨-, idless⟩
      exact idless _ said _ usable
    | refused missing said => simp [missing, said]
    | useless missing said idless => simpa [missing, said] using idless

theorem take_keeps (l : Lookup) {caches : Caches} {i : Nat} {name id : String}
    (found : (caches i).get? name = some id) : ((l.take caches).2 i).get? name = some id := by
  rw [take_eq]
  simp only [Caches.put]
  split
  next same =>
    subst same
    exact (Cache.resolves _ _ _).keeps found
  next => exact found

end Lookup

/-! ## Runs -/

namespace Caches

/-- No name has been resolved. -/
def initial : Caches :=
  fun _ => .empty

/-- The caches after lookups one after the other. -/
def run (caches : Caches) (lookups : List Lookup) : Caches :=
  lookups.foldl (fun caches l => (l.take caches).2) caches

theorem run_append (caches : Caches) (before after : List Lookup) :
    caches.run (before ++ after) = (caches.run before).run after :=
  List.foldl_append

/-- Ids in caches are not changed and not removed. -/
theorem run_keeps {caches : Caches} {i : Nat} {name id : String}
    (found : (caches i).get? name = some id) (lookups : List Lookup) :
    ((caches.run lookups) i).get? name = some id := by
  induction lookups generalizing caches with
  | nil => exact found
  | cons l lookups ih => exact ih (l.take_keeps found)

/-- Every id in the caches is one that can stand in an endpoint. -/
def Sound (caches : Caches) : Prop :=
  ∀ i name id, (caches i).get? name = some id → id ≠ "" ∧ '.' ∉ id.toList

theorem Sound.initial : Sound initial := fun _ _ _ found => nomatch found

theorem Sound.take {caches : Caches} (sound : caches.Sound) (l : Lookup) :
    Sound (l.take caches).2 := by
  intro i name id found
  rw [Lookup.take_eq] at found
  simp only [put] at found
  split at found
  next =>
    rcases (Cache.resolves _ _ _).get?_eq_some found with before | ⟨endpoint, usable⟩
    · exact sound _ _ _ before
    · exact ⟨usable.nonempty, usable.dotless⟩
  next => exact sound _ _ _ found

theorem Sound.run {caches : Caches} (sound : caches.Sound) (lookups : List Lookup) :
    Sound (caches.run lookups) := by
  induction lookups generalizing caches with
  | nil => exact sound
  | cons l lookups ih => exact ih (sound.take l)

/-- The caches when the lookup of the given number is due. -/
def due (lookups : List Lookup) (n : Nat) : Caches :=
  initial.run (lookups.take n)

theorem due_succ {lookups : List Lookup} {n : Nat} {l : Lookup} (here : lookups[n]? = some l) :
    due lookups (n + 1) = (l.take (due lookups n)).2 := by
  rw [due, List.take_add_one, here, run_append]
  rfl

theorem due_keeps {lookups : List Lookup} {m n : Nat} (earlier : m ≤ n) {i : Nat}
    {name id : String} (found : (due lookups m i).get? name = some id) :
    (due lookups n i).get? name = some id := by
  have parted : lookups.take n = lookups.take m ++ (lookups.drop m).take (n - m) := by
    rw [← List.take_add, Nat.add_sub_cancel' earlier]
  rw [due, parted, run_append]
  exact run_keeps found _

end Caches

/-- The lookup of the given number asks discovery for the name, and stores what it is told in the
given cache. -/
def DiscoversAt (lookups : List Lookup) (n cache : Nat) (name : String) : Prop :=
  ∃ (l : Lookup) (id : String), lookups[n]? = some l ∧ l.resolver.cache = cache ∧
    name ∈ (l.take (Caches.due lookups n)).1.asked ∧
    (l.take (Caches.due lookups n)).1.result = .ok id

/-- What a lookup has returned is known to all that come later with its cache and its full name. -/
theorem Lookup.known?_of_returned {lookups : List Lookup} {m n : Nat} {l l' : Lookup} {id : String}
    (earlier : m < n) (here : lookups[m]? = some l)
    (returned : (l.take (Caches.due lookups m)).1.result = .ok id)
    (same_cache : l'.resolver.cache = l.resolver.cache) (same_name : l'.name = l.name) :
    l'.known? (Caches.due lookups n) = some id := by
  have stored := (l.isClean _).returns id returned
  rw [← Caches.due_succ here] at stored
  rw [known?, same_cache, same_name]
  exact Caches.due_keeps earlier stored

/-- A name is not discovered again. -/
theorem not_discoversAt_of_lt {lookups : List Lookup} {m n cache : Nat} {name : String}
    (earlier : m < n) (first : DiscoversAt lookups m cache name) :
    ¬DiscoversAt lookups n cache name := by
  rintro ⟨l', id', there, cache_eq', asked', -⟩
  obtain ⟨l, id, here, cache_eq, asked, returned⟩ := first
  rw [(l.isClean _).asks, List.mem_ite_nil_right, List.mem_singleton] at asked
  rw [(l'.isClean _).asks, List.mem_ite_nil_right, List.mem_singleton] at asked'
  have known : l'.known? (Caches.due lookups n) = some id := Lookup.known?_of_returned earlier here
    returned (cache_eq'.trans cache_eq.symm) (asked'.2.symm.trans asked.2)
  rw [asked'.1] at known
  cases known

/-- **Runs ask once and fail clean.** Every lookup of a run is clean; ids in caches stay, are not empty
and have no dot; so for each cache and name discovery succeeds with at most one lookup, and lookups
that come later and lead to the same full name, however the model is spelled, return the id that the
earlier one has returned and ask for nothing. -/
theorem resolver_runs (lookups : List Lookup) :
    (∀ (n : Nat) (l : Lookup), lookups[n]? = some l → l.IsClean (Caches.due lookups n)) ∧
    (∀ m n, m ≤ n → ∀ i name id, (Caches.due lookups m i).get? name = some id →
      (Caches.due lookups n i).get? name = some id) ∧
    (∀ n, (Caches.due lookups n).Sound) ∧
    (∀ m n cache name, DiscoversAt lookups m cache name → DiscoversAt lookups n cache name →
      m = n) ∧
    (∀ (m n : Nat) (l l' : Lookup), m < n → lookups[m]? = some l → lookups[n]? = some l' →
      l'.resolver.cache = l.resolver.cache → l'.name = l.name →
      ∀ id, (l.take (Caches.due lookups m)).1.result = .ok id →
        (l'.take (Caches.due lookups n)).1.result = .ok id ∧
          (l'.take (Caches.due lookups n)).1.asked = []) := by
  refine ⟨fun n l _ => l.isClean _, fun m n earlier i name id => Caches.due_keeps earlier,
    fun n => Caches.Sound.initial.run _, ?_, ?_⟩
  · intro m n cache name first second
    rcases Nat.lt_trichotomy m n with earlier | same | later
    · exact absurd second (not_discoversAt_of_lt earlier first)
    · exact same
    · exact absurd first (not_discoversAt_of_lt later second)
  · intro m n l l' earlier here _ same_cache same_name id returned
    exact (Cache.resolves _ _ _).of_known
      (Lookup.known?_of_returned earlier here returned same_cache same_name)

/-- Models whose names are spelled differently may share an entry. -/
example : safeName "dev" "TestModel" = safeName "dev" "test-model" := by decide +kernel

end CloudSearch.Domain
