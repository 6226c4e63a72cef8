import CloudSearch.Domain.Resolver
import CloudSearch.Proofs.Table

/-!
# Calls that share a cache

Several callers may resolve names with one cache at the same time. A call is a sequence of atomic
steps: it looks its name up, asks discovery where nothing is found, takes the id out of the answer,
and stores the id unless the cache has got one in the meantime. Discovery may answer differently
each time it is asked, and the steps of different calls may come in any order.

The invariant relates the cache and the calls under way to what discovery has said so far
(`Consistent`). One step preserves it (`Consistent.step`), so every run does (`Consistent.run`).
With the entries of the cache that never change (`State.run_keeps`) and the results that are final
(`State.run_returned`), it follows that **the first answer stored wins** for every caller. A call that
nothing comes between is the resolving of its model (`resolve_of_undisturbed`).
-/

namespace CloudSearch.Domain

/-! ## Storing -/

namespace Cache

/-- The name has an id once one has been stored, the one it had before if there was any. -/
theorem get?_store_self (cache : Cache) (name id : String) :
    (cache.store name id).get? name = some ((cache.get? name).getD id) := by
  unfold store
  split
  next known found => rw [found, Option.getD_some]
  next missing => rw [missing, Option.getD_none, Table.get?_insert, if_pos rfl]

/-- What the cache has for a name stays. -/
theorem get?_store_of_some {cache : Cache} {other known : String}
    (found : cache.get? other = some known) (name id : String) :
    (cache.store name id).get? other = some known := by
  unfold store
  split
  · exact found
  · next missing =>
    have differ : other ≠ name := by
      intro same
      rw [same, missing] at found
      cases found
    rw [Table.get?_insert, if_neg differ, found]

/-- What the cache has afterwards it had before, or it is what was stored. -/
theorem get?_store_eq_some {cache : Cache} {name id other known : String}
    (found : (cache.store name id).get? other = some known) :
    cache.get? other = some known ∨ other = name ∧ known = id := by
  unfold store at found
  split at found
  · exact .inl found
  · rw [Table.get?_insert] at found
    split at found
    next same => exact .inr ⟨same, (Option.some.inj found).symm⟩
    next differ => exact .inl found

end Cache

/-! ## One call -/

/-- How far a call has come: it has begun, it has found nothing in the cache, it has the answer of
discovery, it has taken an id out of the answer, or it has returned. -/
inductive Stage where
  | begun
  | missed
  | answered (answer : Except String String)
  | extracted (id : String)
  | returned (result : Except Error String)

/-- The atomic steps of a call. Discovery is asked for a name and gives any answer. -/
inductive Act where
  | lookUp
  | discover (name : String) (answer : Except String String)
  | extract
  | store

/-- The stage after a step of a call for `name`, and the cache after it, where the step is next. -/
def Stage.act (name : String) (cache : Cache) : Stage → Act → Option (Stage × Cache)
  | .begun, .lookUp => match cache.get? name with
    | some id => some (.returned (.ok id), cache)
    | none => some (.missed, cache)
  | .missed, .discover asked answer => if asked = name then some (.answered answer, cache) else none
  | .answered answer, .extract => match discovered name answer with
    | .ok id => some (.extracted id, cache)
    | .error e => some (.returned (.error e), cache)
  | .extracted id, .store =>
    let stored := cache.store name id
    some (.returned (.ok ((stored.get? name).getD id)), stored)
  | _, _ => none

/-- All that one step of a call for `name` can do: the stage before it, the step, the stage after
it and the cache after it. -/
inductive Stage.Moves (name : String) (cache : Cache) : Stage → Act → Stage → Cache → Prop
  | hit {id : String} (found : cache.get? name = some id) :
      Moves name cache .begun .lookUp (.returned (.ok id)) cache
  | miss (missing : cache.get? name = none) : Moves name cache .begun .lookUp .missed cache
  | answer (answer : Except String String) :
      Moves name cache .missed (.discover name answer) (.answered answer) cache
  | extract {answer : Except String String} {id : String} (found : discovered name answer = .ok id) :
      Moves name cache (.answered answer) .extract (.extracted id) cache
  | fail {answer : Except String String} {e : Error} (refused : discovered name answer = .error e) :
      Moves name cache (.answered answer) .extract (.returned (.error e)) cache
  | store (id : String) :
      Moves name cache (.extracted id) .store (.returned (.ok ((cache.get? name).getD id)))
        (cache.store name id)

theorem Stage.moves_of_act {name : String} {cache cache' : Cache} {stage stage' : Stage} {act : Act}
    (acted : stage.act name cache act = some (stage', cache')) :
    Moves name cache stage act stage' cache' := by
  unfold Stage.act at acted
  split at acted
  · split at acted
    next found => cases acted; exact .hit found
    next missing => cases acted; exact .miss missing
  · split at acted
    next same => cases acted; subst same; exact .answer _
    next => cases acted
  · split at acted
    next found => cases acted; exact .extract found
    next refused => cases acted; exact .fail refused
  · next id =>
    simp only [Cache.get?_store_self, Option.getD_some] at acted
    cases acted
    exact .store id
  · cases acted

theorem Stage.Moves.keeps {name : String} {cache cache' : Cache} {stage stage' : Stage} {act : Act}
    (moves : Moves name cache stage act stage' cache') {other id : String}
    (found : cache.get? other = some id) : cache'.get? other = some id := by
  cases moves with
  | store stored => exact Cache.get?_store_of_some found name stored
  | hit | miss | answer | extract | fail => exact found

theorem Stage.Moves.cache_eq_or_returned {name : String} {cache cache' : Cache}
    {stage stage' : Stage} {act : Act} (moves : Moves name cache stage act stage' cache') :
    cache' = cache ∨ ∃ id, stage' = .returned (.ok id) := by
  cases moves with
  | store => exact .inr ⟨_, rfl⟩
  | hit | miss | answer | extract | fail => exact .inl rfl

/-- A call for the domain of a model in a scope. -/
structure Call where
  scope : String
  model : String
  stage : Stage

/-- The full name that the call looks up. -/
def Call.name (call : Call) : String :=
  safeName call.scope call.model

/-! ## Runs of several calls -/

/-- What happens next: another call begins, or a caller takes a step. Callers are counted in the
order in which their calls began. -/
inductive Event where
  | begins (scope model : String)
  | acts (caller : Nat) (act : Act)

/-- The shared cache and all calls that have begun. -/
structure State where
  cache : Cache
  calls : List Call

namespace State

/-- No call has begun and the cache is empty. -/
def initial : State :=
  ⟨.empty, []⟩

/-- The state after an event, where the event is possible. -/
def step (s : State) : Event → Option State
  | .begins scope model => some ⟨s.cache, s.calls ++ [⟨scope, model, .begun⟩]⟩
  | .acts caller act => match s.calls[caller]? with
    | none => none
    | some call => match call.stage.act call.name s.cache act with
      | none => none
      | some (stage, cache) => some ⟨cache, s.calls.set caller { call with stage }⟩

/-- The state after events one after the other, where they are possible. -/
def run (s : State) : List Event → Option State
  | [] => some s
  | e :: events => match s.step e with
    | none => none
    | some next => next.run events

theorem run_cons_eq_some {s s' : State} {e : Event} {events : List Event}
    (h : s.run (e :: events) = some s') :
    ∃ next, s.step e = some next ∧ next.run events = some s' := by
  rw [run] at h
  split at h
  next => cases h
  next next stepped => exact ⟨next, stepped, h⟩

theorem run_append_eq_some {s s' : State} {before after : List Event}
    (h : s.run (before ++ after) = some s') :
    ∃ mid, s.run before = some mid ∧ mid.run after = some s' := by
  induction before generalizing s with
  | nil => exact ⟨s, rfl, h⟩
  | cons e before ih =>
    obtain ⟨next, stepped, rest⟩ := run_cons_eq_some h
    obtain ⟨mid, reached, left⟩ := ih rest
    refine ⟨mid, ?_, left⟩
    rw [run, stepped]
    exact reached

/-- A caller's step is a move of its call, and touches no other call. -/
theorem step_acts_eq_some {s s' : State} {caller : Nat} {act : Act}
    (h : s.step (.acts caller act) = some s') :
    ∃ call stage, s.calls[caller]? = some call ∧
      Stage.Moves call.name s.cache call.stage act stage s'.cache ∧
      s'.calls = s.calls.set caller { call with stage } := by
  simp only [step] at h
  split at h
  next => cases h
  next call here =>
    split at h
    next => cases h
    next stage cache acted =>
      cases h
      exact ⟨call, stage, here, Stage.moves_of_act acted, rfl⟩

/-! ## What stays -/

theorem step_keeps {s s' : State} {e : Event} (h : s.step e = some s') {name id : String}
    (found : s.cache.get? name = some id) : s'.cache.get? name = some id := by
  cases e with
  | begins scope model =>
    cases h
    exact found
  | acts caller act =>
    obtain ⟨call, stage, -, moves, -⟩ := step_acts_eq_some h
    exact moves.keeps found

/-- Entries of the cache are neither changed nor removed. -/
theorem run_keeps {s s' : State} {events : List Event} (h : s.run events = some s')
    {name id : String} (found : s.cache.get? name = some id) : s'.cache.get? name = some id := by
  induction events generalizing s with
  | nil =>
    cases h
    exact found
  | cons e events ih =>
    obtain ⟨next, stepped, rest⟩ := run_cons_eq_some h
    exact ih rest (step_keeps stepped found)

theorem step_returned {s s' : State} {e : Event} (h : s.step e = some s') {caller : Nat}
    {call : Call} {result : Except Error String} (here : s.calls[caller]? = some call)
    (done : call.stage = .returned result) : s'.calls[caller]? = some call := by
  have bound : caller < s.calls.length := (List.getElem?_eq_some_iff.1 here).1
  cases e with
  | begins scope model =>
    cases h
    simpa [List.getElem?_append_left bound] using here
  | acts other act =>
    obtain ⟨moved, stage, there, moves, calls_eq⟩ := step_acts_eq_some h
    by_cases same : other = caller
    · -- a call that has returned has no step left
      subst same
      rw [here] at there
      cases there
      rw [done] at moves
      cases moves
    · rw [calls_eq, List.getElem?_set_ne same]
      exact here

/-- What a call has returned is final. -/
theorem run_returned {s s' : State} {events : List Event} (h : s.run events = some s') {caller : Nat}
    {call : Call} {result : Except Error String} (here : s.calls[caller]? = some call)
    (done : call.stage = .returned result) : s'.calls[caller]? = some call := by
  induction events generalizing s with
  | nil =>
    cases h
    exact here
  | cons e events ih =>
    obtain ⟨next, stepped, rest⟩ := run_cons_eq_some h
    exact ih rest (step_returned stepped here done)

/-- A caller whose step changes the cache returns an id with that step. -/
theorem cache_eq_or_returned {s s' : State} {caller : Nat} {act : Act}
    (h : s.step (.acts caller act) = some s') :
    s'.cache = s.cache ∨
      ∃ call id, s'.calls[caller]? = some call ∧ call.stage = .returned (.ok id) := by
  obtain ⟨call, stage, here, moves, calls_eq⟩ := step_acts_eq_some h
  have bound : caller < s.calls.length := (List.getElem?_eq_some_iff.1 here).1
  rcases moves.cache_eq_or_returned with unchanged | ⟨id, rfl⟩
  · exact .inl unchanged
  · refine .inr ⟨{ call with stage := .returned (.ok id) }, id, ?_, rfl⟩
    rw [calls_eq, List.getElem?_set_self bound]

/-- A caller that ends with an error has at no point changed the cache. -/
theorem cache_eq_of_failed {mid next s' : State} {caller : Nat} {act : Act} {after : List Event}
    (stepped : mid.step (.acts caller act) = some next) (rest : next.run after = some s')
    {call : Call} {e : Error} (here : s'.calls[caller]? = some call)
    (failed : call.stage = .returned (.error e)) : next.cache = mid.cache := by
  rcases cache_eq_or_returned stepped with unchanged | ⟨call', id, there, done⟩
  · exact unchanged
  · have still := run_returned rest there done
    rw [here] at still
    cases still
    rw [done] at failed
    cases failed

end State

/-! ## What the cache and the calls are backed by -/

/-- Discovery has said, when asked for `name`, that its endpoint is `endpoint`. -/
def Said (events : List Event) (name endpoint : String) : Prop :=
  ∃ caller, Event.acts caller (.discover name (.ok endpoint)) ∈ events

/-- The id stands in an endpoint that discovery has told for the very name. -/
def Told (events : List Event) (name id : String) : Prop :=
  ∃ endpoint, Said events name endpoint ∧ idOfEndpoint? endpoint = some id

/-- What a call for `name` knows is backed: what it was answered was said, the id it has was told,
and what it has returned is what the cache has. -/
def Stage.Backed (events : List Event) (cache : Cache) (name : String) : Stage → Prop
  | .begun => True
  | .missed => True
  | .answered answer => ∀ endpoint, answer = .ok endpoint → Said events name endpoint
  | .extracted id => Told events name id
  | .returned result => ∀ id, result = .ok id → cache.get? name = some id

/-- The cache has only what was told, and what the calls know is backed. -/
structure Consistent (events : List Event) (s : State) : Prop where
  told : ∀ name id, s.cache.get? name = some id → Told events name id
  backed : ∀ call ∈ s.calls, call.stage.Backed events s.cache call.name

theorem Said.mono {events events' : List Event} (more : events ⊆ events') {name endpoint : String}
    (said : Said events name endpoint) : Said events' name endpoint := by
  obtain ⟨caller, mem⟩ := said
  exact ⟨caller, more mem⟩

theorem Told.mono {events events' : List Event} (more : events ⊆ events') {name id : String}
    (told : Told events name id) : Told events' name id := by
  obtain ⟨endpoint, said, id_eq⟩ := told
  exact ⟨endpoint, said.mono more, id_eq⟩

theorem Stage.Backed.mono {events events' : List Event} (more : events ⊆ events')
    {cache cache' : Cache}
    (kept : ∀ name id, cache.get? name = some id → cache'.get? name = some id) {name : String}
    {stage : Stage} (backed : stage.Backed events cache name) :
    stage.Backed events' cache' name := by
  cases stage with
  | begun => trivial
  | missed => trivial
  | answered answer => exact fun endpoint h => (backed endpoint h).mono more
  | extracted id => exact Told.mono more backed
  | returned result => exact fun id h => kept name id (backed id h)

/-- The id that a call takes out of an answer stands in the endpoint it was told. -/
theorem discovered_eq_ok {name id : String} {answer : Except String String}
    (h : discovered name answer = .ok id) :
    ∃ endpoint, answer = .ok endpoint ∧ idOfEndpoint? endpoint = some id := by
  unfold discovered at h
  split at h
  next => cases h
  next endpoint =>
    split at h
    next found => cases h; exact ⟨endpoint, rfl, found⟩
    next => cases h

/-- A move takes a backed stage to a backed stage, the event itself included. -/
theorem Stage.Moves.backed {name : String} {cache cache' : Cache} {stage stage' : Stage} {act : Act}
    (moves : Moves name cache stage act stage' cache') {events : List Event} (caller : Nat)
    (backed : stage.Backed events cache name) :
    stage'.Backed (events ++ [.acts caller act]) cache' name := by
  have more : events ⊆ events ++ [.acts caller act] := List.subset_append_left _ _
  cases moves with
  | hit found =>
    intro id h
    cases h
    exact found
  | miss => trivial
  | answer answer =>
    intro endpoint h
    subst h
    exact ⟨caller, List.mem_append_right _ (List.mem_singleton.2 rfl)⟩
  | extract found =>
    obtain ⟨endpoint, answered, id_eq⟩ := discovered_eq_ok found
    exact ⟨endpoint, (backed endpoint answered).mono more, id_eq⟩
  | fail =>
    intro id h
    cases h
  | store stored =>
    intro id h
    cases h
    exact Cache.get?_store_self cache name stored

/-- What the cache has after a move it had before, or the call has been told it. -/
theorem Stage.Moves.get?_eq_some {name : String} {cache cache' : Cache} {stage stage' : Stage}
    {act : Act} (moves : Moves name cache stage act stage' cache') {events : List Event}
    (backed : stage.Backed events cache name) {other id : String}
    (found : cache'.get? other = some id) : cache.get? other = some id ∨ Told events other id := by
  cases moves with
  | store stored =>
    rcases Cache.get?_store_eq_some found with before | ⟨rfl, rfl⟩
    · exact .inl before
    · exact .inr backed
  | hit | miss | answer | extract | fail => exact .inl found

theorem Consistent.initial : Consistent [] State.initial where
  told _ _ h := nomatch h
  backed _ h := nomatch h

theorem Consistent.step {events : List Event} {s s' : State} (consistent : Consistent events s)
    {e : Event} (h : s.step e = some s') : Consistent (events ++ [e]) s' := by
  have more : events ⊆ events ++ [e] := List.subset_append_left _ _
  have kept : ∀ name id, s.cache.get? name = some id → s'.cache.get? name = some id :=
    fun _ _ found => State.step_keeps h found
  cases e with
  | begins scope model =>
    cases h
    refine ⟨fun name id found => (consistent.told name id found).mono more, ?_⟩
    intro call mem
    rcases List.mem_append.1 mem with old | new
    · exact (consistent.backed call old).mono more kept
    · rw [List.mem_singleton.1 new]
      trivial
  | acts caller act =>
    obtain ⟨call, stage, here, moves, calls_eq⟩ := State.step_acts_eq_some h
    have call_backed := consistent.backed call (List.mem_of_getElem? here)
    constructor
    · intro name id found
      rcases moves.get?_eq_some call_backed found with before | told
      · exact (consistent.told name id before).mono more
      · exact told.mono more
    · intro other mem
      rw [calls_eq] at mem
      rcases List.mem_or_eq_of_mem_set mem with old | rfl
      · exact (consistent.backed other old).mono more kept
      · exact moves.backed caller call_backed

theorem Consistent.run {past events : List Event} {s s' : State} (consistent : Consistent past s)
    (h : s.run events = some s') : Consistent (past ++ events) s' := by
  induction events generalizing past s with
  | nil =>
    cases h
    rw [List.append_nil]
    exact consistent
  | cons e events ih =>
    obtain ⟨next, stepped, rest⟩ := State.run_cons_eq_some h
    rw [List.append_cons]
    exact ih (consistent.step stepped) rest

/-- **The first answer stored wins**, in whatever order the steps of any number of calls are taken.
What was in the cache after some of the events still is; a call that has returned an id has returned
the one in the cache, so calls for one name have returned one id; no step of a call that failed has
changed the cache; and every id in the cache stands in an endpoint that discovery has told for the
very name. -/
theorem first_answer_wins (events : List Event) (s : State)
    (reached : State.initial.run events = some s) :
    (∀ before after, events = before ++ after → ∃ mid, State.initial.run before = some mid ∧
      ∀ name id, mid.cache.get? name = some id → s.cache.get? name = some id) ∧
    (∀ call ∈ s.calls, ∀ id, call.stage = .returned (.ok id) → s.cache.get? call.name = some id) ∧
    (∀ call ∈ s.calls, ∀ other ∈ s.calls, call.name = other.name → ∀ id id',
      call.stage = .returned (.ok id) → other.stage = .returned (.ok id') → id = id') ∧
    (∀ caller call e, s.calls[caller]? = some call → call.stage = .returned (.error e) →
      ∀ before act after, events = before ++ .acts caller act :: after → ∃ mid next,
        State.initial.run before = some mid ∧ mid.step (.acts caller act) = some next ∧
          next.cache = mid.cache) ∧
    (∀ name id, s.cache.get? name = some id → Told events name id) := by
  have consistent : Consistent events s := Consistent.initial.run reached
  have returned_cached : ∀ call ∈ s.calls, ∀ id, call.stage = .returned (.ok id) →
      s.cache.get? call.name = some id := by
    intro call mem id done
    have backed := consistent.backed call mem
    rw [done] at backed
    exact backed id rfl
  refine ⟨?_, returned_cached, ?_, ?_, consistent.told⟩
  · intro before after split
    subst split
    obtain ⟨mid, first, rest⟩ := State.run_append_eq_some reached
    exact ⟨mid, first, fun name id found => State.run_keeps rest found⟩
  · intro call mem other mem' same id id' done done'
    have cached := returned_cached call mem id done
    have cached' := returned_cached other mem' id' done'
    rw [same, cached'] at cached
    exact (Option.some.inj cached).symm
  · intro caller call e here failed before act after split
    subst split
    obtain ⟨mid, first, rest⟩ := State.run_append_eq_some reached
    obtain ⟨next, stepped, rest⟩ := State.run_cons_eq_some rest
    exact ⟨mid, next, first, stepped, State.cache_eq_of_failed stepped rest here failed⟩

/-- Three calls for one model: two find nothing, the second to ask stores first, and the answer for
the third is no endpoint. -/
def crossedCalls : List Event :=
  [.begins "dev" "TestModel", .begins "dev" "TestModel", .begins "dev" "TestModel",
    .acts 0 .lookUp, .acts 1 .lookUp, .acts 2 .lookUp,
    .acts 0 (.discover "dev-test-model" (.ok "https://search-early.example.com")),
    .acts 1 (.discover "dev-test-model" (.ok "search-late.example.com")),
    .acts 2 (.discover "dev-test-model" (.ok "doc-other.example.com")),
    .acts 1 .extract, .acts 1 .store, .acts 2 .extract, .acts 0 .extract, .acts 0 .store]

/-- What `crossedCalls` lead to: both callers return the id that was stored first. -/
def crossedCallsEnd : State :=
  ⟨.ofList [("dev-test-model", "late")],
    [⟨"dev", "TestModel", .returned (.ok "late")⟩, ⟨"dev", "TestModel", .returned (.ok "late")⟩,
      ⟨"dev", "TestModel", .returned (.error (.domainDiscovery "dev-test-model"
        "Unexpected search endpoint \x60doc-other.example.com\x60"))⟩]⟩

theorem first_answer_wins_crossedCalls :
    State.initial.run crossedCalls = some crossedCallsEnd ∧
      Told crossedCalls "dev-test-model" "late" :=
  have reached : State.initial.run crossedCalls = some crossedCallsEnd := by rfl
  ⟨reached, (first_answer_wins _ _ reached).2.2.2.2 "dev-test-model" "late" (by rfl)⟩

/-! ## A call by itself -/

/-- What discovery is asked with a step, and its answer. -/
def Act.asked? : Act → Option (String × Except String String)
  | .discover name answer => some (name, answer)
  | _ => none

/-- The result and the cache when a call for `name` stores an id without being interrupted. -/
def settleId (cache : Cache) (name id : String) : Except Error String × Cache :=
  (.ok ((cache.get? name).getD id), cache.store name id)

/-- The result and the cache when a call for `name` goes on from an answer without being
interrupted. -/
def settleAnswer (cache : Cache) (name : String) (answer : Except String String) :
    Except Error String × Cache :=
  match discovered name answer with
  | .ok id => settleId cache name id
  | .error e => (.error e, cache)

/-- The result and the cache when a call for `name` goes on from a stage without being
interrupted. -/
def Stage.settle (discovery : Discovery) (name : String) (cache : Cache) :
    Stage → Except Error String × Cache
  | .begun => match cache.get? name with
    | some id => (.ok id, cache)
    | none => settleAnswer cache name (discovery name)
  | .missed => settleAnswer cache name (discovery name)
  | .answered answer => settleAnswer cache name answer
  | .extracted id => settleId cache name id
  | .returned result => (result, cache)

theorem resolve_eq_settle (cache : Cache) (discovery : Discovery) (name : String) :
    ((cache.resolve discovery name).result, (cache.resolve discovery name).cache) =
      Stage.begun.settle discovery name cache := by
  unfold Cache.resolve Stage.settle settleAnswer settleId
  cases cached : cache.get? name with
  | some id => rfl
  | none =>
    cases discovered name (discovery name) with
    | ok id => simp only [Cache.get?_store_self, Option.getD_some, cached]
    | error e => rfl

/-- A step does not change what will come of the call, if `discovery` gives the answer. -/
theorem Stage.Moves.settle {discovery : Discovery} {name : String} {cache cache' : Cache}
    {stage stage' : Stage} {act : Act} (moves : Moves name cache stage act stage' cache')
    (answers : ∀ p ∈ act.asked?, p.2 = discovery p.1) :
    stage'.settle discovery name cache' = stage.settle discovery name cache := by
  cases moves with
  | hit found => simp only [Stage.settle, found]
  | miss missing => simp only [Stage.settle, missing]
  | answer answer =>
    have same : answer = discovery name := answers (name, answer) rfl
    rw [Stage.settle, Stage.settle, same]
  | extract found => simp only [Stage.settle, settleAnswer, found]
  | fail refused => simp only [Stage.settle, settleAnswer, refused]
  | store id => rfl

/-- Neither do all steps of the only call, one after the other. -/
theorem State.run_settle {discovery : Discovery} {acts : List Act} {s s' : State} {call : Call}
    (alone : s.calls = [call]) (h : s.run (acts.map (.acts 0)) = some s')
    (answers : ∀ p ∈ acts.filterMap Act.asked?, p.2 = discovery p.1) :
    ∃ stage, s'.calls = [{ call with stage }] ∧
      stage.settle discovery call.name s'.cache = call.stage.settle discovery call.name s.cache := by
  induction acts generalizing s call with
  | nil =>
    cases h
    exact ⟨call.stage, alone, rfl⟩
  | cons act acts ih =>
    obtain ⟨next, stepped, rest⟩ := run_cons_eq_some h
    obtain ⟨moved, stage, there, moves, calls_eq⟩ := step_acts_eq_some stepped
    rw [alone] at there calls_eq
    cases there
    have later : ∀ p ∈ acts.filterMap Act.asked?, p.2 = discovery p.1 := by
      intro p mem
      obtain ⟨act', mem', asked⟩ := List.mem_filterMap.1 mem
      exact answers p (List.mem_filterMap.2 ⟨act', List.mem_cons_of_mem act mem', asked⟩)
    have now : ∀ p ∈ act.asked?, p.2 = discovery p.1 := by
      intro p asked
      exact answers p (List.mem_filterMap.2 ⟨act, List.mem_cons_self, asked⟩)
    obtain ⟨last, calls_eq', settled⟩ := ih calls_eq rest later
    exact ⟨last, calls_eq', settled.trans (moves.settle now)⟩

/-- **A call that is not interrupted does what resolving a model does**: when it has returned, it has
the result that resolving the model has, and the cache is the one that resolving leaves. -/
theorem resolve_of_undisturbed {r : Resolver} {caches : Caches} {discovery : Discovery}
    {model : String} {acts : List Act} {s : State}
    (h : State.run ⟨caches r.cache, []⟩ (.begins r.scope model :: acts.map (.acts 0)) = some s)
    (answers : ∀ p ∈ acts.filterMap Act.asked?, p.2 = discovery p.1)
    {result : Except Error String} (done : s.calls = [⟨r.scope, model, .returned result⟩]) :
    result = (r.resolve caches discovery model).1.result ∧
      s.cache = (r.resolve caches discovery model).2 r.cache := by
  obtain ⟨begun, begins, rest⟩ := State.run_cons_eq_some h
  cases begins
  obtain ⟨stage, calls_eq, settled⟩ := State.run_settle rfl rest answers
  rw [done] at calls_eq
  cases calls_eq
  have resolved := resolve_eq_settle (caches r.cache) discovery (safeName r.scope model)
  have same := settled.trans resolved.symm
  simp only [Stage.settle, Prod.mk.injEq] at same
  simp only [Resolver.resolve, if_pos]
  exact same

/-- Such a call can be made, and asks discovery for just the names that resolving asks it for. -/
theorem exists_undisturbed (r : Resolver) (caches : Caches) (discovery : Discovery)
    (model : String) :
    ∃ (acts : List Act) (s : State),
      State.run ⟨caches r.cache, []⟩ (.begins r.scope model :: acts.map (.acts 0)) = some s ∧
      s.calls = [⟨r.scope, model, .returned (r.resolve caches discovery model).1.result⟩] ∧
      acts.filterMap Act.asked? =
        (r.resolve caches discovery model).1.asked.map fun name => (name, discovery name) := by
  simp only [Resolver.resolve]
  generalize caches r.cache = cache
  unfold Cache.resolve
  split
  next id found =>
    refine ⟨[.lookUp], ⟨cache, _⟩, ?_, rfl, rfl⟩
    simp [State.run, State.step, Stage.act, Call.name, found]
  next missing =>
    split
    next id extracted =>
      refine ⟨[.lookUp, .discover (safeName r.scope model) (discovery (safeName r.scope model)),
        .extract, .store], ⟨cache.store (safeName r.scope model) id, _⟩, ?_, rfl, rfl⟩
      simp [State.run, State.step, Stage.act, Call.name, missing, extracted]
    next e refused =>
      refine ⟨[.lookUp, .discover (safeName r.scope model) (discovery (safeName r.scope model)),
        .extract], ⟨cache, _⟩, ?_, rfl, rfl⟩
      simp [State.run, State.step, Stage.act, Call.name, missing, refused]

end CloudSearch.Domain
