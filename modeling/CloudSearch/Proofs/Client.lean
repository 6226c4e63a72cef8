import CloudSearch.Client
import CloudSearch.Proofs.Document.Nulls
import CloudSearch.Proofs.Document.RoundTrip
import CloudSearch.Proofs.Page.Entries
import CloudSearch.Proofs.Page.Response
import Mathlib.Data.List.Forall2

/-!
# What a client sends and how it fails

A client that is asked for one thing after the other makes at most one call for each of them.
Whether it makes one depends on its mode, its search domain and on whether there is anything to send;
what comes of the call depends on the reply alone. Errors tell the two apart: an error of the
configuration or of the compilation means that nothing was sent, a failure carries what was sent.

The contracts of a search and of a change say so of one action and the reply that is due
(`SearchContract`, `WriteContract`). A change always keeps its contract. A search keeps it unless the
response starts at the greatest word while pages hold a single hit: the number of that page is no word,
and instead of a page or a failure there is nothing (`Config.Stops`). So **a run keeps the contracts of
all other actions**, each with the first reply that no call before it has used up.
-/

namespace CloudSearch

open Outcome

/-! ## Where requests go -/

namespace Config

/-- A search domain is set, and not to the empty text. -/
def HasDomain (c : Config) : Prop :=
  ∃ domain, c.searchDomain = some domain ∧ domain ≠ ""

/-- The domain is the one that is set, and without one the configuration is at fault. -/
theorem domain_cases (c : Config) :
    (c.HasDomain ∧ ∃ domain, c.domain = .ok domain) ∨
      (¬c.HasDomain ∧ ∃ problem, c.domain = .error (.config problem)) := by
  unfold domain
  split
  next domain set =>
    split
    next empty =>
      refine .inr ⟨?_, _, rfl⟩
      rintro ⟨domain', set', nonempty⟩
      rw [set, Option.some.injEq] at set'
      exact nonempty (set' ▸ empty)
    next nonempty => exact .inl ⟨⟨domain, set, nonempty⟩, domain, rfl⟩
  next unset =>
    refine .inr ⟨?_, _, rfl⟩
    rintro ⟨domain, set, -⟩
    rw [unset] at set
    cases set

/-- The services have addresses exactly where there is a domain. -/
theorem host_cases (c : Config) (service : String) :
    (c.HasDomain ∧ ∃ host, c.host service = .ok host) ∨
      (¬c.HasDomain ∧ ∃ problem, c.host service = .error (.config problem)) := by
  unfold host
  rcases c.domain_cases with ⟨has, domain, domain_eq⟩ | ⟨has_not, problem, domain_eq⟩
  · refine .inl ⟨has, ?_⟩
    rw [domain_eq, ok_bind]
    split
    · exact ⟨_, rfl⟩
    · exact ⟨_, rfl⟩
  · refine .inr ⟨has_not, problem, ?_⟩
    rw [domain_eq, error_bind]

/-- What is made of the address of a service is there exactly where there is a domain. -/
theorem map_host_cases (c : Config) (service : String) (path : String → String) :
    (c.HasDomain ∧ ∃ url, (c.host service).map path = .ok url) ∨
      (¬c.HasDomain ∧ ∃ problem, (c.host service).map path = .error (.config problem)) := by
  rcases c.host_cases service with ⟨has, host, host_eq⟩ | ⟨has_not, problem, host_eq⟩
  · exact .inl ⟨has, path host, by rw [host_eq, map_ok]⟩
  · exact .inr ⟨has_not, problem, by rw [host_eq, map_error]⟩

theorem searchUrl_cases (c : Config) :
    (c.HasDomain ∧ ∃ endpoint, c.searchUrl = .ok endpoint) ∨
      (¬c.HasDomain ∧ ∃ problem, c.searchUrl = .error (.config problem)) :=
  c.map_host_cases "search" fun host => host ++ "/" ++ c.apiVersion ++ "/search"

theorem documentUrl_cases (c : Config) :
    (c.HasDomain ∧ ∃ url, c.documentUrl = .ok url) ∨
      (¬c.HasDomain ∧ ∃ problem, c.documentUrl = .error (.config problem)) :=
  c.map_host_cases "doc" fun host => host ++ "/" ++ c.apiVersion ++ "/documents/batch"

end Config

/-! ## Replies -/

/-- The reply that the service gives to the call after `n` others. -/
def Script.reply (s : Script) : Nat → Http.Reply
  | 0 => s.next
  | n + 1 => s.rest.reply n

/-- The reply that is due when these outcomes have come of the actions before: the first that no call
among them has used up. -/
def Script.due (s : Script) (before : List Outcome) : Http.Reply :=
  s.reply (before.countP fun outcome => outcome.call.isSome)

/-- The reply is a response whose status says that the call was carried out. -/
def Http.Reply.Succeeds (reply : Http.Reply) (response : Http.Response) : Prop :=
  reply = .response response ∧ 200 ≤ response.status ∧ response.status < 300

theorem Http.Reply.accepted_eq_ok_iff {reply : Http.Reply} {response : Http.Response} :
    reply.accepted = .ok response ↔ reply.Succeeds response := by
  unfold accepted Succeeds
  cases reply with
  | failed e => simp
  | response r =>
    by_cases success : r.isSuccess
    · have range : 200 ≤ r.status ∧ r.status < 300 := by
        simpa [Http.Response.isSuccess] using success
      simp only [success, if_true, Except.ok.injEq, Reply.response.injEq]
      constructor
      · rintro rfl
        exact ⟨rfl, range⟩
      · rintro ⟨same, -⟩
        exact same
    · have no_range : ¬(200 ≤ r.status ∧ r.status < 300) := by
        simpa [Http.Response.isSuccess] using success
      simp only [success, Bool.false_eq_true, if_false, reduceCtorEq, Reply.response.injEq, false_iff]
      rintro ⟨rfl, range⟩
      exact no_range range

/-! ## What changes stand for -/

/-- The operations that a change stands for: each document is added with its fields or deleted, in
order and all of them in the version `now`, unless the change brings its own operations. -/
inductive Write.Makes (e : Document.Encoder) (now : Int64) : Write → List Document.Operation → Prop
  | add {id : String} {fields : List (String × Document.FieldValue)} {o : Document.Operation}
      (made : e.Adds id fields now o) : Makes e now (.add id fields) [o]
  | update {id : String} {fields : List (String × Document.FieldValue)} {o : Document.Operation}
      (made : e.Adds id fields now o) : Makes e now (.update id fields) [o]
  | remove (id : String) : Makes e now (.remove id) [.delete id now]
  | addAll {documents : List (String × List (String × Document.FieldValue))}
      {operations : List Document.Operation}
      (made : documents.Forall₂ (fun d o => e.Adds d.1 d.2 now o) operations) :
      Makes e now (.addAll documents) operations
  | removeAll (ids : List String) : Makes e now (.removeAll ids) (ids.map fun id => .delete id now)
  | batch (operations : List Document.Operation) : Makes e now (.batch operations) operations

theorem forall₂_adds_iff {e : Document.Encoder} {now : Int64}
    {documents : List (String × List (String × Document.FieldValue))}
    {operations : List Document.Operation} :
    documents.Forall₂ (fun d o => e.Adds d.1 d.2 now o) operations ↔
      operations = documents.map fun d => e.add d.1 d.2 now := by
  simp only [Document.Encoder.adds_iff]
  rw [eq_comm (a := operations), ← List.forall₂_eq_eq_eq, List.forall₂_map_left_iff]
  simp only [eq_comm]

theorem Write.makes_iff {w : Write} {e : Document.Encoder} {now : Int64}
    {operations : List Document.Operation} :
    w.Makes e now operations ↔ operations = w.operations e now := by
  constructor
  · intro makes
    cases makes with
    | add made | update made => rw [Document.Encoder.adds_iff.1 made, Write.operations]
    | addAll made => exact forall₂_adds_iff.1 made
    | remove | removeAll | batch => rfl
  · rintro rfl
    cases w with
    | add id fields => exact .add (Document.Encoder.adds_iff.2 rfl)
    | update id fields => exact .update (Document.Encoder.adds_iff.2 rfl)
    | remove id => exact .remove id
    | addAll documents => exact .addAll (forall₂_adds_iff.2 rfl)
    | removeAll ids => exact .removeAll ids
    | batch operations => exact .batch operations

/-! ## Contracts -/

/-- What a search keeps when `reply` is due: nothing is sent in the sandbox, and outside it one
request, of the URL that the search builds, exactly if there is a domain and the search builds. A
search that sends nothing ends with an error of the configuration or of the compilation. One that
does ends well exactly if the response says so and can be read, with the page that it holds, and
otherwise with a failure that carries the URL. -/
structure SearchContract (c : Config) (term : String) (o : Search.Options) (reply : Http.Reply)
    (outcome : Outcome) : Prop where
  sandboxed : c.mode = .sandbox →
    outcome.call = none ∧ ∃ page, outcome.result = some (.ok (.page page))
  sent_iff : c.mode = .live → ∀ call, outcome.call = some call ↔
    c.HasDomain ∧ ∃ endpoint r, c.searchUrl = .ok endpoint ∧
      o.request endpoint term c.dialect = .ok r ∧ call = .get r.url
  unsent : c.mode = .live → outcome.call = none →
    (∃ problem, outcome.result = some (.error (.config problem))) ∨
      ∃ e, outcome.result = some (.error (.compilation e))
  succeeds_iff : ∀ call, outcome.call = some call →
    ((∃ answer, outcome.result = some (.ok answer)) ↔
      ∃ response r, reply.Succeeds response ∧ Response.ofText response.body = .ok r)
  holds : ∀ call, outcome.call = some call → ∀ answer, outcome.result = some (.ok answer) →
    ∃ response page, reply.Succeeds response ∧
      Page.ofText response.body o.pageSize = some (.ok page) ∧ answer = .page page
  fails : ∀ call, outcome.call = some call → (¬∃ answer, outcome.result = some (.ok answer)) →
    ∃ failure url, call = .get url ∧ outcome.result = some (.error (.searchFailure failure url))

/-- What a change of documents keeps when `reply` is due: nothing is sent in the sandbox, and outside
it one batch of exactly the operations that the change stands for, if there are any and there is a
domain. A change that sends nothing has nothing to send or ends with an error of the configuration.
One that does ends well exactly if the response says so, and otherwise with a failure that carries the
URL and the body. -/
structure WriteContract (c : Config) (w : Write) (now : Int64) (reply : Http.Reply)
    (outcome : Outcome) : Prop where
  sandboxed : c.mode = .sandbox → outcome.call = none ∧ outcome.result = some (.ok .written)
  sent_iff : c.mode = .live → ∀ call, outcome.call = some call ↔
    c.HasDomain ∧ ∃ operations url body, w.Makes ⟨c.lang, c.nullFields⟩ now operations ∧
      operations ≠ [] ∧ c.documentUrl = .ok url ∧ Document.IsBatch operations body ∧
      call = .post url body [("Content-Type", "application/json")]
  unsent : c.mode = .live → outcome.call = none →
    (w.Makes ⟨c.lang, c.nullFields⟩ now [] ∧ outcome.result = some (.ok .written)) ∨
      ∃ problem, outcome.result = some (.error (.config problem))
  succeeds_iff : ∀ call, outcome.call = some call →
    (outcome.result = some (.ok .written) ↔ ∃ response, reply.Succeeds response)
  fails : ∀ call, outcome.call = some call → outcome.result ≠ some (.ok .written) →
    ∃ failure url body headers, call = .post url body headers ∧
      outcome.result = some (.error (.writeFailure failure url body))

/-- What an action keeps. To build the request of a search sends nothing. -/
def Config.Keeps (c : Config) (reply : Http.Reply) (outcome : Outcome) : Action → Prop
  | .request term o =>
    outcome.call = none ∧ outcome.result = some ((c.searchRequest term o).map .request)
  | .search term o => SearchContract c term o reply outcome
  | .write w now => WriteContract c w now reply outcome

/-- The reply is a response that can be read but starts at the greatest word, where pages of the given
size hold a single hit. -/
def Http.Reply.StartsLast (reply : Http.Reply) (size : UInt64) : Prop :=
  ∃ response r, reply.Succeeds response ∧ Response.ofText response.body = .ok r ∧
    size.toNat ≤ 1 ∧ r.start = maxWord

/-- Such a response holds no page. -/
theorem Http.Reply.StartsLast.not_holds {reply : Http.Reply} {size : UInt64}
    (last : reply.StartsLast size) {response : Http.Response} {page : Page Hits}
    (succeeds : reply.Succeeds response) :
    Page.ofText response.body size ≠ some (.ok page) := by
  intro holds
  obtain ⟨response', r, succeeds', read, last⟩ := last
  cases succeeds.1.symm.trans succeeds'.1
  obtain ⟨r', read', held⟩ := Page.ofText_eq_ok_iff.1 holds
  cases read.symm.trans read'
  rw [Response.page, Page.ofStart_eq_none_iff.2 last] at held
  cases held

/-- The action is a search that is sent and has such a reply, over which the program stops. -/
def Config.Stops (c : Config) (reply : Http.Reply) : Action → Prop
  | .search term o =>
    c.mode = .live ∧ (∃ r, c.searchRequest term o = .ok r) ∧ reply.StartsLast o.pageSize
  | .request .. | .write .. => False

/-! ## One action -/

/-- What comes of a plan when its call, if it makes one, has the given reply. -/
def Plan.outcome (p : Plan Answer) (reply : Http.Reply) : Outcome :=
  ⟨p.result reply, p.call?⟩

theorem Plan.result_answer {α : Type} (f : α → Answer) (p : Plan α) (reply : Http.Reply) :
    (p.answer f).result reply = (p.result reply).map (Except.map f) := by
  cases p with
  | done result => rfl
  | call c finish => rfl

namespace Config

/-- The request of a search is built where there is a domain and the search can be written. -/
theorem searchRequest_cases (c : Config) (term : String) (o : Search.Options) :
    (c.HasDomain ∧ ∃ endpoint r, c.searchUrl = .ok endpoint ∧
      o.request endpoint term c.dialect = .ok r ∧ c.searchRequest term o = .ok r) ∨
    ∃ e, (∀ endpoint r, c.HasDomain → c.searchUrl = .ok endpoint →
        o.request endpoint term c.dialect ≠ .ok r) ∧
      ((∃ problem, e = .config problem) ∨ ∃ e', e = .compilation e') ∧
      c.searchRequest term o = .error e := by
  unfold searchRequest
  rcases c.searchUrl_cases with ⟨has, endpoint, url_eq⟩ | ⟨has_not, problem, url_eq⟩
  · rw [url_eq, ok_bind]
    cases built : o.request endpoint term c.dialect with
    | ok r => exact .inl ⟨has, endpoint, r, rfl, built, rfl⟩
    | error e =>
      refine .inr ⟨_, fun endpoint' r _ url_eq' built' => ?_, .inr ⟨e, rfl⟩, rfl⟩
      cases url_eq'
      cases built.symm.trans built'
  · rw [url_eq, error_bind]
    exact .inr ⟨_, fun _ _ has => absurd has has_not, .inl ⟨problem, rfl⟩, rfl⟩

/-- A reply to a search holds a page, stops the program, or is a failure. -/
theorem readPage_cases (url : String) (size : UInt64) (reply : Http.Reply) :
    (∃ response page, reply.Succeeds response ∧ Page.ofText response.body size = some (.ok page) ∧
      readPage url size reply = some (.ok page)) ∨
    (reply.StartsLast size ∧ readPage url size reply = none) ∨
    (¬∃ response r, reply.Succeeds response ∧ Response.ofText response.body = .ok r) ∧
      ∃ failure, readPage url size reply = some (.error (.searchFailure failure url)) := by
  unfold readPage
  cases accepted : reply.accepted with
  | error f =>
    refine .inr (.inr ⟨?_, f, rfl⟩)
    rintro ⟨response, r, succeeds, -⟩
    rw [Http.Reply.accepted_eq_ok_iff.2 succeeds] at accepted
    cases accepted
  | ok response =>
    have succeeds := Http.Reply.accepted_eq_ok_iff.1 accepted
    cases read : Response.ofText response.body with
    | error fault =>
      refine .inr (.inr ⟨?_, .unreadable fault, by simp [Page.ofText, read]⟩)
      rintro ⟨response', r, succeeds', read'⟩
      cases succeeds.1.symm.trans succeeds'.1
      cases read.symm.trans read'
    | ok r =>
      cases held : r.page size with
      | some page =>
        have holds : Page.ofText response.body size = some (.ok page) :=
          Page.ofText_eq_ok_iff.2 ⟨r, read, held⟩
        exact .inl ⟨response, page, succeeds, holds, by simp [holds]⟩
      | none =>
        exact .inr (.inl ⟨⟨response, r, succeeds, read, Page.ofStart_eq_none_iff.1 held⟩,
          by simp [Page.ofText, read, held]⟩)

theorem readPage_eq_none_iff {url : String} {size : UInt64} {reply : Http.Reply} :
    readPage url size reply = none ↔ reply.StartsLast size := by
  rcases readPage_cases url size reply with
    ⟨response, page, succeeds, holds, result⟩ | ⟨last, result⟩ | ⟨unreadable, failure, result⟩
  · rw [result]
    exact iff_of_false nofun fun last => last.not_holds succeeds holds
  · exact iff_of_true result last
  · rw [result]
    refine iff_of_false nofun ?_
    rintro ⟨response, r, succeeds, read, -⟩
    exact unreadable ⟨response, r, succeeds, read⟩

/-- A reply to a batch is success or a failure. -/
theorem readWritten_cases (url body : String) (reply : Http.Reply) :
    ((∃ response, reply.Succeeds response) ∧ readWritten url body reply = some (.ok ())) ∨
      (¬∃ response, reply.Succeeds response) ∧
        ∃ failure, readWritten url body reply = some (.error (.writeFailure failure url body)) := by
  unfold readWritten
  simp only [← Http.Reply.accepted_eq_ok_iff]
  cases reply.accepted with
  | ok response => exact .inl ⟨⟨response, rfl⟩, rfl⟩
  | error f => exact .inr ⟨by simp, f, rfl⟩

end Config

namespace SearchContract

variable {c : Config} {term : String} {o : Search.Options} {reply : Http.Reply}

theorem of_sandbox (sandbox : c.mode = .sandbox) (page : Page Hits) :
    SearchContract c term o reply ⟨some (.ok (.page page)), none⟩ where
  sandboxed _ := ⟨rfl, page, rfl⟩
  sent_iff live := by cases sandbox.symm.trans live
  unsent live := by cases sandbox.symm.trans live
  succeeds_iff _ sent := by cases sent
  holds _ sent := by cases sent
  fails _ sent := by cases sent

/-- A search that cannot be built ends with the error that says why. -/
theorem of_refused (live : c.mode = .live) {e : Error}
    (unbuildable : ∀ endpoint r, c.HasDomain → c.searchUrl = .ok endpoint →
      o.request endpoint term c.dialect ≠ .ok r)
    (kind : (∃ problem, e = .config problem) ∨ ∃ e', e = .compilation e') :
    SearchContract c term o reply ⟨some (.error e), none⟩ where
  sandboxed sandbox := by cases sandbox.symm.trans live
  sent_iff _ call := by
    constructor
    · intro sent
      cases sent
    · rintro ⟨has, endpoint, r, url_eq, built, -⟩
      exact absurd built (unbuildable endpoint r has url_eq)
  unsent _ _ := by
    rcases kind with ⟨problem, rfl⟩ | ⟨e', rfl⟩
    · exact .inl ⟨problem, rfl⟩
    · exact .inr ⟨e', rfl⟩
  succeeds_iff _ sent := by cases sent
  holds _ sent := by cases sent
  fails _ sent := by cases sent

/-- A search that is built is sent, and ends with the page in the response or with a failure. -/
theorem of_sent (live : c.mode = .live) (has : c.HasDomain) {endpoint : String} {r : Search.Request}
    (url_eq : c.searchUrl = .ok endpoint) (built : o.request endpoint term c.dialect = .ok r)
    {result : Except Error Answer}
    (ends : (∃ response page, reply.Succeeds response ∧
        Page.ofText response.body o.pageSize = some (.ok page) ∧ result = .ok (.page page)) ∨
      (¬∃ response r, reply.Succeeds response ∧ Response.ofText response.body = .ok r) ∧
        ∃ failure, result = .error (.searchFailure failure r.url)) :
    SearchContract c term o reply ⟨some result, some (.get r.url)⟩ where
  sandboxed sandbox := by cases sandbox.symm.trans live
  sent_iff _ call := by
    constructor
    · intro sent
      cases sent
      exact ⟨has, endpoint, r, url_eq, built, rfl⟩
    · rintro ⟨-, endpoint', r', url_eq', built', rfl⟩
      cases url_eq.symm.trans url_eq'
      cases built.symm.trans built'
      rfl
  unsent _ unsent := by cases unsent
  succeeds_iff _ _ := by
    rcases ends with ⟨response, page, succeeds, held, rfl⟩ | ⟨unreadable, failure, rfl⟩
    · obtain ⟨r', read, -⟩ := Page.ofText_eq_ok_iff.1 held
      exact ⟨fun _ => ⟨response, r', succeeds, read⟩, fun _ => ⟨_, rfl⟩⟩
    · exact ⟨nofun, fun readable => absurd readable unreadable⟩
  holds _ _ answer answered := by
    rcases ends with ⟨response, page, succeeds, held, rfl⟩ | ⟨-, failure, rfl⟩
    · cases answered
      exact ⟨response, page, succeeds, held, rfl⟩
    · cases answered
  fails _ sent failed := by
    rcases ends with ⟨response, page, -, -, rfl⟩ | ⟨-, failure, rfl⟩
    · exact absurd ⟨_, rfl⟩ failed
    · cases sent
      exact ⟨failure, r.url, rfl, rfl⟩

/-- A search that is sent and gets no result does not keep its contract if there is a response that can
be read. -/
theorem not_of_stopped {call : Http.Call} {response : Http.Response} {r : Response}
    (succeeds : reply.Succeeds response) (read : Response.ofText response.body = .ok r) :
    ¬SearchContract c term o reply ⟨none, some call⟩ := by
  intro contract
  obtain ⟨answer, answered⟩ := (contract.succeeds_iff _ rfl).2 ⟨response, r, succeeds, read⟩
  cases answered

end SearchContract

namespace WriteContract

variable {c : Config} {w : Write} {now : Int64} {reply : Http.Reply}

/-- A change is sent as the batch of its operations. -/
theorem sends_iff {call : Http.Call} :
    (∃ operations url body, w.Makes ⟨c.lang, c.nullFields⟩ now operations ∧ operations ≠ [] ∧
      c.documentUrl = .ok url ∧ Document.IsBatch operations body ∧
      call = .post url body [("Content-Type", "application/json")]) ↔
    w.operations c.encoder now ≠ [] ∧ ∃ url, c.documentUrl = .ok url ∧
      call = .post url (Document.batchText (w.operations c.encoder now))
        [("Content-Type", "application/json")] := by
  simp only [Write.makes_iff, Document.isBatch_iff]
  constructor
  · rintro ⟨_, url, _, rfl, nonempty, url_eq, rfl, rfl⟩
    exact ⟨nonempty, url, url_eq, rfl⟩
  · rintro ⟨nonempty, url, url_eq, rfl⟩
    exact ⟨_, url, _, rfl, nonempty, url_eq, rfl, rfl⟩

theorem of_dropped (dropped : w.operations c.encoder now = [] ∨ c.mode = .sandbox) :
    WriteContract c w now reply ⟨some (.ok .written), none⟩ where
  sandboxed _ := ⟨rfl, rfl⟩
  sent_iff live call := by
    rw [sends_iff]
    constructor
    · intro sent
      cases sent
    · rintro ⟨-, nonempty, -⟩
      rcases dropped with empty | sandbox
      · exact absurd empty nonempty
      · cases sandbox.symm.trans live
  unsent live _ := by
    rcases dropped with empty | sandbox
    · exact .inl ⟨Write.makes_iff.2 empty.symm, rfl⟩
    · cases sandbox.symm.trans live
  succeeds_iff _ sent := by cases sent
  fails _ sent := by cases sent

theorem of_refused (live : c.mode = .live) (has_not : ¬c.HasDomain) (problem : String) :
    WriteContract c w now reply ⟨some (.error (.config problem)), none⟩ where
  sandboxed sandbox := by cases sandbox.symm.trans live
  sent_iff _ call := by
    constructor
    · intro sent
      cases sent
    · rintro ⟨has, -⟩
      exact absurd has has_not
  unsent _ _ := .inr ⟨problem, rfl⟩
  succeeds_iff _ sent := by cases sent
  fails _ sent := by cases sent

/-- A change that has operations and a domain is sent. -/
theorem of_sent (live : c.mode = .live) (has : c.HasDomain) {url : String}
    (url_eq : c.documentUrl = .ok url) (nonempty : w.operations c.encoder now ≠ []) :
    let body := Document.batchText (w.operations c.encoder now)
    WriteContract c w now reply
      ⟨(Config.readWritten url body reply).map (Except.map fun _ => .written),
        some (.post url body [("Content-Type", "application/json")])⟩ where
  sandboxed sandbox := by cases sandbox.symm.trans live
  sent_iff _ call := by
    rw [sends_iff]
    constructor
    · intro sent
      cases sent
      exact ⟨has, nonempty, url, url_eq, rfl⟩
    · rintro ⟨-, -, url', url_eq', rfl⟩
      cases url_eq.symm.trans url_eq'
      rfl
  unsent _ unsent := by cases unsent
  succeeds_iff _ _ := by
    rcases Config.readWritten_cases url _ reply with ⟨succeeds, result⟩ | ⟨rejected, failure, result⟩
    · rw [result]
      exact ⟨fun _ => succeeds, fun _ => rfl⟩
    · rw [result]
      exact ⟨nofun, fun succeeds => absurd succeeds rejected⟩
  fails call sent failed := by
    cases sent
    rcases Config.readWritten_cases url _ reply with ⟨-, result⟩ | ⟨-, failure, result⟩
    · rw [result] at failed
      exact absurd rfl failed
    · rw [result]
      exact ⟨failure, url, _, _, rfl, rfl⟩

end WriteContract

namespace Config

/-- A search keeps its contract unless the program stops over the reply. -/
theorem search_keeps_iff (c : Config) (term : String) (o : Search.Options) (reply : Http.Reply) :
    SearchContract c term o reply (((c.search term o).answer .page).outcome reply) ↔
      ¬c.Stops reply (.search term o) := by
  unfold search Stops
  cases mode_eq : c.mode with
  | sandbox => exact iff_of_true (.of_sandbox mode_eq emptyPage) (by simp)
  | live =>
    rcases c.searchRequest_cases term o with
      ⟨has, endpoint, r, url_eq, built, request_eq⟩ | ⟨e, unbuildable, kind, request_eq⟩
    · rw [request_eq]
      show SearchContract c term o reply
        ⟨(readPage r.url o.pageSize reply).map (Except.map .page), some (.get r.url)⟩ ↔ _
      rcases readPage_cases r.url o.pageSize reply with
        ⟨response, page, succeeds, held, result⟩ | ⟨last, result⟩ | ⟨unreadable, failure, result⟩
      · rw [result]
        refine iff_of_true
          (.of_sent mode_eq has url_eq built (.inl ⟨response, page, succeeds, held, rfl⟩)) ?_
        rintro ⟨-, -, last⟩
        exact last.not_holds succeeds held
      · rw [result]
        have stopped : ¬SearchContract c term o reply ⟨none, some (.get r.url)⟩ := by
          obtain ⟨response, r', succeeds, read, -⟩ := last
          exact SearchContract.not_of_stopped succeeds read
        exact iff_of_false stopped (not_not_intro ⟨rfl, ⟨r, request_eq⟩, last⟩)
      · rw [result]
        refine iff_of_true
          (.of_sent mode_eq has url_eq built (.inr ⟨unreadable, failure, rfl⟩)) ?_
        rintro ⟨-, -, response, r', succeeds, read, -⟩
        exact unreadable ⟨response, r', succeeds, read⟩
    · rw [request_eq]
      refine iff_of_true (.of_refused mode_eq unbuildable kind) ?_
      rintro ⟨-, ⟨r, request_eq'⟩, -⟩
      cases request_eq.symm.trans request_eq'

/-- A change of documents keeps its contract. -/
theorem write_keeps (c : Config) (w : Write) (now : Int64) (reply : Http.Reply) :
    WriteContract c w now reply (((c.write w now).answer fun _ => .written).outcome reply) := by
  unfold write batch
  by_cases empty : w.operations c.encoder now = []
  · rw [empty, List.isEmpty_nil, if_pos rfl]
    exact .of_dropped (.inl empty)
  · have nonempty : (w.operations c.encoder now).isEmpty = false := List.isEmpty_eq_false_iff.2 empty
    rw [nonempty, if_neg Bool.false_ne_true]
    cases mode_eq : c.mode with
    | sandbox => exact .of_dropped (.inr mode_eq)
    | live =>
      rcases c.documentUrl_cases with ⟨has, url, url_eq⟩ | ⟨has_not, problem, url_eq⟩
      · rw [url_eq]
        exact .of_sent mode_eq has url_eq empty
      · rw [url_eq]
        exact .of_refused mode_eq has_not problem

/-- Whatever a client is asked for, its plan keeps the contract, unless the program stops. -/
theorem plan_keeps_iff (c : Config) (reply : Http.Reply) (a : Action) :
    c.Keeps reply ((c.plan a).outcome reply) a ↔ ¬c.Stops reply a := by
  cases a with
  | request term o => exact iff_of_true ⟨rfl, rfl⟩ id
  | search term o => exact c.search_keeps_iff term o reply
  | write w now => exact iff_of_true (c.write_keeps w now reply) id

theorem search_result_eq_none_iff (c : Config) (term : String) (o : Search.Options)
    (reply : Http.Reply) :
    (c.search term o).result reply = none ↔ c.Stops reply (.search term o) := by
  unfold search Stops
  cases c.mode with
  | sandbox => exact iff_of_false nofun fun stops => nomatch stops.1
  | live =>
    cases built : c.searchRequest term o with
    | error e =>
      refine iff_of_false nofun ?_
      rintro ⟨-, ⟨r, built'⟩, -⟩
      cases built.symm.trans built'
    | ok r =>
      refine readPage_eq_none_iff.trans ⟨fun last => ⟨rfl, ⟨r, built⟩, last⟩, ?_⟩
      rintro ⟨-, -, last⟩
      exact last

theorem write_result_ne_none (c : Config) (w : Write) (now : Int64) (reply : Http.Reply) :
    (c.write w now).result reply ≠ none := by
  unfold write batch
  split
  · nofun
  · cases c.mode with
    | sandbox => nofun
    | live =>
      cases c.documentUrl with
      | error e => nofun
      | ok url =>
        show readWritten url _ reply ≠ none
        rcases readWritten_cases url _ reply with ⟨-, result⟩ | ⟨-, failure, result⟩
        · rw [result]
          nofun
        · rw [result]
          nofun

/-- There is no result exactly where the program stops. -/
theorem plan_result_eq_none_iff (c : Config) (reply : Http.Reply) (a : Action) :
    ((c.plan a).outcome reply).result = none ↔ c.Stops reply a := by
  unfold Plan.outcome plan
  cases a with
  | request term o => exact iff_of_false nofun id
  | search term o =>
    rw [Plan.result_answer, Option.map_eq_none_iff]
    exact c.search_result_eq_none_iff term o reply
  | write w now =>
    rw [Plan.result_answer, Option.map_eq_none_iff]
    exact iff_of_false (c.write_result_ne_none w now reply) id

/-! ## Runs -/

theorem run_cons (c : Config) (s : Script) (a : Action) (actions : List Action) :
    c.run s (a :: actions) = (c.plan a).outcome s.next ::
      c.run (if (c.plan a).call?.isSome then s.rest else s) actions := rfl

theorem length_run (c : Config) (s : Script) (actions : List Action) :
    (c.run s actions).length = actions.length := by
  induction actions generalizing s with
  | nil => rfl
  | cons a actions ih => rw [run_cons, List.length_cons, List.length_cons, ih]

/-- The replies that are left after an action, counted from it on. -/
theorem due_after (c : Config) (s : Script) (a : Action) (before : List Outcome) :
    (if (c.plan a).call?.isSome then s.rest else s).due before =
      s.due ((c.plan a).outcome s.next :: before) := by
  unfold Script.due
  rw [List.countP_cons]
  by_cases sent : (c.plan a).call?.isSome
  · rw [if_pos sent, if_pos (show ((c.plan a).outcome s.next).call.isSome from sent)]
    rfl
  · rw [if_neg sent, if_neg (show ¬((c.plan a).outcome s.next).call.isSome from sent), Nat.add_zero]

/-- **A run keeps the contracts of all actions that do not stop the program.** There is one outcome for
each action. It keeps what the action promises when the reply that is due is the first that no call
before it has used up, unless the program stops over that reply; only then is there no result. -/
theorem run_keeps_contracts_iff (c : Config) (s : Script) (actions : List Action) :
    (c.run s actions).length = actions.length ∧
    ∀ i a outcome, actions[i]? = some a → (c.run s actions)[i]? = some outcome →
      (c.Keeps (s.due ((c.run s actions).take i)) outcome a ↔
        ¬c.Stops (s.due ((c.run s actions).take i)) a) ∧
      (outcome.result = none ↔ c.Stops (s.due ((c.run s actions).take i)) a) := by
  refine ⟨c.length_run s actions, ?_⟩
  induction actions generalizing s with
  | nil =>
    intro i a outcome here
    cases here
  | cons first actions ih =>
    intro i a outcome here there
    rw [run_cons] at there ⊢
    cases i with
    | zero =>
      cases here
      cases there
      exact ⟨c.plan_keeps_iff s.next first, c.plan_result_eq_none_iff s.next first⟩
    | succ i =>
      have kept := ih _ i a outcome here there
      rw [due_after] at kept
      exact kept

/-- A client whose first search is refused, whose second one gets a page, which then has nothing to
change, and whose last change gets no response. -/
def fourActions : List Action :=
  [.search "star" (.ofSettings []), .search "wars" (.ofSettings [.page 2]),
    .write (.removeAll []) 7, .write (.remove "tt1") 8]

/-- What `fourActions` get: three replies, since one of them sends nothing. -/
def threeReplies : Script :=
  ⟨.response { status := 503 }, [.response { status := 200, body := "\x7b\"hits\":\x7b\x7d\x7d" },
    .failed (.io "reset")]⟩

theorem run_keeps_contracts_iff_fourActions :
    ∃ outcome, (run (setAll {} [.searchDomain "movies"]) threeReplies fourActions)[3]? = some outcome ∧
      WriteContract (setAll {} [.searchDomain "movies"]) (.remove "tt1") 8 (.failed (.io "reset"))
        outcome ∧ outcome.call.isSome :=
  have kept :=
    (run_keeps_contracts_iff (setAll {} [.searchDomain "movies"]) threeReplies fourActions).2
  ⟨_, rfl, (kept 3 _ _ rfl rfl).1.2 id, rfl⟩

/-- A response that starts at the greatest word. -/
def lastStart : Http.Response :=
  { status := 200, body := (Json.object [("hits", .object [("start", .word maxWord)])]).print }

theorem ofText_lastStart : Response.ofText lastStart.body = .ok { start := maxWord } := by
  refine ofText_of_isResponseBody (p := { start := some maxWord }) ?_
  refine isResponseBody_print (by decide +kernel) (by decide) rfl ⟨_, rfl, ?_⟩
  exact ⟨.nothing, .value rfl, .nothing⟩

/-- A search for single hits that gets this response, which is carried out and can be read, has no
result: neither a page nor a failure. -/
theorem not_keeps_contract_lastStart :
    ∃ outcome, run (setAll {} [.searchDomain "d"]) ⟨.response lastStart, []⟩
        [.search "t" (.ofSettings [.pageSize 1])] = [outcome] ∧
      outcome.call.isSome ∧ outcome.result = none ∧
      ¬Keeps (setAll {} [.searchDomain "d"]) (.response lastStart) outcome
        (.search "t" (.ofSettings [.pageSize 1])) := by
  have succeeds : (Http.Reply.response lastStart).Succeeds lastStart := ⟨rfl, by decide, by decide⟩
  have stops : Stops (setAll {} [.searchDomain "d"]) (.response lastStart)
      (.search "t" (.ofSettings [.pageSize 1])) :=
    ⟨rfl, ⟨_, rfl⟩, lastStart, _, succeeds, ofText_lastStart, by decide, rfl⟩
  exact ⟨_, rfl, rfl, (plan_result_eq_none_iff _ _ _).2 stops,
    fun kept => (plan_keeps_iff _ _ _).1 kept stops⟩

end Config

end CloudSearch
