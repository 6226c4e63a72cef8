import CloudSearch.Config
import CloudSearch.Page.Response
import CloudSearch.Search.Request

/-!
# The client

What a client does is said without doing it: an action comes down to a `Plan`, which either is done
at once or makes one call and knows what to make of the reply. There are replies that nothing can be
made of, since the program stops over them. `Config.run` follows the plans of many actions when it is
known what comes back.
-/

namespace CloudSearch

/-- What is to be done for a result: nothing more, or one call. There is no result where the reply
stops the program. -/
inductive Plan (α : Type)
  | done (result : Except Error α)
  | call (c : Http.Call) (finish : Http.Reply → Option (Except Error α))

/-- The call that the plan makes, if it makes one. -/
def Plan.call? {α : Type} : Plan α → Option Http.Call
  | .done _ => none
  | .call c _ => some c

/-- The result of the plan when its call, if it makes one, has the given reply. -/
def Plan.result {α : Type} (p : Plan α) (reply : Http.Reply) : Option (Except Error α) :=
  match p with
  | .done result => some result
  | .call _ finish => finish reply

/-- The response, if there is one and the call was carried out. -/
def Http.Reply.accepted (r : Http.Reply) : Except Failure Http.Response :=
  match r with
  | .failed e => .error (.transport e)
  | .response r => if r.isSuccess then .ok r else .error (.rejected r)

namespace Config

/-- The request of a search. -/
def searchRequest (c : Config) (term : String) (o : Search.Options) : Except Error Search.Request := do
  let endpoint ← c.searchUrl
  (o.request endpoint term c.dialect).mapError .compilation

/-- The page in the reply to a search. -/
def readPage (url : String) (size : UInt64) (reply : Http.Reply) :
    Option (Except Error (Page Hits)) :=
  match reply.accepted with
  | .error f => some (.error (.searchFailure f url))
  | .ok response =>
    (Page.ofText response.body size).map
      (Except.mapError fun fault => .searchFailure (.unreadable fault) url)

/-- Searches for a term. -/
def search (c : Config) (term : String) (o : Search.Options) : Plan (Page Hits) :=
  match c.mode with
  | .sandbox => .done (.ok emptyPage)
  | .live => match c.searchRequest term o with
    | .error e => .done (.error e)
    | .ok r => .call (.get r.url) (readPage r.url o.pageSize)

/-- What the reply to a batch comes down to. -/
def readWritten (url body : String) (reply : Http.Reply) : Option (Except Error Unit) :=
  match reply.accepted with
  | .error f => some (.error (.writeFailure f url body))
  | .ok _ => some (.ok ())

/-- Sends a batch of operations. -/
def batch (c : Config) (operations : List Document.Operation) : Plan Unit :=
  if operations.isEmpty then .done (.ok ())
  else match c.mode with
    | .sandbox => .done (.ok ())
    | .live => match c.documentUrl with
      | .error e => .done (.error e)
      | .ok url =>
        let r := Document.Request.ofBatch url operations
        .call (.post r.url r.body r.headers) (readWritten r.url r.body)

end Config

/-- A change of documents that a client is asked for. -/
inductive Write
  | add (id : String) (fields : List (String × Document.FieldValue))
  | update (id : String) (fields : List (String × Document.FieldValue))
  | remove (id : String)
  | addAll (documents : List (String × List (String × Document.FieldValue)))
  | removeAll (ids : List String)
  | batch (operations : List Document.Operation)

/-- The operations of a change, all in the version `now`. -/
def Write.operations (w : Write) (e : Document.Encoder) (now : Int64) : List Document.Operation :=
  match w with
  | .add id fields => [e.add id fields now]
  | .update id fields => [e.add id fields now]
  | .remove id => [.delete id now]
  | .addAll documents => documents.map fun d => e.add d.1 d.2 now
  | .removeAll ids => ids.map fun id => .delete id now
  | .batch operations => operations

/-- Changes documents. -/
def Config.write (c : Config) (w : Write) (now : Int64) : Plan Unit :=
  c.batch (w.operations c.encoder now)

/-- What a client is asked for. -/
inductive Action
  /-- The request of a search, without sending it. -/
  | request (term : String) (o : Search.Options)
  | search (term : String) (o : Search.Options)
  /-- A change of documents, in the given version unless it brings its own. -/
  | write (w : Write) (now : Int64)

/-- What a client answers. -/
inductive Answer
  | request (r : Search.Request)
  | page (p : Page Hits)
  | written

/-- The plan with its result, if there is one, as an answer. -/
def Plan.answer {α : Type} (f : α → Answer) : Plan α → Plan Answer
  | .done result => .done (result.map f)
  | .call c finish => .call c fun reply => (finish reply).map (Except.map f)

/-- What the client does when it is asked for something. -/
def Config.plan (c : Config) : Action → Plan Answer
  | .request term o => .done ((c.searchRequest term o).map .request)
  | .search term o => (c.search term o).answer .page
  | .write w now => (c.write w now).answer fun _ => .written

/-- The replies that the service is going to give; the last one is repeated for ever. -/
structure Script where
  next : Http.Reply
  later : List Http.Reply := []

/-- What is left of the replies when one has been given. -/
def Script.rest (s : Script) : Script :=
  match s.later with
  | [] => s
  | r :: later => ⟨r, later⟩

/-- What comes of an action: the answer or an error, unless the program stopped, and the call that was
made for it. -/
structure Outcome where
  result : Option (Except Error Answer)
  call : Option Http.Call

/-- Asks the client for one thing after the other; a reply is used up by each call. A client keeps
nothing from one action to the next, so that one which stopped the program leaves it as it was. -/
def Config.run (c : Config) (s : Script) : List Action → List Outcome
  | [] => []
  | a :: rest =>
    let plan := c.plan a
    ⟨plan.result s.next, plan.call?⟩ :: c.run (if plan.call?.isSome then s.rest else s) rest

end CloudSearch
