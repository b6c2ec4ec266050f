import SheetQuery.Log.Entry
import SheetQuery.Query.Compile
import SheetQuery.Query.Response
import SheetQuery.Store.Listing

/-!
# Answering queries

What is answered, and what is told in the log, when a collection is queried, or when the collections are listed or
counted. A request is compiled before the store is asked, and is either executed or rejected.
-/

namespace SheetQuery.Service

open Query

/-- What is answered: a status, and a body with the kind of its content. -/
structure Reply where
  status : Nat
  contentType : Option String
  body : String
  deriving Repr, DecidableEq

namespace Reply

/-- A reply that has a JSON value as its body. -/
def json (status : Nat) (body : Json) : Reply :=
  ⟨status, some "application/json", body.compact⟩

/-- A reply that tells an error. -/
def failure (message : String) (status : Nat) : Reply :=
  json status (errorBody message status)

/-- A reply of a line of text. -/
def text (status : Nat) (body : String) : Reply :=
  ⟨status, some "text/plain; charset=utf-8", body⟩

/-- A reply without a body. -/
def empty (status : Nat) : Reply :=
  ⟨status, none, ""⟩

/-- The reply to a request that wants to know only about the body. -/
def withoutBody (reply : Reply) : Reply :=
  { reply with body := "" }

end Reply

/-- What a query leads to: its reply, what is told of it, and whether the store was asked. -/
structure QueryResult where
  reply : Reply
  log : List Log.Entry
  /-- The plan that the store was asked to run, if the request compiled. -/
  plan : Option Plan

/-- Answers a query. The store takes `elapsed` nanoseconds for a plan. -/
def queryCollection (catalog : Catalog) (backend : Backend) (elapsed : Nat) (collection : String)
    (params : List (String × String)) : QueryResult :=
  match compile catalog collection params with
  | .error error =>
    ⟨.failure error.message error.status,
      [⟨.warn, .queryRejected, [("collection", collection), ("error", error.message)]⟩], none⟩
  | .ok plan =>
    let planned : Log.Entry :=
      ⟨.trace, .queryPlanned, [("collection", plan.collection), ("pipeline", (Json.arr plan.pipeline).compact)]⟩
    match backend.run plan with
    | .ok documents =>
      let outcome : Outcome := ⟨documents, elapsed⟩
      ⟨.json 200 (outcome.response plan.collection plan.timing).body,
        [planned, ⟨.info, .queryExecuted, [("collection", plan.collection),
          ("elapsed_us", toString (elapsed / 1000)), ("returned", toString documents.length)]⟩], some plan⟩
    | .error error =>
      ⟨.failure error.message error.status,
        [planned, ⟨.error, .queryRejected, [("collection", plan.collection), ("error", error.message)]⟩], some plan⟩

/-- The reply that lists the collections. -/
def listingReply : Except StoreError (List Datatype) → Reply
  | .ok listing =>
    let response : Response := ⟨"datatype", listing.map Datatype.json, none⟩
    .json 200 response.body
  | .error error => .failure error.message error.status

/-- The reply that counts the collections. -/
def countReply : Except StoreError Nat → Reply
  | .ok count => .json 200 (countBody count)
  | .error error => .failure error.message error.status

end SheetQuery.Service
