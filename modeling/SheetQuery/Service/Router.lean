import SheetQuery.Service.Query
import SheetQuery.Service.Target

/-!
# Requests

Which request is answered how. There are three things to get: the listing of the collections, their number, and the
documents of one of them. Every origin may ask for everything, and may ask first whether it may.
-/

namespace SheetQuery.Service

open Query

/-- A request: what to do, and with what. -/
structure Request where
  method : String
  target : String
  deriving Repr, DecidableEq

/-- A response: the status, the headers in the order of their names, and the body. -/
structure HttpResponse where
  status : Nat
  headers : List (String × String)
  body : String
  deriving Repr, DecidableEq

/-- What can be asked for. -/
inductive Route where
  | listing
  | count
  /-- The documents of a collection, its name as it stands in the path. -/
  | collection (segment : String)
  deriving Repr, DecidableEq

/-- What a path asks for. -/
def Route.ofPath? (path : String) : Option Route :=
  match Text.pieces '/' path with
  | ["", "get"] => some .listing
  | ["", "count"] => some .count
  | ["", "get", segment] => if segment = "" then none else some (.collection segment)
  | _ => none

/-- What answers requests, and the listing it remembers. -/
structure Server where
  catalog : Catalog
  backend : Backend
  listing : ListingCache

/-- The methods that a route allows. -/
def allowedMethods : String := "GET,HEAD"

/-- The headers whose values an answer may depend on, as caches are told. -/
def varyingHeaders : String := "origin, access-control-request-method, access-control-request-headers"

/-- The response that has a reply as its content. The methods are told where a method was refused. -/
def HttpResponse.ofReply (reply : Reply) (refused : Bool) : HttpResponse where
  status := reply.status
  headers :=
    ("access-control-allow-origin", "*") :: (if refused then [("allow", allowedMethods)] else [])
      ++ reply.contentType.toList.map (fun kind => ("content-type", kind)) ++ [("vary", varyingHeaders)]
  body := reply.body

/-- The response to an origin that asks whether it may ask. -/
def HttpResponse.preflight (known : Bool) : HttpResponse where
  status := 200
  headers :=
    [("access-control-allow-headers", "*"), ("access-control-allow-methods", "*"), ("access-control-allow-origin", "*")]
      ++ (if known then [("allow", allowedMethods)] else []) ++ [("vary", varyingHeaders)]
  body := ""

/-- The characters of the name of a method. -/
def isMethodChar (c : Char) : Bool :=
  c.isAlphanum || "!#$%&'*+-.^_\x60|~".toList.contains c

/-- Whether a text can be a method. -/
def isMethod (method : String) : Bool :=
  !method.isEmpty && method.toList.all isMethodChar

namespace Server

/-- Answers what a route asks for, at a time in milliseconds; the store takes `elapsed` nanoseconds for a plan. -/
def get (server : Server) (now elapsed : Nat) (target : Target) : Route → Reply × List Log.Entry × Server
  | .listing =>
    let (listing, cache) := server.listing.get now server.backend
    (listingReply listing, [], { server with listing := cache })
  | .count =>
    let (count, cache) := server.listing.count now server.backend
    (countReply count, [], { server with listing := cache })
  | .collection segment =>
    match decodeSegment? segment with
    | none => (.text 400 "Invalid URL: Invalid UTF-8 in \x60collection\x60", [], server)
    | some collection =>
      let result := queryCollection server.catalog server.backend elapsed collection target.params
      (result.reply, result.log, server)

/-- Answers a request, unless it is malformed. -/
def respond? (server : Server) (now elapsed : Nat) (request : Request) :
    Option (HttpResponse × List Log.Entry × Server) :=
  if !isMethod request.method then none
  else
    (Target.read? request.target).map fun target =>
      let route? := Route.ofPath? target.path
      if request.method = "OPTIONS" then (.preflight route?.isSome, [], server)
      else
        match route? with
        | none => (.ofReply (.empty 404) false, [], server)
        | some route =>
          if request.method = "GET" then
            let (reply, log, server) := server.get now elapsed target route
            (.ofReply reply false, log, server)
          else if request.method = "HEAD" then
            let (reply, log, server) := server.get now elapsed target route
            (.ofReply reply.withoutBody false, log, server)
          else (.ofReply (.empty 405) true, [], server)

end Server

end SheetQuery.Service
