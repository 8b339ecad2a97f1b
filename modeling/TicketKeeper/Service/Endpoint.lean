import TicketKeeper.Text.Split

/-! The endpoints of the service and how a path leads to them. -/
namespace TicketKeeper.Service

open TicketKeeper.Text

inductive Endpoint
  | reconcile
  | ticket (job : List Char)
  | description
  | page
deriving DecidableEq, Repr

namespace Endpoint

def reconcilePath : List Char := "/api/builds/reconcile".toList
def jobsPath : List Char := "/api/jobs/".toList
def ticketPath : List Char := "/ticket".toList
def descriptionPath : List Char := "/openapi.json".toList

def pagePaths : List (List Char) :=
  ["/docs".toList, "/docs/oauth2-redirect".toList, "/redoc".toList]

/-- One line feed at the end of a path is passed over. -/
def dropFeed (path : List Char) : List Char :=
  if path.getLast? = some '\n' then path.dropLast else path

/-- The job between the two fixed parts; it may have slashes and may be empty. -/
def job? (path : List Char) : Option (List Char) :=
  if jobsPath.isPrefixOf path then
    let r := path.drop jobsPath.length
    if ticketPath.isSuffixOf r then
      let job := r.take (r.length - ticketPath.length)
      if job.contains '\n' then none else some job
    else none
  else none

def ofPath? (path : List Char) : Option Endpoint :=
  let path := dropFeed path
  if path = reconcilePath then some .reconcile
  else if path = descriptionPath then some .description
  else if pagePaths.contains path then some .page
  else (job? path).map .ticket

def allows : Endpoint → String → Bool
  | reconcile, method => method == "POST"
  | ticket _, method => method == "GET" || method == "DELETE"
  | description, method | page, method => method == "GET" || method == "HEAD"

end Endpoint

inductive Routing
  | run (e : Endpoint)
  | wrongMethod
  /-- The path leads to an endpoint with its last slashes dropped, or with one added. -/
  | elsewhere (path : List Char)
  | unknown
deriving DecidableEq, Repr

def route (method : String) (path : List Char) : Routing :=
  match Endpoint.ofPath? path with
  | some e => if e.allows method then .run e else .wrongMethod
  | none =>
    let other := if path.getLast? = some '/' then dropEndWhile (· == '/') path else path ++ ['/']
    if path != ['/'] && (Endpoint.ofPath? other).isSome then .elsewhere other else .unknown

end TicketKeeper.Service
