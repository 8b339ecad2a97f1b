import TicketKeeper.Json.Basic
import TicketKeeper.Url.HostName

/-! What can stop an operation: a failure of the domain, which every surface reports with its code
and details; a report or setting that is refused field by field; or a defect, which no surface
expects. -/
namespace TicketKeeper

inductive FailureKind
  | application
  | notFound
  | badRequest
  | tracker
  | trackerUnavailable
  | lookupFailed
  | unknownStatus
  | applying
  | createFailed
  | commentFailed
  | storeUnavailable
  | invalidConfiguration
  | invalidToken
deriving DecidableEq, Repr

namespace FailureKind

def name : FailureKind → String
  | application => "BuildTrackerException"
  | notFound => "NotFoundError"
  | badRequest => "BadRequestError"
  | tracker => "IssueTrackerException"
  | trackerUnavailable => "IssueTrackerUnavailable"
  | lookupFailed => "LookupFailed"
  | unknownStatus => "UnknownIssueStatus"
  | applying => "ApplyError"
  | createFailed => "CreateFailed"
  | commentFailed => "CommentFailed"
  | storeUnavailable => "StoreUnavailable"
  | invalidConfiguration => "InvalidConfigurationError"
  | invalidToken => "InvalidAPIKeyError"

def code : FailureKind → Option String
  | application | tracker | applying => none
  | notFound => some "NOT_FOUND"
  | badRequest => some "BAD_REQUEST"
  | trackerUnavailable => some "ISSUE_TRACKER_UNAVAILABLE"
  | lookupFailed => some "LOOKUP_FAILED"
  | unknownStatus => some "UNKNOWN_ISSUE_STATUS"
  | createFailed => some "CREATE_FAILED"
  | commentFailed => some "COMMENT_FAILED"
  | storeUnavailable => some "STORE_UNAVAILABLE"
  | invalidConfiguration => some "INVALID_CONFIG"
  | invalidToken => some "INVALID_API_KEY"

def httpStatus : FailureKind → Int
  | application | badRequest | tracker | applying => 400
  | invalidToken => 401
  | notFound => 404
  | invalidConfiguration => 500
  | lookupFailed | unknownStatus | createFailed | commentFailed => 502
  | trackerUnavailable | storeUnavailable => 503

/-- Whether the tracker's side failed. Only such a failure of a final comment is forgiven. -/
def isTracker : FailureKind → Bool
  | tracker | trackerUnavailable | lookupFailed | unknownStatus | applying | createFailed
  | commentFailed => true
  | _ => false

def isApplying : FailureKind → Bool
  | applying | createFailed | commentFailed => true
  | _ => false

end FailureKind

/-- What is told of a failure. The parts have their usual types unless a caller gave values of
others. -/
structure Failure where
  kind : FailureKind
  message : Json
  code : Json := .ofString? kind.code
  details : Json := .obj []
  httpStatus : Json := .int kind.httpStatus
  headers : Json := .null

namespace Failure

def present (details : List (String × Option Json)) : List (String × Json) :=
  details.filterMap fun (name, v) => v.map (name, ·)

private def truthy? (v : Json) : Option Json := if v.isTruthy then some v else none

private def nonNull? : Json → Option Json
  | .null => none
  | v => some v

def defaultMessage : FailureKind → Json
  | .notFound => .str "not_found"
  | .badRequest => .str "bad_request"
  | .trackerUnavailable => .str "Issue tracker unavailable"
  | .createFailed => .str "Issue creation failed"
  | .storeUnavailable => .str "Ticket store unavailable"
  | .invalidToken => .str "Invalid API key"
  | _ => .null

/-- A failure made from named values. A message, key or status that is not given has the default of
its kind; a status is told when it is not null, a name when it is not empty. -/
def ofValues (kind : FailureKind) (values : List (String × Json)) : Failure :=
  let value (name : String) : Json := (values.lookup name).getD .null
  let message : Json := (values.lookup "message").getD (defaultMessage kind)
  let status : String × Option Json := ("status", nonNull? (value "status"))
  let key := value "ticket_key"
  let ticket : String × Option Json := ("ticket_key", some key)
  let named (name : String) : Json := .obj (present [(name, truthy? (value name))])
  let details : Json := (truthy? (value "details")).getD (.obj [])
  let made (message details : Json) : Failure :=
    { kind := kind
      message := message
      details := details }
  match kind with
  | .application | .tracker | .applying =>
    { made message details with
      code := value "error_code"
      httpStatus := (values.lookup "status_code").getD (.int kind.httpStatus)
      headers := value "headers" }
  | .notFound | .badRequest | .trackerUnavailable => made message details
  | .lookupFailed =>
    made ((truthy? message).getD (.str s!"Lookup of {key.text} failed"))
      (.obj (present [ticket, status]))
  | .commentFailed =>
    made ((truthy? message).getD (.str s!"Comment on {key.text} failed"))
      (.obj (present [ticket, status]))
  | .unknownStatus =>
    made (.str ("Unknown issue status: " ++ String.ofList (value "raw_status").shown))
      (.obj [("raw_status", value "raw_status")])
  | .createFailed => made message (.obj (present [status]))
  | .storeUnavailable => made message (named "job_name")
  | .invalidConfiguration => made message (named "setting")
  | .invalidToken => made message (.obj [])

def notFound (message : String) (details : List (String × Json)) : Failure :=
  ofValues .notFound [("message", .str message), ("details", .obj details)]

def badRequest (message : String) (details : List (String × Json)) : Failure :=
  ofValues .badRequest [("message", .str message), ("details", .obj details)]

def trackerUnavailable (message : String) (details : List (String × Json)) : Failure :=
  ofValues .trackerUnavailable [("message", .str message), ("details", .obj details)]

def lookupFailed (key message : String) (status : Option Int) : Failure :=
  ofValues .lookupFailed
    [("ticket_key", .str key), ("message", .str message), ("status", .ofInt? status)]

def unknownStatus (raw : String) : Failure :=
  ofValues .unknownStatus [("raw_status", .str raw)]

def createFailed (message : String) (status : Int) : Failure :=
  ofValues .createFailed [("message", .str message), ("status", .int status)]

def commentFailed (key message : String) (status : Int) : Failure :=
  ofValues .commentFailed
    [("ticket_key", .str key), ("message", .str message), ("status", .int status)]

def storeUnavailable (message job : String) : Failure :=
  ofValues .storeUnavailable [("message", .str message), ("job_name", .str job)]

def invalidConfiguration (message setting : String) : Failure :=
  ofValues .invalidConfiguration [("message", .str message), ("setting", .str setting)]

def invalidToken (message : String) : Failure :=
  ofValues .invalidToken [("message", .str message)]

def toJson (f : Failure) : Json :=
  .obj [("error", .str f.kind.name), ("message", f.message), ("error_code", f.code),
    ("details", f.details)]

end Failure

inductive Rule
  | missing
  | tooShort
  | tooLong
  | malformedInteger
  | hugeInteger
  | notInteger
  | fractional
  | notFinite
  | malformedDecimal
  | malformedFlag
  | tooSmall
  | notListed
  | badValue
  | notObject
  | notMapping
  | malformedJson
deriving DecidableEq, Repr

def Rule.name : Rule → String
  | missing => "missing"
  | tooShort => "string_too_short"
  | tooLong => "string_too_long"
  | malformedInteger => "int_parsing"
  | hugeInteger => "int_parsing_size"
  | notInteger => "int_type"
  | fractional => "int_from_float"
  | notFinite => "finite_number"
  | malformedDecimal => "float_parsing"
  | malformedFlag => "bool_parsing"
  | tooSmall => "greater_than_equal"
  | notListed => "enum"
  | badValue => "value_error"
  | notObject => "model_type"
  | notMapping => "model_attributes_type"
  | malformedJson => "json_invalid"

inductive Place
  | field (name : String)
  | index (n : Nat)
deriving DecidableEq, Repr

structure Violation where
  rule : Rule
  place : List Place
deriving DecidableEq, Repr

inductive LinkFault
  | connectError
  | connectTimeout
  | readTimeout
  | readError
  | writeTimeout
  | writeError
  | closeError
  | poolTimeout
  | remoteProtocolError
  | localProtocolError
  | proxyError
  | unsupportedProtocol
  | timeout
  | networkError
  | protocolError
  | transportError
  | tooManyRedirects
  | decodingError
  | requestError
  | httpError
  | streamError
  | cookieConflict
  | invalidUrl
deriving DecidableEq, Repr

namespace LinkFault

def name : LinkFault → String
  | connectError => "ConnectError"
  | connectTimeout => "ConnectTimeout"
  | readTimeout => "ReadTimeout"
  | readError => "ReadError"
  | writeTimeout => "WriteTimeout"
  | writeError => "WriteError"
  | closeError => "CloseError"
  | poolTimeout => "PoolTimeout"
  | remoteProtocolError => "RemoteProtocolError"
  | localProtocolError => "LocalProtocolError"
  | proxyError => "ProxyError"
  | unsupportedProtocol => "UnsupportedProtocol"
  | timeout => "TimeoutException"
  | networkError => "NetworkError"
  | protocolError => "ProtocolError"
  | transportError => "TransportError"
  | tooManyRedirects => "TooManyRedirects"
  | decodingError => "DecodingError"
  | requestError => "RequestError"
  | httpError => "HTTPError"
  | streamError => "StreamError"
  | cookieConflict => "CookieConflict"
  | invalidUrl => "InvalidURL"

def all : List LinkFault := [
  connectError, connectTimeout, readTimeout, readError, writeTimeout, writeError, closeError,
  poolTimeout, remoteProtocolError, localProtocolError, proxyError, unsupportedProtocol, timeout,
  networkError, protocolError, transportError, tooManyRedirects, decodingError, requestError,
  httpError, streamError, cookieConflict, invalidUrl]

def named? (name : String) : Option LinkFault := all.find? (·.name == name)

theorem named?_name (f : LinkFault) : named? f.name = some f := by cases f <;> decide

def isTransport : LinkFault → Bool
  | tooManyRedirects | decodingError | requestError | httpError | streamError | cookieConflict
  | invalidUrl => false
  | _ => true

end LinkFault

/-- What no surface expects. -/
inductive Defect
  | wrongType
  | noMember
  | notJson
  | notText
  | badValue
  | tooManyItems
  | outOfRange
  | breakdown
  | schema
  | link (fault : LinkFault)
  | tooDeep
  | notIncremental
  /-- Bytes that their character set refuses whatever is done about faults. -/
  | undecodable
  | unencodable
  | host (fault : Url.HostFault)
deriving DecidableEq, Repr

inductive Fault
  | failure (f : Failure)
  | invalid (violations : List Violation)
  | defect (d : Defect)

namespace Fault

def trackerFailure? : Fault → Option Failure
  | failure f => if f.kind.isTracker then some f else none
  | _ => none

end Fault

end TicketKeeper
