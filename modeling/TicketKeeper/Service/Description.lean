import TicketKeeper.Action
import TicketKeeper.Report

/-! The description of the service for programs: its endpoints, and the shapes of what they take and
answer. -/
namespace TicketKeeper.Service.Description

private def reference (name : String) : Json :=
  .obj [("$ref", .str ("#/components/schemas/" ++ name))]

private def titled (title : String) (members : List (String × Json)) : Json :=
  .obj (("title", .str title) :: members)

private def ofType (type : String) : List (String × Json) := [("type", .str type)]

private def text (title : String) : Json := titled title (ofType "string")

private def nullable (members : List (String × Json)) : Json :=
  .arr [.obj members, .obj (ofType "null")]

private def optional (title type : String) (limits : List (String × Json)) : Json :=
  titled title [("anyOf", nullable (limits ++ ofType type))]

private def listOf (items : Json) : List (String × Json) := ("items", items) :: ofType "array"

private def texts : List (String × Json) := listOf (.obj (ofType "string"))

private def atMost (n : Nat) : List (String × Json) := [("maxLength", .int n)]

private def shape (title : String) (properties : List (String × Json)) (required : List String) :
    Json :=
  titled title <| [("properties", .obj properties),
    ("required", .arr (required.map .str))] ++ ofType "object"

private def oneOf (title : String) (names : List String) : Json :=
  titled title (("enum", .arr (names.map .str)) :: ofType "string")

def reportShape : Json :=
  shape "BuildReport" [
    ("job_name", titled "Job Name"
      (("minLength", .int 1) :: atMost Report.maxJob ++ ofType "string")),
    ("build_number", titled "Build Number"
      (("minimum", .float (.ofInt 1)) :: ofType "integer")),
    ("build_url", titled "Build Url"
      (("default", .str "") :: atMost Report.maxUrl ++ ofType "string")),
    ("result", reference "BuildOutcome"),
    ("previous_result", .obj [("anyOf", .arr [reference "BuildOutcome", .obj (ofType "null")])]),
    ("root_url", optional "Root Url" "string" (atMost Report.maxUrl)),
    ("project_key", optional "Project Key" "string" (atMost Report.maxProjectKey)),
    ("test_description", optional "Test Description" "string" (atMost Report.maxDescription)),
    ("assignee", optional "Assignee" "string" (atMost Report.maxAssignee)),
    ("components", titled "Components" [("anyOf", nullable texts)])]
    ["job_name", "build_number", "result"]

def resultShape : Json :=
  shape "ReconcileResult" [
    ("status", titled "Status" (("default", .str "ok") :: ofType "string")),
    ("job_name", text "Job Name"), ("build_number", titled "Build Number" (ofType "integer")),
    ("action", reference "ActionKind"), ("reason", optional "Reason" "string" []),
    ("ticket_key", optional "Ticket Key" "string" []),
    ("previous_ticket_key", optional "Previous Ticket Key" "string" []),
    ("created_ticket_key", optional "Created Ticket Key" "string" []),
    ("commented_ticket_key", optional "Commented Ticket Key" "string" []),
    ("forgotten_ticket_key", optional "Forgotten Ticket Key" "string" []),
    ("warnings", titled "Warnings" texts)]
    ["job_name", "build_number", "action"]

def ticketShape : Json :=
  shape "TrackedTicketOut" [
    ("job_name", text "Job Name"), ("ticket_key", text "Ticket Key"),
    ("last_build_number", optional "Last Build Number" "integer" [])]
    ["job_name", "ticket_key"]

def violationShape : Json :=
  shape "ValidationError" [
    ("loc", titled "Location"
      (listOf (.obj [("anyOf", .arr [.obj (ofType "string"), .obj (ofType "integer")])]))),
    ("msg", text "Message"), ("type", text "Error Type"), ("input", titled "Input" []),
    ("ctx", titled "Context" (ofType "object"))]
    ["loc", "msg", "type"]

def refusalShape : Json :=
  titled "HTTPValidationError" (("properties",
    .obj [("detail", titled "Detail" (listOf (reference "ValidationError")))]) :: ofType "object")

def shapes : Json :=
  .obj [
    ("ActionKind", oneOf "ActionKind" ["noop", "create", "comment", "forget", "replace"]),
    ("BuildOutcome", oneOf "BuildOutcome" ["SUCCESS", "FAILURE", "ABORTED"]),
    ("BuildReport", reportShape), ("HTTPValidationError", refusalShape),
    ("ReconcileResult", resultShape), ("TrackedTicketOut", ticketShape),
    ("ValidationError", violationShape)]

private def parameter (place name : String) (required : Bool) (schema : Json) : Json :=
  .obj [("name", .str name), ("in", .str place), ("required", .bool required), ("schema", schema)]

private def tokenParameter : Json :=
  parameter "header" "X-CI-Token" false (optional "X-Ci-Token" "string" [])

private def jobParameter : Json := parameter "path" "job_name" true (text "Job Name")

private def ofJson (schema : Json) : Json :=
  .obj [("application/json", .obj [("schema", schema)])]

private def answerOf (description : String) (schema : Option Json) : Json :=
  .obj (("description", .str description) :: Failure.present [("content", schema.map ofJson)])

private def operation (summary id : String) (parameters : List Json) (body : Option Json)
    (status : String) (success : Option Json) : Json :=
  .obj <| [("tags", .arr [.str "builds"]), ("summary", .str summary), ("operationId", .str id),
    ("parameters", .arr parameters)] ++
    Failure.present [("requestBody",
      body.map fun b => .obj [("content", ofJson b), ("required", .bool true)])] ++
    [("responses", .obj [
      (status, answerOf "Successful Response" success),
      ("422", answerOf "Validation Error" (some (reference "HTTPValidationError")))])]

def paths : Json :=
  .obj [
    ("/api/builds/reconcile", .obj [
      ("post", operation "Reconcile Build" "reconcile_build_api_builds_reconcile_post"
        [tokenParameter] (some (reference "BuildReport")) "200"
        (some (reference "ReconcileResult")))]),
    ("/api/jobs/\x7bjob_name\x7d/ticket", .obj [
      ("get", operation "Get Tracked Ticket" "get_tracked_ticket_api_jobs__job_name__ticket_get"
        [jobParameter, tokenParameter] none "200" (some (reference "TrackedTicketOut"))),
      ("delete", operation "Forget Tracked Ticket"
        "forget_tracked_ticket_api_jobs__job_name__ticket_delete"
        [jobParameter, tokenParameter] none "204" none)])]

def document (name : String) : Json :=
  .obj [("openapi", .str "3.1.0"),
    ("info", .obj [("title", .str name), ("version", .str "0.1.0")]),
    ("paths", paths), ("components", .obj [("schemas", shapes)])]

end TicketKeeper.Service.Description
