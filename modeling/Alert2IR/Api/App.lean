import Alert2IR.Application.Processing
import Alert2IR.Core.Http
import Alert2IR.Core.Uuid
import Alert2IR.Json.Transport

/-!
# The boundary for durable, idempotent alert processing

What core answers to a POST of an alert, by what came of processing it.
-/

namespace Alert2IR

namespace Api

structure ApiErrorResponse where
  code : String
  message : String
  requestedCapabilities : Option (List String) := none
  eligibleBackends : Option (List String) := none
  processingId : Option UUID := none
  state : Option ProcessingState := none
  statusUrl : Option String := none

/-- The members of `error.model_dump(mode="json")`. -/
def ApiErrorResponse.members (error : ApiErrorResponse) : List (String × Option Json) :=
  [("code", some (.str error.code)),
    ("message", some (.str error.message)),
    ("requested_capabilities", error.requestedCapabilities.map fun names => .arr (names.map .str)),
    ("eligible_backends", error.eligibleBackends.map fun names => .arr (names.map .str)),
    ("processing_id", error.processingId.map fun id => .str (uuidText id)),
    ("state", error.state.map fun state => .str state.value),
    ("status_url", error.statusUrl.map .str)]

/-- `_error_response`. -/
def errorResponse (statusCode : Nat) (error : ApiErrorResponse)
    (headers : List (String × String)) : Response :=
  ⟨statusCode, (Json.obj (Json.present error.members)).bytes, headers⟩

/-- `_idempotency_key`, over the values of the header. -/
def idempotencyKey (values : List String) : Except Response String :=
  match values with
  | [] => .error (errorResponse 400 {
      code := "idempotency_key_required"
      message := "Idempotency-Key header is required" } [])
  | value :: rest =>
    if !rest.isEmpty || !visibleKey value then
      .error (errorResponse 400 {
        code := "invalid_idempotency_key"
        message := "Idempotency-Key must contain 1-128 visible ASCII characters" } [])
    else .ok value

def statusUrl (processingId : UUID) : String := "/v1/processings/" ++ uuidText processingId

/-- `_DURABLE_CLIENT_FAILURES`. -/
def durableClientFailures : List (String × Nat × String) :=
  [("unsupported_capability", 409, "no configured backend supports the required capability")]

section Answers

-- The JSON text of `AlertProcessingResponse.from_application`, which pydantic writes.
variable (dump : ProcessingRecord → List UInt8)

/-- `_public_processing_response`. -/
def publicProcessingResponse (record : ProcessingRecord) (replayed : Bool) : Response :=
  let url := statusUrl record.processingId
  let headers := ("Location", url) :: if replayed then [("Idempotency-Replayed", "true")] else []
  match record.state with
  | .completed => ⟨200, dump record, headers⟩
  | .failed =>
    match record.errorCategory with
    | some category =>
      match durableClientFailures.lookup category with
      | some (statusCode, message) => errorResponse statusCode {
          code := category
          message
          processingId := some record.processingId
          state := some record.state
          statusUrl := some url } headers
      | none => ⟨500, dump record, headers⟩
    | none => ⟨500, dump record, headers⟩
  | _ => ⟨202, dump record, headers⟩

/-- The answer of `process_alert` once the key has been accepted. An exception that the handler does
not name is answered by the middleware. -/
def processAlert : Except PyError ProcessingOutcome → Response
  | .error (.idempotencyConflict _) => errorResponse 409 {
      code := "idempotency_conflict"
      message := "idempotency key is already bound to another request" } []
  | .error (.persistenceUnavailable _) => errorResponse 503 {
      code := "persistence_failed"
      message := "durable processing is temporarily unavailable" } []
  | .error (.unsupportedCapabilities requested processing) =>
    errorResponse 409 {
      code := "unsupported_capability"
      message := "no configured backend supports the required capability"
      requestedCapabilities := some requested
      processingId := processing.map Prod.fst
      state := processing.map Prod.snd
      statusUrl := processing.map fun p => statusUrl p.1 }
      (processing.map fun p => ("Location", statusUrl p.1)).toList
  | .error (.ambiguousBackend requested eligible processing) =>
    errorResponse 500 {
      code := "backend_selection_error"
      message := "backend selection was ambiguous"
      requestedCapabilities := some requested
      eligibleBackends := some eligible
      processingId := processing.map Prod.fst
      state := processing.map Prod.snd
      statusUrl := processing.map fun p => statusUrl p.1 }
      (processing.map fun p => ("Location", statusUrl p.1)).toList
  | .error _ => ⟨500, (Json.obj [("detail", .str "Internal Server Error")]).bytes, []⟩
  | .ok outcome => publicProcessingResponse dump outcome.record outcome.replayed

variable {dump}

/-- A record is never answered with 503. -/
theorem statusCode_public_ne (record : ProcessingRecord) (replayed : Bool) :
    (publicProcessingResponse dump record replayed).statusCode ≠ 503 := by
  unfold publicProcessingResponse
  cases record.state with
  | failed =>
    cases record.errorCategory with
    | none => simp
    | some category =>
      have hlookup : ∀ entry, durableClientFailures.lookup category = some entry →
          entry.1 = 409 := by
        intro entry hentry
        rw [durableClientFailures, List.lookup_cons] at hentry
        split at hentry
        · cases hentry
          rfl
        · cases hentry
      cases hentry : durableClientFailures.lookup category with
      | none => simp [hentry]
      | some entry => simp [hentry, errorResponse, hlookup entry hentry]
  | _ => simp

end Answers

end Api

end Alert2IR
