import Alert2IR.Core.Http
import Alert2IR.Core.Uuid
import Alert2IR.Core.Workflow
import Alert2IR.Json.Transport

/-!
# One-shot delivery of canonical alerts

What the gateway makes of the answer to one alert. `httpx` is the parameter `post`, the JSON library
and the Unicode database are those of the gateway.
-/

namespace Alert2IR

namespace Splunk

def maximumUpstreamResponseBytes : Nat := 65536

def maximumStatusUrlLength : Nat := 2048

/-- `[a-z][a-z0-9_]{0,63}\Z`, which gateway and sender share. -/
def safeErrorCode (value : String) : Bool :=
  match value.toList with
  | first :: rest =>
    first.isLower && rest.length ≤ 63 && rest.all fun c => c.isLower || c.isDigit || c = '_'
  | [] => false

inductive DeliveryClassification
  | completed
  | accepted
  | permanentFailure
  | durableFailure
  | transientFailure
deriving DecidableEq, Repr

def DeliveryClassification.value : DeliveryClassification → String
  | .completed => "completed"
  | .accepted => "accepted"
  | .permanentFailure => "permanent_failure"
  | .durableFailure => "durable_failure"
  | .transientFailure => "transient_failure"

structure DeliveryFields where
  classification : DeliveryClassification
  upstreamStatus : Option Nat := none
  processingId : Option UUID := none
  state : Option ProcessingState := none
  statusUrl : Option String := none
  replayed : Bool := false
  decisionOutcome : Option DecisionOutcome := none
  errorCode : Option String := none
  retryable : Bool
  acceptanceUnknown : Bool
deriving DecidableEq

/-- The constraints of the fields. A `ValidationError` is a `ValueError`. -/
def DeliveryFields.postInit (fields : DeliveryFields) : Except PyError Unit :=
  checks [
    (ifPresent fields.upstreamStatus fun status => 100 ≤ status && status ≤ 599,
      "upstream_status"),
    (ifPresent fields.statusUrl fun url => url.length ≤ maximumStatusUrlLength, "status_url"),
    (ifPresent fields.errorCode fun code => code.length ≤ 64 && safeErrorCode code, "error_code")]

structure Alert2IRDeliveryResult extends DeliveryFields where
  valid : toDeliveryFields.postInit = .ok ()
deriving DecidableEq

namespace Alert2IRDeliveryResult

def make (fields : DeliveryFields) : Except PyError Alert2IRDeliveryResult :=
  match h : fields.postInit with
  | .ok () => .ok ⟨fields, h⟩
  | .error e => .error e

theorem make_eq_ok_iff {fields : DeliveryFields} {result : Alert2IRDeliveryResult} :
    make fields = .ok result ↔ result.toDeliveryFields = fields := by
  obtain ⟨resultFields, hvalid⟩ := result
  unfold make
  constructor
  · intro h
    split at h
    · cases h
      rfl
    · cases h
  · intro h
    subst h
    split
    · rfl
    · next e herror => exact absurd (hvalid.symm.trans herror) (by simp)

theorem make_of_valid {fields : DeliveryFields} (hvalid : fields.postInit = .ok ()) :
    make fields = .ok ⟨fields, hvalid⟩ := make_eq_ok_iff.mpr rfl

theorem upstreamStatus_bounds (result : Alert2IRDeliveryResult) {status : Nat}
    (h : result.upstreamStatus = some status) : 100 ≤ status ∧ status ≤ 599 := by
  have hvalid := checks_eq_ok_iff.mp result.valid
  simpa [h] using hvalid (_, "upstream_status") (.head _)

theorem length_statusUrl_le (result : Alert2IRDeliveryResult) {url : String}
    (h : result.statusUrl = some url) : url.length ≤ maximumStatusUrlLength := by
  have hvalid := checks_eq_ok_iff.mp result.valid
  simpa [h] using hvalid (_, "status_url") (.tail _ (.head _))

theorem errorCode_safe (result : Alert2IRDeliveryResult) {code : String}
    (h : result.errorCode = some code) : code.length ≤ 64 ∧ safeErrorCode code = true := by
  have hvalid := checks_eq_ok_iff.mp result.valid
  simpa [h] using hvalid (_, "error_code") (.tail _ (.tail _ (.head _)))

end Alert2IRDeliveryResult

section Client

variable (unicode : Unicode) (json : Json.Decoder)

/-- `_bounded_json_object`. -/
def boundedJsonObject (response : Response) : List (String × Json) :=
  if response.content.length > maximumUpstreamResponseBytes then []
  else match json.loads response.content with
    | some (.obj members) => members
    | _ => []

variable {json} in
/-- A short answer is read as what was written. -/
theorem boundedJsonObject_of_bytes {response : Response} {members : List (String × Json)}
    (hcontent : response.content = (Json.obj members).bytes)
    (hlength : (Json.obj members).write.length ≤ 16384)
    (hplain : (Json.obj members).plain = true)
    (hnesting : (Json.obj members).nesting ≤ Json.nestingLimit) :
    boundedJsonObject json response = members := by
  have hbytes := Json.length_bytes_le (.obj members)
  have hsize : ¬ response.content.length > maximumUpstreamResponseBytes := by
    rw [hcontent, maximumUpstreamResponseBytes]
    omega
  rw [boundedJsonObject, if_neg hsize, hcontent, json.loads_bytes _ hplain hnesting]

/-- `_processing_id`. -/
def processingId (value : Option Json) : Option UUID :=
  match value with
  | some (.str text) => uuidOfText unicode text
  | _ => none

/-- `_bounded_visible`. -/
def boundedVisible (value : Option Json) (maximum : Nat) : Option String :=
  match value with
  | some (.str text) =>
    if 1 ≤ text.length ∧ text.length ≤ maximum ∧ unicode.isprintable text then some text else none
  | _ => none

/-- `_status_url`. -/
def statusUrl (response : Response) (body : List (String × Json)) : Option String :=
  match boundedVisible unicode (body.lookup "status_url") maximumStatusUrlLength with
  | some fromBody => some fromBody
  | none =>
    match response.getList "Location" with
    | [location] => boundedVisible unicode (some (.str location)) maximumStatusUrlLength
    | _ => none

/-- `_state`. -/
def state (body : List (String × Json)) : Option ProcessingState :=
  match body.lookup "state" with
  | some (.str value) => ProcessingState.all.find? fun state => state.value = value
  | _ => none

/-- `_decision_outcome`. The test for membership in a set hashes the value, which a list and a dict
do not allow. -/
def decisionOutcome (body : List (String × Json)) : Except PyError (Option DecisionOutcome) :=
  match body.lookup "decision" with
  | some (.obj decision) =>
    match decision.lookup "outcome" with
    | some (.str value) => .ok (DecisionOutcome.ofValue value).toOption
    | some (.arr _) => .error (.typeError "unhashable type: 'list'")
    | some (.obj _) => .error (.typeError "unhashable type: 'dict'")
    | _ => .ok none
  | _ => .ok none

/-- `_error_code`. -/
def errorCode (body : List (String × Json)) : Option String :=
  ["code", "error_category"].findSome? fun fieldName =>
    match body.lookup fieldName with
    | some (.str value) => if safeErrorCode value then some value else none
    | _ => none

/-- `_replayed`. No letter above ASCII becomes one of `true` in lower case. -/
def replayed (response : Response) : Bool :=
  match response.getList "Idempotency-Replayed" with
  | [value] => lower value = "true"
  | _ => false

/-- What a response says besides its classification. -/
structure ResponseFields where
  upstreamStatus : Nat
  processingId : Option UUID
  state : Option ProcessingState
  statusUrl : Option String
  replayed : Bool
  decisionOutcome : Option DecisionOutcome
  errorCode : Option String

/-- `_response_fields`. -/
def responseFields (response : Response) : Except PyError ResponseFields := do
  let body := boundedJsonObject json response
  let decisionOutcome ← decisionOutcome body
  return {
    upstreamStatus := response.statusCode
    processingId := processingId unicode (body.lookup "processing_id")
    state := state body
    statusUrl := statusUrl unicode response body
    replayed := replayed response
    decisionOutcome
    errorCode := errorCode body }

/-- The fields of a result, `**fields` among them. -/
def ResponseFields.result (fields : ResponseFields) (classification : DeliveryClassification)
    (retryable acceptanceUnknown : Bool) : DeliveryFields := {
  classification
  upstreamStatus := some fields.upstreamStatus
  processingId := fields.processingId
  state := fields.state
  statusUrl := fields.statusUrl
  replayed := fields.replayed
  decisionOutcome := fields.decisionOutcome
  errorCode := fields.errorCode
  retryable
  acceptanceUnknown }

/-- The result for a status, out of which `_classify_response` makes an `Alert2IRDeliveryResult`. -/
def ResponseFields.classify (fields : ResponseFields) (status : Nat) : DeliveryFields :=
  if status = 200 then fields.result .completed false false
  else if status = 202 then fields.result .accepted false false
  else if status = 400 ∨ status = 409 ∨ status = 422 then
    fields.result .permanentFailure false false
  else if status = 500 then
    if fields.processingId.isSome || fields.statusUrl.isSome then
      fields.result .durableFailure false false
    else
      { fields with errorCode := some "upstream_internal_failure" }.result
        .transientFailure true true
  else if status = 503 then
    { fields with errorCode := some (fields.errorCode.getD "upstream_unavailable") }.result
      .transientFailure true false
  else
    { fields with errorCode := some "unexpected_upstream_status" }.result
      .transientFailure true true

/-- `_classify_response`. -/
def classifyResponse (response : Response) : Except PyError Alert2IRDeliveryResult := do
  let fields ← responseFields unicode json response
  Alert2IRDeliveryResult.make (fields.classify response.statusCode)

/-- The exceptions of `httpx` that the client catches; a timeout while connecting is of the first
kind. -/
inductive RequestError
  | timeoutException
  | connectError
  | other
deriving DecidableEq, Repr

/-- `Alert2IRClient.submit_alert`, where `post` is what comes of posting the alert under the key. -/
def submitAlert (post : CanonicalAlert → String → Except RequestError Response)
    (alert : CanonicalAlert) (idempotencyKey : String) : Except PyError Alert2IRDeliveryResult :=
  if !visibleKey idempotencyKey then
    .error (.valueError "idempotency key must be 1-128 visible ASCII characters")
  else match post alert idempotencyKey with
    | .error .timeoutException =>
      Alert2IRDeliveryResult.make {
        classification := .transientFailure
        errorCode := some "upstream_timeout"
        retryable := true
        acceptanceUnknown := true }
    | .error .connectError =>
      Alert2IRDeliveryResult.make {
        classification := .transientFailure
        errorCode := some "upstream_connection_failed"
        retryable := true
        acceptanceUnknown := false }
    | .error .other =>
      Alert2IRDeliveryResult.make {
        classification := .transientFailure
        errorCode := some "upstream_transport_failure"
        retryable := true
        acceptanceUnknown := true }
    | .ok response => classifyResponse unicode json response

end Client

end Splunk

end Alert2IR
