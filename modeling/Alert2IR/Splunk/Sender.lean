import Alert2IR.Splunk.Answer

/-!
# Delivery by the custom alert action

How the sender reads an answer, and how often it asks. The actual transport is a parameter.
-/

namespace Alert2IR

namespace Sender

open Splunk

def maximumAdapterResponseBytes : Nat := 65536

def maximumAttempts : Nat := 3

inductive Category
  | success
  | permanentFailure
  | durableFailure
  | transientFailure
deriving DecidableEq, Repr

structure AdapterDisposition where
  category : Category
  retryable : Bool
  success : Bool
  status : Option Nat
  processingId : Option String := none
  replayed : Bool := false
  errorCode : Option String := none
deriving DecidableEq

section Classification

variable (unicode : Unicode) (json : Json.Decoder)

/-- `_bounded_response_object`. -/
def boundedResponseObject (response : HttpResponse) : Option (List (String × Json)) :=
  if response.body.length > maximumAdapterResponseBytes then none
  else match json.loads response.body with
    | some (.obj members) => some members
    | _ => none

/-- `_bounded_processing_id`. -/
def boundedProcessingId (value : Option Json) : Option String :=
  match value with
  | some (.str text) => (uuidOfText unicode text).map uuidText
  | _ => none

/-- `_bounded_error_code`. -/
def boundedErrorCode (value : Option Json) : Option String :=
  match value with
  | some (.str code) => if safeErrorCode code then some code else none
  | _ => none

/-- `value is expected`. -/
def isBool (value : Option Json) (expected : Bool) : Bool :=
  match value with
  | some (.bool b) => b == expected
  | _ => false

/-- `_fallback_disposition`. -/
def fallbackDisposition (status : Nat) : AdapterDisposition :=
  if status = 200 ∨ status = 202 then {
    category := .success
    retryable := false
    success := true
    status := some status }
  else if 300 ≤ status ∧ status ≤ 499 then {
    category := .permanentFailure
    retryable := false
    success := false
    status := some status
    errorCode := some "unexpected_adapter_response" }
  else {
    category := .transientFailure
    retryable := true
    success := false
    status := some status
    errorCode := some "unexpected_adapter_response" }

/-- What the sender expects of a response of one classification. -/
structure Contract where
  statuses : List Nat
  retryable : Bool
  category : Category
  success : Bool
deriving DecidableEq

def contracts : List (String × Contract) :=
  [("completed", ⟨[200], false, .success, true⟩),
    ("accepted", ⟨[202], false, .success, true⟩),
    ("permanent_failure", ⟨[400, 409, 422], false, .permanentFailure, false⟩),
    ("durable_failure", ⟨[500], false, .durableFailure, false⟩),
    ("transient_failure", ⟨[502, 503, 504], true, .transientFailure, false⟩)]

/-- `contracts.get(classification)`. -/
def contractOf (classification : Option Json) : Except PyError (Option Contract) :=
  match classification with
  | some (.str value) => .ok (contracts.lookup value)
  | some (.arr _) => .error (.typeError "unhashable type: 'list'")
  | some (.obj _) => .error (.typeError "unhashable type: 'dict'")
  | _ => .ok none

/-- The body of a response and the contract it keeps. Without one the sender falls back on the
status. -/
def wellFormed (response : HttpResponse) :
    Except PyError (Option (List (String × Json) × Contract)) := do
  match boundedResponseObject json response with
  | none => return none
  | some body =>
    match ← contractOf (body.lookup "classification") with
    | none => return none
    | some contract =>
      if response.status ∉ contract.statuses ∨
          !isBool (body.lookup "retryable") contract.retryable then
        return none
      else return some (body, contract)

/-- `classify_adapter_response`. -/
def classifyAdapterResponse (response : HttpResponse) : Except PyError AdapterDisposition :=
  if ¬(100 ≤ response.status ∧ response.status ≤ 599) then
    .error (.other "ActionInputError")
  else do
    match ← wellFormed json response with
    | none => return fallbackDisposition response.status
    | some (body, contract) =>
      return {
        category := contract.category
        retryable := contract.retryable
        success := contract.success
        status := some response.status
        processingId := boundedProcessingId unicode (body.lookup "processing_id")
        replayed := isBool (body.lookup "replayed") true
        errorCode := boundedErrorCode (body.lookup "error_code") }

end Classification

end Sender

end Alert2IR
