import Alert2IR.Guarantees.Fingerprints
import Alert2IR.Splunk.Sender

/-!
# Gateway answers and sender readings agree

Every result that the gateway's client returns names its classification by a status and a retry flag
that the sender expects of it.
-/

namespace Alert2IR

open Splunk Sender

namespace Splunk

/-- What ties the fields of a result to its classification. -/
structure Alert2IRDeliveryResult.Consistent (result : Alert2IRDeliveryResult) : Prop where
  retryable : result.retryable = true ↔ result.classification = .transientFailure
  status : result.classification = .permanentFailure →
    result.upstreamStatus = some 400 ∨ result.upstreamStatus = some 409 ∨
      result.upstreamStatus = some 422

theorem consistent_of_make {fields : DeliveryFields} {result : Alert2IRDeliveryResult}
    (h : Alert2IRDeliveryResult.make fields = .ok result)
    (hretryable : fields.retryable = true ↔ fields.classification = .transientFailure)
    (hstatus : fields.classification = .permanentFailure → fields.upstreamStatus = some 400 ∨
      fields.upstreamStatus = some 409 ∨ fields.upstreamStatus = some 422) :
    result.Consistent := by
  obtain rfl := Alert2IRDeliveryResult.make_eq_ok_iff.mp h
  exact ⟨hretryable, hstatus⟩

theorem ResponseFields.retryable_classify (fields : ResponseFields) (status : Nat) :
    (fields.classify status).retryable = true ↔
      (fields.classify status).classification = .transientFailure := by
  unfold classify
  repeat' split
  all_goals simp [result]

theorem ResponseFields.status_classify (fields : ResponseFields) {status : Nat}
    (h : (fields.classify status).classification = .permanentFailure) :
    status = 400 ∨ status = 409 ∨ status = 422 := by
  unfold classify at h
  by_cases hstatus : status = 400 ∨ status = 409 ∨ status = 422
  · exact hstatus
  · rw [if_neg hstatus] at h
    repeat' split at h
    all_goals simp [result] at h

theorem ResponseFields.upstreamStatus_classify (fields : ResponseFields) (status : Nat) :
    (fields.classify status).upstreamStatus = some fields.upstreamStatus := by
  unfold classify
  repeat' split
  all_goals rfl

section Client

variable {unicode : Unicode} {json : Json.Decoder} {result : Alert2IRDeliveryResult}

theorem responseFields_eq_ok {response : Response} {fields : ResponseFields}
    (h : responseFields unicode json response = .ok fields) :
    fields.upstreamStatus = response.statusCode := by
  unfold responseFields at h
  cases houtcome : decisionOutcome (boundedJsonObject json response) with
  | error e => simp [houtcome, bind, Except.bind] at h
  | ok outcome =>
    simp only [houtcome, bind, Except.bind, pure, Except.pure, Except.ok.injEq] at h
    rw [← h]

theorem classifyResponse_eq_ok {response : Response}
    (h : classifyResponse unicode json response = .ok result) :
    ∃ fields, responseFields unicode json response = .ok fields ∧
      result.toDeliveryFields = fields.classify response.statusCode := by
  unfold classifyResponse at h
  cases hfields : responseFields unicode json response with
  | error e => simp [hfields, bind, Except.bind] at h
  | ok fields =>
    simp only [hfields, bind, Except.bind] at h
    exact ⟨fields, rfl, Alert2IRDeliveryResult.make_eq_ok_iff.mp h⟩

theorem consistent_of_classifyResponse {response : Response}
    (h : classifyResponse unicode json response = .ok result) : result.Consistent := by
  obtain ⟨fields, hfields, hresult⟩ := classifyResponse_eq_ok h
  apply consistent_of_make (Alert2IRDeliveryResult.make_eq_ok_iff.mpr hresult)
  · exact fields.retryable_classify response.statusCode
  · intro hpermanent
    rw [fields.upstreamStatus_classify, responseFields_eq_ok hfields]
    simpa using fields.status_classify hpermanent

theorem consistent_of_submitAlert
    {post : CanonicalAlert → String → Except RequestError Response} {alert : CanonicalAlert}
    {key : String} (h : submitAlert unicode json post alert key = .ok result) :
    result.Consistent := by
  unfold submitAlert at h
  split at h
  · cases h
  split at h
  · exact consistent_of_make h (by simp) (by simp)
  · exact consistent_of_make h (by simp) (by simp)
  · exact consistent_of_make h (by simp) (by simp)
  · exact consistent_of_classifyResponse h

end Client

end Splunk

namespace Sender

/-- The category the sender has for a classification. -/
def categoryOf : DeliveryClassification → Category
  | .completed => .success
  | .accepted => .success
  | .permanentFailure => .permanentFailure
  | .durableFailure => .durableFailure
  | .transientFailure => .transientFailure

/-- The contract of a classification. -/
def contractFor : DeliveryClassification → Contract
  | .completed => ⟨[200], false, .success, true⟩
  | .accepted => ⟨[202], false, .success, true⟩
  | .permanentFailure => ⟨[400, 409, 422], false, .permanentFailure, false⟩
  | .durableFailure => ⟨[500], false, .durableFailure, false⟩
  | .transientFailure => ⟨[502, 503, 504], true, .transientFailure, false⟩

theorem contractOf_value (classification : DeliveryClassification) :
    contractOf (some (.str classification.value)) = .ok (some (contractFor classification)) := by
  cases classification <;> rfl

theorem adapterStatus_mem {result : Alert2IRDeliveryResult} (h : result.Consistent) :
    adapterStatus result ∈ (contractFor result.classification).statuses := by
  unfold adapterStatus
  cases hclassification : result.classification with
  | completed => simp [contractFor]
  | accepted => simp [contractFor]
  | permanentFailure =>
    rcases h.status hclassification with hstatus | hstatus | hstatus <;>
      simp [hstatus, contractFor]
  | durableFailure => simp [contractFor]
  | transientFailure =>
    simp only [contractFor]
    split
    · simp
    split
    · simp
    · simp

section Reading

variable {unicode : Unicode} {json : Json.Decoder} {result : Alert2IRDeliveryResult}

theorem boundedResponseObject_answer (json : Json.Decoder) (result : Alert2IRDeliveryResult) :
    boundedResponseObject json (answer result) = some (Json.present (resultMembers result)) := by
  have hlength := length_resultDocument_le result
  rw [boundedResponseObject, if_neg (by simpa [answer, maximumAdapterResponseBytes] using hlength),
    answer, json.loads_bytes _ (plain_resultDocument result) (nesting_resultDocument result),
    resultDocument]

/-- The body and the contract the sender finds in an answer. -/
theorem wellFormed_answer (json : Json.Decoder) (h : result.Consistent) :
    wellFormed json (answer result) =
      .ok (some (Json.present (resultMembers result), contractFor result.classification)) := by
  have hclassification : (Json.present (resultMembers result)).lookup "classification" =
      some (.str result.classification.value) := by
    rw [lookup_resultDocument]
    rfl
  have hretryable : (Json.present (resultMembers result)).lookup "retryable" =
      some (.bool result.retryable) := by
    rw [lookup_resultDocument]
    rfl
  have hflag : result.retryable = (contractFor result.classification).retryable := by
    rw [Bool.eq_iff_iff, h.retryable]
    cases result.classification <;> simp [contractFor]
  have hstatus := adapterStatus_mem h
  rw [wellFormed, boundedResponseObject_answer]
  simp only [hclassification, contractOf_value, hretryable, isBool, bind, Except.bind]
  rw [if_neg]
  · rfl
  · rw [not_or, not_not]
    exact ⟨hstatus, by simp [hflag]⟩

theorem boundedProcessingId_answer (unicode : Unicode) (result : Alert2IRDeliveryResult) :
    boundedProcessingId unicode ((Json.present (resultMembers result)).lookup "processing_id") =
      result.processingId.map uuidText := by
  have hlookup : (Json.present (resultMembers result)).lookup "processing_id" =
      result.processingId.map fun id => .str (uuidText id) := by
    rw [lookup_resultDocument]
    exact Option.join_some
  rw [hlookup]
  cases result.processingId with
  | none => rfl
  | some id => simp [boundedProcessingId]

theorem boundedErrorCode_answer (result : Alert2IRDeliveryResult) :
    boundedErrorCode ((Json.present (resultMembers result)).lookup "error_code") =
      result.errorCode := by
  have hlookup : (Json.present (resultMembers result)).lookup "error_code" =
      result.errorCode.map .str := by
    rw [lookup_resultDocument]
    exact Option.join_some
  rw [hlookup]
  cases hcode : result.errorCode with
  | none => rfl
  | some code => simp [boundedErrorCode, (result.errorCode_safe hcode).2]

theorem isBool_replayed (result : Alert2IRDeliveryResult) :
    isBool ((Json.present (resultMembers result)).lookup "replayed") true = result.replayed := by
  have hlookup : (Json.present (resultMembers result)).lookup "replayed" =
      some (.bool result.replayed) := by
    rw [lookup_resultDocument]
    rfl
  rw [hlookup]
  cases result.replayed <;> rfl

end Reading

end Sender

/-- A disposition that says what a result says. -/
structure Sender.AdapterDisposition.Means (disposition : AdapterDisposition)
    (result : Alert2IRDeliveryResult) : Prop where
  success : disposition.success = true ↔
    result.classification = .completed ∨ result.classification = .accepted
  retryable : disposition.retryable = result.retryable
  category : disposition.category = categoryOf result.classification
  status : disposition.status = some (adapterStatus result)
  processingId : disposition.processingId = result.processingId.map uuidText
  replayed : disposition.replayed = result.replayed
  errorCode : disposition.errorCode = result.errorCode

/-- What the gateway answers with a result of its client, the sender reads as that result. -/
theorem sender_reads_gateway_answer (gateway host : Unicode) (json json' : Json.Decoder)
    {post : CanonicalAlert → String → Except RequestError Response} {alert : CanonicalAlert}
    {key : String} {result : Alert2IRDeliveryResult}
    (h : submitAlert gateway json post alert key = .ok result) :
    (∃ read, wellFormed json' (answer result) = .ok (some read)) ∧
      ∃ disposition, classifyAdapterResponse host json' (answer result) = .ok disposition ∧
        disposition.Means result := by
  have hconsistent := consistent_of_submitAlert h
  have hread := wellFormed_answer json' hconsistent
  have hstatus : 100 ≤ (answer result).status ∧ (answer result).status ≤ 599 := by
    have hmem := adapterStatus_mem hconsistent
    show 100 ≤ adapterStatus result ∧ adapterStatus result ≤ 599
    cases hclassification : result.classification <;>
      simp only [hclassification, contractFor, List.mem_cons, List.not_mem_nil, or_false]
        at hmem <;>
      omega
  refine ⟨⟨_, hread⟩, ?_⟩
  rw [classifyAdapterResponse, if_neg (not_not.mpr hstatus), hread]
  refine ⟨_, rfl, ?_, ?_, ?_, rfl, boundedProcessingId_answer host result, isBool_replayed result,
    boundedErrorCode_answer result⟩
  · cases result.classification <;> simp [contractFor]
  · show (contractFor result.classification).retryable = result.retryable
    rw [Bool.eq_iff_iff, hconsistent.retryable]
    cases result.classification <;> simp [contractFor]
  · cases result.classification <;> rfl

namespace Scenario

/-- The body of an answer that names a processing whose request has been sent. -/
def submittedMembers : List (String × Json) :=
  [("processing_id", .str (uuidText 7)), ("state", .str "submitted")]

def submittedResponse : Response where
  statusCode := 202
  content := (Json.obj submittedMembers).bytes
  headers := [("location", "/v1/processings/7"), ("idempotency-replayed", "true")]

def submittedResult : Alert2IRDeliveryResult where
  classification := .accepted
  upstreamStatus := some 202
  processingId := some 7
  state := some .submitted
  statusUrl := some "/v1/processings/7"
  replayed := true
  retryable := false
  acceptanceUnknown := false
  valid := by decide +kernel

theorem submittedResponse_body (json : Json.Decoder) :
    boundedJsonObject json submittedResponse = submittedMembers :=
  boundedJsonObject_of_bytes rfl (by decide +kernel) (by decide +kernel) (by decide)

theorem submittedResponse_result (json : Json.Decoder) :
    classifyResponse Unicode.ascii json submittedResponse = .ok submittedResult := by
  have hlookup : submittedMembers.lookup "processing_id" = some (.str (uuidText 7)) := rfl
  have hid : processingId Unicode.ascii (some (.str (uuidText 7))) = some 7 :=
    uuidOfText_uuidText Unicode.ascii 7
  have hurl : statusUrl Unicode.ascii submittedResponse submittedMembers =
      some "/v1/processings/7" := by
    decide +kernel
  have hfields : responseFields Unicode.ascii json submittedResponse =
      .ok ⟨202, some 7, some .submitted, some "/v1/processings/7", true, none, none⟩ := by
    rw [responseFields, submittedResponse_body, hlookup, hid, hurl]
    rfl
  rw [classifyResponse, hfields]
  exact Alert2IRDeliveryResult.make_eq_ok_iff.mpr (Eq.refl submittedResult.toDeliveryFields)

theorem sender_reads_submittedResult :
    (∃ read, wellFormed Json.Decoder.strict (answer submittedResult) = .ok (some read)) ∧
      ∃ disposition, classifyAdapterResponse Unicode.ascii Json.Decoder.strict
          (answer submittedResult) = .ok disposition ∧ disposition.Means submittedResult :=
  have hsubmit : submitAlert Unicode.ascii Json.Decoder.strict (fun _ _ => .ok submittedResponse)
      (sighting 0) "key" = .ok submittedResult := submittedResponse_result Json.Decoder.strict
  sender_reads_gateway_answer Unicode.ascii Unicode.ascii Json.Decoder.strict Json.Decoder.strict
    hsubmit

end Scenario

end Alert2IR
