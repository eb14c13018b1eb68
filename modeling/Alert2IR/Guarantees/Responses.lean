import Alert2IR.Guarantees.Fingerprints
import Alert2IR.Splunk.Sender

/-!
# Every response is classified

Gateway and sender both look a value of the other's choosing up in a table. They classify every
response but those in which the value cannot be hashed, and the gateway leaves out the statuses that
its own result has no room for.
-/

namespace Alert2IR

open Splunk Sender

/-- What Python can hash: anything but a list and a dict. -/
def isHashable : Option Json → Bool
  | some (.arr _) | some (.obj _) => false
  | _ => true

section Disposition

variable {unicode : Unicode} {json : Json.Decoder} {response : HttpResponse}

namespace Sender

/-- A body that rules out a retry. -/
def DeniesRetry (json : Json.Decoder) (response : HttpResponse) : Prop :=
  ∃ body, boundedResponseObject json response = some body ∧
    body.lookup "classification" = some (.str "durable_failure") ∧
    body.lookup "retryable" = some (.bool false)

/-- A disposition that takes nothing for granted but what its response establishes. -/
structure AdapterDisposition.Conservative (json : Json.Decoder) (response : HttpResponse)
    (disposition : AdapterDisposition) : Prop where
  success : disposition.success = true ↔ response.status = 200 ∨ response.status = 202
  permanent : 300 ≤ response.status → response.status ≤ 499 → disposition.retryable = false
  transient : 500 ≤ response.status →
    (disposition.retryable = true ↔ ¬ (response.status = 500 ∧ DeniesRetry json response))

/-- A contract that can be looked up, with all that its classification decides. -/
inductive Listed : String → Contract → Prop
  | completed : Listed "completed" ⟨[200], false, .success, true⟩
  | accepted : Listed "accepted" ⟨[202], false, .success, true⟩
  | permanent : Listed "permanent_failure" ⟨[400, 409, 422], false, .permanentFailure, false⟩
  | durable : Listed "durable_failure" ⟨[500], false, .durableFailure, false⟩
  | transient : Listed "transient_failure" ⟨[502, 503, 504], true, .transientFailure, false⟩

theorem listed_of_lookup {classification : String} {contract : Contract}
    (h : contracts.lookup classification = some contract) : Listed classification contract := by
  simp only [contracts, List.lookup_cons] at h
  repeat' split at h
  all_goals simp_all only [beq_iff_eq, Option.some.injEq, List.lookup_nil, reduceCtorEq]
  · subst h
    exact .completed
  · subst h
    exact .accepted
  · subst h
    exact .permanent
  · subst h
    exact .durable
  · subst h
    exact .transient

theorem isHashable_of_contractOf {classification : Option Json} :
    (∃ contract, contractOf classification = .ok contract) ↔ isHashable classification = true := by
  cases classification with
  | none => simp [contractOf, isHashable]
  | some value => cases value <;> simp [contractOf, isHashable]

theorem listed_of_contractOf {classification : Option Json} {contract : Contract}
    (h : contractOf classification = .ok (some contract)) :
    ∃ name, classification = some (.str name) ∧ Listed name contract := by
  cases classification with
  | none => simp [contractOf] at h
  | some value =>
    cases value with
    | str name =>
      simp only [contractOf, Except.ok.injEq] at h
      exact ⟨name, rfl, listed_of_lookup h⟩
    | _ => simp [contractOf] at h

theorem isBool_iff {value : Option Json} {expected : Bool} :
    isBool value expected = true ↔ value = some (.bool expected) := by
  cases value with
  | none => simp [isBool]
  | some value => cases value <;> simp [isBool]

/-- A response that keeps a contract. -/
theorem wellFormed_eq_some {body : List (String × Json)} {contract : Contract}
    (h : wellFormed json response = .ok (some (body, contract))) :
    boundedResponseObject json response = some body ∧
      (∃ name, body.lookup "classification" = some (.str name) ∧ Listed name contract) ∧
      response.status ∈ contract.statuses ∧
      body.lookup "retryable" = some (.bool contract.retryable) := by
  unfold wellFormed at h
  cases hbody : boundedResponseObject json response with
  | none => simp [hbody, pure, Except.pure] at h
  | some members =>
    cases hcontract : contractOf (members.lookup "classification") with
    | error e => simp [hbody, hcontract, bind, Except.bind] at h
    | ok found =>
      cases found with
      | none => simp [hbody, hcontract, bind, Except.bind, pure, Except.pure] at h
      | some found =>
        simp only [hbody, hcontract, bind, Except.bind, pure, Except.pure] at h
        split at h
        · cases h
        · next hkept =>
          cases h
          rw [not_or, not_not, Bool.not_eq_true', Bool.not_eq_false, isBool_iff] at hkept
          exact ⟨rfl, listed_of_contractOf hcontract, hkept⟩

/-- A response that keeps no contract. -/
theorem wellFormed_eq_none (h : wellFormed json response = .ok none) :
    ¬ (response.status = 500 ∧ DeniesRetry json response) := by
  rintro ⟨hstatus, body, hbody, hclassification, hretryable⟩
  have hlookup : contracts.lookup "durable_failure" =
      some ⟨[500], false, .durableFailure, false⟩ := rfl
  simp [wellFormed, hbody, hclassification, contractOf, hlookup, hstatus, hretryable, isBool, bind,
    Except.bind, pure, Except.pure] at h

/-- Only a classification that cannot be hashed keeps the sender from reading a response. -/
theorem wellFormed_isOk :
    (∃ read, wellFormed json response = .ok read) ↔
      ∀ body, boundedResponseObject json response = some body →
        isHashable (body.lookup "classification") = true := by
  unfold wellFormed
  cases hbody : boundedResponseObject json response with
  | none => simp [pure, Except.pure]
  | some body =>
    simp only [Option.some.injEq, forall_eq', ← isHashable_of_contractOf]
    cases hcontract : contractOf (body.lookup "classification") with
    | error e => simp [bind, Except.bind]
    | ok found =>
      simp only [bind, Except.bind, pure, Except.pure, Except.ok.injEq, exists_eq', iff_true]
      cases found with
      | none => simp
      | some contract =>
        dsimp only
        split <;> simp

theorem conservative_fallback (hbody : ¬ (response.status = 500 ∧ DeniesRetry json response)) :
    (fallbackDisposition response.status).Conservative json response := by
  unfold fallbackDisposition
  by_cases hsuccess : response.status = 200 ∨ response.status = 202
  · rw [if_pos hsuccess]
    exact ⟨by simp [hsuccess], fun _ _ => rfl, by omega⟩
  rw [if_neg hsuccess]
  by_cases hpermanent : 300 ≤ response.status ∧ response.status ≤ 499
  · rw [if_pos hpermanent]
    exact ⟨by simp [hsuccess], fun _ _ => rfl, by omega⟩
  · rw [if_neg hpermanent]
    exact ⟨by simp [hsuccess], by omega, by simp [hbody]⟩

/-- A response within its contract is read as the contract says. -/
theorem conservative_contract {body : List (String × Json)} {contract : Contract}
    (h : wellFormed json response = .ok (some (body, contract))) {disposition : AdapterDisposition}
    (hsuccess : disposition.success = contract.success)
    (hretryable : disposition.retryable = contract.retryable) :
    disposition.Conservative json response := by
  obtain ⟨hbody, ⟨name, hclassification, hlisted⟩, hstatus, hflag⟩ := wellFormed_eq_some h
  have hdenies : DeniesRetry json response ↔
      name = "durable_failure" ∧ contract.retryable = false := by
    simp [DeniesRetry, hbody, hclassification, hflag]
  constructor
  · rw [hsuccess]
    cases hlisted <;> simp at hstatus ⊢ <;> omega
  · rw [hretryable]
    cases hlisted <;> simp at hstatus ⊢
    omega
  · rw [hretryable, hdenies]
    cases hlisted <;> simp at hstatus ⊢ <;> omega

end Sender

/-- **When the sender classifies a response.** It does so, and conservatively, unless the body is
an object whose classification is a list or an object itself. -/
theorem classifies_conservatively_iff (unicode : Unicode) (json : Json.Decoder)
    {response : HttpResponse} (hstatus : 100 ≤ response.status ∧ response.status ≤ 599) :
    (∃ disposition, classifyAdapterResponse unicode json response = .ok disposition ∧
        disposition.Conservative json response) ↔
      ∀ body, boundedResponseObject json response = some body →
        isHashable (body.lookup "classification") = true := by
  rw [← wellFormed_isOk, classifyAdapterResponse, if_neg (not_not.mpr hstatus)]
  constructor
  · rintro ⟨disposition, hdisposition, -⟩
    cases hread : wellFormed json response with
    | error e => simp [hread, bind, Except.bind] at hdisposition
    | ok read => exact ⟨read, rfl⟩
  · rintro ⟨read, hread⟩
    rw [hread]
    cases read with
    | none => exact ⟨_, rfl, conservative_fallback (wellFormed_eq_none hread)⟩
    | some read => exact ⟨_, rfl, conservative_contract hread rfl rfl⟩

end Disposition

section Result

variable {unicode : Unicode} {json : Json.Decoder} {response : Response}

namespace Splunk

/-- A response that names a processing or says where to ask for one. -/
def NamesProcessing (unicode : Unicode) (json : Json.Decoder) (response : Response) : Prop :=
  (∃ text, (boundedJsonObject json response).lookup "processing_id" = some (.str text) ∧
      (uuidOfText unicode text).isSome = true) ∨
    ∃ text, ((boundedJsonObject json response).lookup "status_url" = some (.str text) ∨
        response.getList "Location" = [text]) ∧
      1 ≤ text.length ∧ text.length ≤ maximumStatusUrlLength ∧ unicode.isprintable text = true

/-- The result of one exchange: the classification goes by the status, and by what the response
names. -/
structure Alert2IRDeliveryResult.Definite (unicode : Unicode) (json : Json.Decoder)
    (reply : Except RequestError Response) (result : Alert2IRDeliveryResult) : Prop where
  completed : result.classification = .completed ↔
    ∃ response, reply = .ok response ∧ response.statusCode = 200
  accepted : result.classification = .accepted ↔
    ∃ response, reply = .ok response ∧ response.statusCode = 202
  permanent : result.classification = .permanentFailure ↔
    ∃ response, reply = .ok response ∧ (response.statusCode = 400 ∨ response.statusCode = 409 ∨
      response.statusCode = 422)
  durable : result.classification = .durableFailure ↔
    ∃ response, reply = .ok response ∧ response.statusCode = 500 ∧
      NamesProcessing unicode json response

theorem boundedVisible_eq_some {value : Option Json} {maximum : Nat} {text : String} :
    boundedVisible unicode value maximum = some text ↔ value = some (.str text) ∧
      1 ≤ text.length ∧ text.length ≤ maximum ∧ unicode.isprintable text = true := by
  cases value with
  | none => simp [boundedVisible]
  | some value =>
    cases value with
    | str content =>
      simp only [boundedVisible, Option.ite_none_right_eq_some, Option.some.injEq, Json.str.injEq]
      constructor
      · rintro ⟨hvisible, rfl⟩
        exact ⟨rfl, hvisible⟩
      · rintro ⟨rfl, hvisible⟩
        exact ⟨hvisible, rfl⟩
    | _ => simp [boundedVisible]

theorem statusUrl_visible {body : List (String × Json)} {url : String}
    (h : statusUrl unicode response body = some url) :
    (body.lookup "status_url" = some (.str url) ∨ response.getList "Location" = [url]) ∧
      1 ≤ url.length ∧ url.length ≤ maximumStatusUrlLength ∧ unicode.isprintable url = true := by
  unfold statusUrl at h
  cases hbody : boundedVisible unicode (body.lookup "status_url") maximumStatusUrlLength with
  | some fromBody =>
    simp only [hbody, Option.some.injEq] at h
    subst h
    obtain ⟨hlookup, hvisible⟩ := boundedVisible_eq_some.mp hbody
    exact ⟨.inl hlookup, hvisible⟩
  | none =>
    simp only [hbody] at h
    split at h
    · next location hlocation =>
      obtain ⟨heq, hvisible⟩ := boundedVisible_eq_some.mp h
      cases heq
      exact ⟨.inr hlocation, hvisible⟩
    · cases h

theorem statusUrl_isSome_iff {body : List (String × Json)} :
    (statusUrl unicode response body).isSome = true ↔
      ∃ text, (body.lookup "status_url" = some (.str text) ∨
          response.getList "Location" = [text]) ∧
        1 ≤ text.length ∧ text.length ≤ maximumStatusUrlLength ∧
          unicode.isprintable text = true := by
  rw [Option.isSome_iff_exists]
  constructor
  · rintro ⟨url, h⟩
    exact ⟨url, statusUrl_visible h⟩
  · rintro ⟨text, hsource, hvisible⟩
    unfold statusUrl
    cases hbody : boundedVisible unicode (body.lookup "status_url") maximumStatusUrlLength with
    | some fromBody => exact ⟨fromBody, rfl⟩
    | none =>
      rcases hsource with hlookup | hlocation
      · rw [boundedVisible_eq_some.mpr ⟨hlookup, hvisible⟩] at hbody
        cases hbody
      · rw [hlocation]
        exact ⟨text, boundedVisible_eq_some.mpr ⟨rfl, hvisible⟩⟩

theorem processingId_isSome_iff {value : Option Json} :
    (processingId unicode value).isSome = true ↔
      ∃ text, value = some (.str text) ∧ (uuidOfText unicode text).isSome = true := by
  cases value with
  | none => simp [processingId]
  | some value => cases value <;> simp [processingId]

theorem length_of_safeErrorCode {code : String} (h : safeErrorCode code = true) :
    code.length ≤ 64 := by
  unfold safeErrorCode at h
  rw [← String.length_toList]
  split at h
  · next first rest heq =>
    rw [heq, List.length_cons]
    simp only [Bool.and_eq_true, decide_eq_true_eq] at h
    omega
  · cases h

theorem errorCode_safe {body : List (String × Json)} {code : String}
    (h : errorCode body = some code) : safeErrorCode code = true := by
  obtain ⟨fieldName, -, hfield⟩ := List.exists_of_findSome?_eq_some h
  split at hfield
  · rw [Option.ite_none_right_eq_some] at hfield
    obtain ⟨hsafe, heq⟩ := hfield
    cases heq
    exact hsafe
  · cases hfield

/-- Only an outcome that cannot be hashed keeps the client from reading a decision. -/
theorem decisionOutcome_isOk {body : List (String × Json)} :
    (∃ outcome, decisionOutcome body = .ok outcome) ↔
      ∀ decision, body.lookup "decision" = some (.obj decision) →
        isHashable (decision.lookup "outcome") = true := by
  unfold decisionOutcome
  cases body.lookup "decision" with
  | none => simp
  | some decision =>
    cases decision with
    | obj members =>
      simp only [Option.some.injEq, Json.obj.injEq, forall_eq']
      cases members.lookup "outcome" with
      | none => simp [isHashable]
      | some outcome => cases outcome <;> simp [isHashable]
    | _ => simp

theorem responseFields_isOk (unicode : Unicode) :
    (∃ fields, responseFields unicode json response = .ok fields) ↔
      ∃ outcome, decisionOutcome (boundedJsonObject json response) = .ok outcome := by
  unfold responseFields
  cases houtcome : decisionOutcome (boundedJsonObject json response) with
  | error e => simp [houtcome, bind, Except.bind]
  | ok outcome => simp [houtcome, bind, Except.bind, pure, Except.pure]

/-- What is read off a response fits the result, but for its status. -/
structure ResponseFields.Sound (unicode : Unicode) (json : Json.Decoder) (response : Response)
    (fields : ResponseFields) : Prop where
  upstreamStatus : fields.upstreamStatus = response.statusCode
  names : (fields.processingId.isSome || fields.statusUrl.isSome) = true ↔
    NamesProcessing unicode json response
  statusUrl : ∀ url, fields.statusUrl = some url → url.length ≤ maximumStatusUrlLength
  errorCode : ∀ code, fields.errorCode = some code → safeErrorCode code = true

theorem sound_responseFields {fields : ResponseFields}
    (h : responseFields unicode json response = .ok fields) :
    fields.Sound unicode json response := by
  unfold responseFields at h
  cases houtcome : decisionOutcome (boundedJsonObject json response) with
  | error e => simp [houtcome, bind, Except.bind] at h
  | ok outcome =>
    simp only [houtcome, bind, Except.bind, pure, Except.pure, Except.ok.injEq] at h
    subst h
    constructor
    · rfl
    · rw [Bool.or_eq_true, processingId_isSome_iff, statusUrl_isSome_iff]
      exact Iff.rfl
    · exact fun url hurl => (statusUrl_visible hurl).2.2.1
    · exact fun code hcode => errorCode_safe hcode

/-- The classification of a status. -/
theorem ResponseFields.classification_classify (fields : ResponseFields) (status : Nat) :
    (fields.classify status).classification =
      if status = 200 then .completed
      else if status = 202 then .accepted
      else if status = 400 ∨ status = 409 ∨ status = 422 then .permanentFailure
      else if status = 500 ∧ (fields.processingId.isSome || fields.statusUrl.isSome) = true then
        .durableFailure
      else .transientFailure := by
  unfold classify
  by_cases hstatus : status = 500
  · subst hstatus
    simp only [reduceIte, true_and, Nat.reduceEqDiff, or_self]
    split <;> rfl
  · simp only [hstatus, false_and, reduceIte]
    repeat' split
    all_goals rfl

/-- Whatever is done to the code of an error, it stays a safe one. -/
theorem ResponseFields.postInit_classify {fields : ResponseFields}
    (h : fields.Sound unicode json response) (status : Nat) :
    (fields.classify status).postInit = .ok () ↔
      100 ≤ response.statusCode ∧ response.statusCode ≤ 599 := by
  have hstatus : (fields.classify status).upstreamStatus = some response.statusCode := by
    rw [← h.upstreamStatus]
    unfold classify
    repeat' split
    all_goals rfl
  have hurl : (fields.classify status).statusUrl = fields.statusUrl := by
    unfold classify
    repeat' split
    all_goals rfl
  have hcode : ∀ code, (fields.classify status).errorCode = some code →
      safeErrorCode code = true := by
    have hgiven : ∀ code, some (fields.errorCode.getD "upstream_unavailable") = some code →
        safeErrorCode code = true := by
      intro code heq
      cases hfield : fields.errorCode with
      | none =>
        rw [hfield] at heq
        cases heq
        decide
      | some given =>
        rw [hfield] at heq
        cases heq
        exact h.errorCode given hfield
    unfold classify
    repeat' split
    all_goals first
      | exact h.errorCode
      | exact hgiven
      | rintro code ⟨⟩
        decide
  have hurlFits : ifPresent (fields.classify status).statusUrl
      (fun url => url.length ≤ maximumStatusUrlLength) = true := by
    rw [hurl]
    cases hfield : fields.statusUrl with
    | none => rfl
    | some url => simpa using h.statusUrl url hfield
  have hcodeFits : ifPresent (fields.classify status).errorCode
      (fun code => code.length ≤ 64 && safeErrorCode code) = true := by
    cases hfield : (fields.classify status).errorCode with
    | none => rfl
    | some code =>
      have hsafe := hcode code hfield
      simp [hsafe, length_of_safeErrorCode hsafe]
  rw [DeliveryFields.postInit, checks_eq_ok_iff]
  simp [hstatus, hurlFits, hcodeFits]

theorem definite_classify {fields : ResponseFields} {result : Alert2IRDeliveryResult}
    (h : fields.Sound unicode json response)
    (hresult : result.toDeliveryFields = fields.classify response.statusCode) :
    result.Definite unicode json (.ok response) := by
  have hclassification := fields.classification_classify response.statusCode
  rw [← hresult] at hclassification
  constructor
  all_goals
    rw [hclassification]
    simp only [Except.ok.injEq, exists_eq_left', ← h.names]
    grind

/-- Without a response there is nothing to go by. -/
theorem definite_of_error {e : RequestError} {result : Alert2IRDeliveryResult}
    (h : result.classification = .transientFailure) :
    result.Definite unicode json (.error e) := by
  constructor <;> simp [h]

theorem make_isOk_iff {fields : DeliveryFields} :
    (∃ result, Alert2IRDeliveryResult.make fields = .ok result) ↔ fields.postInit = .ok () := by
  constructor
  · rintro ⟨result, hresult⟩
    rw [← Alert2IRDeliveryResult.make_eq_ok_iff.mp hresult]
    exact result.valid
  · intro hvalid
    exact ⟨_, Alert2IRDeliveryResult.make_of_valid hvalid⟩

/-- A response is classified if its status fits the result and its outcome can be hashed. -/
theorem classifyResponse_isOk (hthreeDigit : 200 ≤ response.statusCode) :
    (∃ result, classifyResponse unicode json response = .ok result ∧
        result.Definite unicode json (.ok response)) ↔
      response.statusCode ≤ 599 ∧
        ∃ outcome, decisionOutcome (boundedJsonObject json response) = .ok outcome := by
  rw [← responseFields_isOk unicode, classifyResponse]
  constructor
  · rintro ⟨result, hresult, -⟩
    cases hfields : responseFields unicode json response with
    | error e => simp [hfields, bind, Except.bind] at hresult
    | ok fields =>
      simp only [hfields, bind, Except.bind] at hresult
      have hvalid := make_isOk_iff.mp ⟨result, hresult⟩
      have hbounds := (fields.postInit_classify (sound_responseFields hfields) _).mp hvalid
      exact ⟨hbounds.2, fields, rfl⟩
  · rintro ⟨hstatus, fields, hfields⟩
    have hsound := sound_responseFields hfields
    have hvalid := (fields.postInit_classify hsound response.statusCode).mpr ⟨by omega, hstatus⟩
    obtain ⟨result, hresult⟩ := make_isOk_iff.mpr hvalid
    rw [hfields]
    have hmade := Alert2IRDeliveryResult.make_eq_ok_iff.mp hresult
    exact ⟨result, hresult, definite_classify hsound hmade⟩

end Splunk

/-- **When the client has an answer.** Every exchange comes to a definite result, unless the
response has a status above 599, or a decision whose outcome is a list or an object. -/
theorem answers_definitely_iff (unicode : Unicode) (json : Json.Decoder)
    {post : CanonicalAlert → String → Except RequestError Response} {alert : CanonicalAlert}
    {key : String} (hkey : visibleKey key = true)
    (hstatus : ∀ response, post alert key = .ok response →
      200 ≤ response.statusCode ∧ response.statusCode ≤ 999) :
    (∃ result, submitAlert unicode json post alert key = .ok result ∧
        result.Definite unicode json (post alert key)) ↔
      ∀ response, post alert key = .ok response → response.statusCode ≤ 599 ∧
        ∀ decision, (boundedJsonObject json response).lookup "decision" = some (.obj decision) →
          isHashable (decision.lookup "outcome") = true := by
  rw [submitAlert, hkey, if_neg (by simp)]
  cases hreply : post alert key with
  | error e =>
    simp only [reduceCtorEq, false_implies, implies_true, iff_true]
    cases e with
    | timeoutException => exact ⟨⟨_, rfl⟩, rfl, definite_of_error rfl⟩
    | connectError => exact ⟨⟨_, rfl⟩, rfl, definite_of_error rfl⟩
    | other => exact ⟨⟨_, rfl⟩, rfl, definite_of_error rfl⟩
  | ok response =>
    simp only [Except.ok.injEq, forall_eq', ← decisionOutcome_isOk]
    exact classifyResponse_isOk (hstatus response hreply).1

end Result

namespace Scenario

/-- An acceptance whose body has a classification of some kind. -/
def acceptance (classification : Json) : HttpResponse where
  status := 202
  body := (Json.obj [("classification", classification)]).bytes

theorem boundedResponseObject_acceptance (json : Json.Decoder) (classification : Json)
    (hlength : (Json.obj [("classification", classification)]).write.length ≤ 16384)
    (hplain : (Json.obj [("classification", classification)]).plain = true)
    (hnesting : (Json.obj [("classification", classification)]).nesting ≤ Json.nestingLimit) :
    boundedResponseObject json (acceptance classification) =
      some [("classification", classification)] := by
  have hbytes := Json.length_bytes_le (.obj [("classification", classification)])
  have hsize : ¬ (Json.obj [("classification", classification)]).bytes.length >
      maximumAdapterResponseBytes := by
    rw [maximumAdapterResponseBytes]
    omega
  rw [boundedResponseObject, acceptance, if_neg hsize, json.loads_bytes _ hplain hnesting]

/-- The sender raises over an acceptance. -/
theorem listed_acceptance_unclassified : ¬ ∃ disposition,
    classifyAdapterResponse Unicode.ascii Json.Decoder.strict (acceptance (.arr [])) =
        .ok disposition ∧
      disposition.Conservative Json.Decoder.strict (acceptance (.arr [])) := by
  rintro ⟨disposition, hdisposition, -⟩
  have hbody := boundedResponseObject_acceptance Json.Decoder.strict (.arr []) (by decide +kernel)
    (by decide +kernel) (by decide)
  have hread : wellFormed Json.Decoder.strict (acceptance (.arr [])) =
      .error (.typeError "unhashable type: 'list'") := by
    rw [wellFormed, hbody]
    rfl
  rw [classifyAdapterResponse, if_neg (by decide), hread] at hdisposition
  cases hdisposition

theorem stated_acceptance_classified : ∃ disposition,
    classifyAdapterResponse Unicode.ascii Json.Decoder.strict (acceptance (.str "accepted")) =
        .ok disposition ∧
      disposition.Conservative Json.Decoder.strict (acceptance (.str "accepted")) :=
  have hbody := boundedResponseObject_acceptance Json.Decoder.strict (.str "accepted")
    (by decide +kernel) (by decide +kernel) (by decide)
  have hhashable : ∀ body,
      boundedResponseObject Json.Decoder.strict (acceptance (.str "accepted")) = some body →
        isHashable (body.lookup "classification") = true := by
    rintro body hread
    rw [hbody, Option.some.injEq] at hread
    subst hread
    rfl
  have hstatus : 100 ≤ (acceptance (.str "accepted")).status ∧
      (acceptance (.str "accepted")).status ≤ 599 := by
    decide
  (classifies_conservatively_iff Unicode.ascii Json.Decoder.strict hstatus).mpr hhashable

/-- A decision whose outcome is of some kind. -/
def decided (outcome : Json) : Response where
  statusCode := 202
  content := (Json.obj [("decision", .obj [("outcome", outcome)])]).bytes
  headers := []

/-- The client raises over an acceptance. -/
theorem listed_decision_unanswered : ¬ ∃ result,
    submitAlert Unicode.ascii Json.Decoder.strict (fun _ _ => .ok (decided (.arr [])))
        (sighting 0) "key" = .ok result ∧
      result.Definite Unicode.ascii Json.Decoder.strict (.ok (decided (.arr []))) := by
  rintro ⟨result, hresult, -⟩
  have hbody : boundedJsonObject Json.Decoder.strict (decided (.arr [])) =
      [("decision", .obj [("outcome", .arr [])])] :=
    boundedJsonObject_of_bytes rfl (by decide +kernel) (by decide +kernel) (by decide)
  have hfields : responseFields Unicode.ascii Json.Decoder.strict (decided (.arr [])) =
      .error (.typeError "unhashable type: 'list'") := by
    rw [responseFields, hbody]
    rfl
  have hraised : classifyResponse Unicode.ascii Json.Decoder.strict (decided (.arr [])) =
      .ok result := hresult
  rw [classifyResponse, hfields] at hraised
  cases hraised

theorem stated_decision_answered : ∃ result,
    submitAlert Unicode.ascii Json.Decoder.strict (fun _ _ => .ok (decided (.str "no_action")))
        (sighting 0) "key" = .ok result ∧
      result.Definite Unicode.ascii Json.Decoder.strict (.ok (decided (.str "no_action"))) :=
  have hkey : visibleKey "key" = true := by decide +kernel
  have hbody : boundedJsonObject Json.Decoder.strict (decided (.str "no_action")) =
      [("decision", .obj [("outcome", .str "no_action")])] :=
    boundedJsonObject_of_bytes rfl (by decide +kernel) (by decide +kernel) (by decide)
  have hcondition : ∀ response,
      (Except.ok (decided (.str "no_action")) : Except RequestError Response) = .ok response →
        response.statusCode ≤ 599 ∧ ∀ decision,
          (boundedJsonObject Json.Decoder.strict response).lookup "decision" =
              some (.obj decision) → isHashable (decision.lookup "outcome") = true := by
    rintro response ⟨⟩
    refine ⟨by decide, fun decision hdecision => ?_⟩
    rw [hbody] at hdecision
    cases hdecision
    rfl
  (answers_definitely_iff Unicode.ascii Json.Decoder.strict hkey
    (by rintro response ⟨⟩; decide)).mpr hcondition

end Scenario

end Alert2IR
