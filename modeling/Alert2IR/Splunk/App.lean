import Alert2IR.Interleaving.Environment
import Alert2IR.Splunk.Answer
import Alert2IR.Splunk.Auth
import Alert2IR.Splunk.Document
import Alert2IR.Splunk.Mapping

/-!
# Authenticated network boundary for bounded Splunk finding delivery

The gateway as a program that reads its clock, decodes a body and calls its client. The digests and
the Unicode database are parameters.
-/

namespace Alert2IR

namespace Splunk

def maxRequestBodyBytes : Nat := 65536

def defaultAllowedSkewSeconds : Int := 300

/-- A request to `/v1/splunk/findings`, its body in the chunks in which it is streamed. -/
structure Request where
  chunks : List (List UInt8)
  headers : List (String × String)

/-- The body, however it is split. -/
def Request.body (request : Request) : List UInt8 := request.chunks.flatten

/-- `request.headers.getlist(name)`; names of headers are compared without regard to case. -/
def Request.getlist (request : Request) (name : String) : List String :=
  (request.headers.filter fun header => lower header.1 = lower name).map Prod.snd

/-- What `create_splunk_adapter_app` closes over. -/
structure App where
  configuredSecret : List UInt8
  valid : minimumSharedSecretBytes ≤ configuredSecret.length

/-- `create_splunk_adapter_app`. -/
def createSplunkAdapterApp (sharedSecret : List UInt8) : Except PyError App :=
  if h : sharedSecret.length < minimumSharedSecretBytes then
    .error (.valueError "shared secret must be at least 32 bytes")
  else .ok ⟨sharedSecret, Nat.le_of_not_lt h⟩

theorem createSplunkAdapterApp_eq_ok_iff {sharedSecret : List UInt8} {app : App} :
    createSplunkAdapterApp sharedSecret = .ok app ↔
      32 ≤ sharedSecret.length ∧ app.configuredSecret = sharedSecret := by
  obtain ⟨configuredSecret, hvalid⟩ := app
  unfold createSplunkAdapterApp
  by_cases hshort : sharedSecret.length < minimumSharedSecretBytes
  · rw [dif_pos hshort]
    exact iff_of_false (by simp) fun h => Nat.not_lt.mpr h.1 hshort
  · rw [dif_neg hshort, Except.ok.injEq, App.mk.injEq]
    exact ⟨fun h => ⟨Nat.le_of_not_lt hshort, h.symm⟩, fun h => h.2.symm⟩

namespace Gateway

/-- What the gateway asks of its surroundings. -/
inductive Call
  | clock
  | loads (rawBody : List UInt8)
  | submitAlert (alert : CanonicalAlert) (idempotencyKey : String)

abbrev Call.Response : Call → Type
  | .clock => Datetime
  | .loads _ => Except PyError Document
  | .submitAlert _ _ => Except PyError Alert2IRDeliveryResult

abbrev Proc := Interleaving.Proc Call Call.Response PyError

open Interleaving.Proc (perform)

/-- `_error`. -/
def error (statusCode : Nat) (error : String) : HttpResponse :=
  ⟨statusCode, (Json.obj [("error", .str error)]).bytes⟩

/-- The loop of `_bounded_body`. -/
def boundedBody (body : List UInt8) : List (List UInt8) → Option (List UInt8)
  | [] => some body
  | chunk :: chunks =>
    if body.length + chunk.length > maxRequestBodyBytes then none
    else boundedBody (body ++ chunk) chunks

/-- `_single_header`. -/
def singleHeader (request : Request) (name : String) : Option String :=
  match request.getlist name with
  | [value] => some value
  | _ => none

/-- `value.partition(";")[0].strip().lower()`. No letter of a header above ASCII becomes one of
`application/json` in lower case. -/
def mediaType (value : String) : String :=
  lower (String.ofList (stripOf isPyWhitespace (value.toList.takeWhile (· ≠ ';'))))

/-- `_is_json`. -/
def isJson (request : Request) : Bool :=
  match request.getlist "content-type" with
  | [value] => mediaType value = "application/json"
  | _ => false

section Submit

variable (hmac : Hmac) (sha256 : Sha256) (unicode : Unicode)

/-- What `submit_finding` does with a body that is authentic and of the right type. -/
def deliver (rawBody : List UInt8) : Proc HttpResponse := do
  let loaded : Except PyError Document ← perform (Call.loads rawBody)
  match loaded with
  | .error (.valueError _) => return error 400 "invalid_json"
  | .error e => throw e
  | .ok decoded =>
    match SplunkFinding.modelValidate unicode decoded >>= canonicalize sha256 with
    | .error (.valueError _) => return error 422 "invalid_splunk_finding"
    | .error (.typeError _) => return error 422 "invalid_splunk_finding"
    | .error e => throw e
    | .ok canonicalized =>
      let delivered : Except PyError Alert2IRDeliveryResult ←
        perform (Call.submitAlert canonicalized.alert canonicalized.idempotencyKey)
      match delivered with
      | .error e => throw e
      | .ok result => return answer result

/-- `submit_finding`. -/
def submitFinding (app : App) (request : Request) : Proc HttpResponse := do
  match boundedBody [] request.chunks with
  | none => return error 413 "request_too_large"
  | some rawBody =>
    let timestamp := singleHeader request "x-alert2ir-timestamp"
    let signature := singleHeader request "x-alert2ir-signature"
    let now ← perform .clock
    match verifySignature hmac app.configuredSecret (timestamp.map String.toList)
        (signature.map String.toList) rawBody now defaultAllowedSkewSeconds with
    | .error e =>
      if e = authenticationError then return error 401 "authentication_failed" else throw e
    | .ok () =>
      if !isJson request then return error 415 "unsupported_media_type"
      deliver sha256 unicode rawBody

end Submit

/-- Surroundings whose clock shows `now`, whose JSON library is `loads`, and whose client answers as
`submit` does. -/
def surroundings (loads : List UInt8 → Except PyError Document) (now : Datetime)
    (submit : CanonicalAlert → String → Except PyError Alert2IRDeliveryResult) :
    Interleaving.Responder Unit Call Call.Response := fun _ c =>
  match c with
  | .clock => (now, ())
  | .loads rawBody => (loads rawBody, ())
  | .submitAlert alert idempotencyKey => (submit alert idempotencyKey, ())

/-- What is called, in order, while a request is served. -/
def calls (env : Interleaving.Responder Unit Call Call.Response) {α : Type} (p : Proc α) :
    List Call :=
  (p.run.trace env ()).map (·.call)

end Gateway

end Splunk

end Alert2IR
