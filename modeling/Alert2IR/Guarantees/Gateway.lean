import Alert2IR.Guarantees.Authentication
import Alert2IR.Splunk.App
import Alert2IR.Splunk.Hostnames

/-!
# Only authenticated findings reach core

Of a request the gateway calls its client at most once, and only if every gate lets the request
pass. What it then sends is made of the body alone.
-/

namespace Alert2IR

namespace Splunk

namespace Gateway

/-! ### The gates -/

/-- The chunks are read to their end exactly if they are not too long together. -/
theorem boundedBody_eq (body : List UInt8) (chunks : List (List UInt8)) :
    body.length ≤ maxRequestBodyBytes →
    boundedBody body chunks =
      if (body ++ chunks.flatten).length ≤ maxRequestBodyBytes then some (body ++ chunks.flatten)
      else none := by
  induction chunks generalizing body with
  | nil =>
      intro hbody
      rw [boundedBody, List.flatten_nil, List.append_nil, if_pos hbody]
  | cons chunk chunks ih =>
      intro hbody
      rw [boundedBody, List.flatten_cons, ← List.append_assoc]
      by_cases hlong : body.length + chunk.length > maxRequestBodyBytes
      · rw [if_pos hlong, if_neg]
        rw [List.length_append, List.length_append]
        omega
      · rw [if_neg hlong]
        apply ih
        rw [List.length_append]
        omega

theorem singleHeader_eq_some_iff {request : Request} {name value : String} :
    singleHeader request name = some value ↔ request.getlist name = [value] := by
  unfold singleHeader
  split
  · next found hfound =>
    rw [hfound]
    simp
  · next hnone =>
    refine iff_of_false (by simp) fun heq => hnone value heq

/-- The content type of a request is JSON: it is given once, as `application/json` in letters of
any case, with blanks around it and parameters behind it if need be. -/
def JsonTyped (request : Request) : Prop :=
  ∃ value before name after parameters, request.getlist "content-type" = [value] ∧
    value.toList = before ++ name ++ after ++ parameters ∧
    (∀ c ∈ before ++ after, isPyWhitespace c = true) ∧
    (parameters = [] ∨ ∃ rest, parameters = ';' :: rest) ∧
    name.map Char.toLower = "application/json".toList

/-- A content type that is JSON spells `application/json` before its parameters. -/
theorem mediaType_eq_iff {value : String} : mediaType value = "application/json" ↔
    ∃ before name after parameters, value.toList = before ++ name ++ after ++ parameters ∧
      (∀ c ∈ before ++ after, isPyWhitespace c = true) ∧
      (parameters = [] ∨ ∃ rest, parameters = ';' :: rest) ∧
      name.map Char.toLower = "application/json".toList := by
  constructor
  · intro h
    obtain ⟨before, after, hsplit, hbefore, hafter⟩ :=
      exists_stripOf isPyWhitespace (value.toList.takeWhile (· ≠ ';'))
    refine ⟨before, stripOf isPyWhitespace (value.toList.takeWhile (· ≠ ';')), after,
      value.toList.dropWhile (· ≠ ';'), ?_, List.forall_mem_append.mpr ⟨hbefore, hafter⟩, ?_, ?_⟩
    · rw [← hsplit, List.takeWhile_append_dropWhile]
    · cases hrest : value.toList.dropWhile (· ≠ ';') with
      | nil => exact .inl rfl
      | cons c rest =>
        have hhead := List.head?_dropWhile_not (· ≠ ';') value.toList
        rw [hrest] at hhead
        obtain rfl : c = ';' := by simpa using hhead
        exact .inr ⟨rest, rfl⟩
    · have htext := congrArg String.toList h
      rwa [mediaType, lower, String.toList_ofList, String.toList_ofList] at htext
  · rintro ⟨before, name, after, parameters, hvalue, hblank, hparameters, hname⟩
    obtain ⟨hbefore, hafter⟩ := List.forall_mem_append.mp hblank
    have hletters : ("application/json".toList.all fun d =>
        decide (isPyWhitespace d = false ∧ d ≠ ';')) = true := by
      decide +kernel
    have hvisible : ∀ c ∈ name, isPyWhitespace c = false ∧ c ≠ ';' := by
      intro c hc
      have hlower := of_decide_eq_true
        (List.all_eq_true.mp hletters c.toLower (hname ▸ List.mem_map_of_mem hc))
      rw [isPyWhitespace_toLower] at hlower
      refine ⟨hlower.1, ?_⟩
      rintro rfl
      exact hlower.2 rfl
    have hspace : ∀ c, isPyWhitespace c = true → c ≠ ';' := by
      rintro c hc rfl
      cases hc
    have htype : ∀ c ∈ before ++ name ++ after, decide (c ≠ ';') = true := by
      simp only [List.forall_mem_append, decide_eq_true_eq]
      exact ⟨⟨fun c hc => hspace c (hbefore c hc), fun c hc => (hvisible c hc).2⟩,
        fun c hc => hspace c (hafter c hc)⟩
    have htake : value.toList.takeWhile (· ≠ ';') = before ++ name ++ after := by
      rw [hvalue, List.takeWhile_append_of_pos htype]
      rcases hparameters with rfl | ⟨rest, rfl⟩ <;> simp
    have hnil : name ≠ [] := by
      rintro rfl
      cases hname
    have hstrip : stripOf isPyWhitespace (before ++ name ++ after) = name :=
      stripOf_append hnil hbefore hafter (fun c hc => (hvisible c (List.mem_of_mem_head? hc)).1)
        fun c hc => (hvisible c (List.mem_of_mem_getLast? hc)).1
    rw [mediaType, htake, hstrip, lower, String.toList_ofList, hname, String.ofList_toList]

theorem isJson_iff {request : Request} : isJson request = true ↔ JsonTyped request := by
  have htyped : JsonTyped request ↔ ∃ value, request.getlist "content-type" = [value] ∧
      mediaType value = "application/json" := by
    simp only [mediaType_eq_iff, JsonTyped, exists_and_left]
  rw [htyped]
  unfold isJson
  split
  · next found hfound =>
    rw [hfound, decide_eq_true_eq]
    constructor
    · exact fun h => ⟨found, rfl, h⟩
    · rintro ⟨value, hvalue, h⟩
      obtain rfl := List.singleton_inj.mp hvalue
      exact h
  · next hnone =>
    refine iff_of_false (by simp) ?_
    rintro ⟨value, hvalue, -⟩
    exact hnone value hvalue

/-! ### What is called -/

/-- What a request has to be for the gateway to look into its body. -/
structure Authentic (hmac : Hmac) (app : App) (now : Datetime) (request : Request) : Prop where
  bounded : request.body.length ≤ 65536
  authenticated : ∃ timestamp signature,
    request.getlist "x-alert2ir-timestamp" = [timestamp] ∧
    request.getlist "x-alert2ir-signature" = [signature] ∧
    Authenticates hmac app.configuredSecret timestamp.toList signature.toList request.body now 300

/-- A body decodes to a finding, which canonicalizes. -/
def Canonicalizes (sha256 : Sha256) (unicode : Unicode)
    (loads : List UInt8 → Except PyError Document) (body : List UInt8)
    (canonicalized : CanonicalizedSplunkFinding) : Prop :=
  ∃ decoded finding, loads body = .ok decoded ∧
    SplunkFinding.modelValidate unicode decoded = .ok finding ∧
    canonicalize sha256 finding = .ok canonicalized

/-- A call to `alert2ir_client.submit_alert`. -/
def Call.isSubmission : Call → Bool
  | .submitAlert _ _ => true
  | _ => false

section Calls

variable {hmac : Hmac} {sha256 : Sha256} {unicode : Unicode}
  {loads : List UInt8 → Except PyError Document} {now : Datetime}
  {submit : CanonicalAlert → String → Except PyError Alert2IRDeliveryResult} (app : App)
  {request : Request} {body : List UInt8}

theorem Canonicalizes.unique {x y : CanonicalizedSplunkFinding}
    (hx : Canonicalizes sha256 unicode loads body x)
    (hy : Canonicalizes sha256 unicode loads body y) : x = y := by
  obtain ⟨decoded, finding, hdecoded, hfinding, hcanonical⟩ := hx
  obtain ⟨decoded', finding', hdecoded', hfinding', hcanonical'⟩ := hy
  obtain rfl := Except.ok.inj (hdecoded.symm.trans hdecoded')
  obtain rfl := Except.ok.inj (hfinding.symm.trans hfinding')
  exact Except.ok.inj (hcanonical.symm.trans hcanonical')

theorem calls_perform_bind {α : Type} (env : Interleaving.Responder Unit Call Call.Response)
    (c : Call) (f : c.Response → Proc α) :
    calls env (Interleaving.Proc.perform c >>= f) = c :: calls env (f (env () c).1) := rfl

/-- What a body canonicalizes to is sent, after it has been decoded, and nothing else is called. -/
theorem calls_deliver : (∃ canonicalized, Canonicalizes sha256 unicode loads body canonicalized ∧
      calls (surroundings loads now submit) (deliver sha256 unicode body) =
        [.loads body, .submitAlert canonicalized.alert canonicalized.idempotencyKey]) ∨
    (∀ canonicalized, ¬Canonicalizes sha256 unicode loads body canonicalized) ∧
      calls (surroundings loads now submit) (deliver sha256 unicode body) = [.loads body] := by
  have hcalls : calls (surroundings loads now submit) (deliver sha256 unicode body) =
      .loads body :: _ := calls_perform_bind _ _ _
  rw [hcalls]
  dsimp only [surroundings]
  cases hdecoded : loads body with
  | error e =>
      refine .inr ⟨fun canonicalized hcanonicalizes => ?_, ?_⟩
      · obtain ⟨decoded, finding, hloads, -⟩ := hcanonicalizes
        rw [hdecoded] at hloads
        cases hloads
      · cases e <;> rfl
  | ok decoded =>
      dsimp only
      cases hfinding : SplunkFinding.modelValidate unicode decoded with
      | error e =>
          refine .inr ⟨fun canonicalized hcanonicalizes => ?_, ?_⟩
          · obtain ⟨decoded', finding, hloads, hvalidate, -⟩ := hcanonicalizes
            obtain rfl := Except.ok.inj (hdecoded.symm.trans hloads)
            rw [hfinding] at hvalidate
            cases hvalidate
          · cases e <;> rfl
      | ok finding =>
          cases hcanonical : canonicalize sha256 finding with
          | error e =>
              refine .inr ⟨fun canonicalized hcanonicalizes => ?_, ?_⟩
              · obtain ⟨decoded', finding', hloads, hvalidate, hcanonicalize⟩ := hcanonicalizes
                obtain rfl := Except.ok.inj (hdecoded.symm.trans hloads)
                obtain rfl := Except.ok.inj (hfinding.symm.trans hvalidate)
                rw [hcanonical] at hcanonicalize
                cases hcanonicalize
              · simp only [bind, Except.bind, hcanonical]
                cases e <;> rfl
          | ok canonicalized =>
              have hbind : (Except.ok finding >>= canonicalize sha256) = .ok canonicalized :=
                hcanonical
              refine .inl ⟨canonicalized, ⟨decoded, finding, hdecoded, hfinding, hcanonical⟩, ?_⟩
              rw [hbind]
              refine congrArg (Call.loads body :: ·) ((calls_perform_bind _ _ _).trans ?_)
              dsimp only [surroundings]
              cases submit canonicalized.alert canonicalized.idempotencyKey <;> rfl

theorem authentic_iff (hbounded : request.body.length ≤ 65536) :
    Authentic hmac app now request ↔
      verifySignature hmac app.configuredSecret
        ((singleHeader request "x-alert2ir-timestamp").map String.toList)
        ((singleHeader request "x-alert2ir-signature").map String.toList) request.body now
        defaultAllowedSkewSeconds = .ok () := by
  rw [verifySignature_eq_ok_iff app.valid]
  constructor
  · rintro ⟨-, timestamp, signature, htimestamp, hsignature, hauthenticates⟩
    rw [singleHeader_eq_some_iff.mpr htimestamp, singleHeader_eq_some_iff.mpr hsignature]
    exact ⟨_, _, rfl, rfl, hauthenticates⟩
  · rintro ⟨_, _, htimestamp, hsignature, hauthenticates⟩
    obtain ⟨timestamp, hone, rfl⟩ := Option.map_eq_some_iff.mp htimestamp
    obtain ⟨signature, hone', rfl⟩ := Option.map_eq_some_iff.mp hsignature
    exact ⟨hbounded, timestamp, signature, singleHeader_eq_some_iff.mp hone,
      singleHeader_eq_some_iff.mp hone', hauthenticates⟩

/-- The gateway looks into a body exactly if the request is authentic and of the right type. -/
theorem calls_submitFinding :
    (Authentic hmac app now request ∧ JsonTyped request ∧
      calls (surroundings loads now submit) (submitFinding hmac sha256 unicode app request) =
        .clock :: calls (surroundings loads now submit) (deliver sha256 unicode request.body)) ∨
    ¬(Authentic hmac app now request ∧ JsonTyped request) ∧
      ∀ c ∈ calls (surroundings loads now submit) (submitFinding hmac sha256 unicode app request),
        c = .clock := by
  have hbody := boundedBody_eq [] request.chunks (Nat.zero_le _)
  rw [List.nil_append] at hbody
  unfold submitFinding
  by_cases hbounded : request.chunks.flatten.length ≤ maxRequestBodyBytes
  swap
  · rw [if_neg hbounded] at hbody
    rw [hbody]
    refine .inr ⟨fun h => hbounded h.1.bounded, ?_⟩
    intro c hc
    cases hc
  rw [if_pos hbounded] at hbody
  rw [hbody]
  dsimp only
  rw [calls_perform_bind, authentic_iff app hbounded]
  dsimp only [surroundings, Request.body]
  cases hverified : verifySignature hmac app.configuredSecret
      ((singleHeader request "x-alert2ir-timestamp").map String.toList)
      ((singleHeader request "x-alert2ir-signature").map String.toList) request.chunks.flatten now
      defaultAllowedSkewSeconds with
  | error e =>
      refine .inr ⟨by simp, fun c hc => ?_⟩
      dsimp only at hc
      split at hc
      · exact List.mem_singleton.mp hc
      · exact List.mem_singleton.mp hc
  | ok verified =>
      by_cases hjson : isJson request = true
      · refine .inl ⟨rfl, isJson_iff.mp hjson, ?_⟩
        rw [hjson]
        rfl
      · refine .inr ⟨fun h => hjson (isJson_iff.mpr h.2), fun c hc => ?_⟩
        rw [Bool.not_eq_true] at hjson
        rw [hjson] at hc
        exact List.mem_singleton.mp hc

/-- Serving a request calls the clock, decodes the body and calls the client, each at most once, and
goes on after each as long as the request passes. -/
theorem calls_cases :
    (Authentic hmac app now request ∧ JsonTyped request ∧
      ∃ canonicalized, Canonicalizes sha256 unicode loads request.body canonicalized ∧
        calls (surroundings loads now submit) (submitFinding hmac sha256 unicode app request) =
          [.clock, .loads request.body,
            .submitAlert canonicalized.alert canonicalized.idempotencyKey]) ∨
    (Authentic hmac app now request ∧ JsonTyped request ∧
      (∀ canonicalized, ¬Canonicalizes sha256 unicode loads request.body canonicalized) ∧
        calls (surroundings loads now submit) (submitFinding hmac sha256 unicode app request) =
          [.clock, .loads request.body]) ∨
    ¬(Authentic hmac app now request ∧ JsonTyped request) ∧
      ∀ c ∈ calls (surroundings loads now submit) (submitFinding hmac sha256 unicode app request),
        c = .clock := by
  rcases calls_submitFinding app with ⟨hauthentic, htyped, hcalls⟩ | hrejected
  · rw [hcalls]
    rcases calls_deliver with ⟨canonicalized, hcanonicalizes, hcalls'⟩ | ⟨hnone, hcalls'⟩
    · refine .inl ⟨hauthentic, htyped, canonicalized, hcanonicalizes, ?_⟩
      rw [hcalls']
    · refine .inr (.inl ⟨hauthentic, htyped, hnone, ?_⟩)
      rw [hcalls']
  · exact .inr (.inr hrejected)

/-- What is sent is what the body canonicalizes to. -/
theorem submits_iff {alert : CanonicalAlert} {key : String} :
    .submitAlert alert key ∈ calls (surroundings loads now submit)
        (submitFinding hmac sha256 unicode app request) ↔
      Authentic hmac app now request ∧ JsonTyped request ∧
        Canonicalizes sha256 unicode loads request.body ⟨alert, key⟩ := by
  rcases calls_cases app with ⟨hauthentic, htyped, canonicalized, hcanonicalizes, hcalls⟩ |
    ⟨-, -, hnone, hcalls⟩ | ⟨hnot, hclock⟩
  · rw [hcalls]
    constructor
    · intro hmem
      refine ⟨hauthentic, htyped, ?_⟩
      simp only [List.mem_cons, reduceCtorEq, false_or, Call.submitAlert.injEq, List.not_mem_nil,
        or_false] at hmem
      obtain ⟨rfl, rfl⟩ := hmem
      exact hcanonicalizes
    · rintro ⟨-, -, hsame⟩
      obtain rfl := hcanonicalizes.unique hsame
      simp
  · rw [hcalls]
    refine iff_of_false (by simp) fun h => hnone _ h.2.2
  · refine iff_of_false (fun hmem => ?_) fun h => hnot ⟨h.1, h.2.1⟩
    cases hclock _ hmem

end Calls

end Gateway

end Splunk

open Splunk Gateway

/-- **Only authenticated findings reach core.** A gateway keeps the secret it is created with, which
has 32 bytes. Whatever the request, the clock and the client, it calls its client at most once, and
sends an alert under a key exactly if the request is authentic and of the right type and its body
canonicalizes to that alert and key; it decodes no body but an authentic one. What it sends is made
of the body alone: another request with the same body, however split and under whatever headers, is
sent as the same alert under the same key if it is sent at all. -/
theorem only_authenticated_findings (hmac : Hmac) (sha256 : Sha256) (unicode : Unicode)
    (loads : List UInt8 → Except PyError Document) :
    (∀ secret app, createSplunkAdapterApp secret = .ok app ↔
      32 ≤ secret.length ∧ app.configuredSecret = secret) ∧
    (∀ app request now submit,
      let called := calls (surroundings loads now submit)
        (submitFinding hmac sha256 unicode app request)
      called.countP Call.isSubmission ≤ 1 ∧
        (∀ alert key, .submitAlert alert key ∈ called ↔
          Authentic hmac app now request ∧ JsonTyped request ∧
            Canonicalizes sha256 unicode loads request.body ⟨alert, key⟩) ∧
        ((∃ body, .loads body ∈ called) → Authentic hmac app now request)) ∧
    ∀ app app' request request' now now' submit submit' alert alert' key key',
      request.body = request'.body →
      .submitAlert alert key ∈ calls (surroundings loads now submit)
        (submitFinding hmac sha256 unicode app request) →
      .submitAlert alert' key' ∈ calls (surroundings loads now' submit')
        (submitFinding hmac sha256 unicode app' request') →
      alert = alert' ∧ key = key' := by
  refine ⟨fun secret app => createSplunkAdapterApp_eq_ok_iff, ?_, ?_⟩
  · intro app request now submit
    refine ⟨?_, fun alert key => submits_iff app, ?_⟩
    · rcases calls_cases app with ⟨-, -, canonicalized, -, hcalls⟩ | ⟨-, -, -, hcalls⟩ |
        ⟨-, hclock⟩
      · rw [hcalls]
        exact le_refl 1
      · rw [hcalls]
        exact Nat.zero_le 1
      · refine (List.countP_eq_zero.mpr fun c hc => ?_).le.trans (Nat.zero_le 1)
        rw [hclock c hc]
        exact Bool.false_ne_true
    · rintro ⟨body, hloads⟩
      rcases calls_cases app with ⟨hauthentic, -⟩ | ⟨hauthentic, -⟩ | ⟨-, hclock⟩
      · exact hauthentic
      · exact hauthentic
      · cases hclock _ hloads
  · intro app app' request request' now now' submit submit' alert alert' key key' hbody hsent hsent'
    obtain ⟨-, -, hcanonicalizes⟩ := (submits_iff _).mp hsent
    obtain ⟨-, -, hcanonicalizes'⟩ := (submits_iff _).mp hsent'
    rw [hbody] at hcanonicalizes
    have hsame := hcanonicalizes.unique hcanonicalizes'
    exact ⟨congrArg CanonicalizedSplunkFinding.alert hsame,
      congrArg CanonicalizedSplunkFinding.idempotencyKey hsame⟩

end Alert2IR
