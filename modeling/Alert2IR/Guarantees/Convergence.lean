import Alert2IR.Application.Fingerprinting
import Alert2IR.Guarantees.Acceptance
import Alert2IR.Guarantees.Evidence
import Alert2IR.Guarantees.Identity

/-!
# When findings of one event converge

The key of a finding is taken of what identifies it, and the fingerprint of its alert of everything
the alert says. Findings of one event, by one rule, have one key, and the second of them is a replay
of the first exactly if the two report the same.
-/

namespace Alert2IR

open Interleaving

namespace Splunk

/-- Two findings of one event, by one rule. -/
structure SameEvent (m n : NormalizedSplunkFinding) : Prop where
  ruleId : m.ruleId = n.ruleId
  channel : m.channel = n.channel
  computer : m.computer = n.computer
  detectedAt : m.detectedAt = n.detectedAt
  eventCode : m.eventCode = n.eventCode
  recordId : m.recordId = n.recordId

/-- Two findings that report the same of their event. -/
structure SameReport (m n : NormalizedSplunkFinding) : Prop where
  ruleTitle : m.ruleTitle = n.ruleTitle
  sigmaLevel : m.sigmaLevel = n.sigmaLevel
  processGuid : m.processGuid = n.processGuid
  image : m.image = n.image
  parentImage : m.parentImage = n.parentImage
  targetFilename : m.targetFilename = n.targetFilename

/-! ### What an alert says of its finding -/

/-- The evidence there is, of the kinds there are. -/
abbrev present (optional : List (Option String × String)) : List (String × String) :=
  optional.filterMap fun item => item.1.map fun reference => (reference, item.2)

/-- The evidence there is says what there is of each kind. -/
theorem present_injective {xs ys : List (Option String × String)}
    (hkinds : xs.map Prod.snd = ys.map Prod.snd) (hdistinct : (xs.map Prod.snd).Nodup)
    (h : present xs = present ys) : xs = ys := by
  induction xs generalizing ys with
  | nil => exact (List.map_eq_nil_iff.mp hkinds.symm).symm
  | cons x xs ih =>
      cases ys with
      | nil => cases hkinds
      | cons y ys =>
          obtain ⟨x, kind⟩ := x
          obtain ⟨y, kind'⟩ := y
          obtain ⟨hkind, htails⟩ := List.cons.inj hkinds
          obtain rfl : kind = kind' := hkind
          obtain ⟨hfresh, hothers⟩ := List.nodup_cons.mp hdistinct
          -- What is left is of other kinds.
          have hleft : kind ∉ (present xs).map Prod.snd := fun hmem =>
            hfresh ((present_sublist xs).subset hmem)
          have hright : kind ∉ (present ys).map Prod.snd := fun hmem =>
            hfresh (htails ▸ (present_sublist ys).subset hmem)
          cases x with
          | none =>
              cases y with
              | none =>
                  have htail : present xs = present ys := h
                  rw [ih htails hothers htail]
              | some y =>
                  have htail : present xs = (y, kind) :: present ys := h
                  rw [htail] at hleft
                  exact absurd (List.Mem.head _) hleft
          | some x =>
              cases y with
              | none =>
                  have htail : (x, kind) :: present xs = present ys := h
                  rw [← htail] at hright
                  exact absurd (List.Mem.head _) hright
              | some y =>
                  have hcons : (x, kind) :: present xs = (y, kind) :: present ys := h
                  obtain ⟨hfirst, htail⟩ := List.cons.inj hcons
                  obtain rfl : x = y := congrArg Prod.fst hfirst
                  rw [ih htails hothers htail]

/-- A level is told by what the evidence of the policy says of it. -/
theorem level_of_policyReference {x y : SigmaLevel}
    (h : sigmaLevelMappingSchema ++ ":" ++ x.value ++ "->" ++ (normalizeSigmaSeverity x).value =
      sigmaLevelMappingSchema ++ ":" ++ y.value ++ "->" ++ (normalizeSigmaSeverity y).value) :
    x = y := by
  cases x <;> cases y <;> first | rfl | exact absurd h (by decide)

/-- The evidence there may be, by kind. -/
def optionalEvidence (m : NormalizedSplunkFinding) : List (Option String × String) :=
  [(m.processGuid, "process-guid"), (m.image, "process-image"),
    (m.parentImage, "parent-process-image"), (m.targetFilename, "target-file")]

theorem evidenceItems_eq (m : NormalizedSplunkFinding) (severity : Severity) :
    evidenceItems m severity = (policyReference m severity, "normalization-policy") ::
      (eventReference m, "source-event") :: present (optionalEvidence m) := rfl

theorem optionalEvidence_eq_iff {m n : NormalizedSplunkFinding} :
    present (optionalEvidence m) = present (optionalEvidence n) ↔
      m.processGuid = n.processGuid ∧ m.image = n.image ∧ m.parentImage = n.parentImage ∧
        m.targetFilename = n.targetFilename := by
  have hdistinct : ((optionalEvidence m).map Prod.snd).Nodup :=
    show ["process-guid", "process-image", "parent-process-image", "target-file"].Nodup by decide
  have hinj : present (optionalEvidence m) = present (optionalEvidence n) ↔
      optionalEvidence m = optionalEvidence n :=
    ⟨present_injective rfl hdistinct, congrArg present⟩
  rw [hinj]
  simp [optionalEvidence]

section Alerts

variable {f g : SplunkFinding} {m n : NormalizedSplunkFinding} {key : String} {x y : CanonicalAlert}

theorem evidenceItems_eq_iff (hsame : SameEvent m n) :
    evidenceItems m (normalizeSigmaSeverity m.sigmaLevel) =
        evidenceItems n (normalizeSigmaSeverity n.sigmaLevel) ↔
      m.sigmaLevel = n.sigmaLevel ∧ m.processGuid = n.processGuid ∧ m.image = n.image ∧
        m.parentImage = n.parentImage ∧ m.targetFilename = n.targetFilename := by
  have hevent : eventReference m = eventReference n := by
    unfold eventReference
    rw [hsame.computer, hsame.channel, hsame.recordId, hsame.eventCode]
  have hpolicy : policyReference m (normalizeSigmaSeverity m.sigmaLevel) =
      policyReference n (normalizeSigmaSeverity n.sigmaLevel) ↔ m.sigmaLevel = n.sigmaLevel := by
    refine ⟨level_of_policyReference, fun hlevel => ?_⟩
    rw [policyReference, policyReference, hlevel]
  rw [evidenceItems_eq, evidenceItems_eq, List.cons.injEq, List.cons.injEq, Prod.mk.injEq, hpolicy,
    hevent, optionalEvidence_eq_iff]
  simp

theorem IsAlertOf.map_evidence (h : IsAlertOf m key x) :
    x.evidence.map (fun item => (item.reference, item.kind)) =
      (evidenceItems m (normalizeSigmaSeverity m.sigmaLevel)).map
        fun item => (item.1, some item.2) := by
  rw [← h.severity]
  exact map_evidence_of_texts h.evidence

/-- Alerts of findings of one event say the same exactly if the findings report the same. -/
theorem sameMeaning_iff (hsame : SameEvent m n) (hx : IsAlertOf m key x) (hy : IsAlertOf n key y) :
    SameMeaning x y ↔ SameReport m n := by
  have hevidence : x.evidence = y.evidence ↔ m.sigmaLevel = n.sigmaLevel ∧
      m.processGuid = n.processGuid ∧ m.image = n.image ∧ m.parentImage = n.parentImage ∧
        m.targetFilename = n.targetFilename := by
    have hitems : Function.Injective fun item : String × String => (item.1, some item.2) :=
      fun a b h => by simpa [Prod.ext_iff] using h
    have hreferences : Function.Injective fun item : EvidenceReference =>
        (item.reference, item.kind) := by
      rintro ⟨reference, kind, _⟩ ⟨reference', kind', _⟩ h
      simpa using h
    rw [← evidenceItems_eq_iff hsame, ← (List.map_injective_iff.mpr hitems).eq_iff,
      ← hx.map_evidence, ← hy.map_evidence, (List.map_injective_iff.mpr hreferences).eq_iff]
  constructor
  · intro h
    have hname : x.detection.name = y.detection.name := congrArg DetectionIdentity.name h.detection
    rw [hx.name, hy.name, Option.some.injEq] at hname
    obtain ⟨hlevel, hguid, himage, hparent, htarget⟩ := hevidence.mp h.evidence
    exact ⟨hname, hlevel, hguid, himage, hparent, htarget⟩
  · rintro ⟨hname, hlevel, hguid, himage, hparent, htarget⟩
    refine ⟨?_, ?_, ?_, ?_, ?_, hevidence.mpr ⟨hlevel, hguid, himage, hparent, htarget⟩⟩
    · have hdetection : Function.Injective fun detection : DetectionIdentity =>
          (detection.identifier, detection.name) := by
        rintro ⟨identifier, name, _⟩ ⟨identifier', name', _⟩ h
        simpa using h
      apply hdetection
      simp only [hx.identifier, hy.identifier, hx.name, hy.name, hsame.ruleId, hname]
    · rw [hx.detectedAt, hy.detectedAt, hsame.detectedAt]
    · have hsource : Function.Injective fun source : SourceProvenance =>
          (source.source, source.sourceAlertId) := by
        rintro ⟨source, sourceAlertId, _⟩ ⟨source', sourceAlertId', _⟩ h
        simpa using h
      apply hsource
      simp only [hx.source, hy.source, hx.sourceAlertId, hy.sourceAlertId]
    · rw [hx.severity, hy.severity, hlevel]
    · have hentities : Function.Injective fun entity : Entity => (entity.kind, entity.value) := by
        rintro ⟨kind, value, _⟩ ⟨kind', value', _⟩ h
        simpa using h
      refine List.map_injective_iff.mpr hentities ?_
      rw [hx.entities, hy.entities, hsame.computer]

/-- Findings of one event have one key. -/
theorem canonicalize_of_sameEvent (sha256 : Sha256) (hm : normalizeSplunkFinding f = .ok m)
    (hn : normalizeSplunkFinding g = .ok n) (hsame : SameEvent m n) :
    ∃ key x y, canonicalize sha256 f = .ok ⟨x, key⟩ ∧ canonicalize sha256 g = .ok ⟨y, key⟩ ∧
      IsAlertOf m key x ∧ IsAlertOf n key y := by
  obtain ⟨key, x, hkey, hx, halert⟩ := exists_canonicalize sha256 hm
  obtain ⟨key', y, hkey', hy, halert'⟩ := exists_canonicalize sha256 hn
  obtain ⟨bytes, bytes', hbytes, hbytes', hiff⟩ := findingIdentityBytes_eq_iff hm hn
  obtain rfl : bytes = bytes' := hiff.mpr ⟨hsame.ruleId, hsame.channel, hsame.computer,
    hsame.detectedAt, hsame.eventCode, hsame.recordId⟩
  have hkeys : idempotencyKey sha256 m = idempotencyKey sha256 n := by
    rw [idempotencyKey, idempotencyKey, hbytes, hbytes']
  obtain rfl : key = key' := Except.ok.inj (hkey.symm.trans (hkeys.trans hkey'))
  exact ⟨key, x, y, hx, hy, halert, halert'⟩

/-- The fingerprints of findings of one event are taken of the same bytes exactly if the findings
report the same. -/
theorem fingerprintBytes_eq_iff (hm : normalizeSplunkFinding f = .ok m)
    (hn : normalizeSplunkFinding g = .ok n) (hsame : SameEvent m n) (hx : IsAlertOf m key x)
    (hy : IsAlertOf n key y) : ∃ bytes bytes', canonicalFingerprintBytes x = .ok bytes ∧
      canonicalFingerprintBytes y = .ok bytes' ∧ (bytes = bytes' ↔ SameReport m n) := by
  have hrange : ∀ {f : SplunkFinding} {m x}, normalizeSplunkFinding f = .ok m →
      IsAlertOf m key x → Calendar.InRange x.detectedAt.instant := by
    intro f m x hm hx
    obtain ⟨instant, htime, hrange⟩ :=
      normalizeTimestamp_eq_ok (isNormal_of_normalize hm).detectedAt
    rwa [hx.detectedAt, htime, Datetime.instant_ofInstant]
  refine ⟨_, _, canonicalFingerprintBytes_of_inRange (hrange hm hx),
    canonicalFingerprintBytes_of_inRange (hrange hn hy), ?_⟩
  rw [← sameMeaning_iff hsame hx hy]
  constructor
  · intro h
    exact sameMeaning_of_sorted_eq (hrange hm hx) (hrange hn hy) (Json.bytes_injective h)
  · intro h
    rw [fingerprintMembers_congr h]

end Alerts

end Splunk

open Splunk

section Convergence

variable {σ : Type} {M : Repository σ} {f g : SplunkFinding} {m n : NormalizedSplunkFinding}

/-- **When findings of one event converge.** Two findings of one event, by one rule, are
canonicalized under one key. Over any lawful repository and in every run of any processors, once a
delivery of the first has created a processing every other delivery of the second is told of it,
changes nothing and calls no backend; it is a replay if the two report the same, and a conflict if
they do not. Of the hash it is asked only that it tells apart the two alerts if they differ. -/
theorem findings_converge (L : LawfulRepository M) (gateway : Sha256)
    (hm : normalizeSplunkFinding f = .ok m) (hn : normalizeSplunkFinding g = .ok n)
    (hsame : SameEvent m n) :
    ∃ key x y, canonicalize gateway f = .ok ⟨x, key⟩ ∧ canonicalize gateway g = .ok ⟨y, key⟩ ∧
      ∀ core cfg, (fingerprintCanonicalAlert core x = fingerprintCanonicalAlert core y →
          canonicalFingerprintBytes x = canonicalFingerprintBytes y) →
        (M.system (fingerprintCanonicalAlert core)).Reachable cfg →
        ∀ t t' acceptance acceptance', Accepted cfg t x key acceptance →
          acceptance.created = true → Accepted cfg t' y key acceptance' → t ≠ t' →
            acceptance'.record.processingId = acceptance.record.processingId ∧
            Passive L cfg t' y key acceptance' ∧
            (SameReport m n → Concludes (fingerprintCanonicalAlert core) M cfg t'
              (.ok (.processed ⟨acceptance'.record, true⟩))) ∧
            (¬ SameReport m n → Concludes (fingerprintCanonicalAlert core) M cfg t'
              (.error (.idempotencyConflict acceptance'.record.processingId))) := by
  obtain ⟨key, x, y, hx, hy, halert, halert'⟩ := canonicalize_of_sameEvent gateway hm hn hsame
  refine ⟨key, x, y, hx, hy, fun core cfg hcollision hreach t t' acceptance acceptance' haccepted
    hcreated haccepted' hother => ?_⟩
  obtain ⟨bytes, bytes', hbytes, hbytes', hiff⟩ :=
    fingerprintBytes_eq_iff hm hn hsame halert halert'
  have hfp : fingerprintCanonicalAlert core x = .ok (fingerprintVersion, core bytes) := by
    rw [fingerprintCanonicalAlert, hbytes]
    rfl
  have hfp' : fingerprintCanonicalAlert core y = .ok (fingerprintVersion, core bytes') := by
    rw [fingerprintCanonicalAlert, hbytes']
    rfl
  have hdigest : core bytes = core bytes' ↔ SameReport m n := by
    rw [← hiff]
    refine ⟨fun h => ?_, congrArg core⟩
    have hsameBytes := hcollision (by rw [hfp, hfp', h])
    exact Except.ok.inj (hbytes.symm.trans (hsameBytes.trans hbytes'))
  have hid := haccepted.processingId_eq L hreach haccepted'
    (halert.source.trans halert'.source.symm)
  have hcreated' : acceptance'.created = false := by
    by_contra hcreated'
    exact hother (haccepted.thread_eq L hreach haccepted' hid hcreated
      (by simpa using hcreated'))
  -- The record is that of the processing, which was created with the first fingerprint.
  obtain ⟨e, he, -, -, hversion, hstored⟩ := haccepted.stored (L := L) hreach
  obtain ⟨e', he', -, -, hversion', hstored'⟩ := haccepted'.stored (L := L) hreach
  obtain ⟨-, -, -, -, -, version, digest, hfirst, hrecord, hrecord'⟩ :=
    haccepted.created (L := L) hreach hcreated
  cases hfp.symm.trans hfirst
  rw [← hid] at he'
  obtain rfl := Option.some.inj (he.symm.trans he')
  have hsameVersion : acceptance'.record.fingerprintVersion = some fingerprintVersion :=
    hversion'.symm.trans (hversion.trans hrecord)
  have hsameDigest : acceptance'.record.requestFingerprint = some (core bytes) :=
    hstored'.symm.trans (hstored.trans hrecord')
  obtain ⟨hpassive, hconcludes⟩ := haccepted'.declined (L := L) hreach hfp' (.inr (.inr hcreated'))
  rw [hsameVersion, hsameDigest] at hconcludes
  refine ⟨hid.symm, hpassive, fun hreport => ?_, fun hreport => ?_⟩
  · rwa [if_neg (by simp [hdigest.mpr hreport])] at hconcludes
  · rwa [if_pos (.inr (by simpa using mt hdigest.mp hreport))] at hconcludes

end Convergence

namespace Scenario

/-- What a rule tells of a process, on a host that may be given under two names. -/
def observedTexts (ruleTitle : String) (computer host : Option String) : FindingTexts where
  ruleTitle := ruleTitle
  detectedAt := .datetime ⟨1786970096000000, some 0⟩
  computer := computer
  host := host
  channel := "Security"
  source := none
  sourcetype := none
  processGuid := none
  image := none
  parentImage := none
  targetFilename := none

def observed (ruleTitle : String) (computer host : Option String)
    (h : (observedTexts ruleTitle computer host).postInit = .ok ()) : SplunkFinding where
  toFindingTexts := observedTexts ruleTitle computer host
  ruleId := uuidText 0
  sigmaLevel := .high
  eventCode := 4688
  recordId := 7
  valid := h
  ruleId_uuid := ⟨0, rfl⟩
  eventCode_bounds := by decide
  recordId_bounds := by decide

theorem observed_valid : (observedTexts "Discovery" (some "WS-01.") none).postInit = .ok () := by
  decide +kernel

theorem respelled_valid : (observedTexts "Discovery" none (some "ws-01")).postInit = .ok () := by
  decide +kernel

theorem retitled_valid : (observedTexts "Execution" none (some "ws-01")).postInit = .ok () := by
  decide +kernel

/-- A rule finds a process, finds it again under another spelling of its host, and once more under
another title of its own. -/
def first : SplunkFinding := observed "Discovery" (some "WS-01.") none observed_valid

def respelled : SplunkFinding := observed "Discovery" none (some "ws-01") respelled_valid

def retitled : SplunkFinding := observed "Execution" none (some "ws-01") retitled_valid

def normalized (ruleTitle : String) : NormalizedSplunkFinding :=
  ⟨uuidText 0, ruleTitle, .high, .ofInstant 1786970096000000, "ws-01", "Security", 4688, 7, none,
    none, none, none, none, none⟩

theorem normalize_first : normalizeSplunkFinding first = .ok (normalized "Discovery") := by
  decide +kernel

theorem normalize_respelled : normalizeSplunkFinding respelled = .ok (normalized "Discovery") := by
  decide +kernel

theorem normalize_retitled : normalizeSplunkFinding retitled = .ok (normalized "Execution") := by
  decide +kernel

def gateway : Sha256 := fun _ => Vector.replicate 32 0

def reportedKey : String :=
  "splunk-v1-0000000000000000000000000000000000000000000000000000000000000000"

/-- What the gateway makes of a finding of the rule. -/
def reported (detection : DetectionIdentity) : CanonicalizedSplunkFinding where
  alert :=
    { detection := detection
      detectedAt := .ofInstant 1786970096000000
      source := ⟨"splunk", some reportedKey, by decide +kernel⟩
      entities := [⟨"host", "ws-01", by decide +kernel⟩]
      severity := .high
      evidence := [⟨"alert2ir.splunk.sigma-level.v1:high->high", some "normalization-policy",
        by decide +kernel⟩, ⟨"windows-event://ws-01/Security/7?event_code=4688",
          some "source-event", by decide +kernel⟩]
      valid := rfl }
  idempotencyKey := reportedKey

def discovery : DetectionIdentity := ⟨uuidText 0, some "Discovery", by decide +kernel⟩

def execution : DetectionIdentity := ⟨uuidText 0, some "Execution", by decide +kernel⟩

theorem canonicalize_first : canonicalize gateway first = .ok (reported discovery) := by
  decide +kernel

theorem canonicalize_respelled : canonicalize gateway respelled = .ok (reported discovery) := by
  rw [canonicalize, normalize_respelled, ← normalize_first]
  exact canonicalize_first

theorem canonicalize_retitled : canonicalize gateway retitled = .ok (reported execution) := by
  decide +kernel

/-- A hash that tells two titles of the rule apart, which start at that byte of the document. -/
def core (bytes : List UInt8) : List UInt8 := List.replicate 32 (bytes.getD 118 0)

theorem fingerprint_discovery : fingerprintCanonicalAlert core (reported discovery).alert =
    .ok (fingerprintVersion, List.replicate 32 68) := by
  rw [fingerprintCanonicalAlert, canonicalFingerprintBytes_of_inRange (by decide +kernel),
    Json.bytes_eq]
  decide +kernel

theorem fingerprint_execution : fingerprintCanonicalAlert core (reported execution).alert =
    .ok (fingerprintVersion, List.replicate 32 69) := by
  rw [fingerprintCanonicalAlert, canonicalFingerprintBytes_of_inRange (by decide +kernel),
    Json.bytes_eq]
  decide +kernel

abbrev reporting := (Postgres.repository dialect).system (fingerprintCanonicalAlert core)

def report (detection : DetectionIdentity) : Invocation :=
  .process orchestrator (reported detection).alert (reported detection).idempotencyKey

/-- The findings are delivered, and none of the deliveries has gone on from its acceptance. -/
def foundThrice : Configuration Db := reporting.replay [.spawn (report discovery),
  .spawn (report discovery), .spawn (report execution),
  .run 0 2 (Postgres.environment (fingerprintCanonicalAlert core) answers dialect 1),
  .run 1 2 (Postgres.environment (fingerprintCanonicalAlert core) answers dialect 2),
  .run 2 2 (Postgres.environment (fingerprintCanonicalAlert core) answers dialect 3)]


theorem foundThrice_reachable : reporting.Reachable foundThrice := System.reachable_replay _

/-- Each delivery is accepted, all of one processing. -/
theorem foundThrice_accepted :
    ([(0, discovery), (1, discovery), (2, execution)].all fun (t, detection) =>
      (foundThrice.threads[t]?).map Thread.invocation = some (report detection) &&
        (own t foundThrice.history).any (isAccepted 0)) = true := by
  decide +kernel

theorem exists_accepted_of_foundThrice {t : Nat} {detection : DetectionIdentity}
    (hmem : (t, detection) ∈ [(0, discovery), (1, discovery), (2, execution)]) :
    ∃ acceptance, Accepted foundThrice t (reported detection).alert
      (reported detection).idempotencyKey acceptance := by
  have hdelivery := (Bool.and_eq_true ..).mp (List.all_eq_true.mp foundThrice_accepted _ hmem)
  obtain ⟨acceptance, haccepted, -⟩ :=
    exists_accepted foundThrice_reachable (of_decide_eq_true hdelivery.1) hdelivery.2
  exact ⟨acceptance, haccepted⟩

/-- The first delivery has created the processing. -/
theorem foundThrice_created : foundThrice.history.any (fun event => event.thread = 0 &&
    (Postgres.view event.before.store 0).isNone &&
      (Postgres.view event.after.store 0).isSome) = true := by
  decide +kernel

theorem created_of_foundThrice {acceptance : ProcessingAcceptance}
    (haccepted : Accepted foundThrice 0 (reported discovery).alert
      (reported discovery).idempotencyKey acceptance) : acceptance.created = true := by
  obtain ⟨event, hmem, hcreated⟩ := List.any_eq_true.mp foundThrice_created
  simp only [Bool.and_eq_true, decide_eq_true_eq, Option.isNone_iff_eq_none] at hcreated
  obtain ⟨⟨hthread, hnone⟩, hsome⟩ := hcreated
  by_contra hnot
  have hpassive := (haccepted.declined (L := Postgres.lawfulRepository dialect)
    foundThrice_reachable fingerprint_discovery (.inr (.inr (by simpa using hnot)))).1
  have hsame : Postgres.view event.after.store = Postgres.view event.before.store :=
    hpassive.unchanged event hmem hthread
  rw [hsame, hnone] at hsome
  cases hsome

/-- The second finding is a replay of the first, and the third a conflict with it. -/
theorem findings_converge_respelled :
    (∃ acceptance, Accepted foundThrice 1 (reported discovery).alert reportedKey acceptance ∧
      Concludes (fingerprintCanonicalAlert core) (Postgres.repository dialect) foundThrice 1
        (.ok (.processed ⟨acceptance.record, true⟩))) ∧
      ∃ acceptance, Accepted foundThrice 2 (reported execution).alert reportedKey acceptance ∧
        Concludes (fingerprintCanonicalAlert core) (Postgres.repository dialect) foundThrice 2
          (.error (.idempotencyConflict acceptance.record.processingId)) := by
  obtain ⟨acceptance, haccepted⟩ := exists_accepted_of_foundThrice (.head _)
  have hcreated := created_of_foundThrice haccepted
  constructor
  · obtain ⟨acceptance', haccepted'⟩ := exists_accepted_of_foundThrice (.tail _ (.head _))
    obtain ⟨key, x, y, hx, hy, hconverge⟩ := findings_converge (Postgres.lawfulRepository dialect)
      gateway normalize_first normalize_respelled ⟨rfl, rfl, rfl, rfl, rfl, rfl⟩
    cases canonicalize_first.symm.trans hx
    cases canonicalize_respelled.symm.trans hy
    obtain ⟨-, -, hreplay, -⟩ := hconverge core foundThrice (fun _ => rfl) foundThrice_reachable
      0 1 acceptance acceptance' haccepted hcreated haccepted' (by decide)
    exact ⟨acceptance', haccepted', hreplay ⟨rfl, rfl, rfl, rfl, rfl, rfl⟩⟩
  · obtain ⟨acceptance', haccepted'⟩ :=
      exists_accepted_of_foundThrice (.tail _ (.tail _ (.head _)))
    obtain ⟨key, x, y, hx, hy, hconverge⟩ := findings_converge (Postgres.lawfulRepository dialect)
      gateway normalize_first normalize_retitled ⟨rfl, rfl, rfl, rfl, rfl, rfl⟩
    cases canonicalize_first.symm.trans hx
    cases canonicalize_retitled.symm.trans hy
    have hcollision : fingerprintCanonicalAlert core (reported discovery).alert ≠
        fingerprintCanonicalAlert core (reported execution).alert := by
      rw [fingerprint_discovery, fingerprint_execution]
      decide
    obtain ⟨-, -, -, hconflict⟩ := hconverge core foundThrice (absurd · hcollision)
      foundThrice_reachable 0 2 acceptance acceptance' haccepted hcreated haccepted' (by decide)
    refine ⟨acceptance', haccepted', hconflict fun hreport => ?_⟩
    exact absurd hreport.ruleTitle (by decide)

end Scenario

end Alert2IR
