import Alert2IR.Core.Uuid
import Alert2IR.Core.Models
import Alert2IR.Splunk.Timestamps

/-!
# Bounded, versioned input values for the Splunk source boundary

What a finding is before it is validated, and what it is after. Fields that are compared with
nothing but their own bounds are text in both.
-/

namespace Alert2IR

namespace Splunk

def splunkFindingSchema : String := "alert2ir.splunk-finding.v1"

def ruleTitleMaxLength : Nat := 256

def hostnameMaxLength : Nat := 255

def channelMaxLength : Nat := 128

def sourceMaxLength : Nat := 512

def sourcetypeMaxLength : Nat := 128

def processGuidMaxLength : Nat := 128

def imageMaxLength : Nat := 1024

def parentImageMaxLength : Nat := 1024

def targetFilenameMaxLength : Nat := 1024

def timestampStringMaxLength : Nat := 64

def evidenceReferenceMaxLength : Nat := 1024

def eventCodeMaximum : Int := 65535

def recordIdMaximum : Int := 2 ^ 63 - 1

inductive SigmaLevel
  | informational
  | low
  | medium
  | high
  | critical
deriving DecidableEq, Repr

def SigmaLevel.value : SigmaLevel → String
  | .informational => "informational"
  | .low => "low"
  | .medium => "medium"
  | .high => "high"
  | .critical => "critical"

def SigmaLevel.all : List SigmaLevel := [.informational, .low, .medium, .high, .critical]

/-- `SigmaLevel(value)`. -/
def SigmaLevel.ofValue (value : String) : Except PyError SigmaLevel :=
  match all.find? fun level => level.value = value with
  | some level => .ok level
  | none => .error (.valueError "sigma_level")

/-- A value of `EventCode` or `RecordID`. -/
inductive IntegerInput
  | int (value : Int)
  | text (value : String)
  | other

/-- The number that a value stands for. `int` reads no more than 4300 digits. -/
def IntegerInput.number : IntegerInput → Option Int
  | .int value => some value
  | .text value =>
    if value ≠ "" ∧ value.toList.all Char.isDigit ∧ value.length ≤ 4300 then
      some (Nat.ofDigitChars 10 value.toList 0)
    else none
  | .other => none

/-- `_parse_positive_integer`. -/
def parsePositiveInteger (value : IntegerInput) (fieldName : String) (maximum : Int) :
    Except PyError Int :=
  match value.number with
  | none => .error (.valueError (fieldName ++ " must be a decimal integer"))
  | some parsed =>
    if parsed < 1 ∨ parsed > maximum then
      .error (.valueError (fieldName ++ " is outside the supported range"))
    else .ok parsed

/-- The fields of a finding that validation leaves as they are. -/
structure FindingTexts where
  ruleTitle : String
  detectedAt : TimestampInput
  computer : Option String
  host : Option String
  channel : String
  source : Option String
  sourcetype : Option String
  processGuid : Option String
  image : Option String
  parentImage : Option String
  targetFilename : Option String

/-- The fields of a finding as they are decoded. -/
structure FindingInput extends FindingTexts where
  schema : String
  ruleId : String
  sigmaLevel : String
  eventCode : IntegerInput
  recordId : IntegerInput

/-- A text of a bounded length that is not blank. -/
def boundedText (maximum : Nat) (value : String) : Bool :=
  1 ≤ value.length && value.length ≤ maximum && !isBlank value

/-- `value == value.strip() and value.isascii() and value.isprintable()`. What is printable among
ASCII characters is fixed. -/
def isChannel (value : String) : Bool :=
  value = strip value && value.toList.all fun c => 0x20 ≤ c.toNat && c.toNat < 0x7F

def isTimestamp : TimestampInput → Bool
  | .text value => value.length ≤ timestampStringMaxLength
  | _ => true

/-- The checks of the texts of a `SplunkFinding`. A `ValidationError` is a `ValueError`. -/
def FindingTexts.postInit (texts : FindingTexts) : Except PyError Unit :=
  checks [
    (boundedText ruleTitleMaxLength texts.ruleTitle, "rule_title"),
    (isTimestamp texts.detectedAt, "_time exceeds the supported length"),
    (ifPresent texts.computer (boundedText hostnameMaxLength), "Computer"),
    (ifPresent texts.host (boundedText hostnameMaxLength), "host"),
    (boundedText channelMaxLength texts.channel, "channel"),
    (isChannel texts.channel, "channel must be an unpadded printable ASCII value"),
    (ifPresent texts.source (boundedText sourceMaxLength), "source"),
    (ifPresent texts.sourcetype (boundedText sourcetypeMaxLength), "sourcetype"),
    (ifPresent texts.processGuid (boundedText processGuidMaxLength), "ProcessGuid"),
    (ifPresent texts.image (boundedText imageMaxLength), "Image"),
    (ifPresent texts.parentImage (boundedText parentImageMaxLength), "ParentImage"),
    (ifPresent texts.targetFilename (boundedText targetFilenameMaxLength), "TargetFilename"),
    (texts.computer.isSome || texts.host.isSome, "Computer or host is required")]

/-- What the checks come to. -/
structure FindingTexts.Valid (texts : FindingTexts) : Prop where
  ruleTitle : boundedText ruleTitleMaxLength texts.ruleTitle = true
  detectedAt : isTimestamp texts.detectedAt = true
  computer : ifPresent texts.computer (boundedText hostnameMaxLength) = true
  host : ifPresent texts.host (boundedText hostnameMaxLength) = true
  channel : boundedText channelMaxLength texts.channel = true
  isChannel : isChannel texts.channel = true
  source : ifPresent texts.source (boundedText sourceMaxLength) = true
  sourcetype : ifPresent texts.sourcetype (boundedText sourcetypeMaxLength) = true
  processGuid : ifPresent texts.processGuid (boundedText processGuidMaxLength) = true
  image : ifPresent texts.image (boundedText imageMaxLength) = true
  parentImage : ifPresent texts.parentImage (boundedText parentImageMaxLength) = true
  targetFilename : ifPresent texts.targetFilename (boundedText targetFilenameMaxLength) = true
  hostnamePresent : (texts.computer.isSome || texts.host.isSome) = true

theorem FindingTexts.postInit_eq_ok_iff {texts : FindingTexts} :
    texts.postInit = .ok () ↔ texts.Valid := by
  rw [postInit, checks_eq_ok_iff]
  simp only [List.forall_mem_cons, List.not_mem_nil, false_implies, implies_true, and_true]
  constructor
  · rintro ⟨h₁, h₂, h₃, h₄, h₅, h₆, h₇, h₈, h₉, h₁₀, h₁₁, h₁₂, h₁₃⟩
    exact ⟨h₁, h₂, h₃, h₄, h₅, h₆, h₇, h₈, h₉, h₁₀, h₁₁, h₁₂, h₁₃⟩
  · rintro ⟨h₁, h₂, h₃, h₄, h₅, h₆, h₇, h₈, h₉, h₁₀, h₁₁, h₁₂, h₁₃⟩
    exact ⟨h₁, h₂, h₃, h₄, h₅, h₆, h₇, h₈, h₉, h₁₀, h₁₁, h₁₂, h₁₃⟩

/-- A `SplunkFinding`. The rule ID is the text `str` writes for a UUID. -/
structure SplunkFinding extends FindingTexts where
  ruleId : String
  sigmaLevel : SigmaLevel
  eventCode : Int
  recordId : Int
  valid : toFindingTexts.postInit = .ok ()
  ruleId_uuid : ∃ id, ruleId = uuidText id
  eventCode_bounds : 1 ≤ eventCode ∧ eventCode ≤ eventCodeMaximum
  recordId_bounds : 1 ≤ recordId ∧ recordId ≤ recordIdMaximum

theorem bounds_of_parse {value : IntegerInput} {fieldName : String} {maximum n : Int}
    (h : parsePositiveInteger value fieldName maximum = .ok n) :
    value.number = some n ∧ 1 ≤ n ∧ n ≤ maximum := by
  unfold parsePositiveInteger at h
  split at h
  · cases h
  · next parsed hnumber =>
    split at h
    · cases h
    · next hbounds =>
      cases h
      exact ⟨hnumber, by omega, by omega⟩

/-- `SplunkFinding.model_validate`. -/
def SplunkFinding.validate (unicode : Unicode) (input : FindingInput) :
    Except PyError SplunkFinding :=
  if input.schema ≠ splunkFindingSchema then .error (.valueError "schema")
  else match uuidOfText unicode input.ruleId with
    | none => .error (.valueError "rule_id must be a valid UUID")
    | some id =>
      match SigmaLevel.ofValue input.sigmaLevel with
      | .error e => .error e
      | .ok sigmaLevel =>
        match hevent : parsePositiveInteger input.eventCode "EventCode" eventCodeMaximum with
        | .error e => .error e
        | .ok eventCode =>
          match hrecord : parsePositiveInteger input.recordId "RecordID" recordIdMaximum with
          | .error e => .error e
          | .ok recordId =>
            match htexts : input.toFindingTexts.postInit with
            | .error e => .error e
            | .ok () => .ok {
                toFindingTexts := input.toFindingTexts
                ruleId := uuidText id
                sigmaLevel
                eventCode
                recordId
                valid := htexts
                ruleId_uuid := ⟨id, rfl⟩
                eventCode_bounds := (bounds_of_parse hevent).2
                recordId_bounds := (bounds_of_parse hrecord).2 }

/-- What a finding that has been validated is made of. -/
theorem SplunkFinding.of_validate {unicode : Unicode} {input : FindingInput}
    {finding : SplunkFinding} (h : validate unicode input = .ok finding) :
    finding.toFindingTexts = input.toFindingTexts ∧
      (∃ id, uuidOfText unicode input.ruleId = some id ∧ finding.ruleId = uuidText id) ∧
      SigmaLevel.ofValue input.sigmaLevel = .ok finding.sigmaLevel ∧
      input.eventCode.number = some finding.eventCode ∧
      input.recordId.number = some finding.recordId := by
  unfold validate at h
  split at h
  · cases h
  split at h
  · cases h
  next id hid =>
  split at h
  · cases h
  next sigmaLevel hlevel =>
  split at h
  · cases h
  next eventCode hevent =>
  split at h
  · cases h
  next recordId hrecord =>
  split at h
  · cases h
  next htexts =>
  cases h
  exact ⟨rfl, ⟨id, hid, rfl⟩, hlevel, (bounds_of_parse hevent).1, (bounds_of_parse hrecord).1⟩

/-- All source values after normalization. -/
structure NormalizedSplunkFinding where
  ruleId : String
  ruleTitle : String
  sigmaLevel : SigmaLevel
  detectedAt : Datetime
  computer : String
  channel : String
  eventCode : Int
  recordId : Int
  source : Option String
  sourcetype : Option String
  processGuid : Option String
  image : Option String
  parentImage : Option String
  targetFilename : Option String
deriving DecidableEq

structure CanonicalizedSplunkFinding where
  alert : CanonicalAlert
  idempotencyKey : String
deriving DecidableEq

end Splunk

end Alert2IR
