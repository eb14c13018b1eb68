import Alert2IR.Splunk.Models

/-!
# Findings as they are decoded

Which of what `json.loads` returns makes up the fields of a finding. The envelope and the detection
have no other keys than their own, an event may have any.
-/

namespace Alert2IR

namespace Splunk

/-- A decoded document. The keys of an object are distinct. A float is known by the decimal number
its `repr` writes, if it is finite. A text with a lone surrogate is `malformed`, which no field
takes; as a key it is no field's. -/
inductive Document
  | null
  | bool (value : Bool)
  | int (value : Int)
  | float (repr : Option ℚ)
  | str (value : String)
  | malformed
  | arr (items : List Document)
  | obj (members : List (String × Document))

namespace Document

/-- A `StrictStr`. -/
def text : Document → Option String
  | .str value => some value
  | _ => none

/-- A `StrictStr | None` with default `None`. -/
def optionalText : Option Document → Option (Option String)
  | none => some none
  | some .null => some none
  | some value => value.text.map some

/-- What `validate_detected_at_shape` lets pass, apart from its length. -/
def timestamp : Document → Option TimestampInput
  | .str value => some (.text value)
  | .int value => some (.int value)
  | .float repr => some (.float repr)
  | _ => none

/-- What `_parse_positive_integer` is given. -/
def integer : Document → IntegerInput
  | .int value => .int value
  | .str value => .text value
  | _ => .other

/-- The members of an object. -/
def members : Document → Option (List (String × Document))
  | .obj members => some members
  | _ => none

/-- The members of an object that has no keys but these, which is `extra="forbid"`. -/
def onlyMembers (keys : List String) (document : Document) : Option (List (String × Document)) :=
  document.members.filter fun members => members.all fun member => member.1 ∈ keys

end Document

/-- The member for a field that goes by an alias or, with `populate_by_name`, by its name. -/
def populated (members : List (String × Document)) (byAlias byName : String) : Option Document :=
  (members.lookup byAlias).or (members.lookup byName)

/-- The fields of a `SplunkFinding` in a document. -/
def FindingInput.ofDocument (document : Document) : Option FindingInput := do
  let envelope ← document.onlyMembers ["schema", "detection", "event"]
  let schema ← (← envelope.lookup "schema").text
  let detection ← (← envelope.lookup "detection").onlyMembers
    ["rule_id", "rule_title", "sigma_level"]
  let ruleId ← (← detection.lookup "rule_id").text
  let ruleTitle ← (← detection.lookup "rule_title").text
  let sigmaLevel ← (← detection.lookup "sigma_level").text
  let event ← (← envelope.lookup "event").members
  let detectedAt ← (← populated event "_time" "detected_at").timestamp
  let computer ← Document.optionalText (populated event "Computer" "computer")
  let host ← Document.optionalText (event.lookup "host")
  let channel ← (← event.lookup "channel").text
  let source ← Document.optionalText (event.lookup "source")
  let sourcetype ← Document.optionalText (event.lookup "sourcetype")
  let eventCode := (← populated event "EventCode" "event_code").integer
  let recordId := (← populated event "RecordID" "record_id").integer
  let processGuid ← Document.optionalText (populated event "ProcessGuid" "process_guid")
  let image ← Document.optionalText (populated event "Image" "image")
  let parentImage ← Document.optionalText (populated event "ParentImage" "parent_image")
  let targetFilename ← Document.optionalText (populated event "TargetFilename" "target_filename")
  return {
    ruleTitle, detectedAt, computer, host, channel, source, sourcetype, processGuid, image
    parentImage, targetFilename, schema, ruleId, sigmaLevel, eventCode, recordId }

/-- `SplunkFinding.model_validate`. -/
def SplunkFinding.modelValidate (unicode : Unicode) (decoded : Document) :
    Except PyError SplunkFinding :=
  match FindingInput.ofDocument decoded with
  | some input => validate unicode input
  | none => .error (.valueError "SplunkFinding")

end Splunk

end Alert2IR
