import Alert2IR.Core.Errors

/-!
# Canonical, vendor-neutral alert domain models

A frozen dataclass is a structure that carries the outcome of its own `__post_init__`, so that a
value the source cannot construct cannot be built here either. Python's `==` on values that hold a
`detected_at` sees only its instant: two such values are equal there when their `utc` forms are.
-/

namespace Alert2IR

inductive Severity
  | low
  | medium
  | high
  | critical
deriving DecidableEq, Repr

def Severity.value : Severity → String
  | .low => "low"
  | .medium => "medium"
  | .high => "high"
  | .critical => "critical"

def Severity.ofValue (value : String) : Except PyError Severity :=
  if value = "low" then .ok .low
  else if value = "medium" then .ok .medium
  else if value = "high" then .ok .high
  else if value = "critical" then .ok .critical
  else .error (.valueError "not a valid Severity")

@[simp]
theorem Severity.ofValue_value (s : Severity) : Severity.ofValue s.value = .ok s := by
  cases s <;> rfl

namespace DetectionIdentity

def postInit (identifier : String) (name : Option String) : Except PyError Unit :=
  checks [(!isBlank identifier, "identifier must be non-empty"),
    (ifPresent name (!isBlank ·), "name must be non-empty")]

end DetectionIdentity

structure DetectionIdentity where
  identifier : String
  name : Option String
  valid : DetectionIdentity.postInit identifier name = .ok ()
deriving DecidableEq

def DetectionIdentity.make (identifier : String) (name : Option String) :
    Except PyError DetectionIdentity :=
  match h : postInit identifier name with
  | .ok () => .ok ⟨identifier, name, h⟩
  | .error e => .error e

@[simp]
theorem DetectionIdentity.make_self (d : DetectionIdentity) :
    make d.identifier d.name = .ok d := by
  unfold make
  split
  · rfl
  · next h => simp [d.valid] at h

namespace SourceProvenance

def postInit (source : String) (sourceAlertId : Option String) : Except PyError Unit :=
  checks [(!isBlank source, "source must be non-empty"),
    (ifPresent sourceAlertId (!isBlank ·), "source_alert_id must be non-empty")]

end SourceProvenance

structure SourceProvenance where
  source : String
  sourceAlertId : Option String
  valid : SourceProvenance.postInit source sourceAlertId = .ok ()
deriving DecidableEq

def SourceProvenance.make (source : String) (sourceAlertId : Option String) :
    Except PyError SourceProvenance :=
  match h : postInit source sourceAlertId with
  | .ok () => .ok ⟨source, sourceAlertId, h⟩
  | .error e => .error e

@[simp]
theorem SourceProvenance.make_self (s : SourceProvenance) :
    make s.source s.sourceAlertId = .ok s := by
  unfold make
  split
  · rfl
  · next h => simp [s.valid] at h

namespace Entity

def postInit (kind value : String) : Except PyError Unit :=
  checks [(!isBlank kind, "kind must be non-empty"), (!isBlank value, "value must be non-empty")]

end Entity

structure Entity where
  kind : String
  value : String
  valid : Entity.postInit kind value = .ok ()
deriving DecidableEq

def Entity.make (kind value : String) : Except PyError Entity :=
  match h : postInit kind value with
  | .ok () => .ok ⟨kind, value, h⟩
  | .error e => .error e

@[simp]
theorem Entity.make_self (e : Entity) : make e.kind e.value = .ok e := by
  unfold make
  split
  · rfl
  · next h => simp [e.valid] at h

namespace EvidenceReference

def postInit (reference : String) (kind : Option String) : Except PyError Unit :=
  checks [(!isBlank reference, "reference must be non-empty"),
    (ifPresent kind (!isBlank ·), "kind must be non-empty")]

end EvidenceReference

structure EvidenceReference where
  reference : String
  kind : Option String
  valid : EvidenceReference.postInit reference kind = .ok ()
deriving DecidableEq

def EvidenceReference.make (reference : String) (kind : Option String) :
    Except PyError EvidenceReference :=
  match h : postInit reference kind with
  | .ok () => .ok ⟨reference, kind, h⟩
  | .error e => .error e

@[simp]
theorem EvidenceReference.make_self (e : EvidenceReference) :
    make e.reference e.kind = .ok e := by
  unfold make
  split
  · rfl
  · next h => simp [e.valid] at h

namespace CanonicalAlert

def postInit (detectedAt : Datetime) : Except PyError Unit :=
  checks [(detectedAt.isAware, "detected_at must be timezone-aware")]

end CanonicalAlert

structure CanonicalAlert where
  detection : DetectionIdentity
  detectedAt : Datetime
  source : SourceProvenance
  entities : List Entity
  severity : Severity
  evidence : List EvidenceReference
  valid : CanonicalAlert.postInit detectedAt = .ok ()
deriving DecidableEq

namespace CanonicalAlert

def make (detection : DetectionIdentity) (detectedAt : Datetime) (source : SourceProvenance)
    (entities : List Entity) (severity : Severity) (evidence : List EvidenceReference) :
    Except PyError CanonicalAlert :=
  match h : postInit detectedAt with
  | .ok () => .ok ⟨detection, detectedAt, source, entities, severity, evidence, h⟩
  | .error e => .error e

@[simp]
theorem make_self (a : CanonicalAlert) :
    make a.detection a.detectedAt a.source a.entities a.severity a.evidence = .ok a := by
  unfold make
  split
  · rfl
  · next h => simp [a.valid] at h

/-- The alert with its detection time written in UTC. -/
def utc (a : CanonicalAlert) : CanonicalAlert :=
  { a with detectedAt := a.detectedAt.utc, valid := rfl }

@[simp]
theorem utc_utc (a : CanonicalAlert) : a.utc.utc = a.utc := by
  simp [utc]

@[simp]
theorem utc_source (a : CanonicalAlert) : a.utc.source = a.source := rfl

end CanonicalAlert

end Alert2IR
