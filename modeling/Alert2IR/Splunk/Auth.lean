import Alert2IR.Core.Digest
import Alert2IR.Core.Errors
import Alert2IR.Numeric.Rounding

/-!
# Lab-scoped HMAC authentication for the source gateway

The digest is a parameter. A body and a secret are bytes, a header is text.
-/

namespace Alert2IR

/-- HMAC-SHA256 of a message under a key. -/
abbrev Hmac := (key message : List UInt8) → Vector UInt8 32

/-- The bytes of ASCII text. -/
def asciiBytes (text : List Char) : List UInt8 := text.map fun c => UInt8.ofNat c.toNat

/-- The bytes without one line end. -/
def withoutLineEnd (bytes : List UInt8) : List UInt8 :=
  if [13, 10].isSuffixOf bytes then bytes.dropLast.dropLast
  else if [10].isSuffixOf bytes then bytes.dropLast
  else bytes

/-- `(?:0|[1-9][0-9]{0,11})\Z`, which gateway and sender share. -/
def timestampPattern : List Char → Bool
  | ['0'] => true
  | first :: rest => '1' ≤ first && first ≤ '9' && rest.length ≤ 11 && rest.all Char.isDigit
  | [] => false

/-- `int(value)` of a finite number. -/
def truncate (value : ℚ) : ℤ := value.num.tdiv value.den

/-- `now.timestamp()`, the binary64 number nearest to the time in seconds. -/
def Datetime.timestamp (now : Datetime) : ℚ := Numeric.toPrecision 2 53 (now.instant / 1000000)

namespace Splunk

def signingContext : List UInt8 := asciiBytes "alert2ir-splunk-v1\n".toList

def minimumSharedSecretBytes : Nat := 32

def maximumSecretFileBytes : Nat := 4096

def authenticationError : PyError := .other "AuthenticationError"

/-- `validate_shared_secret`. -/
def validateSharedSecret (sharedSecret : List UInt8) : Except PyError (List UInt8) :=
  if sharedSecret.length < minimumSharedSecretBytes then
    .error (.valueError "shared secret must be at least 32 bytes")
  else .ok sharedSecret

/-- `_load_shared_secret`, of a readable regular file under an absolute path. -/
def loadSharedSecret (content : List UInt8) : Except PyError (List UInt8) :=
  if content.length > maximumSecretFileBytes + 2 then
    .error (.other "RuntimeConfigurationError")
  else
    let secret := withoutLineEnd (content.take (maximumSecretFileBytes + 2))
    if secret.length > maximumSecretFileBytes then .error (.other "RuntimeConfigurationError")
    else match validateSharedSecret secret with
      | .ok secret => .ok secret
      | .error _ => .error (.other "RuntimeConfigurationError")

/-- `_parse_timestamp`. -/
def parseTimestamp (value : Option (List Char)) : Except PyError Nat :=
  match value with
  | some text =>
    if timestampPattern text then .ok (Nat.ofDigitChars 10 text 0) else .error authenticationError
  | none => .error authenticationError

example : parseTimestamp (some "1786970096".toList) = .ok 1786970096 := by decide +kernel

/-- `signing_input`. -/
def signingInput (timestamp : List Char) (rawBody : List UInt8) : Except PyError (List UInt8) := do
  let _ ← parseTimestamp (some timestamp)
  return signingContext ++ asciiBytes timestamp ++ 10 :: rawBody

/-- `compute_signature`. -/
def computeSignature (hmac : Hmac) (sharedSecret : List UInt8) (timestamp : List Char)
    (rawBody : List UInt8) : Except PyError (List Char) := do
  let _ ← validateSharedSecret sharedSecret
  let signed ← signingInput timestamp rawBody
  return hexdigest (hmac sharedSecret signed).toList

/-- `v1=([0-9a-f]{64})\Z`: the digits of the digest. -/
def signatureMatch : List Char → Option (List Char)
  | 'v' :: '1' :: '=' :: digits =>
    if digits.length = 64 ∧ digits.all isHexDigit then some digits else none
  | _ => none

/-- `verify_signature`. -/
def verifySignature (hmac : Hmac) (sharedSecret : List UInt8)
    (timestampHeader signatureHeader : Option (List Char)) (rawBody : List UInt8) (now : Datetime)
    (allowedSkewSeconds : Int) : Except PyError Unit := do
  if allowedSkewSeconds < 0 then
    throw (.valueError "allowed skew must be a non-negative integer")
  if !now.isAware then
    throw (.valueError "authentication clock must be timezone-aware")
  let timestamp ← parseTimestamp timestampHeader
  match timestampHeader, signatureHeader with
  | some header, some signature =>
    match signatureMatch signature with
    | none => throw authenticationError
    | some digits =>
      if |truncate now.timestamp - timestamp| > allowedSkewSeconds then
        throw authenticationError
      let expected ← computeSignature hmac sharedSecret header rawBody
      if expected ≠ digits then
        throw authenticationError
  | _, _ => throw authenticationError

end Splunk

end Alert2IR
