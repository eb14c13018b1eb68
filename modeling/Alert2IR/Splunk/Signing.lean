import Alert2IR.Splunk.Auth

/-!
# How the custom alert action signs

The sender has its own copy of everything the gateway authenticates by.
-/

namespace Alert2IR

namespace Sender

def signingContext : List UInt8 := asciiBytes "alert2ir-splunk-v1\n".toList

def signatureVersion : List Char := ['v', '1']

def minimumSecretBytes : Nat := 32

def maximumSecretBytes : Nat := 4096

def actionConfigurationError : PyError := .other "ActionConfigurationError"

/-- `_validate_secret`. -/
def validateSecret (secret : List UInt8) : Except PyError (List UInt8) :=
  if minimumSecretBytes ≤ secret.length ∧ secret.length ≤ maximumSecretBytes then .ok secret
  else .error actionConfigurationError

/-- `load_secret`, of a readable regular file. -/
def loadSecret (content : List UInt8) : Except PyError (List UInt8) :=
  if content.length > maximumSecretBytes + 2 then .error actionConfigurationError
  else validateSecret (withoutLineEnd (content.take (maximumSecretBytes + 3)))

/-- `signature_header`. -/
def signatureHeader (hmac : Hmac) (secret : List UInt8) (timestamp : List Char)
    (body : List UInt8) : Except PyError (List Char) := do
  let _ ← validateSecret secret
  if !timestampPattern timestamp then
    throw actionConfigurationError
  let signingInput := signingContext ++ asciiBytes timestamp ++ 10 :: body
  return signatureVersion ++ '=' :: hexdigest (hmac secret signingInput).toList

/-- What a clock may return. A finite float is the rational number it stands for. -/
inductive ClockValue
  | finite (value : ℚ)
  | notFinite
  | notANumber

/-- `_timestamp_from_clock`. -/
def timestampFromClock (value : ClockValue) : Except PyError (List Char) :=
  match value with
  | .finite value =>
    if value < 0 then .error actionConfigurationError
    else
      let timestamp := Nat.toDigits 10 (truncate value).toNat
      if timestampPattern timestamp then .ok timestamp else .error actionConfigurationError
  | _ => .error actionConfigurationError

example : timestampFromClock (.finite (17869700967 / 10)) = .ok "1786970096".toList := by
  decide +kernel

/-- The whole seconds a clock shows. -/
def ClockValue.wholeSeconds : ClockValue → ℤ
  | .finite value => truncate value
  | _ => 0

end Sender

end Alert2IR
