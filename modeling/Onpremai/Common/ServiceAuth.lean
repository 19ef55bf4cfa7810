import Onpremai.Library.Json

/-!
# Service-to-service authentication

The keys of the services are stored as digests.  An endpoint behind the check accepts a call
whose key has the digest that is stored for its service; where no keys are configured it looks
at the format only.
-/

namespace Onpremai.Common

open Onpremai.Library

/-- The headers of a request, with the names in lower case as the server passes them on. -/
abbrev Headers := List (String × String)

/-- `headers.get(name)`: the first header of the name, whatever its case. -/
def Headers.get? (headers : Headers) (name : String) : Option String :=
  Dict.findEntry (Text.lower name) headers

/-- Authenticated service caller identity. -/
structure ServiceIdentity where
  serviceId : String
  tenantId : Option String := none
  traceId : Option String := none
  deriving DecidableEq, Repr

/-- A status with a detail, for a request that is not served. -/
structure HTTPException where
  statusCode : Nat
  detail : String
  deriving DecidableEq, Repr

/-- Validates service API keys: the digest of each service's key. -/
structure ServiceAuthenticator where
  validKeys : Dict String String

def isAscii (text : String) : Bool := text.toList.all fun char => decide (char.toNat < 128)

/-- `hmac.compare_digest` of two texts; it compares ASCII texts only. -/
def compareDigest (provided stored : String) : Except String Bool :=
  if isAscii provided && isAscii stored then .ok (decide (provided = stored))
  else .error "comparing strings with non-ASCII characters is not supported"

/-- Validate an API key for the given service.  `sha256` is the hexadecimal digest of a text. -/
def ServiceAuthenticator.validate (authenticator : ServiceAuthenticator)
    (sha256 : String → String) (serviceId apiKey : String) : Except String Bool :=
  match authenticator.validKeys.get? serviceId with
  | none => .ok false
  | some storedHash => compareDigest (sha256 apiKey) storedHash

def isBlank (text : String) : Bool := decide (text = "") || decide (Text.strip text = "")

/-- `value.strip() if value else None`. -/
def stripped? (text : Option String) : Option String :=
  text.bind fun text => if text = "" then none else some (Text.strip text)

def verifyService (authenticator : Option ServiceAuthenticator) (sha256 : String → String)
    (headers : Headers) : Except HTTPException ServiceIdentity :=
  match headers.get? "X-Service-Id", headers.get? "X-Service-Key" with
  | some serviceId, some serviceKey =>
    let identity : ServiceIdentity :=
      { serviceId := Text.strip serviceId
        tenantId := stripped? (headers.get? "X-Tenant-Id")
        traceId := stripped? (headers.get? "X-Trace-Id") }
    if isBlank serviceId then .error ⟨400, "X-Service-Id header must be non-empty"⟩
    else if isBlank serviceKey then .error ⟨400, "X-Service-Key header must be non-empty"⟩
    else
      match authenticator with
      | none => .ok identity
      | some authenticator =>
        match authenticator.validate sha256 serviceId serviceKey with
        | .ok true => .ok identity
        | .ok false => .error ⟨401, "Invalid service credentials"⟩
        | .error _ => .error ⟨500, "Internal Server Error"⟩
  | _, _ => .error ⟨422, "Unprocessable Entity"⟩

def ValidCredentials (authenticator : Option ServiceAuthenticator) (sha256 : String → String)
    (headers : Headers) : Prop :=
  ∃ known serviceId serviceKey, authenticator = some known ∧
    headers.get? "X-Service-Id" = some serviceId ∧
    headers.get? "X-Service-Key" = some serviceKey ∧
    known.validate sha256 serviceId serviceKey = .ok true

end Onpremai.Common
