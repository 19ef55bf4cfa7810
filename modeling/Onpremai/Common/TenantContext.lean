import Onpremai.Common.ServiceAuth

/-!
# User tokens

The payload of a token as it is read without a check, and the validator that checks the
signature and the claims before it names a user.
-/

namespace Onpremai.Common

open Onpremai.Library

/-- The six bits of a character; the URL-safe alphabet is translated to the standard one. -/
def sextet? (char : Char) : Option Nat :=
  if 'A' ≤ char ∧ char ≤ 'Z' then some (char.toNat - 65)
  else if 'a' ≤ char ∧ char ≤ 'z' then some (char.toNat - 71)
  else if '0' ≤ char ∧ char ≤ '9' then some (char.toNat + 4)
  else if char = '+' ∨ char = '-' then some 62
  else if char = '/' ∨ char = '_' then some 63
  else none

/-- `binascii.a2b_base64`, with the position in the quad, the bits left over from the last
character and the pads seen in the quad.  Characters outside the alphabet are skipped, and a
pad that completes a quad ends the data. -/
def a2bBase64 (quad left pads : Nat) : List Char → Option (List Nat)
  | [] => if quad = 0 then some [] else none
  | char :: rest =>
    if char = '=' then
      if quad < 2 then a2bBase64 quad left pads rest
      else if 4 ≤ quad + (pads + 1) then some []
      else a2bBase64 quad left (pads + 1) rest
    else
      match sextet? char with
      | none => a2bBase64 quad left pads rest
      | some value =>
        match quad with
        | 0 => a2bBase64 1 value 0 rest
        | 1 => (a2bBase64 2 (value % 16) 0 rest).map fun bytes =>
          (left * 4 + value / 16) :: bytes
        | 2 => (a2bBase64 3 (value % 4) 0 rest).map fun bytes =>
          (left * 16 + value / 4) :: bytes
        | _ => (a2bBase64 0 0 0 rest).map fun bytes => (left * 64 + value) :: bytes

/-- `base64.urlsafe_b64decode` of a text. -/
def urlsafeB64decode (text : List Char) : Option (List Nat) :=
  if text.all fun char => decide (char.toNat < 128) then a2bBase64 0 0 0 text else none

def addPadding (payload : List Char) : List Char :=
  let padding := 4 - payload.length % 4
  if padding ≠ 4 then payload ++ List.replicate padding '=' else payload

/-- The decoded payload segment of a token of three parts.  `loads` reads a JSON document. -/
def readPayload (loads : List Nat → Option Json) (token : String) : Option Json :=
  match token.toList.splitOn '.' with
  | [_, payload, _] => (urlsafeB64decode (addPadding payload)).bind loads
  | _ => none

/-- Authenticated user identity extracted from a validated JWT. -/
structure UserContext where
  userId : Json
  tenantId : Json
  role : Json
  email : Json
  groups : Json
  jwtToken : String

/-- A validator of the user pool's tokens: what the token library reads and checks, and the
published signing keys. -/
structure CognitoTokenValidator where
  /-- `jwt.get_unverified_header`; nothing for a malformed token. -/
  getUnverifiedHeader : String → Option (List (String × Json))
  /-- The signing key of a key ID, after a refresh if need be. -/
  getSigningKey : Json → Option Json
  /-- `jwt.decode` with the checks of signature, expiration, issuer and audience. -/
  decode : Json → String → Option (List (String × Json))

/-- `claims.get(key)`. -/
def claim (key : String) (claims : List (String × Json)) : Json :=
  (Json.field? key claims).getD .null

def CognitoTokenValidator.validate (validator : CognitoTokenValidator) (token : String) :
    Except String UserContext :=
  match validator.getUnverifiedHeader token with
  | none => .error "Malformed token header"
  | some header =>
    if Python.truthy (claim "kid" header) = false then
      .error "Token header missing 'kid' claim"
    else
      match validator.getSigningKey (claim "kid" header) with
      | none => .error "Signing key not found in JWKS"
      | some key =>
        match validator.decode key token with
        | none => .error "Token verification failed"
        | some payload =>
          if Python.truthy (claim "sub" payload) = false then
            .error "Token missing 'sub' claim"
          else if Python.truthy (claim "custom:tenant_id" payload) = false then
            .error "Token missing 'custom:tenant_id' claim"
          else
            .ok
              { userId := claim "sub" payload
                tenantId := claim "custom:tenant_id" payload
                role := (Json.field? "custom:role" payload).getD (.str "contributor")
                email := (Json.field? "email" payload).getD (.str "")
                groups := (Json.field? "cognito:groups" payload).getD (.arr [])
                jwtToken := token }

def CognitoTokenValidator.DecodesPayload (validator : CognitoTokenValidator)
    (loads : List Nat → Option Json) : Prop :=
  ∀ key token payload, validator.decode key token = some payload →
    readPayload loads token = some (.obj payload)

theorem readPayload_of_validate {validator : CognitoTokenValidator}
    {loads : List Nat → Option Json} (decodes : validator.DecodesPayload loads)
    {token : String} {user : UserContext} (valid : validator.validate token = .ok user) :
    ∃ payload, readPayload loads token = some (.obj payload) ∧
      user.tenantId = claim "custom:tenant_id" payload ∧
      Python.truthy (claim "custom:tenant_id" payload) = true := by
  rw [CognitoTokenValidator.validate] at valid
  split at valid
  · cases valid
  split_ifs at valid
  split at valid
  · cases valid
  split at valid
  · cases valid
  · next payload decoded =>
    split_ifs at valid with noSub noTenant
    cases valid
    exact ⟨payload, decodes _ token payload decoded, rfl, by simpa using noTenant⟩

end Onpremai.Common

/-!
## Tenant context

The middleware binds the tenant of a request before any endpoint sees it.  It reads a bearer token
without checking it, and takes the tenant header of every caller that sends some service
credentials.
-/

namespace Onpremai.Common

open Onpremai.Library

/-- A request, with what an auth middleware has put on its state. -/
structure Request where
  headers : Headers
  claims : Option Json := none

/-- The application: the configured services and the validator of user tokens, with the digest
and the JSON reader of the standard library. -/
structure Application where
  serviceAuthenticator : Option ServiceAuthenticator
  tokenValidator : CognitoTokenValidator
  sha256 : String → String
  loads : List Nat → Option Json

/-- Extracts tenant_id from JWT claims or the tenant header. -/
structure TenantContextMiddleware where
  headerName : String := "X-Tenant-Id"

/-- The tenant on the request state, and the one bound to the context. -/
structure TenantContext where
  tenantId : Json
  bound : Option Json

def Request.claimedTenant (request : Request) : Json :=
  match request.claims with
  | some (.obj claims) => claim "tenant_id" claims
  | _ => .null

/-- What follows `Bearer` in the authorization header. -/
def Request.bearerToken (request : Request) : Option String :=
  let header := (request.headers.get? "Authorization").getD ""
  if Text.startsWith "Bearer " header then some (String.ofList (header.toList.drop 7)) else none

/-- Best-effort JWT payload extraction without verification.  A payload that is not a dictionary
has no `get`, and the error of that is not caught. -/
def extractTenantFromJwt (loads : List Nat → Option Json) (token : String) : Except String Json :=
  match readPayload loads token with
  | none => .ok .null
  | some (.obj payload) =>
    .ok (if Python.truthy (claim "tenant_id" payload) then claim "tenant_id" payload
      else claim "custom:tenant_id" payload)
  | some _ => .error "object has no attribute 'get'"

def headerTenant (middleware : TenantContextMiddleware) (request : Request) : Json :=
  let serviceId := (request.headers.get? "X-Service-Id").getD ""
  let serviceKey := (request.headers.get? "X-Service-Key").getD ""
  if serviceId ≠ "" ∧ serviceKey ≠ "" then
    ((request.headers.get? middleware.headerName).map Json.str).getD .null
  else .null

/-- The tenant before the header is looked at. -/
def userTenant (app : Application) (request : Request) : Except String Json :=
  if Python.truthy request.claimedTenant then .ok request.claimedTenant
  else
    match request.bearerToken with
    | some token => extractTenantFromJwt app.loads token
    | none => .ok request.claimedTenant

def setTenant (tenantId : Json) : TenantContext :=
  if Python.truthy tenantId then ⟨tenantId, some tenantId⟩ else ⟨.str "", none⟩

def dispatch (middleware : TenantContextMiddleware) (app : Application) (request : Request) :
    Except String TenantContext :=
  (userTenant app request).map fun tenantId =>
    if Python.truthy tenantId then setTenant tenantId
    else setTenant (headerTenant middleware request)

def Binds (middleware : TenantContextMiddleware) (app : Application) (request : Request)
    (tenant : Json) : Prop :=
  ∃ context, dispatch middleware app request = .ok context ∧ context.bound = some tenant

def VerifiedTenant (app : Application) (request : Request) (tenant : Json) : Prop :=
  (Python.truthy tenant = true ∧ request.claimedTenant = tenant) ∨
    ∃ token user, request.bearerToken = some token ∧
      app.tokenValidator.validate token = .ok user ∧ user.tenantId = tenant

def ServiceTenant (middleware : TenantContextMiddleware) (app : Application) (request : Request)
    (tenant : Json) : Prop :=
  ValidCredentials app.serviceAuthenticator app.sha256 request.headers ∧
    (request.headers.get? middleware.headerName).map Json.str = some tenant

def TenantSanctioned (middleware : TenantContextMiddleware) (app : Application)
    (request : Request) : Prop :=
  ∀ tenant, Binds middleware app request tenant →
    ServiceTenant middleware app request tenant ∨ VerifiedTenant app request tenant

/-- The tenant that claims name, if they name one: `tenant_id` goes before `custom:tenant_id`. -/
def NamedTenant (payload : List (String × Json)) (tenant : Json) : Prop :=
  Python.truthy tenant = true ∧ (claim "tenant_id" payload = tenant ∨
      Python.truthy (claim "tenant_id" payload) = false ∧ claim "custom:tenant_id" payload = tenant)

def NoTokenTenant (app : Application) (request : Request) : Prop :=
  ∀ token, request.bearerToken = some token →
    ∀ payload, readPayload app.loads token = some payload →
      ∃ claims, payload = .obj claims ∧ ∀ tenant, ¬ NamedTenant claims tenant

/-- The request offers no unverified tenant. -/
structure Trustworthy (middleware : TenantContextMiddleware) (app : Application)
    (request : Request) : Prop where
  /-- A token that names a tenant is valid and names no other than its user's, unless the
  caller's credentials and header vouch for the tenant. -/
  token : ∀ token payload tenant, request.bearerToken = some token →
    readPayload app.loads token = some (.obj payload) → NamedTenant payload tenant →
    ServiceTenant middleware app request tenant ∨
      (∃ user, app.tokenValidator.validate token = .ok user) ∧
        claim "custom:tenant_id" payload = tenant
  /-- Where no token names a tenant, service credentials that come with a tenant are valid. -/
  credentials : NoTokenTenant app request → ∀ serviceId serviceKey tenant,
    request.headers.get? "X-Service-Id" = some serviceId → serviceId ≠ "" →
    request.headers.get? "X-Service-Key" = some serviceKey → serviceKey ≠ "" →
    request.headers.get? middleware.headerName = some tenant → tenant ≠ "" →
    ValidCredentials app.serviceAuthenticator app.sha256 request.headers

/-! ## What is bound -/

def TokenNames (app : Application) (request : Request) (tenant : Json) : Prop :=
  ∃ token payload, request.bearerToken = some token ∧
    readPayload app.loads token = some (.obj payload) ∧ NamedTenant payload tenant

def HeaderOffers (middleware : TenantContextMiddleware) (request : Request) (tenant : Json) :
    Prop :=
  ∃ serviceId serviceKey text,
    request.headers.get? "X-Service-Id" = some serviceId ∧ serviceId ≠ "" ∧
    request.headers.get? "X-Service-Key" = some serviceKey ∧ serviceKey ≠ "" ∧
    request.headers.get? middleware.headerName = some text ∧ text ≠ "" ∧ tenant = .str text

theorem truthy_null : Python.truthy .null = false := rfl

theorem truthy_str (text : String) : Python.truthy (.str text) = true ↔ text ≠ "" := by
  rw [Python.truthy, decide_eq_true_iff]

theorem namedTenant_iff {payload : List (String × Json)} {tenant : Json} :
    NamedTenant payload tenant ↔ Python.truthy tenant = true ∧
      (if Python.truthy (claim "tenant_id" payload) then claim "tenant_id" payload
        else claim "custom:tenant_id" payload) = tenant := by
  rw [NamedTenant]
  refine and_congr_right fun named => ?_
  split
  · next first => simp [first]
  · next first =>
    have falsy := Bool.eq_false_iff.mpr first
    refine ⟨fun either => ?_, fun same => .inr ⟨falsy, same⟩⟩
    cases either with
    | inl same => exact absurd (same ▸ named) first
    | inr second => exact second.2

theorem userTenant_eq_iff {app : Application} {request : Request}
    (unclaimed : Python.truthy request.claimedTenant = false) {tenant : Json}
    (named : Python.truthy tenant = true) :
    userTenant app request = .ok tenant ↔ TokenNames app request tenant := by
  rw [userTenant, unclaimed, TokenNames]
  simp only [Bool.false_eq_true, if_false]
  cases bearer : request.bearerToken with
  | none =>
    have other : request.claimedTenant ≠ tenant := by
      intro same
      rw [same, named] at unclaimed
      cases unclaimed
    simp [other]
  | some token =>
    simp only [Option.some.injEq, exists_and_left, exists_eq_left', extractTenantFromJwt]
    cases read : readPayload app.loads token with
    | none =>
      refine ⟨fun same => ?_, fun offered => ?_⟩
      · cases same
        cases named
      · obtain ⟨payload, absent, _⟩ := offered
        cases absent
    | some value =>
      cases value with
      | obj payload =>
        simp only [Option.some.injEq, Json.obj.injEq, exists_eq_left', namedTenant_iff,
          named, true_and, Except.ok.injEq]
      | _ => simp

theorem noTokenTenant_iff {app : Application} {request : Request}
    (unclaimed : Python.truthy request.claimedTenant = false) :
    NoTokenTenant app request ↔
      ∃ tenant, userTenant app request = .ok tenant ∧ Python.truthy tenant = false := by
  rw [userTenant, unclaimed, NoTokenTenant]
  simp only [Bool.false_eq_true, if_false]
  cases bearer : request.bearerToken with
  | none => simp [unclaimed]
  | some token =>
    simp only [Option.some.injEq, forall_eq', extractTenantFromJwt]
    cases readPayload app.loads token with
    | none => simp [truthy_null]
    | some value =>
      cases value with
      | obj payload =>
        simp only [Option.some.injEq, forall_eq', Json.obj.injEq, exists_eq_left',
          namedTenant_iff, Except.ok.injEq, not_and]
        refine ⟨fun unnamed => ?_, fun falsy tenant named same => ?_⟩
        · exact Bool.eq_false_iff.mpr fun named => unnamed _ named rfl
        · rw [same, named] at falsy
          cases falsy
      | _ => simp

section

variable {middleware : TenantContextMiddleware}

theorem headerTenant_eq_iff {request : Request}
    {tenant : Json} (named : Python.truthy tenant = true) :
    headerTenant middleware request = tenant ↔ HeaderOffers middleware request tenant := by
  have notNull : Json.null ≠ tenant := by
    intro same
    rw [← same] at named
    cases named
  rw [headerTenant, HeaderOffers]
  cases request.headers.get? "X-Service-Id" with
  | none => simp [notNull]
  | some serviceId =>
    cases request.headers.get? "X-Service-Key" with
    | none => simp [notNull]
    | some serviceKey =>
      cases request.headers.get? middleware.headerName with
      | none => simp [notNull]
      | some text =>
        simp only [Option.getD_some, Option.map_some, Option.some.injEq, exists_and_left,
          exists_eq_left']
        split
        · next carried =>
          refine ⟨fun same => ?_, fun offered => offered.2.2.2.symm⟩
          subst same
          exact ⟨carried.1, carried.2, (truthy_str text).mp named, rfl⟩
        · next missing =>
          refine ⟨fun same => absurd same notNull, fun offered => ?_⟩
          exact absurd ⟨offered.1, offered.2.1⟩ missing

theorem binds_iff {app : Application} {request : Request} {tenant : Json} :
    Binds middleware app request tenant ↔ Python.truthy tenant = true ∧
      ∃ user, userTenant app request = .ok user ∧ (user = tenant ∨
          Python.truthy user = false ∧ headerTenant middleware request = tenant) := by
  have bound_setTenant (value : Json) :
      (setTenant value).bound = some tenant ↔ Python.truthy tenant = true ∧ value = tenant := by
    rw [setTenant]
    split
    · next named =>
      simp only [Option.some.injEq]
      exact ⟨fun same => ⟨same ▸ named, same⟩, fun both => both.2⟩
    · next falsy =>
      simp only [reduceCtorEq, false_iff, not_and]
      intro named same
      exact falsy (same ▸ named)
  rw [Binds, dispatch]
  cases userTenant app request with
  | error message => simp [Except.map]
  | ok user =>
    simp only [Except.map, Except.ok.injEq, exists_eq_left']
    split
    · next named => simp [bound_setTenant, named]
    · next falsy =>
      have unnamed := Bool.eq_false_iff.mpr falsy
      rw [bound_setTenant]
      refine and_congr_right fun named => ?_
      have other : user ≠ tenant := fun same => falsy (same ▸ named)
      simp [other, unnamed]

theorem binds_of_unclaimed {app : Application}
    {request : Request} (unclaimed : Python.truthy request.claimedTenant = false) {tenant : Json} :
    Binds middleware app request tenant ↔ TokenNames app request tenant ∨
        NoTokenTenant app request ∧ HeaderOffers middleware request tenant := by
  rw [binds_iff]
  constructor
  · intro bound
    obtain ⟨named, user, read, same | ⟨falsy, offered⟩⟩ := bound
    · rw [same] at read
      exact .inl ((userTenant_eq_iff unclaimed named).mp read)
    · exact .inr ⟨(noTokenTenant_iff unclaimed).mpr ⟨user, read, falsy⟩,
        (headerTenant_eq_iff named).mp offered⟩
  · intro offered
    cases offered with
    | inl names =>
      obtain ⟨_, _, _, _, named, _⟩ := id names
      exact ⟨named, tenant, (userTenant_eq_iff unclaimed named).mpr names, .inl rfl⟩
    | inr header =>
      obtain ⟨noToken, offers⟩ := header
      obtain ⟨user, read, falsy⟩ := (noTokenTenant_iff unclaimed).mp noToken
      obtain ⟨_, _, text, _, _, _, _, _, nonempty, same⟩ := id offers
      have named : Python.truthy tenant = true := by
        rw [same]
        exact (truthy_str text).mpr nonempty
      exact ⟨named, user, read, .inr ⟨falsy, (headerTenant_eq_iff named).mpr offers⟩⟩

theorem eq_of_binds_of_claimed {app : Application}
    {request : Request} (claimed : Python.truthy request.claimedTenant = true) {tenant : Json}
    (bound : Binds middleware app request tenant) : request.claimedTenant = tenant := by
  obtain ⟨_, user, read, either⟩ := binds_iff.mp bound
  rw [userTenant, if_pos claimed] at read
  cases read
  cases either with
  | inl same => exact same
  | inr falsy =>
    rw [claimed] at falsy
    cases falsy.1

end

theorem verifiedTenant_iff {app : Application}
    (decodes : app.tokenValidator.DecodesPayload app.loads) {request : Request}
    (unclaimed : Python.truthy request.claimedTenant = false) {tenant : Json} :
    VerifiedTenant app request tenant ↔ ∃ token payload user, request.bearerToken = some token ∧
        readPayload app.loads token = some (.obj payload) ∧
        app.tokenValidator.validate token = .ok user ∧
        claim "custom:tenant_id" payload = tenant ∧ Python.truthy tenant = true := by
  constructor
  · intro verified
    cases verified with
    | inl claimed =>
      rw [claimed.2, claimed.1] at unclaimed
      cases unclaimed
    | inr accepted =>
      obtain ⟨token, user, bearer, valid, same⟩ := accepted
      obtain ⟨payload, read, own, named⟩ := readPayload_of_validate decodes valid
      rw [own] at same
      exact ⟨token, payload, user, bearer, read, valid, same, same ▸ named⟩
  · intro accepted
    obtain ⟨token, payload, user, bearer, read, valid, same, _⟩ := accepted
    obtain ⟨other, readOther, own, _⟩ := readPayload_of_validate decodes valid
    rw [read] at readOther
    cases readOther
    exact .inr ⟨token, user, bearer, valid, own.trans same⟩

section

variable {middleware : TenantContextMiddleware} {app : Application}

theorem tenantSanctioned_of_trustworthy (decodes : app.tokenValidator.DecodesPayload app.loads)
    {request : Request} (unclaimed : Python.truthy request.claimedTenant = false)
    (trustworthy : Trustworthy middleware app request) :
    TenantSanctioned middleware app request := by
  intro tenant bound
  cases (binds_of_unclaimed unclaimed).mp bound with
  | inl names =>
    obtain ⟨token, payload, bearer, read, named⟩ := names
    cases trustworthy.token token payload tenant bearer read named with
    | inl service => exact .inl service
    | inr verified =>
      obtain ⟨⟨user, valid⟩, own⟩ := verified
      exact .inr ((verifiedTenant_iff decodes unclaimed).mpr
        ⟨token, payload, user, bearer, read, valid, own, named.1⟩)
  | inr header =>
    obtain ⟨noToken, serviceId, serviceKey, text, hasId, idGiven, hasKey, keyGiven, hasTenant,
      tenantGiven, same⟩ := header
    have valid := trustworthy.credentials noToken serviceId serviceKey text hasId idGiven hasKey
      keyGiven hasTenant tenantGiven
    exact .inl ⟨valid, by rw [hasTenant, same, Option.map_some]⟩

theorem trustworthy_of_tenantSanctioned (decodes : app.tokenValidator.DecodesPayload app.loads)
    {request : Request} (unclaimed : Python.truthy request.claimedTenant = false)
    (sanctioned : TenantSanctioned middleware app request) :
    Trustworthy middleware app request where
  token := by
    intro token payload tenant bearer read named
    have bound : Binds middleware app request tenant :=
      (binds_of_unclaimed unclaimed).mpr (.inl ⟨token, payload, bearer, read, named⟩)
    cases sanctioned tenant bound with
    | inl service => exact .inl service
    | inr verified =>
      obtain ⟨other, claims, user, bearerOther, readOther, valid, own, _⟩ :=
        (verifiedTenant_iff decodes unclaimed).mp verified
      rw [bearer] at bearerOther
      cases bearerOther
      rw [read] at readOther
      cases readOther
      exact .inr ⟨⟨user, valid⟩, own⟩
  credentials := by
    intro noToken serviceId serviceKey text hasId idGiven hasKey keyGiven hasTenant tenantGiven
    have bound : Binds middleware app request (.str text) :=
      (binds_of_unclaimed unclaimed).mpr (.inr ⟨noToken, serviceId, serviceKey, text, hasId,
        idGiven, hasKey, keyGiven, hasTenant, tenantGiven, rfl⟩)
    cases sanctioned (.str text) bound with
    | inl service => exact service.1
    | inr verified =>
      obtain ⟨token, payload, user, bearer, read, valid, own, named⟩ :=
        (verifiedTenant_iff decodes unclaimed).mp verified
      obtain ⟨claims, same, unnamed⟩ := noToken token bearer (.obj payload) read
      cases same
      -- A payload with the user's tenant names this tenant, or another one before it.
      refine absurd (namedTenant_iff.mpr ⟨?_, rfl⟩) (unnamed _)
      split
      · next first => exact first
      · rw [own]
        exact named

theorem tenantSanctioned_of_claimed
    {request : Request} (claimed : Python.truthy request.claimedTenant = true) :
    TenantSanctioned middleware app request := by
  intro tenant bound
  exact .inr (.inl ⟨(binds_iff.mp bound).1, eq_of_binds_of_claimed claimed bound⟩)

end

/-- The tenant that the middleware binds is sanctioned exactly where an auth middleware has put
claims with a tenant on the request, or the request offers no unverified tenant. -/
theorem tenantSanctioned_iff (middleware : TenantContextMiddleware) (app : Application)
    (decodes : app.tokenValidator.DecodesPayload app.loads) (request : Request) :
    TenantSanctioned middleware app request ↔
      Python.truthy request.claimedTenant = true ∨ Trustworthy middleware app request := by
  cases claimed : Python.truthy request.claimedTenant with
  | true => exact ⟨fun _ => .inl rfl, fun _ => tenantSanctioned_of_claimed claimed⟩
  | false =>
    simp only [Bool.false_eq_true, false_or]
    exact ⟨trustworthy_of_tenantSanctioned decodes claimed,
      tenantSanctioned_of_trustworthy decodes claimed⟩

/-- A token of the user pool, and one that anybody can write. -/
def issuedToken : String := "eyJhbGciOiJSUzI1NiIsImtpZCI6ImsxIn0." ++
    "eyJzdWIiOiJ1MSIsImN1c3RvbTp0ZW5hbnRfaWQiOiJhY21lIn0.c2ln"

def forgedToken : String := "e30.eyJ0ZW5hbnRfaWQiOiJ2aWN0aW0ifQ.e30"

def issuedPayload : List (String × Json) := [("sub", .str "u1"), ("custom:tenant_id", .str "acme")]

def oneService : Application where
  serviceAuthenticator := some ⟨Dict.ofList
    [("agent-eval", "2bb80d537b1da3e38bd30361aa855686bde0eacd7162fef6a25fe97bf527a25b")]⟩
  tokenValidator :=
    { getUnverifiedHeader := fun token =>
        if token = issuedToken then some [("alg", .str "RS256"), ("kid", .str "k1")] else some []
      getSigningKey := fun kid => if kid.isString "k1" then some (.str "public") else none
      decode := fun _ token => if token = issuedToken then some issuedPayload else none }
  sha256 := fun key =>
    if key = "secret" then "2bb80d537b1da3e38bd30361aa855686bde0eacd7162fef6a25fe97bf527a25b"
    else "f1abe1b083d12d181ae136cfc75b8d18a8ecb43ac4e9d1a36d6a9c75b6016b61"
  loads := fun bytes =>
    let text := String.ofList (bytes.map Char.ofNat)
    if text = "\x7b\"sub\":\"u1\",\"custom:tenant_id\":\"acme\"\x7d" then
      some (.obj issuedPayload)
    else if text = "\x7b\"tenant_id\":\"victim\"\x7d" then
      some (.obj [("tenant_id", .str "victim")])
    else none

theorem oneService_decodes : oneService.tokenValidator.DecodesPayload oneService.loads := by
  intro key token payload decoded
  simp only [oneService] at decoded
  split at decoded
  · next same =>
    cases decoded
    subst same
    rfl
  · cases decoded

theorem tenantSanctioned_issued : TenantSanctioned {} oneService
      { headers := [("authorization", "Bearer " ++ issuedToken), ("x-tenant-id", "victim")] } := by
  refine (tenantSanctioned_iff {} oneService oneService_decodes _).mpr (.inr ⟨?_, ?_⟩)
  · intro token payload tenant bearer read named
    have own : token = issuedToken := by
      have same : some issuedToken = some token := Eq.trans (by decide) bearer
      cases same
      rfl
    have payloadOf : readPayload oneService.loads issuedToken = some (.obj issuedPayload) := rfl
    rw [own, payloadOf] at read
    cases read
    rw [own]
    refine .inr ⟨⟨_, rfl⟩, ?_⟩
    cases named.2 with
    | inl first =>
      have falsy := named.1
      rw [← first] at falsy
      cases falsy
    | inr second => exact second.2
  · intro _ serviceId _ _ hasId
    have absent : (none : Option String) = some serviceId := Eq.trans (by decide) hasId
    cases absent

/-- A wrong key of a known service, and a token that was never signed, choose the tenant. -/
theorem tenant_spoofed : ¬ TenantSanctioned {} oneService
        { headers := [("x-service-id", "agent-eval"), ("x-service-key", "guess"),
            ("x-tenant-id", "victim")] } ∧
      ¬ TenantSanctioned {} oneService
        { headers := [("authorization", "Bearer " ++ forgedToken)] } := by
  have byHeader : Binds {} oneService
      { headers := [("x-service-id", "agent-eval"), ("x-service-key", "guess"),
          ("x-tenant-id", "victim")] } (.str "victim") :=
    ⟨_, rfl, rfl⟩
  have byToken : Binds {} oneService
      { headers := [("authorization", "Bearer " ++ forgedToken)] } (.str "victim") :=
    ⟨_, rfl, rfl⟩
  constructor
  · intro sanctioned
    cases sanctioned _ byHeader with
    | inl service =>
      obtain ⟨_, _, _, known, hasId, hasKey, valid⟩ := service.1
      cases known
      cases hasId
      cases hasKey
      cases valid
    | inr verified =>
      cases verified with
      | inl claimed => cases claimed.2
      | inr accepted =>
        obtain ⟨_, _, bearer, _⟩ := accepted
        cases bearer
  · intro sanctioned
    cases sanctioned _ byToken with
    | inl service =>
      obtain ⟨_, _, _, _, hasId, _⟩ := service.1
      cases hasId
    | inr verified =>
      cases verified with
      | inl claimed => cases claimed.2
      | inr accepted =>
        obtain ⟨_, _, bearer, valid, _⟩ := accepted
        cases bearer
        cases valid

end Onpremai.Common
