import AuthClaw.Events.Pipeline
import AuthClaw.Library.Rows

/-!
# The tables of identities

Users, identity providers, login states, refresh tokens, reset tokens and keys, as far as
the handlers of identities read and write them.  Times are in microseconds; a statement
sees every row, as it does under a role that row level security does not bind.
-/

namespace AuthClaw.Identity

open PythonText Rows
open Events (columnText columnText_head columnText_of_lt)

/-! ## Rows -/

/-- A row of `tenant_users`. -/
structure UserRow where
  id : Int
  tenantId : Int
  firstName : Option String
  lastName : Option String
  email : String
  passwordHash : String
  role : String
  permissions : String
  emailVerified : Bool
  status : String
deriving DecidableEq

/-- A row of `tenant_identity_providers`; the mapping is what `_json_loads` makes of its
column. -/
structure ProviderRow where
  id : Int
  tenantId : Int
  providerType : String
  clientId : String
  issuer : String
  groupsClaim : String
  roleMapping : Json
  enabled : Bool

/-- A row of `oidc_login_states`. -/
structure LoginStateRow where
  stateHash : String
  tenantId : Int
  providerId : Int
  codeVerifier : String
  nonce : String
  expiresAt : Int
  usedAt : Option Int

/-- A row of `auth_refresh_tokens`. -/
structure RefreshRow where
  jti : String
  tenantId : Int
  userId : Int
  subject : String
  expiresAt : Int
  revokedAt : Option Int

/-- A row of `auth_password_reset_tokens`. -/
structure ResetRow where
  tokenHash : String
  tenantId : Int
  userId : Int
  email : String
  expiresAt : Int
  usedAt : Option Int

/-- A row of `tenant_api_keys`. -/
structure ApiKeyRow where
  tenantId : Int
  keyHash : String
  expiresAt : Option Int
  revokedAt : Option Int

/-- The tables. -/
structure Database where
  users : List UserRow
  providers : List ProviderRow
  loginStates : List LoginStateRow
  refreshTokens : List RefreshRow
  resetTokens : List ResetRow
  apiKeys : List ApiKeyRow

/-! ## The setting -/

/-- Why a handler raises. -/
inductive IdentityError where
  /-- `EnterpriseIdentityError`. -/
  | enterprise (message : String)
  /-- `HTTPException`. -/
  | http (status : Nat) (detail : String)
  | python (e : PyError)
  | database
deriving DecidableEq

/-- What the handlers compute with: the interpreter, and the database's `lower` and its
text of a value that is not one. -/
structure Setting where
  py : PyText
  lower : String → String
  valueText : Json → Option String
  /-- Such a text is a number, a truth value or an array. -/
  valueText_head : ∀ v s, valueText v = some s → s.toList.head? ≠ some 'P'

/-- A value in a character column of a length. -/
def columnValue (t : Setting) (limit : Nat) : Json → Option String
  | .null => none
  | .str s => columnText limit s
  | v => (t.valueText v).bind (columnText limit)

/-- A text the database takes holds no NUL. -/
def hasNul (s : String) : Bool :=
  s.toList.contains (Char.ofNat 0)

section

variable {t : Setting} {limit : Nat} {text out : String}

/-- Only the text itself is stored as a text that starts with a capital and does not fill
its column. -/
theorem columnValue_eq {v : Json} (hlimit : 0 < limit) (h : columnValue t limit v = some out)
    (hlength : out.length < limit) (hhead : out.toList.head? = some 'P') : v = .str out := by
  have hother : (t.valueText v).bind (columnText limit) ≠ some out := by
    intro hvalue
    rcases Option.bind_eq_some_iff.mp hvalue with ⟨s, hs, hs'⟩
    exact absurd (columnText_head hlimit hs' ▸ hhead) (t.valueText_head v s hs)
  cases v with
  | null => cases h
  | str s => rw [columnText_of_lt h hlength]
  | bool _ => exact absurd h hother
  | int _ => exact absurd h hother
  | float _ _ => exact absurd h hother
  | arr _ => exact absurd h hother
  | obj _ => exact absurd h hother

end

/-! ## A tenant -/

/-- ASCII texts, and no text of other values. -/
def plainSetting : Setting where
  py := asciiText
  lower := asciiLower
  valueText := fun _ => none
  valueText_head := fun _ _ h => by cases h

/-- The administrator of a tenant. -/
def tenantAdminRow : UserRow where
  id := 1
  tenantId := 1
  firstName := none
  lastName := none
  email := "admin@acme.com"
  passwordHash := "h"
  role := "Super Admin"
  permissions := "all_access"
  emailVerified := true
  status := "active"

/-- A tenant with its administrator. -/
def tenantDatabase : Database where
  users := [tenantAdminRow]
  providers := []
  loginStates := []
  refreshTokens := []
  resetTokens := []
  apiKeys := []

end AuthClaw.Identity
