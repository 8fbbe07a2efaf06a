import AuthClaw.Gateway.Routes

/-!
# The selection of a provider

The router finds a route and a credential: one stored for the provider of the route, else any
that is stored, else one from the environment, of the tenant or of the platform.  The endpoint
is the route's, and only where that is empty the one that came with the key.

Main results:

- Theorem {lit}`platform_endpoint_iff`: when a key of the platform goes to an endpoint that came
  with it, or to the one built into the provider.
-/

namespace AuthClaw.Gateway.Providers

open PythonText

/-! ## Provider payloads -/

section

variable (py : PyText)

/-- `normalize_provider`. -/
def normalizeProvider (provider : String) : String :=
  let normalized := replaceChar ' ' '_' (py.lower provider)
  if normalized ∈ ["google_gemini", "gemini"] then "gemini"
  else if normalized ∈ ["azure", "azure_openai", "azure-openai"] then "azure_openai"
  else if normalized ∈ ["anthropic", "claude"] then "anthropic"
  else if normalized ∈ ["cohere", "co"] then "cohere"
  else normalized

/-- `value not in (None, "")`. -/
def presentValue : Json → Bool
  | .null => false
  | .str s => s != ""
  | .bool _ | .int _ | .float _ _ | .arr _ | .obj _ => true

/-- The keys that `normalize_provider_payload` reads. -/
def payloadKeys : List String :=
  ["api_key", "model", "api_base", "base_url", "endpoint", "azure_endpoint", "api_version",
    "azure_api_version", "deployment", "deployment_name"]

/-- `normalize_provider_payload`. -/
def normalizeProviderPayload (provider : String) (source : List (String × Json)) :
    List (String × Json) :=
  let get := getKey source
  let apiBase := orElseJson (get "api_base") (orElseJson (get "base_url")
    (orElseJson (get "endpoint") (get "azure_endpoint")))
  let apiVersion := orElseJson (get "api_version") (get "azure_api_version")
  let deployment := orElseJson (get "deployment") (get "deployment_name")
  let model :=
    if normalizeProvider py provider = "azure_openai" then orElseJson deployment (get "model")
    else get "model"
  let entry (key : String) (value : Option Json) : List (String × Json) :=
    (value.filter presentValue).toList.map (fun v => (key, v))
  entry "api_key" (get "api_key") ++ entry "model" model ++ entry "api_base" apiBase ++
    entry "api_version" apiVersion ++ entry "deployment" (orElseJson deployment model) ++
    source.filter (fun m => decide (m.1 ∉ payloadKeys) && presentValue m.2)

end

/-! ## The setting -/

/-- A row of `tenant_credentials`. -/
structure CredentialRow where
  tenantId : Int
  provider : String
  encryptedPayload : String
  secretRef : Option String
  revokedAt : Option Int
  updatedAt : Option Int

/-- The tables the router reads. -/
structure ProviderTables where
  routes : RouteStore
  credentials : List CredentialRow

/-- What the router raises. -/
inductive ProviderError where
  /-- `SecretManagerError`. -/
  | secret
  | value (message : String)
  | attribute
  | other
deriving DecidableEq

/-- The environment of the process, the secret manager, and `dict(value)` of what is neither
empty nor a dictionary. -/
structure ProviderSetting extends RouteSetting where
  env : String → Option String
  getSecret : String → Except ProviderError (Option String)
  loads : String → Option Json
  decrypt : String → Option String
  dictOf : Json → Option (List (String × Json))

/-- A credential that was found, and the secret its key was read from, if it was read from one. -/
structure Credential where
  provider : String
  payload : List (String × Json)
  secretName : Option String

/-- The providers. -/
inductive ProviderKind where
  | gemini
  | openai
  | anthropic
  | cohere
  | azureOpenai
  | localProvider
deriving DecidableEq

/-- A provider object. -/
structure Provider where
  kind : ProviderKind
  apiKey : Option Json
  modelName : Json
  apiUrl : Json
  apiVersion : Option Json

/-- What a route, or what stands for one, gives to a selection. -/
structure RouteChoice where
  id : Option Int
  provider : String
  model : Option Json
  endpoint : Option Json

/-- `ProviderSelection`; and the credential it was built from. -/
structure ProviderSelection where
  routeId : Option String
  providerName : String
  model : Json
  endpoint : Option Json
  provider : Provider
  source : String
  credential : Option Credential

section

variable (s : ProviderSetting)

/-! ## Stored credentials -/

/-- A secret that is missing or empty is none. -/
def nonemptySecret (value : Option String) : Option String :=
  value.filter (fun v => v != "")

/-- The payload of a credential as `json.loads` gives it, and the secret that was read. -/
def resolveProviderPayload (row : CredentialRow) :
    Except ProviderError (Json × Option String) := do
  let parse (text : String) (secretName : Option String) :
      Except ProviderError (Json × Option String) :=
    match s.loads text with
    | some v => .ok (v, secretName)
    | none => .error .other
  let direct ←
    match nonemptySecret row.secretRef with
    | none => .ok none
    | some name => (s.getSecret name).map (fun v => (nonemptySecret v).map (fun v => (name, v)))
  match direct with
  | some (name, text) => parse text (some name)
  | none =>
      if row.encryptedPayload = "" then .error .secret
      else
        match s.decrypt row.encryptedPayload with
        | none => .error .other
        | some text =>
            let payload ← parse text none
            match payload.1 with
            | .obj members =>
                match orElseJson (getKey members "secret_ref") none,
                    orElseJson (getKey members "api_key") none with
                | some (.str name), none =>
                    match nonemptySecret (← s.getSecret name) with
                    | some text => parse text (some name)
                    | none => .error .secret
                | some _, none => .error .other
                | _, _ => .ok payload
            | _ => .ok payload

/-- `dict(payload or {})`. -/
def payloadDict (payload : Json) : Option (List (String × Json)) :=
  if payload.truthy then
    match payload with
    | .obj members => some members
    | v => s.dictOf v
  else some []

/-- `_decrypt_payload`, when it is not empty: every exception is logged. -/
def decryptPayload (row : CredentialRow) : Option Credential :=
  match resolveProviderPayload s row with
  | .error _ => none
  | .ok (payload, secretName) =>
      match payloadDict s payload with
      | none => none
      | some source =>
          let normalized := normalizeProviderPayload s.py row.provider source
          if normalized = [] then none else some ⟨row.provider, normalized, secretName⟩

/-- `ORDER BY updated_at DESC`: a row without a time comes first. -/
def updatedBefore (row row' : CredentialRow) : Bool :=
  match row.updatedAt, row'.updatedAt with
  | none, _ => true
  | some _, none => false
  | some t, some t' => decide (t' ≤ t)

/-- `_lookup_credential`. -/
def lookupCredential (tenantId : Int) (preferredProvider : Option String)
    (tables : ProviderTables) : Option Credential :=
  let rows := tables.credentials.filter fun row =>
    decide (row.tenantId = tenantId) && row.revokedAt.isNone &&
      match nonemptySecret preferredProvider with
      | none => true
      | some provider => decide (row.provider = normalizeProvider s.py provider)
  (rows.insertionSort (fun row row' => updatedBefore row row' = true)).findSome? (decryptPayload s)

/-! ## Credentials of the environment -/

/-- `get_json_secret`. -/
def getJsonSecret (name : String) : Except ProviderError (Option Json) := do
  match nonemptySecret (← s.getSecret name) with
  | none => return none
  | some text =>
      match s.loads text with
      | none => throw .secret
      | some v => return some v

/-- A secret that the secret manager could not read is logged, and the next prefix is tried. -/
def skipSecretError (found : Except ProviderError (Option Credential)) :
    Except ProviderError (Option Credential) :=
  match found with
  | .error .secret => .ok none
  | found => found

/-- The text of a secret, as a value of a payload. -/
def secretEntry (key : String) (value : Option String) : List (String × Json) :=
  [(key, match value with
    | none => .null
    | some v => .str v)]

/-- The payload of a key that stands alone, with what stands beside it. -/
def keyPayload (envPrefix key : String) : Except ProviderError (List (String × Json)) := do
  let model ← s.getSecret (envPrefix ++ "_MODEL")
  let apiBase ← s.getSecret (envPrefix ++ "_API_BASE")
  let apiVersion ← s.getSecret (envPrefix ++ "_API_VERSION")
  let deployment ← s.getSecret (envPrefix ++ "_DEPLOYMENT")
  return secretEntry "api_key" (some key) ++ secretEntry "model" model ++
    secretEntry "api_base" apiBase ++ secretEntry "api_version" apiVersion ++
    secretEntry "deployment" deployment

/-- The credential under a prefix. -/
def lookupPrefix (provider envPrefix : String) : Except ProviderError (Option Credential) :=
  let credential (source : List (String × Json)) (secretName : String) : Credential :=
    ⟨provider, normalizeProviderPayload s.py provider source, some secretName⟩
  match getJsonSecret s (envPrefix ++ "_SECRET_JSON") with
  | .error e => skipSecretError (.error e)
  | .ok json =>
      match orElseJson json none with
      | some (.obj members) =>
          if (orElseJson (getKey members "api_key") none).isSome then
            .ok (some (credential members (envPrefix ++ "_SECRET_JSON")))
          else keyed credential
      | some _ => .error .attribute
      | none => keyed credential
where
  /-- `get_secret(f"{prefix}_API_KEY")`. -/
  keyed (credential : List (String × Json) → String → Credential) :
      Except ProviderError (Option Credential) :=
    match s.getSecret (envPrefix ++ "_API_KEY") with
    | .error e => skipSecretError (.error e)
    | .ok value =>
        match nonemptySecret value with
        | none => .ok none
        | some key =>
            (keyPayload s envPrefix key).map
              (fun source => some (credential source (envPrefix ++ "_API_KEY")))

/-- The prefixes that are tried for a provider, the tenant's before the platform's. -/
def envPrefixes (tenantId : Int) (provider : String) : List String :=
  [s!"AUTHCLAW_TENANT_{tenantId}_" ++ s.py.upper provider,
    "AUTHCLAW_PROVIDER_" ++ s.py.upper provider]

/-- The first credential that is found. -/
def lookupPrefixes : List (String × String) → Except ProviderError (Option Credential)
  | [] => .ok none
  | (provider, envPrefix) :: rest => do
      match ← lookupPrefix s provider envPrefix with
      | some credential => return some credential
      | none => lookupPrefixes rest

/-- `_lookup_environment_credential`. -/
def lookupEnvironmentCredential (tenantId : Int) (preferredProvider : Option String) :
    Except ProviderError (Option Credential) :=
  let providers :=
    match nonemptySecret preferredProvider with
    | some provider => [normalizeProvider s.py provider]
    | none => ["openai", "anthropic", "cohere", "azure_openai", "gemini"]
  lookupPrefixes s ((providers.filter (fun provider => provider != "")).flatMap fun provider =>
    (envPrefixes s tenantId provider).map (fun envPrefix => (provider, envPrefix)))

/-! ## Provider objects -/

/-- `text.rstrip("/")`; what is not a text has no such method. -/
def rstripSlash : Json → Except ProviderError Json
  | .str text => .ok (.str (String.ofList
      (text.toList.reverse.dropWhile (fun c => c = '/')).reverse))
  | _ => .error .attribute

/-- `value or default`. -/
def orDefault (value : Option Json) (default : String) : Json :=
  (orElseJson value none).getD (.str default)

/-- A value of the environment. -/
def envValue (name : String) : Option Json :=
  (s.env name).map .str

/-- `GOOGLE_API_URL`. -/
def googleApiUrl : Json :=
  (envValue s "GOOGLE_API_URL").getD (.str "https://generativelanguage.googleapis.com")

/-- `MODEL_NAME`. -/
def configModelName : Json :=
  (envValue s "MODEL_NAME").getD (.str "gemini-2.5-flash-lite")

/-- The address a provider object calls. -/
def providerUrl (kind : ProviderKind) (apiUrl : Option Json) : Except ProviderError Json :=
  match kind with
  | .gemini => .ok ((orElseJson apiUrl none).getD (googleApiUrl s))
  | .openai => rstripSlash (orDefault apiUrl "https://api.openai.com/v1")
  | .anthropic => rstripSlash (orDefault apiUrl "https://api.anthropic.com")
  | .cohere => rstripSlash (orDefault apiUrl "https://api.cohere.com")
  | .azureOpenai => rstripSlash (orDefault apiUrl "")
  | .localProvider => .ok (.str "local://authclaw")

/-- `GeminiProvider`. -/
def geminiProvider (apiKey modelName apiUrl : Option Json) : Except ProviderError Provider := do
  let model := (orElseJson (orElseJson modelName (envValue s "MODEL_NAME")) none).getD
    (configModelName s)
  let model := match model with
    | .str "gemini-3.1-flash-lite" => .str "gemini-2.5-flash-lite"
    | model => model
  let url ← providerUrl s .gemini apiUrl
  match orElseJson apiKey (orElseJson (envValue s "GOOGLE_API_KEY") none) with
  | none => throw (.value "GOOGLE_API_KEY environment variable is not set.")
  | some key => return ⟨.gemini, some key, model, url, none⟩

/-- `OpenAIProvider`, `AnthropicProvider` and `CohereProvider`. -/
def keyedProvider (kind : ProviderKind) (title defaultModel : String)
    (apiKey modelName apiUrl : Option Json) : Except ProviderError Provider := do
  let url ← providerUrl s kind apiUrl
  match orElseJson apiKey none with
  | none => throw (.value (title ++ " provider credential is not configured."))
  | some key => return ⟨kind, some key, orDefault modelName defaultModel, url, none⟩

def openaiProvider := keyedProvider s .openai "OpenAI" "gpt-4o"

def anthropicProvider := keyedProvider s .anthropic "Anthropic" "claude-3-5-sonnet-20241022"

def cohereProvider := keyedProvider s .cohere "Cohere" "command-r-plus"

/-- `AzureOpenAIProvider`, which has no endpoint of its own. -/
def azureOpenaiProvider (apiKey deployment apiUrl apiVersion : Option Json) :
    Except ProviderError Provider := do
  let url ← providerUrl s .azureOpenai apiUrl
  match orElseJson apiKey none with
  | none => throw (.value "Azure OpenAI provider credential is not configured.")
  | some key =>
      if url.truthy then
        return ⟨.azureOpenai, some key, orDefault deployment "gpt-4o", url,
          some (orDefault apiVersion "2024-02-15-preview")⟩
      else throw (.value "Azure OpenAI endpoint is not configured.")

/-- `get_provider`. -/
def getLegacyProvider : Except ProviderError Provider :=
  let modelProvider := (s.env "MODEL_PROVIDER").getD "gemini"
  let name := replaceChar ' ' '_' (s.py.lower modelProvider)
  if name = "gemini" then geminiProvider s none none none
  else if name = "openai" then openaiProvider s (envValue s "OPENAI_API_KEY") none none
  else if name = "anthropic" then anthropicProvider s (envValue s "ANTHROPIC_API_KEY") none none
  else if name = "cohere" then cohereProvider s (envValue s "COHERE_API_KEY") none none
  else if name ∈ ["azure", "azure_openai"] then
    azureOpenaiProvider s (envValue s "AZURE_OPENAI_API_KEY")
      (orElseJson (envValue s "AZURE_OPENAI_DEPLOYMENT") (envValue s "MODEL_NAME"))
      (envValue s "AZURE_OPENAI_ENDPOINT") (envValue s "AZURE_OPENAI_API_VERSION")
  else .error (.value ("Unsupported model provider configured: " ++ modelProvider))

/-! ## The selection -/

/-- `_default_model_for`. -/
def defaultModelFor (provider : String) : String :=
  if provider = "openai" then "gpt-4o"
  else if provider = "anthropic" then "claude-3-5-sonnet-20241022"
  else if provider = "cohere" then "command-r-plus"
  else if provider = "azure_openai" then "gpt-4o"
  else "gemini-2.5-flash-lite"

/-- The provider object of a selection. -/
def selectedProvider (providerName : String) (payload : List (String × Json)) (model : Json)
    (endpoint : Option Json) (routeProvider : String) : Except ProviderError Provider :=
  let apiKey := getKey payload "api_key"
  if providerName = "gemini" then geminiProvider s apiKey (some model) endpoint
  else if providerName = "openai" then openaiProvider s apiKey (some model) endpoint
  else if providerName = "anthropic" then anthropicProvider s apiKey (some model) endpoint
  else if providerName = "cohere" then cohereProvider s apiKey (some model) endpoint
  else if providerName = "azure_openai" then
    azureOpenaiProvider s apiKey (orElseJson (getKey payload "deployment") (some model)) endpoint
      (getKey payload "api_version")
  else .error (.value ("Unsupported tenant provider configured: " ++ routeProvider))

/-- `_build_selection`. -/
def buildSelection (route : RouteChoice) (credential : Credential) (source : String) :
    Except ProviderError ProviderSelection := do
  let providerName := normalizeProvider s.py route.provider
  let payload := normalizeProviderPayload s.py providerName credential.payload
  let model := orDefault (orElseJson route.model (getKey payload "model"))
    (defaultModelFor providerName)
  let endpoint := orElseJson route.endpoint (getKey payload "api_base")
  let provider ← selectedProvider s providerName payload model endpoint route.provider
  return {
    routeId := route.id.map toString
    providerName := providerName
    model := model
    endpoint := endpoint
    provider := provider
    source := source
    credential := some credential }

/-- The choice of a route that was found. -/
def routeChoice (route : GatewayRoute) : RouteChoice :=
  ⟨some route.id, route.provider, some (.str route.model), some (.str route.endpoint)⟩

/-- What stands for a route where only the credential counts. -/
def credentialChoice (credential : Credential) : RouteChoice where
  id := none
  provider := credential.provider
  model := orElseJson (getKey credential.payload "model")
    (some (.str (defaultModelFor credential.provider)))
  endpoint := getKey credential.payload "api_base"

/-- What stands for a route where the credential is from the environment. -/
def environmentChoice (route : Option GatewayRoute) (credential : Credential) : RouteChoice where
  id := route.map GatewayRoute.id
  provider := (route.map GatewayRoute.provider).getD credential.provider
  model := orElseJson (route.map fun r => .str r.model)
    (orElseJson (getKey credential.payload "model")
      (some (.str (defaultModelFor credential.provider))))
  endpoint := orElseJson (route.map fun r => .str r.endpoint)
    (getKey credential.payload "api_base")

/-- `_local_provider_fallback_enabled`. -/
def localProviderFallbackEnabled : Bool :=
  let env := s.py.lower (s.py.strip ((s.env "AUTHCLAW_ENV").getD "development"))
  if env ∈ ["production", "prod"] then false
  else
    match s.env "AUTHCLAW_ALLOW_LOCAL_PROVIDER_FALLBACK" with
    | none => true
    | some configured =>
        decide (s.py.lower (s.py.strip configured) ∈ ["1", "true", "yes", "on"])

/-- The class of a provider object. -/
def ProviderKind.className : ProviderKind → String
  | .gemini => "GeminiProvider"
  | .openai => "OpenAIProvider"
  | .anthropic => "AnthropicProvider"
  | .cohere => "CohereProvider"
  | .azureOpenai => "AzureOpenAIProvider"
  | .localProvider => "LocalProvider"

/-- The selection without a credential. -/
def fallbackSelection : Except ProviderError ProviderSelection := do
  if localProviderFallbackEnabled s then
    return {
      routeId := none
      providerName := "local"
      model := .str "authclaw-local-secure"
      endpoint := some (.str "local://authclaw")
      provider :=
        ⟨.localProvider, none, .str "authclaw-local-secure", .str "local://authclaw", none⟩
      source := "local_development_fallback"
      credential := none }
  else
    let legacy ← getLegacyProvider s
    return {
      routeId := none
      providerName := legacy.kind.className
      model := legacy.modelName
      endpoint := some legacy.apiUrl
      provider := legacy
      source := "legacy_provider_fallback"
      credential := none }

/-- A stored credential, for the provider of the route or else any. -/
def storedCredential (tenantId : Int) (route : Option GatewayRoute) (tables : ProviderTables) :
    Option Credential :=
  match lookupCredential s tenantId (route.map GatewayRoute.provider) tables with
  | some credential => some credential
  | none => if route.isSome then lookupCredential s tenantId none tables else none

/-- `ProviderRouter.select`. -/
def selectProvider (tenantId : Int) (tables : ProviderTables) :
    Except ProviderError ProviderSelection := do
  let route := lookupRoute s.toRouteSetting tenantId tables.routes
  match route, storedCredential s tenantId route tables with
  | some route, some credential =>
      if normalizeProvider s.py route.provider ≠ normalizeProvider s.py credential.provider then
        buildSelection s (credentialChoice credential) credential "tenant_route"
      else buildSelection s (routeChoice route) credential "tenant_route"
  | none, some credential =>
      buildSelection s (credentialChoice credential) credential "tenant_credential"
  | route, none =>
      match ← lookupEnvironmentCredential s tenantId (route.map GatewayRoute.provider) with
      | some credential =>
          buildSelection s (environmentChoice route credential) credential "environment_secret"
      | none => fallbackSelection s

/-! ## Keys of the platform -/

/-- The credential has a key, from a secret of the platform. -/
def PlatformKey (credential : Credential) : Prop :=
  (∃ name, credential.secretName = some name ∧ "AUTHCLAW_PROVIDER_".toList <+: name.toList) ∧
    (orElseJson (getKey credential.payload "api_key") none).isSome = true

/-- A key of the platform goes to the endpoint that came with it, or to the one built into the
provider. -/
def PlatformPaired (selection : ProviderSelection) : Prop :=
  ∀ credential, selection.credential = some credential → PlatformKey credential →
    (selection.endpoint = none ∨ selection.endpoint = getKey credential.payload "api_base") ∧
      providerUrl s selection.provider.kind selection.endpoint = .ok selection.provider.apiUrl

/-- Where the route that was found is for the provider of a key of the platform, it has no
endpoint, or the one that came with the key. -/
def RouteKeepsKey (tenantId : Int) (tables : ProviderTables) : Prop :=
  ∀ route credential, lookupRoute s.toRouteSetting tenantId tables.routes = some route →
    (storedCredential s tenantId (some route) tables = some credential ∧
        normalizeProvider s.py route.provider = normalizeProvider s.py credential.provider) ∨
      (storedCredential s tenantId (some route) tables = none ∧
        lookupEnvironmentCredential s tenantId (some route.provider) = .ok (some credential)) →
    PlatformKey credential →
      route.endpoint = "" ∨ getKey credential.payload "api_base" = some (.str route.endpoint)

variable {s} {py : PyText} {credential : Credential} {selection : ProviderSelection}

/-! ## Normalized payloads -/

/-- The payload went through `normalize_provider_payload`. -/
def Normalized (py : PyText) (payload : List (String × Json)) : Prop :=
  ∃ provider source, payload = normalizeProviderPayload py provider source

theorem getKey_append (xs ys : List (String × Json)) (key : String) :
    getKey (xs ++ ys) key = (getKey xs key).or (getKey ys key) := by
  unfold getKey
  exact List.lookup_append

/-- What is looked up in an entry. -/
theorem getKey_entry (key other : String) (value : Option Json) :
    getKey (value.toList.map (fun v => (key, v))) other = if other = key then value else none := by
  cases value with
  | none => simp [getKey]
  | some v =>
      by_cases h : other = key
      · simp [getKey, h]
      · rw [if_neg h]
        simp [getKey, List.lookup_cons, beq_false_of_ne h]

/-- What is not among the keys that are read is kept. -/
theorem getKey_rest {source : List (String × Json)} {key : String} (h : key ∈ payloadKeys) :
    getKey (source.filter (fun m => decide (m.1 ∉ payloadKeys) && presentValue m.2)) key =
      none := by
  unfold getKey
  rw [List.lookup_eq_none_iff]
  intro m hm
  have hkeys := (Bool.and_eq_true_iff.mp (List.mem_filter.mp hm).2).1
  refine bne_iff_ne.mpr ?_
  rintro rfl
  exact of_decide_eq_true hkeys h

/-- The endpoint of a payload after it went through `normalize_provider_payload`. -/
theorem getKey_normalize_apiBase (provider : String) (source : List (String × Json)) :
    getKey (normalizeProviderPayload py provider source) "api_base" =
      (orElseJson (getKey source "api_base") (orElseJson (getKey source "base_url")
        (orElseJson (getKey source "endpoint") (getKey source "azure_endpoint")))).filter
          presentValue := by
  simp only [normalizeProviderPayload, getKey_append, getKey_entry]
  rw [getKey_rest (by decide)]
  simp

/-- The other names of the endpoint are gone. -/
theorem getKey_normalize_alias {key : String} (h : key ∈ ["base_url", "endpoint", "azure_endpoint"])
    (provider : String) (source : List (String × Json)) :
    getKey (normalizeProviderPayload py provider source) key = none := by
  have hread : key ∈ payloadKeys := by
    revert key
    decide
  have hother : key ≠ "api_key" ∧ key ≠ "model" ∧ key ≠ "api_base" ∧ key ≠ "api_version" ∧
      key ≠ "deployment" := by
    revert key
    decide
  simp only [normalizeProviderPayload, getKey_append, getKey_entry]
  rw [getKey_rest hread]
  simp [hother]

/-- What is truthy is present. -/
theorem filter_orElseJson (value : Option Json) :
    (orElseJson value none).filter presentValue = orElseJson value none := by
  cases value with
  | none => rfl
  | some v => cases v <;> simp [orElseJson, Json.truthy, Option.filter, presentValue] <;> grind

/-- A payload that is normalized again has the same endpoint, or, where that is empty, none. -/
theorem getKey_renormalize {payload : List (String × Json)} (h : Normalized py payload)
    (provider : String) :
    getKey (normalizeProviderPayload py provider payload) "api_base" =
      orElseJson (getKey payload "api_base") none := by
  rcases h with ⟨first, source, rfl⟩
  rw [getKey_normalize_apiBase provider, @getKey_normalize_alias py "base_url" (by decide),
    @getKey_normalize_alias py "endpoint" (by decide),
    @getKey_normalize_alias py "azure_endpoint" (by decide)]
  exact filter_orElseJson _

/-- `value or value`. -/
theorem orElseJson_self (value : Option Json) :
    orElseJson value (orElseJson value none) = orElseJson value none := by
  cases value with
  | none => rfl
  | some v => cases hv : v.truthy <;> simp [orElseJson, hv]

theorem orElseJson_eq_or (value : Option Json) :
    orElseJson value none = none ∨ orElseJson value none = value := by
  cases value with
  | none => exact Or.inl rfl
  | some v => cases hv : v.truthy <;> simp [orElseJson, hv]

/-! ## Credentials that are found -/

variable {tenantId : Int} {tables : ProviderTables} {route : Option GatewayRoute}

theorem normalized_of_lookup {preferred : Option String}
    (h : lookupCredential s tenantId preferred tables = some credential) :
    Normalized s.py credential.payload := by
  unfold lookupCredential at h
  rcases List.exists_of_findSome?_eq_some h with ⟨row, -, hrow⟩
  unfold decryptPayload at hrow
  split at hrow
  next => cases hrow
  next payload secretName hresolve =>
    split at hrow
    next => cases hrow
    next source hsource =>
      dsimp only at hrow
      split_ifs at hrow
      cases hrow
      exact ⟨row.provider, source, rfl⟩

theorem normalized_of_stored (h : storedCredential s tenantId route tables = some credential) :
    Normalized s.py credential.payload := by
  unfold storedCredential at h
  split at h
  next found hfound =>
    cases h
    exact normalized_of_lookup hfound
  next =>
    split_ifs at h
    exact normalized_of_lookup h

/-- A secret that could not be read is no credential. -/
theorem skipSecretError_error {e : ProviderError} (c : Credential) :
    skipSecretError (.error e) ≠ .ok (some c) := by
  cases e <;> simp [skipSecretError]

theorem normalized_of_keyed {envPrefix : String}
    {make : List (String × Json) → String → Credential}
    (hmake : ∀ source name, Normalized s.py (make source name).payload)
    (h : lookupPrefix.keyed s envPrefix make = .ok (some credential)) :
    Normalized s.py credential.payload := by
  unfold lookupPrefix.keyed at h
  split at h
  next => exact absurd h (skipSecretError_error credential)
  next value hvalue =>
    split at h
    next => cases h
    next key hkey =>
      cases hpayload : keyPayload s envPrefix key with
      | error e =>
          rw [hpayload] at h
          cases h
      | ok source =>
          rw [hpayload] at h
          cases h
          exact hmake _ _

theorem normalized_of_prefix {provider envPrefix : String}
    (h : lookupPrefix s provider envPrefix = .ok (some credential)) :
    Normalized s.py credential.payload := by
  unfold lookupPrefix at h
  split at h
  next => exact absurd h (skipSecretError_error credential)
  next json hjson =>
    split at h
    next members hmembers =>
      split_ifs at h
      · cases h
        exact ⟨provider, members, rfl⟩
      · exact normalized_of_keyed (fun source _ => ⟨provider, source, rfl⟩) h
    next => cases h
    next => exact normalized_of_keyed (fun source _ => ⟨provider, source, rfl⟩) h

theorem normalized_of_prefixes {prefixes : List (String × String)}
    (h : lookupPrefixes s prefixes = .ok (some credential)) :
    Normalized s.py credential.payload := by
  induction prefixes with
  | nil => cases h
  | cons first rest ih =>
      rcases bind_eq_ok h with ⟨found, hfound, hrest⟩
      cases found with
      | none => exact ih hrest
      | some c =>
          cases hrest
          exact normalized_of_prefix hfound

/-! ## What is built -/

theorem geminiProvider_url {apiKey modelName apiUrl : Option Json} {provider : Provider}
    (h : geminiProvider s apiKey modelName apiUrl = .ok provider) :
    providerUrl s provider.kind apiUrl = .ok provider.apiUrl := by
  unfold geminiProvider at h
  rcases bind_eq_ok h with ⟨url, hurl, hkey⟩
  split at hkey
  next => cases hkey
  next =>
    cases hkey
    exact hurl

theorem keyedProvider_url {kind : ProviderKind} {title defaultModel : String}
    {apiKey modelName apiUrl : Option Json} {provider : Provider}
    (h : keyedProvider s kind title defaultModel apiKey modelName apiUrl = .ok provider) :
    providerUrl s provider.kind apiUrl = .ok provider.apiUrl := by
  unfold keyedProvider at h
  rcases bind_eq_ok h with ⟨url, hurl, hkey⟩
  split at hkey
  next => cases hkey
  next =>
    cases hkey
    exact hurl

theorem azureOpenaiProvider_url {apiKey deployment apiUrl apiVersion : Option Json}
    {provider : Provider} (h : azureOpenaiProvider s apiKey deployment apiUrl apiVersion =
      .ok provider) : providerUrl s provider.kind apiUrl = .ok provider.apiUrl := by
  unfold azureOpenaiProvider at h
  rcases bind_eq_ok h with ⟨url, hurl, hkey⟩
  split at hkey
  next => cases hkey
  next =>
    split_ifs at hkey
    · cases hkey
      exact hurl

/-- A provider object calls the address that the endpoint of the selection gives. -/
theorem selectedProvider_url {providerName routeProvider : String}
    {payload : List (String × Json)} {model : Json} {endpoint : Option Json} {provider : Provider}
    (h : selectedProvider s providerName payload model endpoint routeProvider = .ok provider) :
    providerUrl s provider.kind endpoint = .ok provider.apiUrl := by
  unfold selectedProvider at h
  dsimp only at h
  split_ifs at h
  · exact geminiProvider_url h
  · exact keyedProvider_url h
  · exact keyedProvider_url h
  · exact keyedProvider_url h
  · exact azureOpenaiProvider_url h

theorem buildSelection_eq_ok {choice : RouteChoice} {source : String}
    (h : buildSelection s choice credential source = .ok selection) :
    selection.credential = some credential ∧
      selection.endpoint = orElseJson choice.endpoint (getKey (normalizeProviderPayload s.py
        (normalizeProvider s.py choice.provider) credential.payload) "api_base") ∧
      providerUrl s selection.provider.kind selection.endpoint =
        .ok selection.provider.apiUrl := by
  unfold buildSelection at h
  rcases bind_eq_ok h with ⟨provider, hprovider, hselection⟩
  cases hselection
  exact ⟨rfl, rfl, selectedProvider_url hprovider⟩

/-- A selection whose endpoint stands in for the route's is paired. -/
theorem paired_of_credential {choice : RouteChoice} {source : String}
    (hnormalized : Normalized s.py credential.payload)
    (hendpoint : choice.endpoint = none ∨ choice.endpoint = some (.str "") ∨
      choice.endpoint = getKey credential.payload "api_base")
    (h : buildSelection s choice credential source = .ok selection) :
    PlatformPaired s selection := by
  rcases buildSelection_eq_ok h with ⟨hcredential, hselected, hurl⟩
  rw [getKey_renormalize hnormalized] at hselected
  intro c hc _
  rw [hcredential] at hc
  cases hc
  refine ⟨?_, hurl⟩
  have hor : selection.endpoint = orElseJson (getKey credential.payload "api_base") none := by
    rw [hselected]
    rcases hendpoint with hnone | hempty | hpayload
    · rw [hnone]
      rfl
    · rw [hempty]
      rfl
    · rw [hpayload, orElseJson_self]
  rw [hor]
  exact orElseJson_eq_or _

/-- A selection with the endpoint of a route is paired when the key is not the platform's, or
came with the same endpoint. -/
theorem paired_of_route {choice : RouteChoice} {source endpoint : String}
    (hendpoint : choice.endpoint = some (.str endpoint)) (hne : endpoint ≠ "")
    (h : buildSelection s choice credential source = .ok selection) :
    PlatformPaired s selection ↔ (PlatformKey credential →
      getKey credential.payload "api_base" = some (.str endpoint)) := by
  rcases buildSelection_eq_ok h with ⟨hcredential, hselected, hurl⟩
  have hroute : selection.endpoint = some (.str endpoint) := by
    rw [hselected, hendpoint]
    simp [orElseJson, Json.truthy, hne]
  constructor
  · intro hpaired hkey
    rcases (hpaired credential hcredential hkey).1 with hnone | hsame
    · rw [hroute] at hnone
      cases hnone
    · exact hsame.symm.trans hroute
  · intro hsame c hc hkey
    rw [hcredential] at hc
    cases hc
    exact ⟨Or.inr (hroute.trans (hsame hkey).symm), hurl⟩

/-- Without a credential there is no key of the platform. -/
theorem paired_of_fallback (h : fallbackSelection s = .ok selection) :
    PlatformPaired s selection := by
  have hnone : selection.credential = none := by
    unfold fallbackSelection at h
    split_ifs at h
    · cases h
      rfl
    · rcases bind_eq_ok h with ⟨legacy, -, hlegacy⟩
      cases hlegacy
      rfl
  intro c hc
  rw [hnone] at hc
  cases hc

/-- The condition on the route that was found. -/
theorem routeKeepsKey_iff {route : GatewayRoute}
    (hroute : lookupRoute s.toRouteSetting tenantId tables.routes = some route) :
    RouteKeepsKey s tenantId tables ↔ ∀ credential,
      (storedCredential s tenantId (some route) tables = some credential ∧
        normalizeProvider s.py route.provider = normalizeProvider s.py credential.provider) ∨
      (storedCredential s tenantId (some route) tables = none ∧
        lookupEnvironmentCredential s tenantId (some route.provider) = .ok (some credential)) →
      PlatformKey credential → route.endpoint = "" ∨
        getKey credential.payload "api_base" = some (.str route.endpoint) := by
  constructor
  · intro h credential
    exact h route credential hroute
  · intro h route' credential hroute'
    rw [hroute] at hroute'
    cases hroute'
    exact h credential

/-- A selection whose endpoint is the route's, or, where that is empty, what came with the
key. -/
theorem paired_iff_of_route {choice : RouteChoice} {source : String} {route : GatewayRoute}
    (hnormalized : Normalized s.py credential.payload)
    (hempty : route.endpoint = "" → choice.endpoint = some (.str "") ∨
      choice.endpoint = getKey credential.payload "api_base")
    (hendpoint : route.endpoint ≠ "" → choice.endpoint = some (.str route.endpoint))
    (h : buildSelection s choice credential source = .ok selection) :
    PlatformPaired s selection ↔ (PlatformKey credential →
      route.endpoint = "" ∨ getKey credential.payload "api_base" = some (.str route.endpoint)) := by
  by_cases hroute : route.endpoint = ""
  · exact iff_of_true (paired_of_credential hnormalized (Or.inr (hempty hroute)) h)
      (fun _ => Or.inl hroute)
  · rw [paired_of_route (hendpoint hroute) hroute h]
    refine imp_congr_right fun _ => ?_
    rw [or_iff_right hroute]

/-- Without a route a key of the platform is paired. -/
theorem paired_of_no_route (hroute : lookupRoute s.toRouteSetting tenantId tables.routes = none)
    (h : selectProvider s tenantId tables = .ok selection) : PlatformPaired s selection := by
  unfold selectProvider at h
  dsimp only at h
  rw [hroute] at h
  cases hstored : storedCredential s tenantId none tables with
  | some credential =>
      rw [hstored] at h
      exact paired_of_credential (normalized_of_stored hstored) (Or.inr (Or.inr rfl)) h
  | none =>
      rw [hstored] at h
      rcases bind_eq_ok h with ⟨found, henvironment, hselection⟩
      cases found with
      | none => exact paired_of_fallback hselection
      | some credential =>
          exact paired_of_credential (normalized_of_prefixes henvironment)
            (Or.inr (Or.inr rfl)) hselection

/-- A stored credential is used with the endpoint of the route where it is for the provider of the
route, and with the endpoint that came with it otherwise. -/
theorem paired_iff_of_stored {route : GatewayRoute}
    (hroute : lookupRoute s.toRouteSetting tenantId tables.routes = some route)
    (hstored : storedCredential s tenantId (some route) tables = some credential)
    (h : selectProvider s tenantId tables = .ok selection) :
    PlatformPaired s selection ↔ RouteKeepsKey s tenantId tables := by
  have hnormalized := normalized_of_stored hstored
  rw [routeKeepsKey_iff hroute, hstored]
  unfold selectProvider at h
  dsimp only at h
  rw [hroute, hstored] at h
  dsimp only at h
  split_ifs at h with hprovider
  · refine iff_of_true ?_ ?_
    · exact paired_of_credential hnormalized (Or.inr (Or.inr rfl)) h
    · rintro c (⟨hc, hsame⟩ | ⟨hnone, -⟩)
      · cases hc
        exact absurd hsame hprovider
      · cases hnone
  · rw [paired_iff_of_route hnormalized (fun hempty => Or.inl (by rw [← hempty]; rfl))
      (fun _ => rfl) h]
    constructor
    · rintro hkeeps c (⟨hc, -⟩ | ⟨hnone, -⟩)
      · cases hc
        exact hkeeps
      · cases hnone
    · intro hkeeps
      exact hkeeps credential (Or.inl ⟨rfl, not_not.mp hprovider⟩)

/-- The endpoint of the route, or, where that is empty, the one that came with the key. -/
theorem environmentChoice_endpoint (route : GatewayRoute) (credential : Credential) :
    (environmentChoice (some route) credential).endpoint =
      orElseJson (some (.str route.endpoint)) (getKey credential.payload "api_base") :=
  rfl

/-- A credential from the environment is used with the endpoint of the route, where it has one. -/
theorem paired_iff_of_environment {route : GatewayRoute}
    (hroute : lookupRoute s.toRouteSetting tenantId tables.routes = some route)
    (hstored : storedCredential s tenantId (some route) tables = none)
    (h : selectProvider s tenantId tables = .ok selection) :
    PlatformPaired s selection ↔ RouteKeepsKey s tenantId tables := by
  rw [routeKeepsKey_iff hroute, hstored]
  unfold selectProvider at h
  dsimp only at h
  rw [hroute, hstored] at h
  rcases bind_eq_ok h with ⟨found, henvironment, hselection⟩
  have hlookup : lookupEnvironmentCredential s tenantId (some route.provider) = .ok found :=
    henvironment
  cases found with
  | none =>
      refine iff_of_true (paired_of_fallback hselection) ?_
      rintro c (⟨hsome, -⟩ | ⟨-, hc⟩)
      · cases hsome
      · rw [hlookup] at hc
        cases hc
  | some credential =>
      rw [paired_iff_of_route (normalized_of_prefixes henvironment) ?_ ?_ hselection]
      · constructor
        · rintro hkeeps c (⟨hsome, -⟩ | ⟨-, hc⟩)
          · cases hsome
          · rw [hlookup] at hc
            cases hc
            exact hkeeps
        · intro hkeeps
          exact hkeeps credential (Or.inr ⟨rfl, hlookup⟩)
      · intro hempty
        rw [environmentChoice_endpoint, hempty]
        exact Or.inr rfl
      · intro hne
        rw [environmentChoice_endpoint]
        simp [orElseJson, Json.truthy, hne]

/-- A key of the platform is paired with an endpoint that came with it exactly when the route for
its provider, if any, has no endpoint, or that one. -/
theorem platform_endpoint_iff (s : ProviderSetting) (tenantId : Int) (tables : ProviderTables)
    (selection : ProviderSelection) (h : selectProvider s tenantId tables = .ok selection) :
    PlatformPaired s selection ↔ RouteKeepsKey s tenantId tables := by
  cases hroute : lookupRoute s.toRouteSetting tenantId tables.routes with
  | none =>
      refine iff_of_true (paired_of_no_route hroute h) ?_
      intro route credential hfound
      rw [hroute] at hfound
      cases hfound
  | some route =>
      cases hstored : storedCredential s tenantId (some route) tables with
      | some credential => exact paired_iff_of_stored hroute hstored h
      | none => exact paired_iff_of_environment hroute hstored h

end

/-! ## A key of the platform and the route of a tenant -/

/-- The platform's credential, as the environment holds it. -/
def samplePlatformSecret : String :=
  "\x7b\"api_key\": \"sk-platform\"\x7d"

/-- An environment with a key of the platform, and nothing else. -/
def sampleProviderSetting : ProviderSetting where
  py := asciiText
  bypassesPolicies := false
  env := fun _ => none
  getSecret := fun name =>
    .ok (if name = "AUTHCLAW_PROVIDER_OPENAI_SECRET_JSON" then some samplePlatformSecret else none)
  loads := fun text =>
    if text = samplePlatformSecret then some (.obj [("api_key", .str "sk-platform")]) else none
  decrypt := fun _ => none
  dictOf := fun _ => none

/-- A tenant with a route of its own to the endpoint, and no credential. -/
def sampleProviderTables (endpoint : String) : ProviderTables where
  routes := {
    routes := ⟨[⟨1, some 1, "chat", "openai", endpoint, "gpt-4o", some 100, some true, some true,
      some "acme"⟩], List.nodup_singleton _⟩
    tenants := .empty
    nextId := 2
    below := by
      intro r hr
      rw [List.mem_singleton.mp hr]
      exact (by decide : (1 : Int) < 2) }
  credentials := []

/-- What a selection sends, and where to. -/
def ProviderSelection.sent (selection : ProviderSelection) : Option String × String :=
  (selection.provider.apiKey.map asciiText.str, asciiText.str selection.provider.apiUrl)

/-- What a selection was built from: the secret, whether it has a key and an endpoint, and whether
the selection has an endpoint. -/
def ProviderSelection.origin (selection : ProviderSelection) :
    Option (Option String × Bool × Bool) × Bool :=
  (selection.credential.map fun c => (c.secretName,
    (orElseJson (getKey c.payload "api_key") none).isSome, (getKey c.payload "api_base").isSome),
    selection.endpoint.isSome)

/-- A route without an endpoint leaves the one built into the provider. -/
theorem platform_endpoint_builtin :
    ∃ selection, selectProvider sampleProviderSetting 1 (sampleProviderTables "") = .ok selection ∧
      selection.sent = (some "sk-platform", "https://api.openai.com/v1") ∧
      PlatformPaired sampleProviderSetting selection := by
  have hsent : (selectProvider sampleProviderSetting 1 (sampleProviderTables "")).map
      ProviderSelection.sent = .ok (some "sk-platform", "https://api.openai.com/v1") := by
    decide +kernel
  rcases map_eq_ok hsent with ⟨selection, hselection, hsent⟩
  refine ⟨selection, hselection, hsent, (platform_endpoint_iff _ _ _ _ hselection).mpr ?_⟩
  intro route credential hroute _ _
  left
  rw [List.mem_singleton.mp (mem_getRoutes.mp (mem_getRoutes_of_lookupRoute hroute)).1]

/-- The key of the platform goes to the endpoint that the tenant has put into its route. -/
theorem platform_key_leaves :
    ∃ selection, selectProvider sampleProviderSetting 1
        (sampleProviderTables "https://collector.invalid/v1") = .ok selection ∧
      selection.sent = (some "sk-platform", "https://collector.invalid/v1") ∧
      ¬ PlatformPaired sampleProviderSetting selection := by
  have hboth : (selectProvider sampleProviderSetting 1
      (sampleProviderTables "https://collector.invalid/v1")).map (fun selection =>
        (selection.sent, selection.origin)) =
      .ok ((some "sk-platform", "https://collector.invalid/v1"),
        some (some "AUTHCLAW_PROVIDER_OPENAI_SECRET_JSON", true, false), true) := by
    decide +kernel
  rcases map_eq_ok hboth with ⟨selection, hselection, hboth⟩
  injection hboth with hsent horigin
  injection horigin with hcredential hendpoint
  rcases Option.map_eq_some_iff.mp hcredential with ⟨credential, hcredential, hparts⟩
  injection hparts with hname hparts
  injection hparts with hkey hbase
  refine ⟨selection, hselection, hsent, ?_⟩
  intro hpaired
  have hplatform : PlatformKey credential :=
    ⟨⟨_, hname, List.isPrefixOf_iff_prefix.mp (by decide)⟩, hkey⟩
  rcases (hpaired credential hcredential hplatform).1 with hnone | hsame
  · rw [hnone] at hendpoint
    cases hendpoint
  · rw [hsame, hbase] at hendpoint
    cases hendpoint

end AuthClaw.Gateway.Providers
