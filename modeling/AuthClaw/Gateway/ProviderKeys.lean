import AuthClaw.Gateway.ProviderSelection
import AuthClaw.Library.JsonText

/-!
# Whose key a selection carries

The name of a provider comes from the route, from a stored credential or from a list, and the
key from a row of the tenant, from a secret of the environment or from the platform's key for
Gemini.  Whatever the combination, the name and the key belong together.

Main results:

- Theorem {lit}`selectedProvider_key`: the key of a provider object.
- Theorem {lit}`storedCredential_origin` and {lit}`environmentCredential_origin`: where a
  credential was found.
- Theorem {lit}`tenantPrefix_inj`: the secrets of two tenants have different names.
- Theorem {lit}`selection_key`: the key of a selection is for its provider, and of the tenant or
  of the platform.
-/

namespace AuthClaw.Gateway.Providers

open PythonText

section

variable (s : ProviderSetting)

/-! ## Where a key is from -/

/-- The row of a credential resolves to a payload with the key. -/
def StoredKey (row : CredentialRow) (key : Json) : Prop :=
  ∃ payload secretName source, resolveProviderPayload s row = .ok (payload, secretName) ∧
    payloadDict s payload = some source ∧ getKey source "api_key" = some key

/-- A secret with the prefix is the key, or a document with the key. -/
def ConfiguredKey (envPrefix : String) (key : Json) : Prop :=
  (∃ text members, s.getSecret (envPrefix ++ "_SECRET_JSON") = .ok (some text) ∧
    s.loads text = some (.obj members) ∧ getKey members "api_key" = some key) ∨
  ∃ text, s.getSecret (envPrefix ++ "_API_KEY") = .ok (some text) ∧ key = .str text

/-- The key was stored for the provider by the tenant, configured for it under a prefix of the
tenant or of the platform, or is the platform's for Gemini. -/
inductive KeyFor (tenantId : Int) (tables : ProviderTables) (providerName : String) (key : Json) :
    Prop where
  | stored (row : CredentialRow) (hrow : row ∈ tables.credentials)
      (htenant : row.tenantId = tenantId) (hlive : row.revokedAt = none)
      (hprovider : normalizeProvider s.py row.provider = providerName)
      (hkey : StoredKey s row key)
  | configured (envPrefix : String) (hmem : envPrefix ∈ envPrefixes s tenantId providerName)
      (hkey : ConfiguredKey s envPrefix key)
  | platform (hprovider : providerName = "gemini") (hkey : envValue s "GOOGLE_API_KEY" = some key)

/-- The name of a secret of a tenant. -/
def NamedForTenant (tenantId : Int) (name : String) : Prop :=
  ∃ rest, name = s!"AUTHCLAW_TENANT_{tenantId}_" ++ rest

/-- The providers that are tried without a route. -/
def defaultProviders : List String :=
  ["openai", "anthropic", "cohere", "azure_openai", "gemini"]

variable {s} {py : PyText} {credential : Credential} {tenantId : Int} {tables : ProviderTables}

/-! ## Keys of payloads -/

/-- A payload keeps its key, if that is present. -/
theorem getKey_normalize_apiKey (provider : String) (source : List (String × Json)) :
    getKey (normalizeProviderPayload py provider source) "api_key" =
      (getKey source "api_key").filter presentValue := by
  simp only [normalizeProviderPayload, getKey_append, getKey_entry]
  rw [getKey_rest (by decide)]
  simp

theorem getKey_of_filter {value : Option Json} {key : Json}
    (h : value.filter presentValue = some key) : value = some key :=
  (Option.filter_eq_some_iff.mp h).1

theorem eq_of_orElseJson {value : Option Json} {key : Json}
    (h : orElseJson value none = some key) : value = some key := by
  rcases orElseJson_eq_or value with hnone | hsame
  · rw [hnone] at h
    cases h
  · rw [← hsame, h]

theorem orElseJson_cases {first second : Option Json} {key : Json}
    (h : orElseJson first second = some key) : first = some key ∨ second = some key := by
  unfold orElseJson at h
  cases first with
  | none => exact Or.inr h
  | some v =>
      dsimp only at h
      split_ifs at h
      · exact Or.inl h
      · exact Or.inr h

/-! ## Keys of provider objects -/

theorem geminiProvider_key {apiKey modelName apiUrl : Option Json} {provider : Provider}
    (h : geminiProvider s apiKey modelName apiUrl = .ok provider) :
    ∃ key, provider.apiKey = some key ∧
      (apiKey = some key ∨ envValue s "GOOGLE_API_KEY" = some key) := by
  unfold geminiProvider at h
  rcases bind_eq_ok h with ⟨url, -, hkey⟩
  cases horigin : orElseJson apiKey (orElseJson (envValue s "GOOGLE_API_KEY") none) with
  | none =>
      rw [horigin] at hkey
      cases hkey
  | some key =>
      rw [horigin] at hkey
      cases hkey
      refine ⟨key, rfl, ?_⟩
      rcases orElseJson_cases horigin with hown | hgoogle
      · exact Or.inl hown
      · exact Or.inr (eq_of_orElseJson hgoogle)

theorem keyedProvider_key {kind : ProviderKind} {title defaultModel : String}
    {apiKey modelName apiUrl : Option Json} {provider : Provider}
    (h : keyedProvider s kind title defaultModel apiKey modelName apiUrl = .ok provider) :
    ∃ key, provider.apiKey = some key ∧ apiKey = some key := by
  unfold keyedProvider at h
  rcases bind_eq_ok h with ⟨url, -, hkey⟩
  cases horigin : orElseJson apiKey none with
  | none =>
      rw [horigin] at hkey
      cases hkey
  | some key =>
      rw [horigin] at hkey
      cases hkey
      exact ⟨key, rfl, eq_of_orElseJson horigin⟩

theorem azureOpenaiProvider_key {apiKey deployment apiUrl apiVersion : Option Json}
    {provider : Provider}
    (h : azureOpenaiProvider s apiKey deployment apiUrl apiVersion = .ok provider) :
    ∃ key, provider.apiKey = some key ∧ apiKey = some key := by
  unfold azureOpenaiProvider at h
  rcases bind_eq_ok h with ⟨url, -, hkey⟩
  cases horigin : orElseJson apiKey none with
  | none =>
      rw [horigin] at hkey
      cases hkey
  | some key =>
      rw [horigin] at hkey
      dsimp only at hkey
      split_ifs at hkey
      cases hkey
      exact ⟨key, rfl, eq_of_orElseJson horigin⟩

/-- A provider object has the key of the payload; only Gemini's may have the platform's. -/
theorem selectedProvider_key {providerName routeProvider : String}
    {payload : List (String × Json)} {model : Json} {endpoint : Option Json} {provider : Provider}
    (h : selectedProvider s providerName payload model endpoint routeProvider = .ok provider) :
    providerName ∈ defaultProviders ∧ ∃ key, provider.apiKey = some key ∧
      (getKey payload "api_key" = some key ∨
        providerName = "gemini" ∧ envValue s "GOOGLE_API_KEY" = some key) := by
  unfold selectedProvider at h
  dsimp only at h
  split_ifs at h with hgemini hopenai hanthropic hcohere hazure
  · rcases geminiProvider_key h with ⟨key, hkey, horigin⟩
    refine ⟨by rw [hgemini]; decide, key, hkey, ?_⟩
    exact horigin.imp_right fun hgoogle => ⟨hgemini, hgoogle⟩
  · rcases keyedProvider_key h with ⟨key, hkey, horigin⟩
    exact ⟨by rw [hopenai]; decide, key, hkey, Or.inl horigin⟩
  · rcases keyedProvider_key h with ⟨key, hkey, horigin⟩
    exact ⟨by rw [hanthropic]; decide, key, hkey, Or.inl horigin⟩
  · rcases keyedProvider_key h with ⟨key, hkey, horigin⟩
    exact ⟨by rw [hcohere]; decide, key, hkey, Or.inl horigin⟩
  · rcases azureOpenaiProvider_key h with ⟨key, hkey, horigin⟩
    exact ⟨by rw [hazure]; decide, key, hkey, Or.inl horigin⟩

/-- What is built has the name of the choice, and the key of the credential or the platform's. -/
theorem buildSelection_key {choice : RouteChoice} {source : String}
    {selection : ProviderSelection}
    (h : buildSelection s choice credential source = .ok selection) :
    selection.providerName = normalizeProvider s.py choice.provider ∧
      selection.providerName ∈ defaultProviders ∧
      ∃ key, selection.provider.apiKey = some key ∧
        (getKey credential.payload "api_key" = some key ∨
          selection.providerName = "gemini" ∧ envValue s "GOOGLE_API_KEY" = some key) := by
  unfold buildSelection at h
  rcases bind_eq_ok h with ⟨provider, hprovider, hselection⟩
  cases hselection
  rcases selectedProvider_key hprovider with ⟨hname, key, hkey, horigin⟩
  refine ⟨rfl, hname, key, hkey, horigin.imp_left fun hpayload => ?_⟩
  rw [getKey_normalize_apiKey] at hpayload
  exact getKey_of_filter hpayload

/-! ## Where credentials are found -/

/-- A credential that is looked up stands in a live row of the tenant. -/
theorem lookupCredential_origin {preferred : Option String}
    (h : lookupCredential s tenantId preferred tables = some credential) :
    ∃ row ∈ tables.credentials, row.tenantId = tenantId ∧ row.revokedAt = none ∧
      credential.provider = row.provider ∧
        ∀ key, getKey credential.payload "api_key" = some key → StoredKey s row key := by
  unfold lookupCredential at h
  rcases List.exists_of_findSome?_eq_some h with ⟨row, hrow, hdecrypt⟩
  rw [List.mem_insertionSort, List.mem_filter] at hrow
  rcases hrow with ⟨hrow, hconditions⟩
  simp only [Bool.and_eq_true, decide_eq_true_eq, Option.isNone_iff_eq_none] at hconditions
  refine ⟨row, hrow, hconditions.1.1, hconditions.1.2, ?_⟩
  unfold decryptPayload at hdecrypt
  cases hresolve : resolveProviderPayload s row with
  | error e =>
      rw [hresolve] at hdecrypt
      cases hdecrypt
  | ok resolved =>
      rw [hresolve] at hdecrypt
      dsimp only at hdecrypt
      cases hdict : payloadDict s resolved.1 with
      | none =>
          rw [hdict] at hdecrypt
          cases hdecrypt
      | some source =>
          rw [hdict] at hdecrypt
          dsimp only at hdecrypt
          split_ifs at hdecrypt
          cases hdecrypt
          refine ⟨rfl, fun key hkey => ?_⟩
          rw [getKey_normalize_apiKey] at hkey
          exact ⟨resolved.1, resolved.2, source, hresolve, hdict, getKey_of_filter hkey⟩

theorem storedCredential_origin {route : Option GatewayRoute}
    (h : storedCredential s tenantId route tables = some credential) :
    ∃ row ∈ tables.credentials, row.tenantId = tenantId ∧ row.revokedAt = none ∧
      credential.provider = row.provider ∧
        ∀ key, getKey credential.payload "api_key" = some key → StoredKey s row key := by
  unfold storedCredential at h
  cases hpreferred : lookupCredential s tenantId (route.map GatewayRoute.provider) tables with
  | some found =>
      rw [hpreferred] at h
      cases h
      exact lookupCredential_origin hpreferred
  | none =>
      rw [hpreferred] at h
      dsimp only at h
      split_ifs at h
      exact lookupCredential_origin h

/-- A key that stands alone is the text of its secret. -/
theorem keyed_origin {envPrefix provider : String}
    (h : lookupPrefix.keyed s envPrefix (fun source name =>
      ⟨provider, normalizeProviderPayload s.py provider source, some name⟩) =
        .ok (some credential)) :
    credential.provider = provider ∧
      ∀ key, getKey credential.payload "api_key" = some key → ConfiguredKey s envPrefix key := by
  unfold lookupPrefix.keyed at h
  cases hsecret : s.getSecret (envPrefix ++ "_API_KEY") with
  | error e =>
      rw [hsecret] at h
      exact absurd h (skipSecretError_error credential)
  | ok value =>
      rw [hsecret] at h
      dsimp only at h
      cases hvalue : nonemptySecret value with
      | none =>
          rw [hvalue] at h
          cases h
      | some text =>
          rw [hvalue] at h
          have htext : value = some text := (Option.filter_eq_some_iff.mp hvalue).1
          rcases map_eq_ok h with ⟨source, hsource, hmake⟩
          cases hmake
          refine ⟨rfl, fun key hkey => Or.inr ⟨text, by rw [hsecret, htext], ?_⟩⟩
          rw [getKey_normalize_apiKey] at hkey
          have hhead : getKey source "api_key" = some (.str text) := by
            unfold keyPayload at hsource
            rcases bind_eq_ok hsource with ⟨model, -, hsource⟩
            rcases bind_eq_ok hsource with ⟨apiBase, -, hsource⟩
            rcases bind_eq_ok hsource with ⟨apiVersion, -, hsource⟩
            rcases bind_eq_ok hsource with ⟨deployment, -, hsource⟩
            cases hsource
            rfl
          rw [hhead] at hkey
          exact (Option.some.inj (getKey_of_filter hkey)).symm

/-- A credential under a prefix has the key that is configured under it. -/
theorem lookupPrefix_origin {provider envPrefix : String}
    (h : lookupPrefix s provider envPrefix = .ok (some credential)) :
    credential.provider = provider ∧
      ∀ key, getKey credential.payload "api_key" = some key → ConfiguredKey s envPrefix key := by
  unfold lookupPrefix at h
  dsimp only at h
  cases hjson : getJsonSecret s (envPrefix ++ "_SECRET_JSON") with
  | error e =>
      rw [hjson] at h
      exact absurd h (skipSecretError_error credential)
  | ok json =>
      rw [hjson] at h
      dsimp only at h
      cases hdocument : orElseJson json none with
      | none =>
          rw [hdocument] at h
          exact keyed_origin h
      | some v =>
          rw [hdocument] at h
          cases v with
          | obj members =>
              dsimp only at h
              split_ifs at h
              · cases h
                refine ⟨rfl, fun key hkey => Or.inl ?_⟩
                rw [getKey_normalize_apiKey] at hkey
                have hread := hjson
                unfold getJsonSecret at hread
                rcases bind_eq_ok hread with ⟨value, hvalue, hread⟩
                cases htext : nonemptySecret value with
                | none =>
                    rw [htext] at hread
                    cases hread
                    cases hdocument
                | some text =>
                    rw [htext] at hread
                    dsimp only at hread
                    have hsome : value = some text := (Option.filter_eq_some_iff.mp htext).1
                    cases hloads : s.loads text with
                    | none =>
                        rw [hloads] at hread
                        cases hread
                    | some document =>
                        rw [hloads] at hread
                        cases hread
                        cases eq_of_orElseJson hdocument
                        exact ⟨text, members, by rw [hvalue, hsome], hloads,
                          getKey_of_filter hkey⟩
              · exact keyed_origin h
          | _ => cases h

theorem lookupPrefixes_origin {prefixes : List (String × String)}
    (h : lookupPrefixes s prefixes = .ok (some credential)) :
    ∃ m ∈ prefixes, credential.provider = m.1 ∧
      ∀ key, getKey credential.payload "api_key" = some key → ConfiguredKey s m.2 key := by
  induction prefixes with
  | nil => cases h
  | cons first rest ih =>
      rcases bind_eq_ok h with ⟨found, hfound, hrest⟩
      cases found with
      | none =>
          rcases ih hrest with ⟨m, hm, horigin⟩
          exact ⟨m, List.mem_cons_of_mem _ hm, horigin⟩
      | some c =>
          cases hrest
          exact ⟨first, List.mem_cons_self, lookupPrefix_origin hfound⟩

/-- A credential of the environment is for the provider that was asked for, or else for one of
the list, and its key is configured for that provider. -/
theorem environmentCredential_origin {preferred : Option String}
    (h : lookupEnvironmentCredential s tenantId preferred = .ok (some credential)) :
    (∀ provider, nonemptySecret preferred = some provider →
      credential.provider = normalizeProvider s.py provider) ∧
    (nonemptySecret preferred = none → credential.provider ∈ defaultProviders) ∧
    ∃ envPrefix ∈ envPrefixes s tenantId credential.provider,
      ∀ key, getKey credential.payload "api_key" = some key → ConfiguredKey s envPrefix key := by
  unfold lookupEnvironmentCredential at h
  dsimp only at h
  rcases lookupPrefixes_origin h with ⟨m, hm, hprovider, hkey⟩
  rcases List.mem_flatMap.mp hm with ⟨provider, hmem, hm⟩
  rcases List.mem_map.mp hm with ⟨envPrefix, henvPrefix, rfl⟩
  have hlisted := (List.mem_filter.mp hmem).1
  rw [hprovider]
  refine ⟨fun name hpreferred => ?_, fun hpreferred => ?_, envPrefix, henvPrefix, hkey⟩
  · rw [hpreferred] at hlisted
    exact List.mem_singleton.mp hlisted
  · rw [hpreferred] at hlisted
    exact hlisted

/-! ## Names of secrets -/

/-- The secrets of two tenants have different names. -/
theorem tenantPrefix_inj {tenantId other : Int} {rest rest' : String}
    (h : s!"AUTHCLAW_TENANT_{tenantId}_" ++ rest = s!"AUTHCLAW_TENANT_{other}_" ++ rest') :
    tenantId = other := by
  have hsplit : ∀ (n : Int) (tail : String), (s!"AUTHCLAW_TENANT_{n}_" ++ tail).toList =
      "AUTHCLAW_TENANT_".toList ++ (n.repr.toList ++ '_' :: tail.toList) := by
    intro n tail
    change ("AUTHCLAW_TENANT_" ++ n.repr ++ "_" ++ tail).toList = _
    simp
  have hdigits : ∀ n : Int, '_' ∉ n.repr.toList := by
    intro n hmem
    rcases JsonText.mem_int_repr hmem with hsign | hdigit
    · exact absurd hsign (by decide)
    · exact absurd hdigit (by decide)
  have hchars := congrArg String.toList h
  rw [hsplit, hsplit, List.append_cancel_left_eq] at hchars
  have hfirst : ∀ (n : Int) (tail : String),
      (n.repr.toList ++ '_' :: tail.toList).takeWhile (· ≠ '_') = n.repr.toList := by
    intro n tail
    rw [List.takeWhile_append_of_pos, List.takeWhile_cons_of_neg, List.append_nil]
    · simp
    · intro c hc
      simp only [ne_eq, decide_not, Bool.not_eq_true', decide_eq_false_iff_not]
      rintro rfl
      exact hdigits n hc
  have htaken := congrArg (List.takeWhile (· ≠ '_')) hchars
  rw [hfirst, hfirst] at htaken
  exact JsonText.int_repr_inj htaken

/-- The prefixes that are tried for a tenant are of no other tenant. -/
theorem tenant_of_envPrefixes {provider envPrefix suffix : String} {other : Int}
    (h : envPrefix ∈ envPrefixes s tenantId provider)
    (hnamed : NamedForTenant other (envPrefix ++ suffix)) : other = tenantId := by
  rcases hnamed with ⟨rest, hname⟩
  rcases List.mem_pair.mp h with rfl | rfl
  · rw [String.append_assoc] at hname
    exact (tenantPrefix_inj hname).symm
  · have hchars := congrArg (fun name => name.toList.take 10) hname
    change (("AUTHCLAW_PROVIDER_" ++ s.py.upper provider) ++ suffix).toList.take 10 =
      ("AUTHCLAW_TENANT_" ++ other.repr ++ "_" ++ rest).toList.take 10 at hchars
    simp at hchars

/-- The list holds names that are normalized. -/
theorem normalizeProvider_default {provider : String} (h : provider ∈ defaultProviders) :
    normalizeProvider py provider = provider := by
  have hall : ∀ provider ∈ defaultProviders, isAscii provider = true ∧
      replaceChar ' ' '_' (asciiLower provider) = provider := by
    decide
  rcases hall provider h with ⟨hascii, hlower⟩
  have hcases : ∀ provider ∈ defaultProviders,
      (if provider ∈ ["google_gemini", "gemini"] then "gemini"
        else if provider ∈ ["azure", "azure_openai", "azure-openai"] then "azure_openai"
        else if provider ∈ ["anthropic", "claude"] then "anthropic"
        else if provider ∈ ["cohere", "co"] then "cohere"
        else provider) = provider := by
    decide
  unfold normalizeProvider
  rw [py.lower_ascii provider hascii, hlower]
  exact hcases provider h

theorem normalizeProvider_empty : normalizeProvider py "" = "" := by
  unfold normalizeProvider
  rw [py.lower_ascii "" rfl]
  decide

/-! ## The selection -/

/-- A selection that is built for the provider of a stored credential has a key that was stored
for it, or the platform's. -/
theorem keyFor_of_stored {choice : RouteChoice} {source : String} {route : Option GatewayRoute}
    {selection : ProviderSelection}
    (hstored : storedCredential s tenantId route tables = some credential)
    (h : buildSelection s choice credential source = .ok selection)
    (hchoice : normalizeProvider s.py choice.provider =
      normalizeProvider s.py credential.provider) :
    ∃ key, selection.provider.apiKey = some key ∧
      KeyFor s tenantId tables selection.providerName key := by
  rcases storedCredential_origin hstored with ⟨row, hrow, htenant, hlive, hprovider, horigin⟩
  rcases buildSelection_key h with ⟨hname, -, key, hkey, hown | ⟨hgemini, hgoogle⟩⟩
  · refine ⟨key, hkey, .stored row hrow htenant hlive ?_ (horigin key hown)⟩
    rw [hname, hchoice, hprovider]
  · exact ⟨key, hkey, .platform hgemini hgoogle⟩

/-- A selection that is built for the provider of a credential of the environment has a key that
is configured for it, or the platform's. -/
theorem keyFor_of_environment {choice : RouteChoice} {source : String}
    {preferred : Option String} {selection : ProviderSelection}
    (hfound : lookupEnvironmentCredential s tenantId preferred = .ok (some credential))
    (h : buildSelection s choice credential source = .ok selection)
    (hchoice : normalizeProvider s.py choice.provider ∈ defaultProviders →
      credential.provider = normalizeProvider s.py choice.provider) :
    ∃ key, selection.provider.apiKey = some key ∧
      KeyFor s tenantId tables selection.providerName key := by
  rcases environmentCredential_origin hfound with ⟨-, -, envPrefix, hprefix, horigin⟩
  rcases buildSelection_key h with ⟨hname, hdefault, key, hkey, hown | ⟨hgemini, hgoogle⟩⟩
  · refine ⟨key, hkey, .configured envPrefix ?_ (horigin key hown)⟩
    rw [hname] at hdefault ⊢
    rwa [← hchoice hdefault]
  · exact ⟨key, hkey, .platform hgemini hgoogle⟩

/-- Without a credential a selection was built from none. -/
theorem credential_of_fallback {selection : ProviderSelection}
    (h : fallbackSelection s = .ok selection) : selection.credential = none := by
  unfold fallbackSelection at h
  split_ifs at h
  · cases h
    rfl
  · rcases bind_eq_ok h with ⟨legacy, -, hlegacy⟩
    cases hlegacy
    rfl

/-- A credential of the environment is for the provider of the route. -/
theorem environmentCredential_of_route {route : GatewayRoute}
    (h : lookupEnvironmentCredential s tenantId (some route.provider) = .ok (some credential))
    (hdefault : normalizeProvider s.py route.provider ∈ defaultProviders) :
    credential.provider = normalizeProvider s.py route.provider := by
  apply (environmentCredential_origin h).1
  -- a route without a provider has no provider of the list
  have hne : route.provider ≠ "" := by
    intro hempty
    rw [hempty, normalizeProvider_empty] at hdefault
    exact absurd hdefault (by decide)
  exact Option.filter_eq_some_iff.mpr ⟨rfl, bne_iff_ne.mpr hne⟩

theorem selection_key_of_route {route : GatewayRoute} {selection : ProviderSelection}
    (hroute : lookupRoute s.toRouteSetting tenantId tables.routes = some route)
    (h : selectProvider s tenantId tables = .ok selection) (hbuilt : selection.credential ≠ none) :
    ∃ key, selection.provider.apiKey = some key ∧
      KeyFor s tenantId tables selection.providerName key := by
  unfold selectProvider at h
  dsimp only at h
  rw [hroute] at h
  cases hstored : storedCredential s tenantId (some route) tables with
  | some credential =>
      rw [hstored] at h
      dsimp only at h
      split_ifs at h with hprovider
      · exact keyFor_of_stored hstored h rfl
      · exact keyFor_of_stored hstored h (not_not.mp hprovider)
  | none =>
      rw [hstored] at h
      rcases bind_eq_ok h with ⟨found, hfound, hselection⟩
      cases found with
      | none =>
          have hfallback : fallbackSelection s = .ok selection := hselection
          exact absurd (credential_of_fallback hfallback) hbuilt
      | some credential =>
          exact keyFor_of_environment hfound hselection (environmentCredential_of_route hfound)

theorem selection_key_of_no_route {selection : ProviderSelection}
    (hroute : lookupRoute s.toRouteSetting tenantId tables.routes = none)
    (h : selectProvider s tenantId tables = .ok selection) (hbuilt : selection.credential ≠ none) :
    ∃ key, selection.provider.apiKey = some key ∧
      KeyFor s tenantId tables selection.providerName key := by
  unfold selectProvider at h
  dsimp only at h
  rw [hroute] at h
  cases hstored : storedCredential s tenantId none tables with
  | some credential =>
      rw [hstored] at h
      exact keyFor_of_stored hstored h rfl
  | none =>
      rw [hstored] at h
      rcases bind_eq_ok h with ⟨found, hfound, hselection⟩
      cases found with
      | none =>
          have hfallback : fallbackSelection s = .ok selection := hselection
          exact absurd (credential_of_fallback hfallback) hbuilt
      | some credential =>
          have hdefault := (environmentCredential_origin hfound).2.1 rfl
          exact keyFor_of_environment hfound hselection
            (fun _ => (normalizeProvider_default hdefault).symm)

/-- The key of a selection that is built from a route or a credential is for the provider that
the selection names, and of the tenant or of the platform: no other tenant has a secret under the
prefixes it is configured under. -/
theorem selection_key (s : ProviderSetting) (tenantId : Int) (tables : ProviderTables)
    (selection : ProviderSelection) (h : selectProvider s tenantId tables = .ok selection)
    (hbuilt : selection.credential ≠ none) :
    (∃ key, selection.provider.apiKey = some key ∧
      KeyFor s tenantId tables selection.providerName key) ∧
    ∀ envPrefix ∈ envPrefixes s tenantId selection.providerName, ∀ suffix other,
      NamedForTenant other (envPrefix ++ suffix) → other = tenantId := by
  refine ⟨?_, fun _ hprefix _ _ hnamed => tenant_of_envPrefixes hprefix hnamed⟩
  cases hroute : lookupRoute s.toRouteSetting tenantId tables.routes with
  | none => exact selection_key_of_no_route hroute h hbuilt
  | some route => exact selection_key_of_route hroute h hbuilt

end

/-- A tenant with a route, but without a credential, gets the key of the platform for the provider
of its route. -/
theorem selection_key_configured :
    ∃ selection, selectProvider sampleProviderSetting 1 (sampleProviderTables "") = .ok selection ∧
      (∃ key, selection.provider.apiKey = some key ∧
        KeyFor sampleProviderSetting 1 (sampleProviderTables "") selection.providerName key) ∧
      ∀ envPrefix ∈ envPrefixes sampleProviderSetting 1 selection.providerName, ∀ suffix other,
        NamedForTenant other (envPrefix ++ suffix) → other = 1 := by
  have hbuilt : (selectProvider sampleProviderSetting 1 (sampleProviderTables "")).map
      (fun selection => selection.credential.isSome) = .ok true := by
    decide +kernel
  rcases map_eq_ok hbuilt with ⟨selection, hselection, hsome⟩
  refine ⟨selection, hselection, selection_key _ _ _ _ hselection ?_⟩
  exact Option.isSome_iff_ne_none.mp hsome

end AuthClaw.Gateway.Providers
