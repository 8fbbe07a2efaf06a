import AuthClaw.Events.Pipeline
import AuthClaw.Library.Keyed
import AuthClaw.Library.PythonText
import AuthClaw.Library.StepSystem
import Mathlib.Data.List.Sort

/-!
# Provider routes

A route belongs to the tenant it names.  A route from before routes had tenants belongs to the
tenants one of whose tokens it is assigned to: their number, their name or their domain.  The
handlers and the router of the gateway decide by the same condition; the row policy of the
database, which some roles bypass, hides the routes of other tenants and those without one.

Main results:

- Theorem {lit}`routes_isolated_iff`: when no tenant reaches a route that is, or was, assigned
  to another.
-/

namespace AuthClaw.Gateway

open PythonText Rows StepSystem
open Events (columnText)

/-! ## Tables -/

/-- A row of `gateway_routes`. -/
structure GatewayRoute where
  id : Int
  tenantId : Option Int
  name : String
  provider : String
  endpoint : String
  model : String
  rateLimit : Option Int
  redactionEnabled : Option Bool
  enabled : Option Bool
  tenantAssignment : Option String
deriving DecidableEq

/-- What the handlers of routes read of a row of `tenants`. -/
structure TenantProfile where
  id : Int
  name : String
  status : Option String
  domain : Option String
deriving DecidableEq

/-- The tables; the next number of a route is above all that were given. -/
structure RouteStore where
  routes : Table GatewayRoute.id
  tenants : Table TenantProfile.id
  nextId : Int
  below : ∀ r ∈ routes.rows, r.id < nextId

/-- The body of a request to create or update a route. -/
structure RouteRequest where
  name : String
  provider : String
  endpoint : String
  model : String
  rateLimit : Int
  redactionEnabled : Bool
  enabled : Bool
  tenantAssignment : String

/-- The body of a request to update a tenant. -/
structure TenantRequest where
  name : String
  status : String

/-- The interpreter, and whether the role of the database connection bypasses row policies. -/
structure RouteSetting where
  py : PyText
  bypassesPolicies : Bool

/-- Why a handler raises. -/
inductive RouteError where
  | http (status : Nat) (detail : String)
  | database
deriving DecidableEq

/-! ## Handlers -/

section

variable (s : RouteSetting)

/-- `tenant_tokens`. -/
def tenantTokens (tenantId : Int) (tenant : Option TenantProfile) : List String :=
  [toString tenantId, s!"tenant:{tenantId}"] ++
    match tenant with
    | none => []
    | some row =>
        (if row.name = "" then [] else [row.name]) ++
          match row.domain with
          | none => []
          | some domain => if domain = "" then [] else [domain]

/-- The policy of `gateway_routes`. -/
def routeVisible (tenantId : Int) (r : GatewayRoute) : Bool :=
  s.bypassesPolicies || decide (r.tenantId = some tenantId)

/-- `tenant_assignment in tenant_tokens`. -/
def assignedByToken (tokens : List String) (r : GatewayRoute) : Bool :=
  match r.tenantAssignment with
  | none => false
  | some assignment => decide (assignment ∈ tokens)

/-- The tokens of a tenant, `SELECT name, domain FROM tenants WHERE id = :tid`. -/
def RouteStore.tokens (store : RouteStore) (tenantId : Int) : List String :=
  tenantTokens tenantId (store.tenants.find tenantId)

/-- `WHERE tenant_id = :tid OR tenant_id IS NULL ORDER BY id ASC`. -/
def selectRoutes (tenantId : Int) (store : RouteStore) : List GatewayRoute :=
  (store.routes.rows.filter fun r => routeVisible s tenantId r &&
    decide (r.tenantId = some tenantId ∨ r.tenantId = none)).insertionSort
      (fun r r' => r.id ≤ r'.id)

/-- `get_routes`. -/
def getRoutes (tenantId : Int) (store : RouteStore) : List GatewayRoute :=
  (selectRoutes s tenantId store).filter fun r =>
    decide (r.tenantId = some tenantId) || assignedByToken (store.tokens tenantId) r

/-- `ProviderRouter._lookup_route`. -/
def lookupRoute (tenantId : Int) (store : RouteStore) : Option GatewayRoute :=
  ((selectRoutes s tenantId store).filter fun r => decide (r.enabled = some true)).find? fun r =>
    decide (r.tenantId = some tenantId) || assignedByToken (store.tokens tenantId) r

/-- A number in a column. -/
def integerColumn (n : Int) : Option Int :=
  if -2147483648 ≤ n ∧ n < 2147483648 then some n else none

/-- The row a request writes, when it fits the columns. -/
def routeColumns (id tenantId : Int) (req : RouteRequest) : Option GatewayRoute := do
  let name ← columnText 100 req.name
  let provider ← columnText 50 req.provider
  let endpoint ← columnText 255 req.endpoint
  let model ← columnText 50 req.model
  let rateLimit ← integerColumn req.rateLimit
  let assignment ← columnText 100 req.tenantAssignment
  return {
    id := id
    tenantId := some tenantId
    name := name
    provider := provider
    endpoint := endpoint
    model := model
    rateLimit := some rateLimit
    redactionEnabled := some req.redactionEnabled
    enabled := some req.enabled
    tenantAssignment := some assignment }

/-- `route_payload`. -/
def routePayload (route : RouteRequest) : RouteRequest :=
  { route with
    name := s.py.strip route.name
    provider := s.py.strip route.provider
    endpoint := s.py.strip route.endpoint
    model := s.py.strip route.model
    tenantAssignment :=
      if s.py.strip route.tenantAssignment = "" then "Current Tenant"
      else s.py.strip route.tenantAssignment }

/-- The checks of `create_route`. -/
def checkRoute (route payload : RouteRequest) : Except RouteError Unit :=
  if payload.name = "" then .error (.http 400 "Route name is required.")
  else if payload.provider = "" then .error (.http 400 "Provider is required.")
  else if payload.model = "" then .error (.http 400 "Model is required.")
  else if ¬ (payload.endpoint.toList.take 7 = "http://".toList ∨
      payload.endpoint.toList.take 8 = "https://".toList) then
    .error (.http 400 "Endpoint URL must start with http:// or https://.")
  else if route.rateLimit < 1 then
    .error (.http 400 "Rate limit must be at least 1 request per minute.")
  else .ok ()

/-- A route with a new number. -/
def RouteStore.insert (store : RouteStore) (r : GatewayRoute) (h : r.id = store.nextId) :
    RouteStore where
  routes := store.routes.append r (by
    rw [Table.find_eq_none]
    intro r' hr' heq
    exact absurd (store.below r' hr') (by omega))
  tenants := store.tenants
  nextId := store.nextId + 1
  below := by
    intro r' hr'
    rcases List.mem_append.mp hr' with hr' | hr'
    · have hlt := store.below r' hr'
      omega
    · rw [List.mem_singleton.mp hr']
      omega

/-- `create_route`. -/
def createRoute (tenantId : Int) (route : RouteRequest) (store : RouteStore) :
    Except RouteError RouteStore := do
  checkRoute route (routePayload s route)
  match routeColumns store.nextId tenantId (routePayload s route) with
  | none => .error .database
  | some r => .ok (store.insert { r with id := store.nextId } rfl)

/-- The row that the handlers of one route read, when the tenant may use it. -/
def requireRoute (tenantId routeId : Int) (store : RouteStore) : Except RouteError GatewayRoute :=
  match (store.routes.find routeId).filter (routeVisible s tenantId) with
  | none => .error (.http 404 "Gateway route not found.")
  | some existing =>
      if existing.tenantId = some tenantId ∨
          (existing.tenantId = none ∧ assignedByToken (store.tokens tenantId) existing) then
        .ok existing
      else .error (.http 404 "Gateway route not found.")

/-- `update_route`.  The texts of the request are neither stripped nor checked. -/
def updateRoute (tenantId routeId : Int) (route : RouteRequest) (store : RouteStore) :
    Except RouteError RouteStore := do
  let _ ← requireRoute s tenantId routeId store
  match routeColumns routeId tenantId route with
  | none => .error .database
  | some r =>
      .ok {
        routes := store.routes.update (fun r' => r'.id = routeId) (fun r' => { r with id := r'.id })
          (fun _ => rfl)
        tenants := store.tenants
        nextId := store.nextId
        below := by
          intro r' hr'
          rcases mem_updateWhere.mp hr' with ⟨old, hold, ⟨-, rfl⟩ | ⟨-, rfl⟩⟩
          · exact store.below old hold
          · exact store.below old hold }

/-- `delete_route`. -/
def deleteRoute (tenantId routeId : Int) (store : RouteStore) : Except RouteError RouteStore := do
  let _ ← requireRoute s tenantId routeId store
  return {
    routes := store.routes.remove routeId
    tenants := store.tenants
    nextId := store.nextId
    below := fun r' hr' => store.below r' (Table.mem_remove.mp hr').1 }

/-- The row of a tenant after an update, when the request fits the columns. -/
def renamedProfile (req : TenantRequest) (row : TenantProfile) : Option TenantProfile := do
  let name ← columnText 255 req.name
  let status ← columnText 20 req.status
  return { id := row.id, name := name, status := some status, domain := row.domain }

/-- `update_tenant`. -/
def updateTenant (authenticatedTenantId tenantId : Int) (req : TenantRequest)
    (store : RouteStore) : Except RouteError RouteStore :=
  if tenantId ≠ authenticatedTenantId then
    .error (.http 403 "Cannot modify another tenant.")
  else
    match columnText 255 req.name, columnText 20 req.status with
    | some name, some status =>
        .ok { store with
          tenants := store.tenants.update (fun row => row.id = tenantId)
            (fun row => { row with name := name, status := some status }) (fun _ => rfl) }
    | _, _ => .error .database

/-! ## Runs -/

/-- A request of a tenant. -/
inductive RouteAction where
  | create (tenantId : Int) (route : RouteRequest)
  | update (tenantId routeId : Int) (route : RouteRequest)
  | delete (tenantId routeId : Int)
  | list (tenantId : Int)
  | select (tenantId : Int)
  | rename (authenticatedTenantId tenantId : Int) (req : TenantRequest)

/-- Who acts. -/
def RouteAction.tenantId : RouteAction → Int
  | .create tenantId _ | .update tenantId _ _ | .delete tenantId _ | .list tenantId
  | .select tenantId | .rename tenantId _ _ => tenantId

/-- What a request leaves. -/
def performRoute (store : RouteStore) : RouteAction → Except RouteError RouteStore
  | .create tenantId route => createRoute s tenantId route store
  | .update tenantId routeId route => updateRoute s tenantId routeId route store
  | .delete tenantId routeId => deleteRoute s tenantId routeId store
  | .list _ | .select _ => .ok store
  | .rename authenticatedTenantId tenantId req =>
      updateTenant authenticatedTenantId tenantId req store

/-- A route is assigned to the tenant it names, or, where it names none, to the tenants one of
whose tokens it carries. -/
def AssignedTo (store : RouteStore) (routeId tenantId : Int) : Prop :=
  ∃ r ∈ store.routes.rows, r.id = routeId ∧ (r.tenantId = some tenantId ∨
    (r.tenantId = none ∧ assignedByToken (store.tokens tenantId) r = true))

/-- The tables, and to whom each route is, or was, assigned. -/
structure Routing where
  store : RouteStore
  assigned : Int → Int → Prop

def Routing.start (store : RouteStore) : Routing :=
  ⟨store, AssignedTo store⟩

/-- The state after a request that is not refused. -/
def Routing.advance (w : Routing) (store : RouteStore) : Routing :=
  ⟨store, fun routeId tenantId => w.assigned routeId tenantId ∨ AssignedTo store routeId tenantId⟩

/-- A request is served; one that fails changes nothing. -/
def routeStep (w : Routing) (a : RouteAction) : Option Routing :=
  match performRoute s w.store a with
  | .error _ => some w
  | .ok store => some (w.advance store)

/-- The route is, and was, assigned to no other tenant. -/
def OnlyAssigned (w : Routing) (routeId tenantId : Int) : Prop :=
  ∀ other, w.assigned routeId other → other = tenantId

/-- No tenant can read, be routed through, change or delete a route that is, or was, assigned
to another. -/
structure RouteIsolated (w : Routing) : Prop where
  reads : ∀ tenantId, ∀ r ∈ getRoutes s tenantId w.store, OnlyAssigned w r.id tenantId
  routed : ∀ tenantId r, lookupRoute s tenantId w.store = some r → OnlyAssigned w r.id tenantId
  changes : ∀ a store, performRoute s w.store a = .ok store →
    ∀ r ∈ w.store.routes.rows, r ∉ store.routes.rows → OnlyAssigned w r.id a.tenantId

/-- At the start no route without a tenant carries tokens of two tenants, where the role
bypasses the row policies. -/
def Apart (store : RouteStore) : Prop :=
  s.bypassesPolicies = true → ∀ r ∈ store.routes.rows, r.tenantId = none → ∀ t t',
    assignedByToken (store.tokens t) r = true → assignedByToken (store.tokens t') r = true → t = t'

/-- Where the role bypasses the row policies, no tenant takes a name that makes a route without
a tenant its own that is, or was, assigned to another. -/
def KeepsApart (w : Routing) : RouteAction → Prop
  | .rename authenticatedTenantId tenantId req =>
      s.bypassesPolicies = true → tenantId = authenticatedTenantId → ∀ row row',
        w.store.tenants.find tenantId = some row → renamedProfile req row = some row' →
          ∀ r ∈ w.store.routes.rows, r.tenantId = none →
            assignedByToken (tenantTokens tenantId (some row')) r = true →
              OnlyAssigned w r.id tenantId
  | .create _ _ | .update _ _ _ | .delete _ _ | .list _ | .select _ => True

/-! ## What the handlers reach -/

/-- What all four handlers ask of a route. -/
def Reaches (store : RouteStore) (tenantId : Int) (r : GatewayRoute) : Prop :=
  r.tenantId = some tenantId ∨ (s.bypassesPolicies = true ∧ r.tenantId = none ∧
    assignedByToken (store.tokens tenantId) r = true)

variable {s} {store store' : RouteStore} {tenantId routeId : Int} {r : GatewayRoute}
  {w w' : Routing}

theorem mem_selectRoutes :
    r ∈ selectRoutes s tenantId store ↔ r ∈ store.routes.rows ∧
      (r.tenantId = some tenantId ∨ (s.bypassesPolicies = true ∧ r.tenantId = none)) := by
  unfold selectRoutes routeVisible
  rw [List.mem_insertionSort, List.mem_filter]
  refine and_congr_right fun _ => ?_
  by_cases hown : r.tenantId = some tenantId
  · simp [hown]
  · simp [hown]

/-- A tenant reads exactly the routes it reaches. -/
theorem mem_getRoutes :
    r ∈ getRoutes s tenantId store ↔ r ∈ store.routes.rows ∧ Reaches s store tenantId r := by
  unfold getRoutes Reaches
  rw [List.mem_filter, mem_selectRoutes, Bool.or_eq_true, decide_eq_true_eq]
  by_cases hown : r.tenantId = some tenantId
  · simp [hown]
  · simp only [hown, false_or]
    constructor
    · rintro ⟨⟨hr, hbypass, hnone⟩, htoken⟩
      exact ⟨hr, hbypass, hnone, htoken⟩
    · rintro ⟨hr, hbypass, hnone, htoken⟩
      exact ⟨⟨hr, hbypass, hnone⟩, htoken⟩

/-- A tenant is routed through a route that it reads. -/
theorem mem_getRoutes_of_lookupRoute (h : lookupRoute s tenantId store = some r) :
    r ∈ getRoutes s tenantId store := by
  unfold lookupRoute at h
  unfold getRoutes
  have howns := List.find?_some h
  exact List.mem_filter.mpr ⟨(List.mem_filter.mp (List.mem_of_find?_eq_some h)).1, howns⟩

/-- A tenant changes a route that it reaches. -/
theorem requireRoute_eq_ok (h : requireRoute s tenantId routeId store = .ok r) :
    r ∈ store.routes.rows ∧ r.id = routeId ∧ Reaches s store tenantId r := by
  unfold requireRoute at h
  split at h
  next => cases h
  next existing hexisting =>
    rcases Option.filter_eq_some_iff.mp hexisting with ⟨hfind, hvisible⟩
    split_ifs at h with howns
    cases h
    refine ⟨Table.find_mem hfind, Table.find_key hfind, ?_⟩
    rcases howns with hown | ⟨hnone, htoken⟩
    · exact Or.inl hown
    · refine Or.inr ⟨?_, hnone, htoken⟩
      simpa [routeVisible, hnone] using hvisible

/-- What a request that is not refused does to the routes. -/
structure RouteEffect (s : RouteSetting) (tenantId : Int) (store store' : RouteStore) : Prop where
  written : ∀ r ∈ store'.routes.rows, r ∈ store.routes.rows ∨ (r.tenantId = some tenantId ∧
    (r.id = store.nextId ∨ ∃ old ∈ store.routes.rows, old.id = r.id ∧ Reaches s store tenantId old))
  replaced : ∀ r ∈ store.routes.rows, r ∉ store'.routes.rows → Reaches s store tenantId r
  numbered : store.nextId ≤ store'.nextId

/-- A request that leaves the routes alone. -/
theorem RouteEffect.same (h : store'.routes = store.routes) (hnext : store'.nextId = store.nextId) :
    RouteEffect s tenantId store store' where
  written := by
    intro r hr
    rw [h] at hr
    exact Or.inl hr
  replaced := by
    intro r hr hgone
    rw [h] at hgone
    exact absurd hr hgone
  numbered := hnext.ge

/-- What a request writes is the tenant's own. -/
theorem routeColumns_eq_some {id : Int} {route : RouteRequest}
    (h : routeColumns id tenantId route = some r) : r.tenantId = some tenantId := by
  simp only [routeColumns, Option.bind_eq_bind, Option.bind_eq_some_iff] at h
  rcases h with ⟨_, _, _, _, _, _, _, _, _, _, _, _, h⟩
  cases h
  rfl

theorem createRoute_effect {route : RouteRequest}
    (h : createRoute s tenantId route store = .ok store') :
    RouteEffect s tenantId store store' ∧ store'.tenants = store.tenants := by
  unfold createRoute at h
  rcases bind_eq_ok h with ⟨-, -, hinsert⟩
  split at hinsert
  next => cases hinsert
  next r hcolumns =>
    have hown : r.tenantId = some tenantId := routeColumns_eq_some hcolumns
    cases hinsert
    refine ⟨⟨?_, ?_, ?_⟩, rfl⟩
    · intro r' hr'
      rcases List.mem_append.mp hr' with hr' | hr'
      · exact Or.inl hr'
      · rw [List.mem_singleton.mp hr']
        exact Or.inr ⟨hown, Or.inl rfl⟩
    · intro r' hr' hgone
      exact absurd (List.mem_append_left _ hr') hgone
    · exact Int.le_add_one le_rfl

theorem updateRoute_effect {route : RouteRequest}
    (h : updateRoute s tenantId routeId route store = .ok store') :
    RouteEffect s tenantId store store' ∧ store'.tenants = store.tenants := by
  unfold updateRoute at h
  rcases bind_eq_ok h with ⟨existing, hrequire, hupdate⟩
  rcases requireRoute_eq_ok hrequire with ⟨hexisting, hid, hreaches⟩
  split at hupdate
  next => cases hupdate
  next r hcolumns =>
    have hown : r.tenantId = some tenantId := routeColumns_eq_some hcolumns
    cases hupdate
    refine ⟨⟨?_, ?_, le_rfl⟩, rfl⟩
    · intro r' hr'
      rcases mem_updateWhere.mp hr' with ⟨old, hold, ⟨hmatch, rfl⟩ | ⟨-, rfl⟩⟩
      · refine Or.inr ⟨hown, Or.inr ⟨existing, hexisting, ?_, hreaches⟩⟩
        exact hid.trans (of_decide_eq_true hmatch).symm
      · exact Or.inl hold
    · intro r' hr' hgone
      by_cases hmatch : r'.id = routeId
      · rw [eq_of_key store.routes.nodup hr' hexisting (hmatch.trans hid.symm)]
        exact hreaches
      · exact absurd (mem_updateWhere.mpr ⟨r', hr', Or.inr ⟨decide_eq_false hmatch, rfl⟩⟩) hgone

theorem deleteRoute_effect (h : deleteRoute s tenantId routeId store = .ok store') :
    RouteEffect s tenantId store store' ∧ store'.tenants = store.tenants := by
  unfold deleteRoute at h
  rcases bind_eq_ok h with ⟨existing, hrequire, hdelete⟩
  rcases requireRoute_eq_ok hrequire with ⟨hexisting, hid, hreaches⟩
  cases hdelete
  refine ⟨⟨?_, ?_, le_rfl⟩, rfl⟩
  · intro r' hr'
    exact Or.inl (Table.mem_remove.mp hr').1
  · intro r' hr' hgone
    by_cases hmatch : r'.id = routeId
    · rw [eq_of_key store.routes.nodup hr' hexisting (hmatch.trans hid.symm)]
      exact hreaches
    · exact absurd (Table.mem_remove.mpr ⟨hr', hmatch⟩) hgone

/-- A tenant renames itself only, and no other tokens change. -/
theorem updateTenant_eq_ok {authenticatedTenantId : Int} {req : TenantRequest}
    (h : updateTenant authenticatedTenantId tenantId req store = .ok store') :
    tenantId = authenticatedTenantId ∧ store'.routes = store.routes ∧
      store'.nextId = store.nextId ∧
      (∀ t, t ≠ tenantId → store'.tokens t = store.tokens t) ∧
      (∀ row, store.tenants.find tenantId = some row → ∃ row', renamedProfile req row = some row' ∧
        store'.tokens tenantId = tenantTokens tenantId (some row')) ∧
      (store.tenants.find tenantId = none → store'.tokens tenantId = store.tokens tenantId) := by
  unfold updateTenant at h
  split_ifs at h with hself
  split at h
  next name status hname hstatus =>
    cases h
    have hfind : ∀ t, (store.tenants.update (fun row => decide (row.id = tenantId))
        (fun row => { row with name := name, status := some status }) (fun _ => rfl)).find t =
          (store.tenants.find t).map fun row =>
            if decide (row.id = tenantId) = true then
              { row with name := name, status := some status } else row :=
      fun t => Table.find_update
    refine ⟨not_not.mp hself, rfl, rfl, ?_, ?_, ?_⟩
    · intro t ht
      unfold RouteStore.tokens
      rw [hfind]
      cases hrow : store.tenants.find t with
      | none => rfl
      | some row =>
          have hne : ¬ row.id = tenantId := fun hid => ht ((Table.find_key hrow).symm.trans hid)
          simp [hne]
    · intro row hrow
      refine ⟨{ row with name := name, status := some status }, ?_, ?_⟩
      · simp [renamedProfile, hname, hstatus]
      · unfold RouteStore.tokens
        rw [hfind, hrow, Option.map_some, if_pos (decide_eq_true (Table.find_key hrow))]
    · intro hrow
      unfold RouteStore.tokens
      rw [hfind, hrow]
      rfl
  next => cases h

/-- Every request that is not refused writes its tenant's own routes, in place of routes that
the tenant reaches. -/
theorem performRoute_effect {a : RouteAction} (h : performRoute s store a = .ok store') :
    RouteEffect s a.tenantId store store' := by
  unfold performRoute at h
  cases a with
  | create tenantId route => exact (createRoute_effect h).1
  | update tenantId routeId route => exact (updateRoute_effect h).1
  | delete tenantId routeId => exact (deleteRoute_effect h).1
  | list tenantId =>
      cases h
      exact RouteEffect.same rfl rfl
  | select tenantId =>
      cases h
      exact RouteEffect.same rfl rfl
  | rename authenticatedTenantId tenantId req =>
      rcases updateTenant_eq_ok h with ⟨-, hroutes, hnext, -⟩
      exact RouteEffect.same hroutes hnext

/-! ## Isolation -/

/-- Each route that a tenant reaches is, and was, assigned to no other. -/
def Guarded (s : RouteSetting) (w : Routing) : Prop :=
  ∀ r ∈ w.store.routes.rows, ∀ tenantId, Reaches s w.store tenantId r →
    OnlyAssigned w r.id tenantId

/-- Reading is the least that a tenant can do with a route. -/
theorem routeIsolated_iff : RouteIsolated s w ↔ Guarded s w := by
  constructor
  · intro h r hr tenantId hreaches
    exact h.reads tenantId r (mem_getRoutes.mpr ⟨hr, hreaches⟩)
  · intro h
    have hreads : ∀ tenantId, ∀ r ∈ getRoutes s tenantId w.store, OnlyAssigned w r.id tenantId := by
      intro tenantId r hr
      rcases mem_getRoutes.mp hr with ⟨hmem, hreaches⟩
      exact h r hmem tenantId hreaches
    refine ⟨hreads, ?_, ?_⟩
    · intro tenantId r hlookup
      exact hreads tenantId r (mem_getRoutes_of_lookupRoute hlookup)
    · intro a store hperform r hr hgone
      exact h r hr a.tenantId ((performRoute_effect hperform).replaced r hr hgone)

/-- What the steps of an isolated run keep. -/
structure RoutingSound (w : Routing) : Prop where
  current : ∀ routeId tenantId, AssignedTo w.store routeId tenantId → w.assigned routeId tenantId
  owned : ∀ r ∈ w.store.routes.rows, ∀ tenantId, r.tenantId = some tenantId →
    OnlyAssigned w r.id tenantId
  given : ∀ routeId tenantId, w.assigned routeId tenantId → routeId < w.store.nextId

/-- To whom a route is assigned. -/
theorem assignedTo_iff (hr : r ∈ store.routes.rows) {other : Int} :
    AssignedTo store r.id other ↔ r.tenantId = some other ∨
      (r.tenantId = none ∧ assignedByToken (store.tokens other) r = true) := by
  constructor
  · rintro ⟨r', hr', hid, hassigned⟩
    rw [eq_of_key store.routes.nodup hr hr' hid.symm]
    exact hassigned
  · intro hassigned
    exact ⟨r, hr, rfl, hassigned⟩

/-- A route that a tenant writes is its own from then on; the others stay as they are. -/
theorem RoutingSound.write (h : RoutingSound w) (hguarded : Guarded s w)
    (heffect : RouteEffect s tenantId w.store store')
    (htokens : ∀ t, store'.tokens t = w.store.tokens t) :
    RoutingSound (w.advance store') ∧ Guarded s (w.advance store') := by
  have hbefore : ∀ r ∈ store'.routes.rows, r ∈ w.store.routes.rows ∨
      (r.tenantId = some tenantId ∧ OnlyAssigned w r.id tenantId) := by
    intro r hr
    rcases heffect.written r hr with hold | ⟨hown, hnew | ⟨old, hold, hid, hreaches⟩⟩
    · exact Or.inl hold
    · refine Or.inr ⟨hown, ?_⟩
      intro other hother
      have hlt := h.given r.id other hother
      omega
    · refine Or.inr ⟨hown, ?_⟩
      rw [← hid]
      exact hguarded old hold tenantId hreaches
  have honly : ∀ r ∈ store'.routes.rows, ∀ t, r.tenantId = some t ∨ r ∈ w.store.routes.rows →
      OnlyAssigned w r.id t → OnlyAssigned (w.advance store') r.id t := by
    intro r hr t hsame ht other hother
    rcases hother with hother | hother
    · exact ht other hother
    · rcases (assignedTo_iff hr).mp hother with hown | ⟨hnone, htoken⟩
      · rcases hsame with hown' | hold
        · exact Option.some.inj (hown.symm.trans hown')
        · exact ht other (h.current r.id other ((assignedTo_iff hold).mpr (Or.inl hown)))
      · rcases hsame with hown' | hold
        · rw [hnone] at hown'
          cases hown'
        · rw [htokens] at htoken
          exact ht other (h.current r.id other
            ((assignedTo_iff hold).mpr (Or.inr ⟨hnone, htoken⟩)))
  refine ⟨⟨fun _ _ => Or.inr, ?_, ?_⟩, ?_⟩
  · intro r hr t hown
    refine honly r hr t (Or.inl hown) ?_
    rcases hbefore r hr with hold | ⟨hown', honly'⟩
    · exact h.owned r hold t hown
    · rw [Option.some.inj (hown.symm.trans hown')]
      exact honly'
  · intro routeId other hother
    rcases hother with hother | ⟨r, hr, hid, -⟩
    · exact (h.given routeId other hother).trans_le heffect.numbered
    · rw [← hid]
      exact store'.below r hr
  · intro r hr t hreaches
    rcases hbefore r hr with hold | ⟨hown, honly'⟩
    · refine honly r hr t (Or.inr hold) (hguarded r hold t ?_)
      rcases hreaches with hown | ⟨hbypass, hnone, htoken⟩
      · exact Or.inl hown
      · rw [Routing.advance, htokens] at htoken
        exact Or.inr ⟨hbypass, hnone, htoken⟩
    · have ht : t = tenantId := by
        rcases hreaches with hown' | ⟨-, hnone, -⟩
        · exact Option.some.inj (hown'.symm.trans hown)
        · rw [hnone] at hown
          cases hown
      subst ht
      exact honly r hr t (Or.inl hown) honly'

/-- A rename keeps the routes guarded exactly when the tenant's tokens are then on no route
without a tenant that is, or was, assigned to another. -/
theorem RoutingSound.rename (h : RoutingSound w) (hguarded : Guarded s w)
    (hroutes : store'.routes = w.store.routes) (hnext : store'.nextId = w.store.nextId)
    (htokens : ∀ t, t ≠ tenantId → store'.tokens t = w.store.tokens t) :
    RoutingSound (w.advance store') ∧ (Guarded s (w.advance store') ↔
      (s.bypassesPolicies = true → ∀ r ∈ w.store.routes.rows, r.tenantId = none →
        assignedByToken (store'.tokens tenantId) r = true → OnlyAssigned w r.id tenantId)) := by
  have hafter : ∀ r ∈ w.store.routes.rows, ∀ other, (w.advance store').assigned r.id other →
      w.assigned r.id other ∨ (other = tenantId ∧ r.tenantId = none ∧
        assignedByToken (store'.tokens tenantId) r = true) := by
    intro r hr other hother
    rcases hother with hother | hother
    · exact Or.inl hother
    · rcases (assignedTo_iff (hroutes ▸ hr)).mp hother with hown | ⟨hnone, htoken⟩
      · exact Or.inl (h.current r.id other ((assignedTo_iff hr).mpr (Or.inl hown)))
      · by_cases hself : other = tenantId
        · rw [hself] at htoken
          exact Or.inr ⟨hself, hnone, htoken⟩
        · rw [htokens other hself] at htoken
          exact Or.inl (h.current r.id other ((assignedTo_iff hr).mpr (Or.inr ⟨hnone, htoken⟩)))
  refine ⟨⟨fun _ _ => Or.inr, ?_, ?_⟩, ?_, ?_⟩
  · intro r hr t hown other hother
    have hr' : r ∈ w.store.routes.rows := hroutes ▸ hr
    rcases hafter r hr' other hother with hold | ⟨-, hnone, -⟩
    · exact h.owned r hr' t hown other hold
    · rw [hnone] at hown
      cases hown
  · intro routeId other hother
    dsimp only [Routing.advance]
    rw [hnext]
    rcases hother with hother | ⟨r, hr, hid, -⟩
    · exact h.given routeId other hother
    · rw [← hid]
      exact w.store.below r (hroutes ▸ hr)
  · intro hguarded' hbypass r hr hnone htoken other hother
    exact hguarded' r (hroutes.symm ▸ hr) tenantId (Or.inr ⟨hbypass, hnone, htoken⟩) other
      (Or.inl hother)
  · intro hapart r hr t hreaches other hother
    have hr' : r ∈ w.store.routes.rows := hroutes ▸ hr
    have honly : OnlyAssigned w r.id t ∧ ∀ hnone : r.tenantId = none,
        assignedByToken (store'.tokens tenantId) r = true → t = tenantId := by
      rcases hreaches with hown | ⟨hbypass, hnone, htoken⟩
      · refine ⟨h.owned r hr' t hown, ?_⟩
        intro hnone
        rw [hnone] at hown
        cases hown
      · by_cases hself : t = tenantId
        · subst hself
          exact ⟨hapart hbypass r hr' hnone htoken, fun _ _ => rfl⟩
        · have hold : assignedByToken (w.store.tokens t) r = true := by
            rw [← htokens t hself]
            exact htoken
          refine ⟨hguarded r hr' t (Or.inr ⟨hbypass, hnone, hold⟩), ?_⟩
          intro _ hnew
          exact hapart hbypass r hr' hnone hnew t
            (h.current r.id t ((assignedTo_iff hr').mpr (Or.inr ⟨hnone, hold⟩)))
    rcases hafter r hr' other hother with hold | ⟨hself, hnone, htoken⟩
    · exact honly.1 other hold
    · exact hself.trans (honly.2 hnone htoken).symm

/-- A rename that is refused would give the tenant no tokens. -/
theorem keepsApart_of_error {a : RouteAction} {e : RouteError}
    (h : performRoute s w.store a = .error e) : KeepsApart s w a := by
  cases a with
  | rename authenticatedTenantId tenantId req =>
      intro _ hself row row' _ hrenamed
      simp only [renamedProfile, Option.bind_eq_bind, Option.bind_eq_some_iff] at hrenamed
      rcases hrenamed with ⟨name, hname, status, hstatus, -⟩
      simp [performRoute, updateTenant, hself, hname, hstatus] at h
  | create tenantId route => trivial
  | update tenantId routeId route => trivial
  | delete tenantId routeId => trivial
  | list tenantId => trivial
  | select tenantId => trivial

/-- A request that is not refused leaves the routes guarded exactly when it keeps them apart. -/
theorem performRoute_guarded_iff {a : RouteAction} (hsound : RoutingSound w)
    (hguarded : Guarded s w) (h : performRoute s w.store a = .ok store') :
    RoutingSound (w.advance store') ∧ (Guarded s (w.advance store') ↔ KeepsApart s w a) := by
  have heffect := performRoute_effect h
  unfold performRoute at h
  have hkept : store'.tenants = w.store.tenants →
      RoutingSound (w.advance store') ∧ Guarded s (w.advance store') := by
    intro htenants
    refine hsound.write hguarded heffect ?_
    intro t
    unfold RouteStore.tokens
    rw [htenants]
  cases a with
  | create tenantId route =>
      rcases hkept (createRoute_effect h).2 with ⟨hsound', hguarded'⟩
      exact ⟨hsound', iff_of_true hguarded' trivial⟩
  | update tenantId routeId route =>
      rcases hkept (updateRoute_effect h).2 with ⟨hsound', hguarded'⟩
      exact ⟨hsound', iff_of_true hguarded' trivial⟩
  | delete tenantId routeId =>
      rcases hkept (deleteRoute_effect h).2 with ⟨hsound', hguarded'⟩
      exact ⟨hsound', iff_of_true hguarded' trivial⟩
  | list tenantId =>
      rcases hkept (by cases h; rfl) with ⟨hsound', hguarded'⟩
      exact ⟨hsound', iff_of_true hguarded' trivial⟩
  | select tenantId =>
      rcases hkept (by cases h; rfl) with ⟨hsound', hguarded'⟩
      exact ⟨hsound', iff_of_true hguarded' trivial⟩
  | rename authenticatedTenantId tenantId req =>
      rcases updateTenant_eq_ok h with ⟨hself, hroutes, hnext, hothers, hrow, hnorow⟩
      rcases hsound.rename hguarded hroutes hnext hothers with ⟨hsound', hiff⟩
      refine ⟨hsound', hiff.trans ?_⟩
      cases hfind : w.store.tenants.find tenantId with
      | none =>
          refine iff_of_true ?_ ?_
          · intro hbypass r hr hnone htoken
            rw [hnorow hfind] at htoken
            exact hguarded r hr tenantId (Or.inr ⟨hbypass, hnone, htoken⟩)
          · intro _ _ row row' hsome
            rw [hfind] at hsome
            cases hsome
      | some row =>
          rcases hrow row hfind with ⟨row', hrenamed, htokens⟩
          rw [htokens]
          constructor
          · intro hapart hbypass _ row₁ row₂ hrow₁ hrow₂
            rw [hfind] at hrow₁
            cases hrow₁
            rw [hrenamed] at hrow₂
            cases hrow₂
            exact hapart hbypass
          · intro hapart hbypass
            exact hapart hbypass hself row row' hfind hrenamed

/-- A request leaves the routes guarded exactly when it keeps them apart. -/
theorem routeStep_guarded_iff {a : RouteAction} (hsound : RoutingSound w) (hguarded : Guarded s w)
    (hstep : routeStep s w a = some w') :
    RoutingSound w' ∧ (Guarded s w' ↔ KeepsApart s w a) := by
  unfold routeStep at hstep
  split at hstep
  next e he =>
    cases hstep
    exact ⟨hsound, iff_of_true hguarded (keepsApart_of_error he)⟩
  next store hok =>
    cases hstep
    exact performRoute_guarded_iff hsound hguarded hok

/-- To whom a route was assigned is not forgotten. -/
theorem assigned_of_step {a : RouteAction} (hstep : routeStep s w a = some w')
    (h : w.assigned routeId tenantId) : w'.assigned routeId tenantId := by
  unfold routeStep at hstep
  split at hstep
  next =>
    cases hstep
    exact h
  next =>
    cases hstep
    exact Or.inl h

theorem routingSound_start (store : RouteStore) : RoutingSound (Routing.start store) where
  current := fun _ _ => id
  owned := by
    intro r hr tenantId hown other hother
    rcases (assignedTo_iff hr).mp hother with hown' | ⟨hnone, -⟩
    · exact Option.some.inj (hown'.symm.trans hown)
    · rw [hnone] at hown
      cases hown
  given := by
    rintro routeId other ⟨r, hr, hid, -⟩
    rw [← hid]
    exact store.below r hr

/-- The tables a run starts from are guarded when they are apart. -/
theorem guarded_start (store : RouteStore) : Guarded s (Routing.start store) ↔ Apart s store := by
  constructor
  · intro h hbypass r hr hnone t t' ht ht'
    exact h r hr t' (Or.inr ⟨hbypass, hnone, ht'⟩) t ((assignedTo_iff hr).mpr (Or.inr ⟨hnone, ht⟩))
  · intro h r hr tenantId hreaches other hother
    rcases hreaches with hown | ⟨hbypass, hnone, htoken⟩
    · exact (routingSound_start store).owned r hr tenantId hown other hother
    · rcases (assignedTo_iff hr).mp hother with hown | ⟨-, htoken'⟩
      · rw [hnone] at hown
        cases hown
      · exact h hbypass r hr hnone other tenantId htoken' htoken

/-- No tenant reaches a route that is, or was, assigned to another, in any state of a run,
exactly when, where the role bypasses the row policies, no route without a tenant carries tokens
of two tenants at the start, and no tenant takes a name that brings it such a route. -/
theorem routes_isolated_iff (s : RouteSetting) (store : RouteStore) (as : List RouteAction) :
    Always (routeStep s) (RouteIsolated s) (Routing.start store) as ↔
      Apart s store ∧ Respects (routeStep s) (KeepsApart s) (Routing.start store) as := by
  have htotal : ∃ w, run (routeStep s) (Routing.start store) as = some w := by
    refine run_total ?_ _ _
    intro w a
    unfold routeStep
    cases performRoute s w.store a with
    | error e => exact ⟨w, rfl⟩
    | ok store => exact ⟨w.advance store, rfl⟩
  have hiff : ∀ hapart : Apart s store,
      Always (routeStep s) (RouteIsolated s) (Routing.start store) as ↔
        Respects (routeStep s) (KeepsApart s) (Routing.start store) as := by
    intro hapart
    refine always_iff ?_ (routingSound_start store)
      (routeIsolated_iff.mpr ((guarded_start store).mpr hapart)) htotal
    intro w a w' hsound hisolated hstep
    rcases routeStep_guarded_iff hsound (routeIsolated_iff.mp hisolated) hstep with ⟨hsound', h⟩
    exact ⟨fun _ => hsound', routeIsolated_iff.trans h⟩
  constructor
  · intro halways
    have hapart := (guarded_start store).mp
      (routeIsolated_iff.mp (halways [] as (Routing.start store) rfl rfl))
    exact ⟨hapart, (hiff hapart).mp halways⟩
  · rintro ⟨hapart, hrespects⟩
    exact (hiff hapart).mpr hrespects

end

/-! ## A route that a tenant takes over -/

/-- A route from before routes had tenants, assigned to the tenant acme by its name. -/
def sampleRouteStore : RouteStore where
  routes := ⟨[⟨7, none, "chat", "openai", "https://api.openai.com/v1", "gpt-4o", some 100,
    some true, some true, some "acme"⟩], by decide⟩
  tenants := ⟨[⟨1, "acme", some "active", some "acme.com"⟩,
    ⟨2, "globex", some "active", some "globex.com"⟩], by decide⟩
  nextId := 8
  below := by decide

/-- The interpreter, and a role that bypasses row policies. -/
def sampleRouteSetting : RouteSetting :=
  ⟨asciiText, true⟩

/-- The second tenant takes the name of the first. -/
def renameToAcme : RouteAction :=
  .rename 2 2 ⟨"acme", "active"⟩

/-- It points the route elsewhere. -/
def takeRoute : RouteAction :=
  .update 2 7 ⟨"chat", "openai", "https://globex.com/v1", "gpt-4o", 100, true, true, "globex"⟩

/-- A tenant that takes the name of another reads the route assigned to it, and can make it its
own, so that the other has it no more. -/
theorem renamed_tenant_takes_route :
    (getRoutes sampleRouteSetting 1 sampleRouteStore).map GatewayRoute.id = [7] ∧
      getRoutes sampleRouteSetting 2 sampleRouteStore = [] ∧
      (∃ w, run (routeStep sampleRouteSetting) (Routing.start sampleRouteStore)
          [renameToAcme, takeRoute] = some w ∧
        getRoutes sampleRouteSetting 1 w.store = [] ∧
        (getRoutes sampleRouteSetting 2 w.store).map GatewayRoute.id = [7]) ∧
      ¬ Always (routeStep sampleRouteSetting) (RouteIsolated sampleRouteSetting)
        (Routing.start sampleRouteStore) [renameToAcme, takeRoute] := by
  refine ⟨by decide +kernel, by decide +kernel, ?_, ?_⟩
  · have hrun : (run (routeStep sampleRouteSetting) (Routing.start sampleRouteStore)
        [renameToAcme, takeRoute]).map (fun w => (getRoutes sampleRouteSetting 1 w.store,
          (getRoutes sampleRouteSetting 2 w.store).map GatewayRoute.id)) = some ([], [7]) := by
      decide +kernel
    rcases Option.map_eq_some_iff.mp hrun with ⟨w, hw, hroutes⟩
    injection hroutes with hfirst hsecond
    exact ⟨w, hw, hfirst, hsecond⟩
  · intro halways
    have hrun : (run (routeStep sampleRouteSetting) (Routing.start sampleRouteStore)
        [renameToAcme]).map (fun w => (getRoutes sampleRouteSetting 2 w.store).map
          GatewayRoute.id) = some [7] := by
      decide +kernel
    rcases Option.map_eq_some_iff.mp hrun with ⟨w, hw, hroutes⟩
    have hisolated := halways [renameToAcme] [takeRoute] w rfl hw
    rcases List.map_eq_singleton_iff.mp hroutes with ⟨r, hsingle, hid⟩
    have honly := hisolated.reads 2 r (by simp [hsingle])
    rw [hid] at honly
    have hassigned : w.assigned 7 1 := by
      rcases run_cons_eq_some.mp hw with ⟨w', hstep, hnil⟩
      cases hnil
      refine assigned_of_step hstep ⟨_, List.mem_singleton.mpr rfl, rfl, Or.inr ⟨rfl, ?_⟩⟩
      decide +kernel
    exact absurd (honly 1 hassigned) (by decide)

end AuthClaw.Gateway
