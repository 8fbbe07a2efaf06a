import AuthClaw.Gateway.Paths
import AuthClaw.Library.FixedWindow
import AuthClaw.Library.PythonText
import AuthClaw.Library.StepSystem
import Mathlib.Logic.Function.Basic

/-!
# The rate limit of the gateway

The middleware resolves the tenant, looks its limit up, counts the request in Redis or in
memory, and runs the handler.  Each of these may raise: an `HTTPException` is answered, and
after any other exception the handler is run without a count, also when it was the handler
that raised.  Times are in microseconds.

Main results:

- Theorem {lit}`refused_not_run`: a refused request does not run the handler.
- Theorem {lit}`rate_limited`: when the handler runs once and no window exceeds its limit.
-/

namespace AuthClaw.Gateway

open PythonText StepSystem FixedWindow

/-! ## Outcomes -/

/-- What a call raises: an `HTTPException`, another `Exception`, or what is neither. -/
inductive Raised where
  | http (status : Nat) (detail : String)
  | exception
  | exit
deriving DecidableEq

/-- A response: its status, the content of a JSON response, and its headers. -/
structure Response where
  status : Nat
  content : List (String × Json)
  headers : List (String × String)

/-- How the calls of Redis go: each is answered, `INCR` does not reach the server or its
answer is lost, or `EXPIRE` raises, once the server has set it or not. -/
inductive RedisOutcome where
  | answers
  | unreached (e : Raised)
  | unanswered (e : Raised)
  | expireFails (e : Raised) (set : Bool)

/-- What a call of Redis raises. -/
def RedisOutcome.raised : RedisOutcome → Option Raised
  | .answers => none
  | .unreached e | .unanswered e | .expireFails e _ => some e

/-- The environment of the middleware. -/
structure RateSetting where
  requireGoGateway : Bool
  rateLimitEnabled : Bool
  redisUrl : Bool
  production : Bool
  requireRedis : Bool

/-- A request: its time, path and headers, and how the calls made for it go; the handler is
run as often as the middleware calls it. -/
structure RateRequest where
  now : Int
  path : String
  goHeader : Option String
  apiKey : Option String
  authorization : Option String
  resolve : Option String → Option String → Except Raised Int
  limitOf : Int → Except Raised Int
  redis : RedisOutcome
  handler : Nat → Except Raised Response

/-! ## Counters -/

/-- What counts a request. -/
inductive Backend where
  | redis
  | memory
deriving DecidableEq

def Backend.name : Backend → String
  | .redis => "redis"
  | .memory => "memory"

/-- A counter of Redis. -/
structure RedisCounter where
  count : Nat
  expiresAt : Option Int

/-- A tenant and a minute; the key of Redis is `authclaw:rate:` and both. -/
abbrev RateKey := Int × Int

/-- The counters. -/
structure Counters where
  redis : RateKey → Option RedisCounter
  memory : RateKey → Option Nat

/-- `int(time.time() // 60)`. -/
def minute (now : Int) : Int :=
  now / 60000000

/-- `INCR`: a counter that has expired starts again. -/
def incr (key : RateKey) (now : Int) (redis : RateKey → Option RedisCounter) : RedisCounter :=
  match redis key with
  | none => ⟨1, none⟩
  | some c =>
      if c.expiresAt.any (fun x => x ≤ now) then ⟨1, none⟩ else ⟨c.count + 1, c.expiresAt⟩

/-- The count in memory, where the keys of earlier minutes are dropped. -/
def consumeInMemory (key : RateKey) (limit : Int) (counters : Counters) :
    (Bool × Int × Backend) × Counters :=
  let count := (counters.memory key).getD 0 + 1
  let memory := Function.update counters.memory key (some count)
  ((decide (count ≤ limit), max 0 (limit - count), .memory),
    { counters with memory := fun k => if k.2 < key.2 - 1 then none else memory k })

/-- After Redis raised: where it is required the exception goes on. -/
def redisFailed (s : RateSetting) (key : RateKey) (limit : Int) (e : Raised)
    (counters : Counters) : Except Raised (Bool × Int × Backend) × Counters :=
  if e = .exit ∨ s.production ∨ s.requireRedis then (.error e, counters)
  else
    let (verdict, counters) := consumeInMemory key limit counters
    (.ok verdict, counters)

/-- `_consume_rate_limit_token`. -/
def consumeRateLimitToken (s : RateSetting) (outcome : RedisOutcome) (now tenantId limit : Int)
    (counters : Counters) : Except Raised (Bool × Int × Backend) × Counters :=
  let key : RateKey := (tenantId, minute now)
  if s.redisUrl then
    let c := incr key now counters.redis
    let counted : RedisCounter → Counters :=
      fun c => { counters with redis := Function.update counters.redis key (some c) }
    let expiring : RedisCounter := { c with expiresAt := some (now + 90000000) }
    let verdict := (decide (c.count ≤ limit), max 0 (limit - c.count), Backend.redis)
    match outcome with
    | .unreached e => redisFailed s key limit e counters
    | .unanswered e => redisFailed s key limit e (counted c)
    | .expireFails e set =>
        if c.count = 1 then
          redisFailed s key limit e (counted (if set then expiring else c))
        else (.ok verdict, counted c)
    | .answers => (.ok verdict, counted (if c.count = 1 then expiring else c))
  else
    let (verdict, counters) := consumeInMemory key limit counters
    (.ok verdict, counters)

/-! ## The middleware -/

/-- `response.headers[name] = value`. -/
def Response.setHeader (name value : String) (r : Response) : Response :=
  { r with headers := r.headers.filter (fun h => h.1 ≠ name) ++ [(name, value)] }

/-- What came of a request: the response, how often the handler was run, the tenant that was
resolved, and the token of the limiter. -/
structure Served where
  result : Except Raised Response
  runs : Nat
  tenant : Option Int
  token : Option (Token (RateKey × Backend))

/-- What the middleware does with an exception: it runs the handler after one that is not an
`HTTPException`. -/
def caught (r : RateRequest) (runs : Nat) (tenant : Option Int)
    (token : Option (Token (RateKey × Backend))) : Raised → Served
  | .http status detail => ⟨.ok ⟨status, [("detail", .str detail)], []⟩, runs, tenant, token⟩
  | .exception => ⟨r.handler runs, runs + 1, tenant, token⟩
  | .exit => ⟨.error .exit, runs, tenant, token⟩

/-- The response to a request that is refused. -/
def rateLimitExceeded (tenantId limit : Int) (backend : Backend) : Response :=
  ⟨429, [("error", .str "rate_limit_exceeded"), ("limit_rpm", .int limit),
    ("tenant_id", .int tenantId)],
    [("X-RateLimit-Limit", toString limit), ("X-RateLimit-Remaining", "0"),
      ("X-RateLimit-Backend", backend.name)]⟩

/-- The headers of a response to a request that is counted. -/
def withRateHeaders (limit remaining : Int) (backend : Backend) (response : Response) :
    Response :=
  ((response.setHeader "X-RateLimit-Limit" (toString limit)).setHeader
    "X-RateLimit-Remaining" (toString remaining)).setHeader "X-RateLimit-Backend" backend.name

/-- The key a request is made with. -/
def presentedKey (apiKey authorization : Option String) : Option String :=
  match authorization with
  | some a => if begins "Bearer " a then some (dropFront 7 a) else apiKey
  | none => apiKey

/-- The handler of a request that is counted. -/
def serveCounted (r : RateRequest) (tenantId limit : Int) (verdict : Bool × Int × Backend) :
    Served :=
  let (allowed, remaining, backend) := verdict
  let token := some ⟨((tenantId, minute r.now), backend), limit, allowed⟩
  if !allowed then ⟨.ok (rateLimitExceeded tenantId limit backend), 0, some tenantId, token⟩
  else
    match r.handler 0 with
    | .ok response => ⟨.ok (withRateHeaders limit remaining backend response), 1, some tenantId,
        token⟩
    | .error e => caught r 1 (some tenantId) token e

/-- A request whose rate is limited. -/
def serveLimited (s : RateSetting) (r : RateRequest) (counters : Counters) : Served × Counters :=
  match r.resolve (presentedKey r.apiKey r.authorization) r.authorization with
  | .error e => (caught r 0 none none e, counters)
  | .ok tenantId =>
      match r.limitOf tenantId with
      | .error e => (caught r 0 (some tenantId) none e, counters)
      | .ok limit =>
          match consumeRateLimitToken s r.redis r.now tenantId limit counters with
          | (.error e, counters) => (caught r 0 (some tenantId) none e, counters)
          | (.ok verdict, counters) => (serveCounted r tenantId limit verdict, counters)

/-- `enterprise_gateway_middleware`. -/
def enterpriseGatewayMiddleware (s : RateSetting) (r : RateRequest) (counters : Counters) :
    Served × Counters :=
  if gatewayRuntimePath r.path then
    if s.requireGoGateway ∧ r.goHeader ≠ some "go" then
      (⟨.ok ⟨426, [("error", .str "go_gateway_required"),
        ("message", .str "Route gateway traffic through the AuthClaw Go gateway.")], []⟩, 0, none,
        none⟩, counters)
    else if s.rateLimitEnabled then serveLimited s r counters
    else (⟨r.handler 0, 1, none, none⟩, counters)
  else (⟨r.handler 0, 1, none, none⟩, counters)

/-! ## Runs -/

/-- A request that was served, and its minute. -/
structure Entry where
  window : Int
  served : Served

/-- The counters, the time of the last request, and what was served. -/
structure Limiter where
  counters : Counters
  clock : Int
  log : List Entry

/-- Nothing is counted. -/
def Limiter.start (clock : Int) : Limiter :=
  ⟨⟨fun _ => none, fun _ => none⟩, clock, []⟩

/-- A request, which always ends. -/
def limiterStep (s : RateSetting) (st : Limiter) (r : RateRequest) : Option Limiter :=
  let (served, counters) := enterpriseGatewayMiddleware s r st.counters
  some ⟨counters, r.now, st.log ++ [⟨minute r.now, served⟩]⟩

/-- The handler is run at most once, and never for a request that was refused. -/
def Served.RunsOnce (served : Served) : Prop :=
  served.runs ≤ 1 ∧ ∀ token, served.token = some token → token.granted = false → served.runs = 0

/-- The requests of a tenant that were admitted in a minute. -/
def admitted (tenant window : Int) (log : List Entry) : Nat :=
  log.countP (fun e => e.served.tenant = some tenant ∧ e.window = window ∧ 0 < e.served.runs)

/-- In a minute in which one backend counts a tenant, no more requests are admitted for it than
the limits that were looked up for it allow. -/
def WithinLimit (log : List Entry) : Prop :=
  ∀ tenant window backend limit, 0 ≤ limit →
    (∃ token : Token (RateKey × Backend), token.key = ((tenant, window), backend) ∧
      ∃ e ∈ log, e.served.token = some token) →
    (∀ token : Token (RateKey × Backend), token.key.1 = (tenant, window) →
      (∃ e ∈ log, e.served.token = some token) →
      token.key.2 = backend ∧ token.limit ≤ limit) →
    (admitted tenant window log : Int) ≤ limit

/-- What the limiter is for. -/
def RateLimited (st : Limiter) : Prop :=
  (∀ e ∈ st.log, e.served.RunsOnce) ∧ WithinLimit st.log

/-- Time goes on; and once the tenant is resolved, neither the lookup of its limit, nor Redis
where it is required, nor the handler raises what is not an `HTTPException`. -/
def KeepsCount (s : RateSetting) (st : Limiter) (r : RateRequest) : Prop :=
  st.clock ≤ r.now ∧
    (gatewayRuntimePath r.path = true → s.rateLimitEnabled = true →
      ∀ tenantId, r.resolve (presentedKey r.apiKey r.authorization) r.authorization = .ok tenantId →
        r.limitOf tenantId ≠ .error .exception ∧
        (s.redisUrl = true → s.production = true ∨ s.requireRedis = true →
          r.redis.raised ≠ some .exception) ∧
        r.handler 0 ≠ .error .exception)

/-! ## Counts -/

section

variable {s : RateSetting} {counters : Counters} {key : RateKey} {now limit : Int}

/-- The count of a key by a backend. -/
def Counters.count (counters : Counters) (k : RateKey × Backend) : Nat :=
  match k.2 with
  | .redis => ((counters.redis k.1).map RedisCounter.count).getD 0
  | .memory => (counters.memory k.1).getD 0

/-- The keys that a backend keeps: memory drops those of minutes before the last. -/
def keptAt (now : Int) (k : RateKey × Backend) : Prop :=
  k.2 = .redis ∨ minute now - 1 ≤ k.1.2

/-- A counter of Redis does not expire before its minute ends. -/
def OutliveMinute (counters : Counters) : Prop :=
  ∀ key c x, counters.redis key = some c → c.expiresAt = some x → (key.2 + 1) * 60000000 ≤ x

/-- What a change of the counters does: no kept count goes down. -/
structure Grows (now : Int) (counters counters' : Counters) : Prop where
  outlive : OutliveMinute counters'
  mono : ∀ k, keptAt now k → counters.count k ≤ counters'.count k

theorem grows_refl (h : OutliveMinute counters) : Grows now counters counters :=
  ⟨h, fun _ _ => Nat.le_refl _⟩

/-- Within its minute a counter has not expired. -/
theorem incr_spec (h : OutliveMinute counters) (hkey : key.2 = minute now) :
    (incr key now counters.redis).count = counters.count (key, .redis) + 1 ∧
      ∀ x, (incr key now counters.redis).expiresAt = some x → (key.2 + 1) * 60000000 ≤ x := by
  unfold incr Counters.count
  cases hredis : counters.redis key with
  | none => exact ⟨rfl, fun x hx => by cases hx⟩
  | some c =>
      have hlive : c.expiresAt.any (fun x => x ≤ now) = false := by
        cases hexpires : c.expiresAt with
        | none => rfl
        | some x =>
            have hx : (key.2 + 1) * 60000000 ≤ x := h key c x hredis hexpires
            unfold minute at hkey
            simp only [Option.any_some, decide_eq_false_iff_not]
            omega
      simp only [hlive, Option.map_some, Option.getD_some]
      exact ⟨rfl, fun x hx => h key c x hredis hx⟩

/-- A counter of Redis that goes up. -/
theorem grows_redis (h : OutliveMinute counters) {c : RedisCounter}
    (hcount : counters.count (key, .redis) ≤ c.count)
    (hexpires : ∀ x, c.expiresAt = some x → (key.2 + 1) * 60000000 ≤ x) :
    Grows now counters
      { counters with redis := Function.update counters.redis key (some c) } := by
  constructor
  · intro key' c' x hredis hx
    by_cases hk : key' = key
    · subst hk
      dsimp only at hredis
      rw [Function.update_self] at hredis
      cases hredis
      exact hexpires x hx
    · dsimp only at hredis
      rw [Function.update_of_ne hk] at hredis
      exact h key' c' x hredis hx
  · rintro ⟨key', backend⟩ -
    cases backend with
    | memory => exact Nat.le_refl _
    | redis =>
        by_cases hk : key' = key
        · subst hk
          simpa [Counters.count] using hcount
        · simp [Counters.count, Function.update_of_ne hk]

/-- What is counted in memory goes up, and the kept keys stay. -/
theorem consumeInMemory_spec (h : OutliveMinute counters) (hkey : key.2 = minute now) :
    Grows now counters (consumeInMemory key limit counters).2 ∧
      (consumeInMemory key limit counters).2.count (key, .memory) =
        counters.count (key, .memory) + 1 := by
  have hself : (consumeInMemory key limit counters).2.count (key, .memory) =
      counters.count (key, .memory) + 1 := by
    have hkept : ¬ key.2 < key.2 - 1 := by omega
    simp [consumeInMemory, Counters.count, hkept]
  refine ⟨⟨h, ?_⟩, hself⟩
  rintro ⟨key', backend⟩ hkept
  cases backend with
  | redis => exact Nat.le_refl _
  | memory =>
      by_cases hk : key' = key
      · rw [hk, hself]
        exact Nat.le_succ _
      · have hstays : ¬ key'.2 < key.2 - 1 := by
          rcases hkept with hbackend | hkept
          · cases hbackend
          · dsimp only at hkept
            omega
        simp [consumeInMemory, Counters.count, hstays, Function.update_of_ne hk]

theorem Grows.trans {counters' counters'' : Counters} (h : Grows now counters counters')
    (h' : Grows now counters' counters'') : Grows now counters counters'' :=
  ⟨h'.outlive, fun k hk => Nat.le_trans (h.mono k hk) (h'.mono k hk)⟩

/-- A verdict comes with a count that went up, and grants what is within the limit. -/
def Counts (key : RateKey) (limit : Int) (counters counters' : Counters)
    (verdict : Bool × Int × Backend) : Prop :=
  counters.count (key, verdict.2.2) < counters'.count (key, verdict.2.2) ∧
    (verdict.1 = true → (counters'.count (key, verdict.2.2) : Int) ≤ limit)

theorem Counts.of_grows {counters' counters'' : Counters} {verdict : Bool × Int × Backend}
    (h : Grows now counters counters') (hkey : key.2 = minute now)
    (hcounts : Counts key limit counters' counters'' verdict) :
    Counts key limit counters counters'' verdict := by
  have hkept : keptAt now (key, verdict.2.2) := by
    refine Or.inr ?_
    dsimp only
    omega
  exact ⟨Nat.lt_of_le_of_lt (h.mono _ hkept) hcounts.1, hcounts.2⟩

theorem consumeInMemory_counts (h : OutliveMinute counters) (hkey : key.2 = minute now) :
    Counts key limit counters (consumeInMemory key limit counters).2
      (consumeInMemory key limit counters).1 := by
  have hbackend : (consumeInMemory key limit counters).1.2.2 = .memory := rfl
  have hcount : (consumeInMemory key limit counters).2.count (key, .memory) =
      counters.count (key, .memory) + 1 := (consumeInMemory_spec h hkey).2
  unfold Counts
  rw [hbackend, hcount]
  exact ⟨Nat.lt_succ_self _, fun hallowed => of_decide_eq_true hallowed⟩

/-- Where Redis raised, the request is counted in memory or the exception goes on. -/
theorem redisFailed_spec {e : Raised} (h : OutliveMinute counters) (hkey : key.2 = minute now) :
    Grows now counters (redisFailed s key limit e counters).2 ∧
      ∀ verdict, (redisFailed s key limit e counters).1 = .ok verdict →
        Counts key limit counters (redisFailed s key limit e counters).2 verdict := by
  unfold redisFailed
  split_ifs with hraises
  · exact ⟨grows_refl h, fun verdict hok => by cases hok⟩
  · refine ⟨(@consumeInMemory_spec counters key now limit h hkey).1, ?_⟩
    intro verdict hok
    cases hok
    exact consumeInMemory_counts h hkey

/-- The same after a counter of Redis has gone up. -/
theorem redisFailed_after {e : Raised} {counters' : Counters}
    (hgrows : Grows now counters counters')
    (hkey : key.2 = minute now) :
    Grows now counters (redisFailed s key limit e counters').2 ∧
      ∀ verdict, (redisFailed s key limit e counters').1 = .ok verdict →
        Counts key limit counters (redisFailed s key limit e counters').2 verdict := by
  rcases @redisFailed_spec s counters' key now limit e hgrows.outlive hkey with ⟨hlast, hcounts⟩
  exact ⟨hgrows.trans hlast, fun verdict hok => Counts.of_grows hgrows hkey (hcounts verdict hok)⟩

/-- A token that is consumed is counted. -/
theorem consume_spec {outcome : RedisOutcome} {tenantId : Int} (h : OutliveMinute counters) :
    Grows now counters (consumeRateLimitToken s outcome now tenantId limit counters).2 ∧
      ∀ verdict, (consumeRateLimitToken s outcome now tenantId limit counters).1 = .ok verdict →
        Counts (tenantId, minute now) limit counters
          (consumeRateLimitToken s outcome now tenantId limit counters).2 verdict := by
  have hkey : ((tenantId, minute now) : RateKey).2 = minute now := rfl
  rcases incr_spec h hkey with ⟨hcount, hexpires⟩
  have hexpiring : ∀ x, some (now + 90000000) = some x →
      (((tenantId, minute now) : RateKey).2 + 1) * 60000000 ≤ x := by
    intro x hx
    cases hx
    unfold minute
    dsimp only
    omega
  have hredis : ∀ c : RedisCounter,
      c.count = (incr (tenantId, minute now) now counters.redis).count →
      (∀ x, c.expiresAt = some x → (((tenantId, minute now) : RateKey).2 + 1) * 60000000 ≤ x) →
      Grows now counters { counters with
          redis := Function.update counters.redis (tenantId, minute now) (some c) } ∧
        ∀ remaining, Counts (tenantId, minute now) limit counters { counters with
          redis := Function.update counters.redis (tenantId, minute now) (some c) }
          (decide ((incr (tenantId, minute now) now counters.redis).count ≤ limit), remaining,
            .redis) := by
    intro c hc hx
    refine ⟨grows_redis h (by omega) hx, ?_⟩
    intro remaining
    have hnew : Counters.count { counters with
        redis := Function.update counters.redis (tenantId, minute now) (some c) }
        ((tenantId, minute now), .redis) = c.count := by
      simp [Counters.count]
    unfold Counts
    dsimp only
    rw [hnew, hc]
    refine ⟨by omega, fun hallowed => of_decide_eq_true hallowed⟩
  have hcounted := hredis _ rfl hexpires
  have hset := hredis { incr (tenantId, minute now) now counters.redis with
    expiresAt := some (now + 90000000) } rfl hexpiring
  unfold consumeRateLimitToken
  by_cases hurl : s.redisUrl = true
  · rw [if_pos hurl]
    cases outcome with
    | answers =>
        dsimp only
        by_cases hfirst : (incr (tenantId, minute now) now counters.redis).count = 1
        · rw [if_pos hfirst]
          refine ⟨hset.1, ?_⟩
          intro verdict hok
          cases hok
          exact hset.2 _
        · rw [if_neg hfirst]
          refine ⟨hcounted.1, ?_⟩
          intro verdict hok
          cases hok
          exact hcounted.2 _
    | unreached e => exact redisFailed_spec h hkey
    | unanswered e => exact redisFailed_after hcounted.1 hkey
    | expireFails e set =>
        dsimp only
        by_cases hfirst : (incr (tenantId, minute now) now counters.redis).count = 1
        · rw [if_pos hfirst]
          cases set with
          | true => exact redisFailed_after hset.1 hkey
          | false => exact redisFailed_after hcounted.1 hkey
        · rw [if_neg hfirst]
          refine ⟨hcounted.1, ?_⟩
          intro verdict hok
          cases hok
          exact hcounted.2 _
  · rw [if_neg hurl]
    refine ⟨(@consumeInMemory_spec counters (tenantId, minute now) now limit h hkey).1, ?_⟩
    intro verdict hok
    cases hok
    exact consumeInMemory_counts h hkey

end

/-! ## One request -/

section

variable {s : RateSetting} {r : RateRequest} {counters : Counters}

/-- The rate of a request is limited, or it is not counted at all. -/
theorem middleware_cases :
    (∃ served : Served, served.runs ≤ 1 ∧ served.tenant = none ∧ served.token = none ∧
        enterpriseGatewayMiddleware s r counters = (served, counters)) ∨
      (gatewayRuntimePath r.path = true ∧ s.rateLimitEnabled = true ∧
        enterpriseGatewayMiddleware s r counters = serveLimited s r counters) := by
  unfold enterpriseGatewayMiddleware
  by_cases hpath : gatewayRuntimePath r.path = true
  · rw [if_pos hpath]
    by_cases hgo : s.requireGoGateway ∧ r.goHeader ≠ some "go"
    · rw [if_pos hgo]
      exact Or.inl ⟨_, Nat.zero_le _, rfl, rfl, rfl⟩
    · rw [if_neg hgo]
      by_cases henabled : s.rateLimitEnabled = true
      · rw [if_pos henabled]
        exact Or.inr ⟨hpath, henabled, rfl⟩
      · rw [if_neg henabled]
        exact Or.inl ⟨_, Nat.le_refl _, rfl, rfl, rfl⟩
  · rw [if_neg hpath]
    exact Or.inl ⟨_, Nat.le_refl _, rfl, rfl, rfl⟩

theorem caught_token {runs : Nat} {tenant : Option Int}
    {token : Option (Token (RateKey × Backend))} {e : Raised} :
    (caught r runs tenant token e).token = token := by
  cases e with
  | http status detail => rfl
  | exception => rfl
  | exit => rfl

/-- The token of a request that is counted, and what is run for it. -/
theorem serveCounted_token {tenantId limit : Int} {verdict : Bool × Int × Backend} :
    (serveCounted r tenantId limit verdict).token =
        some ⟨((tenantId, minute r.now), verdict.2.2), limit, verdict.1⟩ ∧
      (verdict.1 = false → (serveCounted r tenantId limit verdict).runs = 0) := by
  rcases verdict with ⟨allowed, remaining, backend⟩
  unfold serveCounted
  cases allowed with
  | false => exact ⟨rfl, fun _ => rfl⟩
  | true =>
      refine ⟨?_, fun h => by cases h⟩
      simp only [Bool.not_true, Bool.false_eq_true, if_false]
      cases r.handler 0 with
      | ok response => rfl
      | error e => exact caught_token

/-- A refused request does not run the handler. -/
theorem refused_not_run {token : Token (RateKey × Backend)}
    (htoken : (enterpriseGatewayMiddleware s r counters).1.token = some token)
    (hrefused : token.granted = false) :
    (enterpriseGatewayMiddleware s r counters).1.runs = 0 := by
  rcases @middleware_cases s r counters with ⟨served, -, -, hnone, heq⟩ | ⟨-, -, heq⟩
  · rw [heq, hnone] at htoken
    cases htoken
  · rw [heq] at htoken ⊢
    unfold serveLimited at htoken ⊢
    split at htoken
    next =>
      rw [caught_token] at htoken
      cases htoken
    next tenantId hresolve =>
      split at htoken
      next =>
        rw [caught_token] at htoken
        cases htoken
      next limit hlimit =>
        split at htoken
        next =>
          rw [caught_token] at htoken
          cases htoken
        next verdict counters' hconsumed =>
          rw [serveCounted_token.1] at htoken
          cases htoken
          exact serveCounted_token.2 hrefused

/-- Only Redis raises from the limiter, and only where it is required. -/
theorem consume_raises {outcome : RedisOutcome} {now tenantId limit : Int} {e : Raised}
    (h : (consumeRateLimitToken s outcome now tenantId limit counters).1 = .error e) :
    outcome.raised = some e ∧
      (e ≠ .exit → s.redisUrl = true ∧ (s.production = true ∨ s.requireRedis = true)) := by
  have hfailed : ∀ {key e' counters'}, (redisFailed s key limit e' counters').1 = .error e →
      e' = e ∧ (e ≠ .exit → s.production = true ∨ s.requireRedis = true) := by
    intro key e' counters' hraised
    unfold redisFailed at hraised
    split_ifs at hraised with hrequired
    · cases hraised
      refine ⟨rfl, ?_⟩
      intro hne
      rcases hrequired with hexit | hrequired
      · exact absurd hexit hne
      · exact hrequired
  unfold consumeRateLimitToken at h
  by_cases hurl : s.redisUrl = true
  · rw [if_pos hurl] at h
    cases outcome with
    | answers => cases h
    | unreached e' =>
        rcases hfailed h with ⟨rfl, hrequired⟩
        exact ⟨rfl, fun hne => ⟨hurl, hrequired hne⟩⟩
    | unanswered e' =>
        rcases hfailed h with ⟨rfl, hrequired⟩
        exact ⟨rfl, fun hne => ⟨hurl, hrequired hne⟩⟩
    | expireFails e' set =>
        dsimp only at h
        by_cases hfirst : (incr (tenantId, minute now) now counters.redis).count = 1
        · rw [if_pos hfirst] at h
          rcases hfailed h with ⟨rfl, hrequired⟩
          exact ⟨rfl, fun hne => ⟨hurl, hrequired hne⟩⟩
        · rw [if_neg hfirst] at h
          cases h
  · rw [if_neg hurl] at h
    cases h

/-- What a request that keeps the count leaves behind. -/
structure ServedWell (now : Int) (counters counters' : Counters) (served : Served) : Prop where
  grows : Grows now counters counters'
  once : served.RunsOnce
  counted : ∀ tenant, served.tenant = some tenant → 0 < served.runs →
    ∃ token, served.token = some token ∧ token.granted = true ∧
      token.key.1 = (tenant, minute now)
  consumed : ∀ token, served.token = some token →
    counters.count token.key < counters'.count token.key ∧ token.key.1.2 = minute now ∧
      (token.granted = true → (counters'.count token.key : Int) ≤ token.limit)

/-- A request that is not counted runs the handler at most once, for no tenant. -/
theorem servedWell_uncounted {now : Int} {counters' : Counters} {served : Served}
    (hgrows : Grows now counters counters') (hruns : served.runs ≤ 1)
    (htenant : ∀ tenant, served.tenant = some tenant → served.runs = 0)
    (htoken : served.token = none) : ServedWell now counters counters' served where
  grows := hgrows
  once := ⟨hruns, fun token h => by rw [htoken] at h; cases h⟩
  counted := by
    intro tenant h hpos
    rw [htenant tenant h] at hpos
    cases hpos
  consumed := by
    intro token h
    rw [htoken] at h
    cases h

/-- After an exception that the middleware does not answer by the handler. -/
theorem servedWell_caught {now : Int} {counters' : Counters} {tenant : Option Int} {e : Raised}
    (hgrows : Grows now counters counters') (he : tenant ≠ none → e ≠ .exception) :
    ServedWell now counters counters' (caught r 0 tenant none e) := by
  cases e with
  | http status detail => exact servedWell_uncounted hgrows (Nat.zero_le _) (fun _ _ => rfl) rfl
  | exit => exact servedWell_uncounted hgrows (Nat.zero_le _) (fun _ _ => rfl) rfl
  | exception =>
      refine servedWell_uncounted hgrows (Nat.le_refl _) ?_ rfl
      intro tenantId h
      change tenant = some tenantId at h
      exact absurd rfl (he (by rw [h]; exact Option.some_ne_none _))

/-- A counted request whose handler raises at most an `HTTPException`. -/
theorem servedWell_counted {tenantId limit : Int} {verdict : Bool × Int × Backend}
    {counters' : Counters} (hgrows : Grows r.now counters counters')
    (hcounts : Counts (tenantId, minute r.now) limit counters counters' verdict)
    (hhandler : r.handler 0 ≠ .error .exception) :
    ServedWell r.now counters counters' (serveCounted r tenantId limit verdict) := by
  rcases @serveCounted_token r tenantId limit verdict with ⟨htoken, hrefused⟩
  have hserved : (serveCounted r tenantId limit verdict).tenant = some tenantId ∧
      (serveCounted r tenantId limit verdict).runs ≤ 1 := by
    rcases verdict with ⟨allowed, remaining, backend⟩
    unfold serveCounted
    cases allowed with
    | false => exact ⟨rfl, Nat.zero_le _⟩
    | true =>
        simp only [Bool.not_true, Bool.false_eq_true, if_false]
        cases hrun : r.handler 0 with
        | ok response => exact ⟨rfl, Nat.le_refl _⟩
        | error e =>
            cases e with
            | http status detail => exact ⟨rfl, Nat.le_refl _⟩
            | exit => exact ⟨rfl, Nat.le_refl _⟩
            | exception => exact absurd hrun hhandler
  rcases hserved with ⟨htenant, hruns⟩
  constructor
  · exact hgrows
  · refine ⟨hruns, ?_⟩
    intro token h
    rw [htoken] at h
    cases h
    exact hrefused
  · intro tenant h hpos
    rw [htenant] at h
    cases h
    refine ⟨_, htoken, ?_, rfl⟩
    cases hallowed : verdict.1 with
    | true => rfl
    | false =>
        rw [hrefused hallowed] at hpos
        cases hpos
  · intro token h
    rw [htoken] at h
    cases h
    exact ⟨hcounts.1, rfl, hcounts.2⟩

/-- A request that meets the condition keeps the count. -/
theorem servedWell_of_keepsCount {st : Limiter} (h : OutliveMinute st.counters)
    (hkeeps : KeepsCount s st r) :
    ServedWell r.now st.counters (enterpriseGatewayMiddleware s r st.counters).2
      (enterpriseGatewayMiddleware s r st.counters).1 := by
  rcases @middleware_cases s r st.counters with ⟨served, hruns, htenant, htoken, heq⟩ |
    ⟨hpath, henabled, heq⟩
  · rw [heq]
    refine servedWell_uncounted (grows_refl h) hruns ?_ htoken
    intro tenant hsome
    rw [htenant] at hsome
    cases hsome
  · rw [heq]
    unfold serveLimited
    cases hresolve : r.resolve (presentedKey r.apiKey r.authorization) r.authorization with
    | error e => exact servedWell_caught (grows_refl h) (fun hne => absurd rfl hne)
    | ok tenantId =>
        rcases hkeeps.2 hpath henabled tenantId hresolve with ⟨hlookup, hredis, hhandler⟩
        dsimp only
        cases hlimit : r.limitOf tenantId with
        | error e =>
            refine servedWell_caught (grows_refl h) (fun _ he => hlookup ?_)
            rw [hlimit, he]
        | ok limit =>
            rcases @consume_spec s st.counters r.now limit r.redis tenantId h with
              ⟨hgrows, hcounts⟩
            dsimp only
            cases hconsumed : consumeRateLimitToken s r.redis r.now tenantId limit
                st.counters with
            | mk result counters' =>
                rw [hconsumed] at hgrows hcounts
                cases result with
                | ok verdict => exact servedWell_counted hgrows (hcounts verdict rfl) hhandler
                | error e =>
                    refine servedWell_caught hgrows (fun _ he => ?_)
                    rcases consume_raises (congrArg Prod.fst hconsumed) with ⟨hraised, hrequired⟩
                    rw [he] at hraised hrequired
                    rcases hrequired (by decide) with ⟨hurl, hstrict⟩
                    exact hredis hurl hstrict hraised

end

/-! ## Every run -/

section

variable {s : RateSetting} {st st' : Limiter} {r : RateRequest} {log : List Entry}

/-- The tokens of a log. -/
def tokensOf (log : List Entry) : List (Token (RateKey × Backend)) :=
  log.filterMap (fun e => e.served.token)

theorem tokensOf_append {e : Entry} :
    tokensOf (log ++ [e]) = tokensOf log ++ e.served.token.toList := by
  unfold tokensOf
  rw [List.filterMap_append, List.filterMap_cons]
  cases e.served.token with
  | none => rfl
  | some token => rfl

/-- Whoever was admitted for a tenant was granted a token. -/
def AdmittedCounted (log : List Entry) : Prop :=
  ∀ e ∈ log, ∀ tenant, e.served.tenant = some tenant → 0 < e.served.runs →
    ∃ token, e.served.token = some token ∧ token.granted = true ∧
      token.key.1 = (tenant, e.window)

/-- What holds of the limiter after each request. -/
structure LimiterInv (st : Limiter) : Prop where
  outlive : OutliveMinute st.counters
  covers : Covers (keptAt st.clock) st.counters.count (tokensOf st.log)
  bounded : Bounded (tokensOf st.log)
  counted : AdmittedCounted st.log
  once : ∀ e ∈ st.log, e.served.RunsOnce

theorem limiterInv_start (clock : Int) : LimiterInv (Limiter.start clock) where
  outlive := fun _ _ _ h => by cases h
  covers := covers_nil
  bounded := bounded_nil
  counted := fun _ h => by cases h
  once := fun _ h => by cases h

/-- Where everybody admitted was granted a token, the bound on tokens is one on requests. -/
theorem withinLimit_of_bounded (hcounted : AdmittedCounted log)
    (hbounded : Bounded (tokensOf log)) :
    WithinLimit log := by
  intro tenant window backend limit hlimit _ htokens
  have hgrants : (grants ((tenant, window), backend) (tokensOf log) : Int) ≤ limit := by
    refine hbounded _ limit hlimit ?_
    intro token htoken hkey
    rcases List.mem_filterMap.mp htoken with ⟨e, he, htoken⟩
    exact (htokens token (by rw [hkey]) ⟨e, he, htoken⟩).2
  have hadmitted : admitted tenant window log ≤
      grants ((tenant, window), backend) (tokensOf log) := by
    unfold admitted grants tokensOf
    rw [List.countP_filterMap]
    refine List.countP_mono_left ?_
    intro e he hadmitted
    rw [decide_eq_true_eq] at hadmitted
    rcases hadmitted with ⟨htenant, hwindow, hruns⟩
    rcases hcounted e he tenant htenant hruns with ⟨token, htoken, hgranted, hkey⟩
    rw [hwindow] at hkey
    have hbackend : token.key.2 = backend := (htokens token hkey ⟨e, he, htoken⟩).1
    have hwhole : token.key = ((tenant, window), backend) := Prod.ext hkey hbackend
    simp [htoken, hgranted, hwhole]
  omega

/-- A request that meets the condition keeps the limit. -/
theorem limiterInv_step (h : LimiterInv st) (hkeeps : KeepsCount s st r)
    (hstep : limiterStep s st r = some st') : LimiterInv st' := by
  have hwell := servedWell_of_keepsCount h.outlive hkeeps
  cases hserved : enterpriseGatewayMiddleware s r st.counters with
  | mk served counters =>
      rw [hserved] at hwell
      unfold limiterStep at hstep
      rw [hserved] at hstep
      cases hstep
      -- what is still kept was kept before: time goes on
      have hkept : ∀ k, keptAt r.now k → keptAt st.clock k := by
        intro k hk
        have hclock : minute st.clock ≤ minute r.now := Int.ediv_le_ediv (by decide) hkeeps.1
        rcases hk with hk | hk
        · exact Or.inl hk
        · refine Or.inr ?_
          omega
      have hcovers : Covers (keptAt r.now) st.counters.count (tokensOf st.log) :=
        h.covers.mono hkept (fun _ _ => Nat.le_refl _)
      have htokens : tokensOf (st.log ++ [⟨minute r.now, served⟩]) =
          tokensOf st.log ++ served.token.toList := tokensOf_append
      constructor
      · exact hwell.grows.outlive
      · dsimp only
        rw [htokens]
        cases htoken : served.token with
        | none =>
            rw [Option.toList_none, List.append_nil]
            exact hcovers.mono (fun _ hk => hk) hwell.grows.mono
        | some token =>
            exact hcovers.append hwell.grows.mono (fun _ => (hwell.consumed token htoken).1)
      · dsimp only
        rw [htokens]
        cases htoken : served.token with
        | none =>
            rw [Option.toList_none, List.append_nil]
            exact h.bounded
        | some token =>
            rcases hwell.consumed token htoken with ⟨hup, hwindow, hwithin⟩
            refine bounded_append h.bounded (fun hgranted => ⟨_, ?_, hwithin hgranted⟩)
            refine Nat.lt_of_le_of_lt (hcovers token.key (Or.inr ?_)) hup
            omega
      · intro e he tenant htenant hruns
        rcases List.mem_append.mp he with he | he
        · exact h.counted e he tenant htenant hruns
        · rw [List.mem_singleton.mp he] at htenant hruns ⊢
          exact hwell.counted tenant htenant hruns
      · intro e he
        rcases List.mem_append.mp he with he | he
        · exact h.once e he
        · rw [List.mem_singleton.mp he]
          exact hwell.once

end

/-- The handler is run once for each request, and no minute exceeds its limit, when time goes
on and nothing raises between the tenant and the end of the handler but an `HTTPException`. -/
theorem rate_limited (s : RateSetting) (clock : Int) (requests : List RateRequest)
    (hkeeps : Respects (limiterStep s) (KeepsCount s) (Limiter.start clock) requests) :
    Always (limiterStep s) RateLimited (Limiter.start clock) requests :=
  always_of_respects (fun _ h => ⟨h.once, withinLimit_of_bounded h.counted h.bounded⟩)
    (fun _ _ _ h hallowed hstep => limiterInv_step h hallowed hstep) (limiterInv_start clock)
    hkeeps

/-- A limiter that counts in memory. -/
def localSetting : RateSetting where
  requireGoGateway := false
  rateLimitEnabled := true
  redisUrl := false
  production := false
  requireRedis := false

/-- A limiter in production, which counts in Redis. -/
def redisSetting : RateSetting :=
  { localSetting with
    redisUrl := true
    production := true }

/-- A chat of a tenant with one request a minute. -/
def chat (redis : RedisOutcome) (handler : Nat → Except Raised Response) : RateRequest where
  now := 1
  path := "/chat"
  goHeader := none
  apiKey := some "k"
  authorization := none
  resolve := fun _ _ => .ok 1
  limitOf := fun _ => .ok 1
  redis := redis
  handler := handler

/-- A handler that answers. -/
def answering (_ : Nat) : Except Raised Response :=
  .ok ⟨200, [], []⟩

theorem keepsCount_chat {s : RateSetting} {st : Limiter} (hclock : st.clock ≤ 1) :
    KeepsCount s st (chat .answers answering) := by
  refine ⟨hclock, ?_⟩
  intro _ _ tenantId _
  refine ⟨?_, ?_, ?_⟩
  · intro h
    cases h
  · intro _ _ h
    cases h
  · intro h
    cases h

/-- The second of two requests in a minute is refused. -/
theorem rate_limited_minute :
    Always (limiterStep redisSetting) RateLimited (Limiter.start 0)
      [chat .answers answering, chat .answers answering] := by
  refine rate_limited redisSetting 0 _ ⟨keepsCount_chat (by decide), ?_⟩
  intro st hst
  cases hst
  exact ⟨keepsCount_chat (Int.le_refl 1), fun _ _ => trivial⟩

/-- A handler that raises is run twice; and a request that Redis does not count, where it is
required, is admitted above the limit. -/
theorem rate_limit_bypassed :
    (¬ Always (limiterStep localSetting) RateLimited (Limiter.start 0)
        [chat .answers (fun _ => .error .exception)]) ∧
      ¬ Always (limiterStep redisSetting) RateLimited (Limiter.start 0)
        [chat .answers answering, chat (.unreached .exception) answering] := by
  constructor
  · intro halways
    have hlimited := halways _ [] _ (List.append_nil _).symm rfl
    have honce := (hlimited.1 _ List.mem_cons_self).1
    exact absurd honce (by decide +kernel)
  · intro halways
    have hlimited := halways _ [] _ (List.append_nil _).symm rfl
    have htwo := hlimited.2 1 0 .redis 1 (by decide)
      ⟨⟨((1, 0), .redis), 1, true⟩, rfl, _, List.mem_cons_self, rfl⟩ (by
        rintro token - ⟨e, he, htoken⟩
        rcases List.mem_cons.mp he with rfl | he
        · cases htoken
          exact ⟨rfl, by decide⟩
        · rw [List.mem_singleton.mp he] at htoken
          cases htoken)
    exact absurd htwo (by decide +kernel)

end AuthClaw.Gateway
