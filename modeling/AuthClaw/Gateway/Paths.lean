import Mathlib.Data.String.Basic
import Mathlib.Tactic.Common

/-!
# Which requests are governed

The Go gateway strips the {lit}`/api` of a path before it forwards the request, and
decides from the stripped path whether the request goes to an AI runtime.  The backend
decides the same from the path it is sent, and strips an {lit}`/api` of its own.

Main results:

- Theorem {lit}`gatewayRuntimePath_eq`: the two tests are the same function.
- Theorem {lit}`isGatewayRuntime_backendPath`: a path that is governed is governed after
  it is rewritten, too.
- Theorem {lit}`governed_iff`: on which paths the rewriting loses a governed request.
-/

namespace AuthClaw.Gateway

/-! ## Paths -/

/-- The path begins with the text. -/
def begins (front path : String) : Bool :=
  front.toList.isPrefixOf path.toList

/-- The path without its first characters. -/
def dropFront (n : Nat) (path : String) : String :=
  String.ofList (path.toList.drop n)

theorem begins_iff {front path : String} :
    begins front path = true ↔ ∃ rest, path = front ++ rest := by
  unfold begins
  rw [List.isPrefixOf_iff_prefix]
  constructor
  · rintro ⟨rest, hrest⟩
    refine ⟨String.ofList rest, ?_⟩
    apply String.toList_inj.mp
    rw [String.toList_append, String.toList_ofList, hrest]
  · rintro ⟨rest, rfl⟩
    exact ⟨rest.toList, by rw [String.toList_append]⟩

theorem dropFront_append (front rest : String) :
    dropFront front.toList.length (front ++ rest) = rest := by
  unfold dropFront
  rw [String.toList_append, List.drop_left, String.ofList_toList]

/-! ## The gateway and the backend -/

/-- The paths of the AI runtimes. -/
def runtimeRoute (path : String) : Bool :=
  path = "/gateway/chat" || path = "/chat" || path = "/v1/chat/completions" ||
    begins "/gateway/documents/" path

/-- `backendPath`. -/
def backendPath (path : String) : String :=
  if path = "/api" then "/"
  else if begins "/api/" path then dropFront 4 path
  else path

/-- `isGatewayRuntime`. -/
def isGatewayRuntime (path : String) : Bool :=
  runtimeRoute (backendPath path)

/-- `_gateway_runtime_path`. -/
def gatewayRuntimePath (path : String) : Bool :=
  runtimeRoute (if begins "/api/" path then dropFront 4 path else path)

/-- What the gateway strips is `/api` before a slash. -/
theorem backendPath_api (rest : String) : backendPath ("/api/" ++ rest) = "/" ++ rest := by
  have hne : "/api/" ++ rest ≠ "/api" := by
    intro h
    have hlength := congrArg (fun s => s.toList.length) h
    simp at hlength
  have hbegins : begins "/api/" ("/api/" ++ rest) = true := begins_iff.mpr ⟨rest, rfl⟩
  have hsplit : "/api/" ++ rest = "/api" ++ ("/" ++ rest) := by
    rw [← String.append_assoc]
    rfl
  unfold backendPath
  rw [if_neg hne, if_pos hbegins, hsplit]
  exact dropFront_append "/api" ("/" ++ rest)

/-- Every other path but `/api` itself is kept. -/
theorem backendPath_of_not_begins {path : String} (h : begins "/api/" path = false)
    (hne : path ≠ "/api") : backendPath path = path := by
  unfold backendPath
  rw [if_neg hne, if_neg (by simp [h])]

/-- The three things `backendPath` does. -/
theorem backendPath_cases (path : String) :
    (path = "/api" ∧ backendPath path = "/") ∨
      (∃ rest, path = "/api" ++ ("/" ++ rest) ∧ backendPath path = "/" ++ rest) ∨
      (begins "/api/" path = false ∧ path ≠ "/api" ∧ backendPath path = path) := by
  by_cases hapi : path = "/api"
  · exact Or.inl ⟨hapi, by rw [hapi]; rfl⟩
  · by_cases hbegins : begins "/api/" path = true
    · rcases begins_iff.mp hbegins with ⟨rest, rfl⟩
      refine Or.inr (Or.inl ⟨rest, ?_, backendPath_api rest⟩)
      rw [← String.append_assoc]
      rfl
    · rw [Bool.not_eq_true] at hbegins
      exact Or.inr (Or.inr ⟨hbegins, hapi, backendPath_of_not_begins hbegins hapi⟩)

/-- No runtime lies under `/api`. -/
theorem runtimeRoute_not_api {path : String} (h : runtimeRoute path = true) :
    begins "/api/" path = false ∧ path ≠ "/api" := by
  unfold runtimeRoute at h
  simp only [Bool.or_eq_true, decide_eq_true_eq] at h
  rcases h with ((rfl | rfl) | rfl) | h
  · decide
  · decide
  · decide
  · rcases begins_iff.mp h with ⟨rest, rfl⟩
    constructor
    · unfold begins
      rw [String.toList_append]
      rfl
    · intro heq
      have hchars := congrArg String.toList heq
      rw [String.toList_append] at hchars
      exact absurd hchars (by simp)

/-- The test of the backend is the test of the gateway. -/
theorem gatewayRuntimePath_eq (path : String) :
    gatewayRuntimePath path = isGatewayRuntime path := by
  unfold gatewayRuntimePath isGatewayRuntime backendPath
  by_cases hapi : path = "/api"
  · subst hapi
    decide
  · rw [if_neg hapi]

/-- A governed path is still governed after it is rewritten, so that the response is
redacted. -/
theorem isGatewayRuntime_backendPath {path : String} (h : isGatewayRuntime path = true) :
    isGatewayRuntime (backendPath path) = true := by
  unfold isGatewayRuntime at h ⊢
  rcases runtimeRoute_not_api h with ⟨hbegins, hne⟩
  rw [backendPath_of_not_begins hbegins hne]
  exact h

/-- The path holds the `/api` twice before a runtime. -/
def DoubledRuntime (path : String) : Prop :=
  ∃ route, path = "/api/api" ++ route ∧ runtimeRoute route = true

/-- A runtime path begins with a slash. -/
theorem exists_slash_of_runtimeRoute {route : String} (h : runtimeRoute route = true) :
    ∃ rest, route = "/" ++ rest := by
  unfold runtimeRoute at h
  simp only [Bool.or_eq_true, decide_eq_true_eq] at h
  rcases h with ((rfl | rfl) | rfl) | h
  · exact ⟨"gateway/chat", rfl⟩
  · exact ⟨"chat", rfl⟩
  · exact ⟨"v1/chat/completions", rfl⟩
  · rcases begins_iff.mp h with ⟨rest, rfl⟩
    exact ⟨"gateway/documents/" ++ rest, by rw [← String.append_assoc]; rfl⟩

/-- The gateway strips one `/api` of two. -/
theorem backendPath_doubled (rest : String) :
    backendPath ("/api/api" ++ ("/" ++ rest)) = "/api/" ++ rest := by
  have hsplit : "/api/api" ++ ("/" ++ rest) = "/api/" ++ ("api/" ++ rest) := by
    rw [← String.append_assoc, ← String.append_assoc]
    rfl
  rw [hsplit, backendPath_api, ← String.append_assoc]
  rfl

/-- What the backend takes for a runtime was governed by the gateway exactly when the
path does not hold the `/api` twice. -/
theorem governed_iff (path : String) :
    (gatewayRuntimePath (backendPath path) = true → isGatewayRuntime path = true) ↔
      ¬ DoubledRuntime path := by
  rw [gatewayRuntimePath_eq]
  unfold isGatewayRuntime
  constructor
  · rintro hgoverned ⟨route, rfl, hroute⟩
    rcases exists_slash_of_runtimeRoute hroute with ⟨rest, rfl⟩
    rw [backendPath_doubled, backendPath_api] at hgoverned
    have hapi := (runtimeRoute_not_api (hgoverned hroute)).1
    rw [begins_iff.mpr ⟨rest, rfl⟩] at hapi
    cases hapi
  · intro hdoubled hbackend
    rcases backendPath_cases (backendPath path) with ⟨-, hroot⟩ | ⟨rest, hrest, hroute⟩ |
      ⟨-, -, hkept⟩
    · rw [hroot] at hbackend
      exact absurd hbackend (by decide)
    · exfalso
      apply hdoubled
      refine ⟨"/" ++ rest, ?_, hroute ▸ hbackend⟩
      rcases backendPath_cases path with ⟨-, hroot⟩ | ⟨tail, rfl, htail⟩ | ⟨hbegins, -, hkept⟩
      · rw [hroot] at hrest
        have hlength := congrArg (fun s => s.toList.length) hrest
        simp at hlength
      · rw [← htail, hrest, ← String.append_assoc]
        rfl
      · rw [hkept, ← String.append_assoc] at hrest
        have hapi : begins "/api/" path = true := begins_iff.mpr ⟨rest, hrest⟩
        rw [hbegins] at hapi
        cases hapi
    · rw [hkept] at hbackend
      exact hbackend

/-- A doubled path reaches a runtime of the backend ungoverned. -/
theorem doubled_ungoverned :
    gatewayRuntimePath (backendPath "/api/api/chat") = true ∧
      isGatewayRuntime "/api/api/chat" = false := by
  decide

end AuthClaw.Gateway
