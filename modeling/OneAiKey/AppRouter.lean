/-
  OneAiKey.AppRouter — which handler a request reaches (`src/app_router.rs` and
  `src/app_router/management_access.rs`).

  The router finds a route pattern for the path of a request; the gate in front of
  every route lets the paths of the management interface pass only for a peer that
  is allowed and a principal whose role the route allows.

  The search for the pattern is a library's.  `PathRouter` says what the code relies
  on: the pattern is one of the registered ones and matches the path, and a path
  that some pattern matches is found.  The handlers themselves are named by their
  pattern and method.
-/
import OneAiKey.Auth
import OneAiKey.Forward

namespace OneAiKey

/-! ## §1. Paths and patterns. -/

/-- The segments of a path between its slashes. -/
def pathSegments : List Char → List (List Char)
  | [] => [[]]
  | c :: cs =>
      if c = '/' then [] :: pathSegments cs
      else
        match pathSegments cs with
        | [] => [[c]]
        | segment :: rest => (c :: segment) :: rest

/-- `:name` stands for one segment, `*name` for the rest of the path, neither for nothing. -/
def segmentsMatch : List (List Char) → List (List Char) → Bool
  | [], [] => true
  | (':' :: _) :: patterns, segment :: segments =>
      !segment.isEmpty && segmentsMatch patterns segments
  | ('*' :: _) :: patterns, segment :: segments =>
      patterns.isEmpty && segment :: segments != [[]]
  | literal :: patterns, segment :: segments =>
      literal == segment && segmentsMatch patterns segments
  | _, _ => false

def patternMatches (pattern path : String) : Bool :=
  segmentsMatch (pathSegments pattern.toList) (pathSegments path.toList)

/-! ## §2. The routes. -/

/-- The methods that a route has handlers for. -/
inductive MethodRouter where
  | methods (names : List String)
  | any
  deriving DecidableEq, Repr

/-- A `GET` handler answers `HEAD` as well. -/
def MethodRouter.handles (method : String) : MethodRouter → Bool
  | methods names => names.contains method || (method == "HEAD" && names.contains "GET")
  | any => true

/-- The method and the pattern of each handler that a method chooses. -/
def MethodRouter.endpoints (pattern : String) : MethodRouter → List (String × String)
  | methods names => names.map fun name => (name, pattern)
  | any => []

/-- The routes of `router_without_test_peer_default`, in its order: each pattern with the
methods that have a handler.  The last ones are those of the proxy, which takes every method. -/
def routes : List (String × MethodRouter) := [
  ("/health", .methods ["GET"]),
  ("/ready", .methods ["GET"]),
  ("/management/pools", .methods ["GET"]),
  ("/management/channels", .methods ["GET"]),
  ("/management/client-tokens", .methods ["GET", "POST"]),
  ("/management/client-tokens/:id", .methods ["PATCH"]),
  ("/management/client-tokens/:id/disable", .methods ["POST"]),
  ("/management/client-tokens/:id/enable", .methods ["POST"]),
  ("/management/providers", .methods ["GET"]),
  ("/management/registry/providers/:id", .methods ["PUT"]),
  ("/management/registry/providers/:id/disable", .methods ["POST"]),
  ("/management/registry/providers/:id/enable", .methods ["POST"]),
  ("/management/accounts", .methods ["GET"]),
  ("/management/registry/accounts/:id", .methods ["PUT"]),
  ("/management/registry/accounts/:id/disable", .methods ["POST"]),
  ("/management/registry/accounts/:id/enable", .methods ["POST"]),
  ("/management/registry/channels/:id", .methods ["PUT"]),
  ("/management/registry/channels/:id/disable", .methods ["POST"]),
  ("/management/registry/channels/:id/enable", .methods ["POST"]),
  ("/management/credential-sets", .methods ["GET"]),
  ("/management/credential-sets/:id/operations", .methods ["GET"]),
  ("/management/credential-sets/:id/credentials", .methods ["GET"]),
  ("/management/credential-sets/:id/imports", .methods ["GET"]),
  ("/management/credential-sets/:id/imports/:batch_id", .methods ["GET"]),
  ("/management/credential-sets/:id/credentials/:credential_id", .methods ["GET"]),
  ("/management/credential-sets/:id/credentials/:credential_id/metadata", .methods ["PUT"]),
  ("/management/credential-sets/:id/credentials/:credential_id/history", .methods ["GET"]),
  ("/management/credential-sets/:id/credentials/:credential_id/probe", .methods ["POST"]),
  ("/management/credential-sets/:id/credentials/:credential_id/probes", .methods ["GET"]),
  ("/management/credential-sets/:id/credentials/:credential_id/apply-latest-probe/plan",
    .methods ["GET"]),
  ("/management/credential-sets/:id/credentials/:credential_id/apply-latest-probe",
    .methods ["POST"]),
  ("/management/credential-sets/:id/credentials/import", .methods ["POST"]),
  ("/management/credential-sets/:id/credentials/:credential_id/expire", .methods ["POST"]),
  ("/management/credential-sets/:id/credentials/:credential_id/restore", .methods ["POST"]),
  ("/management/credential-sets/:id/credentials/:credential_id/quota-exhaust", .methods ["POST"]),
  ("/management/credential-sets/:id/credentials/:credential_id/disable", .methods ["POST"]),
  ("/management/credential-sets/:id/credentials/:credential_id/enable", .methods ["POST"]),
  ("/management/credential-sets/:id/credentials/:credential_id/reset-cooldown", .methods ["POST"]),
  ("/management/model-routes", .methods ["GET"]),
  ("/management/model-availability", .methods ["GET"]),
  ("/management/registry/model-routes/*model", .methods ["PUT"]),
  ("/management/model-discovery/sync-plan", .methods ["POST"]),
  ("/management/model-discovery/sync-apply", .methods ["POST"]),
  ("/management/policy-profiles", .methods ["GET"]),
  ("/management/registry/policy-profiles/:id", .methods ["PUT"]),
  ("/management/policy-profiles/:id", .methods ["GET"]),
  ("/management/routing-profiles", .methods ["GET"]),
  ("/management/registry/routing-profiles/:id", .methods ["PUT"]),
  ("/management/routing-profiles/:id", .methods ["GET"]),
  ("/management/routing/preview", .methods ["GET"]),
  ("/management/runtime", .methods ["GET"]),
  ("/management/explain/runtime", .methods ["GET"]),
  ("/management/runtime/reload-diff", .methods ["GET"]),
  ("/management/health/serving", .methods ["GET"]),
  ("/management/health/resilience", .methods ["GET"]),
  ("/management/runtime/reload", .methods ["POST"]),
  ("/management/alerts", .methods ["GET"]),
  ("/management/channels/:id", .methods ["GET"]),
  ("/management/channels/:id/model-discovery", .methods ["POST"]),
  ("/management/channels/:id/reset-health", .methods ["POST"]),
  ("/management/channels/:id/disable", .methods ["POST"]),
  ("/management/channels/:id/enable", .methods ["POST"]),
  ("/management/channels/:id/error-rules", .methods ["GET"]),
  ("/management/channels/:id/credentials", .methods ["GET"]),
  ("/management/channels/:id/credentials/:credential_id/expire", .methods ["POST"]),
  ("/management/channels/:id/credentials/:credential_id/restore", .methods ["POST"]),
  ("/management/channels/:id/credentials/:credential_id/quota-exhaust", .methods ["POST"]),
  ("/management/channels/:id/credentials/:credential_id/disable", .methods ["POST"]),
  ("/management/channels/:id/credentials/:credential_id/enable", .methods ["POST"]),
  ("/management/channels/:id/credentials/:credential_id/reset-cooldown", .methods ["POST"]),
  ("/management/events", .methods ["GET"]),
  ("/management/response-filter-events", .methods ["GET"]),
  ("/management/routing-telemetry", .methods ["GET"]),
  -- the catch-all routes: a path that is none of the above, with any method
  ("/management", .any),
  ("/management/*path", .any),
  -- the proxy itself, which is not behind the management gate
  ("/v1/*path", .any),
  ("/pools/:pool/*path", .any)]

structure ManagementRouteSpec where
  method : String
  path : String
  minimumRole : ManagementRole
  deriving DecidableEq, Repr

/-- `MANAGEMENT_ROUTE_SPECS`: the least role for every method of every management pattern.  The
table is kept apart from the router's and has its methods and patterns once more. -/
def managementRouteSpecs : List ManagementRouteSpec := [
  ⟨"GET", "/management/pools", .readonly⟩,
  ⟨"GET", "/management/channels", .readonly⟩,
  ⟨"GET", "/management/client-tokens", .readonly⟩,
  ⟨"POST", "/management/client-tokens", .admin⟩,
  ⟨"PATCH", "/management/client-tokens/:id", .admin⟩,
  ⟨"POST", "/management/client-tokens/:id/disable", .admin⟩,
  ⟨"POST", "/management/client-tokens/:id/enable", .admin⟩,
  ⟨"GET", "/management/providers", .readonly⟩,
  ⟨"PUT", "/management/registry/providers/:id", .admin⟩,
  ⟨"POST", "/management/registry/providers/:id/disable", .admin⟩,
  ⟨"POST", "/management/registry/providers/:id/enable", .admin⟩,
  ⟨"GET", "/management/accounts", .readonly⟩,
  ⟨"PUT", "/management/registry/accounts/:id", .admin⟩,
  ⟨"POST", "/management/registry/accounts/:id/disable", .admin⟩,
  ⟨"POST", "/management/registry/accounts/:id/enable", .admin⟩,
  ⟨"PUT", "/management/registry/channels/:id", .admin⟩,
  ⟨"POST", "/management/registry/channels/:id/disable", .admin⟩,
  ⟨"POST", "/management/registry/channels/:id/enable", .admin⟩,
  ⟨"GET", "/management/credential-sets", .readonly⟩,
  ⟨"GET", "/management/credential-sets/:id/operations", .readonly⟩,
  ⟨"GET", "/management/credential-sets/:id/credentials", .readonly⟩,
  ⟨"GET", "/management/credential-sets/:id/imports", .readonly⟩,
  ⟨"GET", "/management/credential-sets/:id/imports/:batch_id", .readonly⟩,
  ⟨"GET", "/management/credential-sets/:id/credentials/:credential_id", .readonly⟩,
  ⟨"PUT", "/management/credential-sets/:id/credentials/:credential_id/metadata", .operator⟩,
  ⟨"GET", "/management/credential-sets/:id/credentials/:credential_id/history", .readonly⟩,
  ⟨"POST", "/management/credential-sets/:id/credentials/:credential_id/probe", .operator⟩,
  ⟨"GET", "/management/credential-sets/:id/credentials/:credential_id/probes", .readonly⟩,
  ⟨"GET",
    "/management/credential-sets/:id/credentials/:credential_id/apply-latest-probe/plan", .readonly⟩,
  ⟨"POST",
    "/management/credential-sets/:id/credentials/:credential_id/apply-latest-probe", .operator⟩,
  ⟨"POST", "/management/credential-sets/:id/credentials/import", .operator⟩,
  ⟨"POST", "/management/credential-sets/:id/credentials/:credential_id/expire", .operator⟩,
  ⟨"POST", "/management/credential-sets/:id/credentials/:credential_id/restore", .operator⟩,
  ⟨"POST", "/management/credential-sets/:id/credentials/:credential_id/quota-exhaust", .operator⟩,
  ⟨"POST", "/management/credential-sets/:id/credentials/:credential_id/disable", .operator⟩,
  ⟨"POST", "/management/credential-sets/:id/credentials/:credential_id/enable", .operator⟩,
  ⟨"POST", "/management/credential-sets/:id/credentials/:credential_id/reset-cooldown", .operator⟩,
  ⟨"GET", "/management/model-routes", .readonly⟩,
  ⟨"GET", "/management/model-availability", .readonly⟩,
  ⟨"PUT", "/management/registry/model-routes/*model", .admin⟩,
  ⟨"POST", "/management/model-discovery/sync-plan", .operator⟩,
  ⟨"POST", "/management/model-discovery/sync-apply", .admin⟩,
  ⟨"GET", "/management/policy-profiles", .readonly⟩,
  ⟨"PUT", "/management/registry/policy-profiles/:id", .admin⟩,
  ⟨"GET", "/management/policy-profiles/:id", .readonly⟩,
  ⟨"GET", "/management/routing-profiles", .readonly⟩,
  ⟨"PUT", "/management/registry/routing-profiles/:id", .admin⟩,
  ⟨"GET", "/management/routing-profiles/:id", .readonly⟩,
  ⟨"GET", "/management/routing/preview", .readonly⟩,
  ⟨"GET", "/management/runtime", .readonly⟩,
  ⟨"GET", "/management/explain/runtime", .readonly⟩,
  ⟨"GET", "/management/runtime/reload-diff", .readonly⟩,
  ⟨"GET", "/management/health/serving", .readonly⟩,
  ⟨"GET", "/management/health/resilience", .readonly⟩,
  ⟨"POST", "/management/runtime/reload", .admin⟩,
  ⟨"GET", "/management/alerts", .readonly⟩,
  ⟨"GET", "/management/channels/:id", .readonly⟩,
  ⟨"POST", "/management/channels/:id/model-discovery", .operator⟩,
  ⟨"POST", "/management/channels/:id/reset-health", .operator⟩,
  ⟨"POST", "/management/channels/:id/disable", .operator⟩,
  ⟨"POST", "/management/channels/:id/enable", .operator⟩,
  ⟨"GET", "/management/channels/:id/error-rules", .readonly⟩,
  ⟨"GET", "/management/channels/:id/credentials", .readonly⟩,
  ⟨"POST", "/management/channels/:id/credentials/:credential_id/expire", .operator⟩,
  ⟨"POST", "/management/channels/:id/credentials/:credential_id/restore", .operator⟩,
  ⟨"POST", "/management/channels/:id/credentials/:credential_id/quota-exhaust", .operator⟩,
  ⟨"POST", "/management/channels/:id/credentials/:credential_id/disable", .operator⟩,
  ⟨"POST", "/management/channels/:id/credentials/:credential_id/enable", .operator⟩,
  ⟨"POST", "/management/channels/:id/credentials/:credential_id/reset-cooldown", .operator⟩,
  ⟨"GET", "/management/events", .readonly⟩,
  ⟨"GET", "/management/response-filter-events", .readonly⟩,
  ⟨"GET", "/management/routing-telemetry", .readonly⟩]

def managementRouteSpec (method path : String) : Option ManagementRouteSpec :=
  managementRouteSpecs.find? fun spec => spec.method == method && spec.path == path

def isManagementPath (path : String) : Bool :=
  path == "/management" || "/management/".toList.isPrefixOf path.toList

/-! ## §3. The gate. -/

/-- What the gate and the router read of a request. -/
structure RoutedRequest where
  method : String
  path : String
  /-- The address that the connection comes from, if the server knows it. -/
  peer : Option PeerAddress
  /-- The header, if it is text. -/
  authorization : Option String
  deriving DecidableEq, Repr

/-- What the gate reads of the state. -/
structure ManagementAccess where
  hashToken : String → String
  managementPrincipals : List ResolvedManagementPrincipal
  managementIpAllowlist : ResolvedManagementIpAllowlist

/-- `management_role_gate`: the answer of the gate, or nothing if the request passes. -/
def managementRoleGate (access : ManagementAccess) (request : RoutedRequest)
    (matchedPath : String) : Option Response :=
  if !isManagementPath request.path then none
  else
    -- where a request comes from is checked before who sends it
    match request.peer with
    | none => some (jsonError 403 "management peer address is unavailable")
    | some peer =>
        if !access.managementIpAllowlist.allowsIp peer then
          some (jsonError 403 "management peer address is not allowed")
        else
          match authorizeManagement access.hashToken access.managementPrincipals
              request.authorization with
          | none => some (jsonError 401 "invalid management api key")
          | some principal =>
              -- the role is looked up by the pattern that has matched, and not by the path
              match managementRouteSpec request.method matchedPath with
              | none => some (jsonError 403 "management route is not registered")
              | some spec =>
                  if !principal.role.allows spec.minimumRole then
                    some (jsonError 403 "management principal role is not allowed for this route")
                  else none

/-- How a request ends at the router. -/
inductive Served where
  /-- No pattern matches the path. -/
  | notFound
  | denied (response : Response)
  | methodNotAllowed
  /-- The handler of this route runs. -/
  | handler (pattern method : String)

/-- What the code relies on of the library that finds the pattern. -/
structure PathRouter (findPattern : String → Option String) : Prop where
  registered : ∀ path pattern, findPattern path = some pattern → pattern ∈ routes.map (·.1)
  matching : ∀ path pattern, findPattern path = some pattern → patternMatches pattern path = true
  found : ∀ path pattern, pattern ∈ routes.map (·.1) → patternMatches pattern path = true →
    (findPattern path).isSome = true

/-- The router with the gate as a layer on every route. -/
def serve (findPattern : String → Option String) (access : ManagementAccess)
    (request : RoutedRequest) : Served :=
  match findPattern request.path with
  | none => .notFound
  | some pattern =>
      match managementRoleGate access request pattern with
      | some response => .denied response
      | none =>
          if routes.any fun route => route.1 == pattern && route.2.handles request.method then
            .handler pattern request.method
          else .methodNotAllowed

end OneAiKey
