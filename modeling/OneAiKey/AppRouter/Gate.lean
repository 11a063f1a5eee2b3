/-
  OneAiKey.AppRouter.Gate — what it takes to reach a handler of the management
  interface.

  The gate asks two questions in two ways: whether a path is one of the management
  interface it reads off the text of the path, which role a route needs it looks up
  under the pattern that the router found.  The results here say that the two
  readings and the two tables fit together.

  Main results:
    * `isManagementPath_iff` — the gate's reading of the path, as its segments;
    * `PathRouter.management_iff` — a path is a management path when the pattern that
      was found for it is one;
    * `management_handler_runs_iff` — a handler of the interface runs exactly for an
      allowed peer that shows the token of a principal of sufficient role, and every
      other request is answered with the refusal of the first check that it fails.
-/
import OneAiKey.AppRouter
import OneAiKey.Resolve.Order

namespace OneAiKey

open Collect (bind_eq_ok)

/-! ## §1. Segments. -/

theorem pathSegments_slash (cs : List Char) :
    pathSegments ('/' :: cs) = [] :: pathSegments cs := by
  rw [pathSegments, if_pos rfl]

theorem pathSegments_ne_nil (cs : List Char) : pathSegments cs ≠ [] := by
  cases cs with
  | nil => simp [pathSegments]
  | cons c cs =>
      unfold pathSegments
      split
      · simp
      · split <;> simp

theorem pathSegments_cons {c : Char} (hc : c ≠ '/') {cs segment : List Char}
    {rest : List (List Char)} (h : pathSegments cs = segment :: rest) :
    pathSegments (c :: cs) = (c :: segment) :: rest := by
  rw [pathSegments, if_neg hc, h]

/-- A piece without a slash is the first segment. -/
theorem pathSegments_append (s : List Char) (hs : '/' ∉ s) (cs : List Char) :
    pathSegments (s ++ '/' :: cs) = s :: pathSegments cs := by
  induction s with
  | nil => exact pathSegments_slash cs
  | cons c s ih =>
      rw [List.mem_cons, not_or] at hs
      exact pathSegments_cons (Ne.symm hs.1) (ih hs.2)

/-- The segments say what the path is.  Splitting at the slashes loses nothing, so two paths
with the same segments are equal. -/
theorem intercalate_pathSegments (cs : List Char) :
    ['/'].intercalate (pathSegments cs) = cs := by
  induction cs with
  | nil => rfl
  | cons c cs ih =>
      obtain ⟨segment, rest, hsegments⟩ := List.exists_cons_of_ne_nil (pathSegments_ne_nil cs)
      by_cases hc : c = '/'
      · subst hc
        rw [pathSegments_slash, hsegments, List.intercalate_cons_cons, ← hsegments, ih]
        rfl
      · rw [pathSegments_cons hc hsegments]
        rw [hsegments] at ih
        cases rest with
        | nil =>
            rw [List.intercalate_singleton] at ih ⊢
            rw [ih]
        | cons next rest =>
            rw [List.intercalate_cons_cons] at ih ⊢
            rw [← ih, List.cons_append, List.cons_append]

theorem isManagementPath_iff (path : String) :
    isManagementPath path = true ↔
      ∃ rest, pathSegments path.toList = [] :: "management".toList :: rest := by
  have hpiece : '/' ∉ "management".toList := by decide
  unfold isManagementPath
  rw [Bool.or_eq_true, beq_iff_eq, List.isPrefixOf_iff_prefix]
  constructor
  · rintro (rfl | ⟨tail, htail⟩)
    · exact ⟨[], by decide⟩
    · refine ⟨pathSegments tail, ?_⟩
      rw [← htail]
      show pathSegments ('/' :: ("management".toList ++ '/' :: tail)) = _
      rw [pathSegments_slash, pathSegments_append _ hpiece]
  -- nothing follows the segment, or a slash does
  · rintro ⟨rest, hrest⟩
    have hjoin := intercalate_pathSegments path.toList
    rw [hrest, List.intercalate_cons_cons] at hjoin
    cases rest with
    | nil =>
        left
        rw [List.intercalate_singleton] at hjoin
        exact String.ext hjoin.symm
    | cons next rest =>
        right
        rw [List.intercalate_cons_cons] at hjoin
        exact ⟨['/'].intercalate (next :: rest), hjoin⟩

/-! ## §2. The two tables. -/

/-- The second segment is a literal. -/
def literalSecond (cs : List Char) : Bool :=
  match pathSegments cs with
  | [] :: (c :: _) :: _ => c != ':' && c != '*'
  | _ => false

/-- Is the pattern one of the management interface? -/
def underManagement (pattern : String) : Bool :=
  [[], "management".toList].isPrefixOf (pathSegments pattern.toList)

theorem literalSecond_ofList (cs : List Char) (h : literalSecond cs = true) :
    literalSecond (String.ofList cs).toList = true := by
  rw [String.toList_ofList]
  exact h

theorem underManagement_ofList (cs : List Char)
    (h : [[], "management".toList].isPrefixOf (pathSegments cs) = true) :
    underManagement (String.ofList cs) = true := by
  unfold underManagement
  rw [@String.toList_ofList cs]
  exact h

/-- No pattern starts with a parameter. -/
theorem routes_literalSecond : ∀ route ∈ routes, literalSecond route.1.toList = true := by
  simp only [routes, List.forall_mem_cons]
  and_intros <;> first | exact literalSecond_ofList _ (by decide +kernel) | simp

theorem specs_underManagement : ∀ spec ∈ managementRouteSpecs, underManagement spec.path = true := by
  simp only [managementRouteSpecs, List.forall_mem_cons]
  and_intros <;> first | exact underManagement_ofList _ (by decide +kernel) | simp

/-- The gate's table lists the handlers of the router, but for the two open ones. -/
theorem routes_endpoints :
    (routes.flatMap fun route => route.2.endpoints route.1) =
      ("GET", "/health") :: ("GET", "/ready") ::
        managementRouteSpecs.map fun spec => (spec.method, spec.path) := by
  simp only [routes, managementRouteSpecs, List.flatMap_cons, List.flatMap_nil,
    MethodRouter.endpoints, List.map_cons, List.map_nil, List.cons_append, List.nil_append]

/-- A specified route has a handler.  The two tables of the source are compared entry by entry,
which is what keeps an admitted request from ending as method-not-allowed. -/
theorem handles_of_spec {spec : ManagementRouteSpec} (h : spec ∈ managementRouteSpecs) :
    (routes.any fun route => route.1 == spec.path && route.2.handles spec.method) = true := by
  -- the table of routes has an entry for every specification
  have hmem : (spec.method, spec.path) ∈ routes.flatMap fun route => route.2.endpoints route.1 := by
    rw [routes_endpoints]
    exact List.mem_cons_of_mem _ (List.mem_cons_of_mem _ (List.mem_map.mpr ⟨spec, h, rfl⟩))
  obtain ⟨route, hroute, hendpoint⟩ := List.mem_flatMap.mp hmem
  rw [List.any_eq_true]
  refine ⟨route, hroute, ?_⟩
  rw [Bool.and_eq_true, beq_iff_eq]
  cases hmethods : route.2 with
  | methods names =>
      rw [hmethods] at hendpoint
      obtain ⟨name, hname, heq⟩ := List.mem_map.mp hendpoint
      obtain ⟨hmethod, hpath⟩ := Prod.mk.inj heq
      refine ⟨hpath, ?_⟩
      unfold MethodRouter.handles
      rw [Bool.or_eq_true, List.contains_iff_mem, ← hmethod]
      exact Or.inl hname
  | any =>
      rw [hmethods] at hendpoint
      cases hendpoint

theorem managementRouteSpec_some {method path : String} {spec : ManagementRouteSpec}
    (h : managementRouteSpec method path = some spec) :
    spec ∈ managementRouteSpecs ∧ spec.method = method ∧ spec.path = path := by
  have hfound := List.find?_some h
  rw [Bool.and_eq_true, beq_iff_eq, beq_iff_eq] at hfound
  exact ⟨List.mem_of_find?_eq_some h, hfound⟩

/-- What is specified asks for an operator at least, unless it only reads. -/
theorem specs_roles : ∀ spec ∈ managementRouteSpecs,
    spec.method ≠ "GET" → spec.minimumRole ≠ .readonly := by
  simp only [managementRouteSpecs, List.forall_mem_cons]
  and_intros <;> simp

/-! ## §3. The pattern and the path. -/

/-- A path matches a literal second segment with the same segment.  So a pattern under
`/management` matches only paths under it. -/
theorem segmentsMatch_literal {c : Char} {cs : List Char} {rest segments : List (List Char)}
    (hc : c ≠ ':') (hc' : c ≠ '*') (h : segmentsMatch ([] :: (c :: cs) :: rest) segments = true) :
    ∃ rest', segments = [] :: (c :: cs) :: rest' := by
  cases segments with
  | nil => simp [segmentsMatch] at h
  | cons first segments =>
      cases segments with
      | nil => simp [segmentsMatch] at h
      | cons second segments =>
          simp only [segmentsMatch, Bool.and_eq_true, beq_iff_eq] at h
          rw [segmentsMatch] at h
          · rw [Bool.and_eq_true, beq_iff_eq] at h
            exact ⟨segments, by rw [← h.1, ← h.2.1]⟩
          · intro tail heq
            exact hc (List.cons.inj heq).1
          · intro tail heq
            exact hc' (List.cons.inj heq).1

theorem underManagement_iff (pattern : String) :
    underManagement pattern = true ↔
      ∃ rest, pathSegments pattern.toList = [] :: "management".toList :: rest := by
  unfold underManagement
  rw [List.isPrefixOf_iff_prefix]
  exact exists_congr fun rest => eq_comm

/-- The gate sees a management path when the router has found a management pattern.  Pattern
and path begin with the same segment, as no pattern begins with a parameter. -/
theorem PathRouter.management_iff {findPattern : String → Option String}
    (hrouter : PathRouter findPattern) {path pattern : String}
    (hfound : findPattern path = some pattern) :
    underManagement pattern = true ↔ isManagementPath path = true := by
  have hmatch := hrouter.matching path pattern hfound
  unfold patternMatches at hmatch
  obtain ⟨route, hroute, rfl⟩ := List.mem_map.mp (hrouter.registered path pattern hfound)
  have hliteral := routes_literalSecond route hroute
  unfold literalSecond at hliteral
  split at hliteral
  · next c cs rest hsegments =>
      rw [Bool.and_eq_true, bne_iff_ne, bne_iff_ne] at hliteral
      rw [hsegments] at hmatch
      obtain ⟨rest', hpath⟩ := segmentsMatch_literal hliteral.1 hliteral.2 hmatch
      -- both have the second segment `c :: cs`
      rw [underManagement_iff, isManagementPath_iff, hsegments, hpath]
      simp only [List.cons.injEq, true_and, exists_and_left, exists_eq']
  · cases hliteral

/-! ## §4. The principals. -/

section Principals

variable {environment : ResolveEnvironment}

/-- The configured principals have hashes of their own.  By induction over the principals, with
the hashes that have been seen so far: a repeated one is refused. -/
theorem resolvePrincipals_hashes :
    ∀ (principals : List ManagementPrincipalConfig) (names hashes ids : List String)
      (resolved : List ResolvedManagementPrincipal),
      resolvePrincipals environment principals names hashes ids = .ok resolved →
      (resolved.map (·.tokenHash)).Nodup ∧ ∀ principal ∈ resolved, principal.tokenHash ∉ hashes := by
  intro principals
  induction principals with
  | nil =>
      intro names hashes ids resolved h
      cases h
      simp
  | cons principal principals ih =>
      intro names hashes ids resolved h
      unfold resolvePrincipals at h
      obtain ⟨-, -, h⟩ := bind_eq_ok.mp h
      obtain ⟨-, -, h⟩ := bind_eq_ok.mp h
      obtain ⟨-, -, h⟩ := bind_eq_ok.mp h
      -- the check that the hash is new is the fourth of five
      obtain ⟨_, hnew, h⟩ := bind_eq_ok.mp h
      obtain ⟨-, -, h⟩ := bind_eq_ok.mp h
      obtain ⟨rest, hrest, h⟩ := bind_eq_ok.mp h
      cases h
      obtain ⟨hnodup, hfresh⟩ := ih _ _ _ _ hrest
      have hnew' : environment.hashToken (trimString principal.token) ∉ hashes := by
        simpa using ensure_eq_ok hnew
      refine ⟨?_, ?_⟩
      · rw [List.map_cons, List.nodup_cons]
        refine ⟨?_, hnodup⟩
        intro hmem
        obtain ⟨other, hother, heq⟩ := List.mem_map.mp hmem
        exact hfresh other hother (by rw [heq]; exact List.mem_cons_self)
      · intro other hother
        rcases List.mem_cons.mp hother with rfl | hother
        · exact hnew'
        · exact fun hmem => hfresh other hother (List.mem_cons_of_mem _ hmem)

/-- So have all principals, with the administrator. -/
theorem resolveManagementPrincipals_hashes {adminToken : String}
    {principals : List ManagementPrincipalConfig} {resolved : List ResolvedManagementPrincipal}
    (h : resolveManagementPrincipals environment adminToken principals = .ok resolved) :
    (resolved.map (·.tokenHash)).Nodup := by
  unfold resolveManagementPrincipals at h
  obtain ⟨rest, hrest, h⟩ := bind_eq_ok.mp h
  cases h
  obtain ⟨hnodup, hfresh⟩ := resolvePrincipals_hashes _ _ _ _ _ hrest
  rw [List.map_cons, List.nodup_cons]
  refine ⟨?_, hnodup⟩
  intro hmem
  obtain ⟨other, hother, heq⟩ := List.mem_map.mp hmem
  exact hfresh other hother (by rw [heq]; exact List.mem_cons_self)

end Principals

/-- The principal that a request shows the token of. -/
def IdentifiedBy (access : ManagementAccess) (request : RoutedRequest)
    (principal : ResolvedManagementPrincipal) : Prop :=
  principal ∈ access.managementPrincipals ∧ principal.enabled = true ∧
    ∃ token, bearerToken request.authorization = some token ∧
      principal.tokenHash = access.hashToken token

/-- With distinct hashes, a principal is authorized when its token is shown.  The search stops
at the first principal with the hash of the token, and with distinct hashes there is no other. -/
theorem authorizeManagement_iff {access : ManagementAccess}
    (hnodup : (access.managementPrincipals.map (·.tokenHash)).Nodup) (request : RoutedRequest)
    (authorized : AuthorizedManagementPrincipal) :
    authorizeManagement access.hashToken access.managementPrincipals request.authorization =
        some authorized ↔
      ∃ principal, IdentifiedBy access request principal ∧ principal.authorized = authorized := by
  unfold authorizeManagement IdentifiedBy
  rw [Option.bind_eq_some_iff]
  constructor
  · rintro ⟨token, htoken, h⟩
    obtain ⟨principal, hfind, heq⟩ := Option.map_eq_some_iff.mp h
    have hfound := List.find?_some hfind
    rw [Bool.and_eq_true, beq_iff_eq] at hfound
    exact ⟨principal, ⟨List.mem_of_find?_eq_some hfind, hfound.1, token, htoken, hfound.2⟩, heq⟩
  · rintro ⟨principal, ⟨hmem, henabled, token, htoken, hhash⟩, heq⟩
    refine ⟨token, htoken, ?_⟩
    -- the search ends on some principal with that hash, and hashes are distinct
    cases hfind : access.managementPrincipals.find? fun other =>
        other.enabled && other.tokenHash == access.hashToken token with
    | none =>
        rw [List.find?_eq_none] at hfind
        exact absurd (by simp [henabled, hhash]) (hfind principal hmem)
    | some other =>
        have hfound := List.find?_some hfind
        rw [Bool.and_eq_true, beq_iff_eq] at hfound
        have hsame := List.inj_on_of_nodup_map hnodup (List.mem_of_find?_eq_some hfind) hmem
          (hfound.2.trans hhash.symm)
        rw [hsame, ← heq]
        rfl

/-- Nobody is authorized when the token is no enabled principal's. -/
theorem authorizeManagement_none {access : ManagementAccess}
    (hnodup : (access.managementPrincipals.map (·.tokenHash)).Nodup) {request : RoutedRequest} :
    authorizeManagement access.hashToken access.managementPrincipals request.authorization = none ↔
      ∀ principal, ¬ IdentifiedBy access request principal := by
  rw [Option.eq_none_iff_forall_ne_some]
  constructor
  · intro hnone principal hshows
    exact hnone principal.authorized
      ((authorizeManagement_iff hnodup request _).mpr ⟨principal, hshows, rfl⟩)
  · intro hnobody authorized hsome
    obtain ⟨principal, hshows, -⟩ := (authorizeManagement_iff hnodup request _).mp hsome
    exact hnobody principal hshows

/-- A request shows the token of one principal at most. -/
theorem IdentifiedBy.unique {access : ManagementAccess}
    (hnodup : (access.managementPrincipals.map (·.tokenHash)).Nodup) {request : RoutedRequest}
    {principal other : ResolvedManagementPrincipal} (h : IdentifiedBy access request principal)
    (hother : IdentifiedBy access request other) : other = principal := by
  obtain ⟨hmem, -, token, htoken, hhash⟩ := h
  obtain ⟨hmem', -, token', htoken', hhash'⟩ := hother
  rw [htoken] at htoken'
  cases htoken'
  exact List.inj_on_of_nodup_map hnodup hmem' hmem (hhash'.trans hhash.symm)

/-! ## §5. The gate. -/

/-- What a request must come with to reach a specified route. -/
def Admitted (access : ManagementAccess) (request : RoutedRequest)
    (spec : ManagementRouteSpec) : Prop :=
  (∃ peer, request.peer = some peer ∧ access.managementIpAllowlist.allowsIp peer = true) ∧
    ∃ principal, IdentifiedBy access request principal ∧
      principal.role.allows spec.minimumRole = true

/-- The refusal of the first check that a request for a management path fails.  The premises of
each case say that the checks before it have passed, so that no two cases overlap. -/
inductive RefusedWith (access : ManagementAccess) (request : RoutedRequest) (pattern : String) :
    Response → Prop
  /-- The connection has no peer address. -/
  | noPeer (hpeer : request.peer = none) :
      RefusedWith access request pattern (jsonError 403 "management peer address is unavailable")
  /-- The peer is outside the allow-list. -/
  | peerNotAllowed {peer : PeerAddress} (hpeer : request.peer = some peer)
      (hallowed : access.managementIpAllowlist.allowsIp peer = false) :
      RefusedWith access request pattern (jsonError 403 "management peer address is not allowed")
  /-- The token is no enabled principal's. -/
  | nobody {peer : PeerAddress} (hpeer : request.peer = some peer)
      (hallowed : access.managementIpAllowlist.allowsIp peer = true)
      (hnobody : ∀ principal, ¬ IdentifiedBy access request principal) :
      RefusedWith access request pattern (jsonError 401 "invalid management api key")
  /-- The table has no entry for the method and the pattern. -/
  | notRegistered {peer : PeerAddress} {principal : ResolvedManagementPrincipal}
      (hpeer : request.peer = some peer)
      (hallowed : access.managementIpAllowlist.allowsIp peer = true)
      (hshows : IdentifiedBy access request principal)
      (hspec : managementRouteSpec request.method pattern = none) :
      RefusedWith access request pattern (jsonError 403 "management route is not registered")
  /-- The principal's role is below the one that the entry asks for. -/
  | roleTooLow {peer : PeerAddress} {principal : ResolvedManagementPrincipal}
      {spec : ManagementRouteSpec} (hpeer : request.peer = some peer)
      (hallowed : access.managementIpAllowlist.allowsIp peer = true)
      (hshows : IdentifiedBy access request principal)
      (hspec : managementRouteSpec request.method pattern = some spec)
      (hrole : principal.role.allows spec.minimumRole = false) :
      RefusedWith access request pattern
        (jsonError 403 "management principal role is not allowed for this route")

/-- The gate refuses with the response of the first check that fails.  The proof goes through
the checks in the order of the source. -/
theorem managementRoleGate_some {access : ManagementAccess}
    (hnodup : (access.managementPrincipals.map (·.tokenHash)).Nodup) {request : RoutedRequest}
    (hpath : isManagementPath request.path = true) (pattern : String) (response : Response) :
    managementRoleGate access request pattern = some response ↔
      RefusedWith access request pattern response := by
  have hauthorize := authorizeManagement_iff hnodup request
  unfold managementRoleGate
  rw [hpath]
  constructor
  · intro h
    -- the checks in the order of the source
    cases hpeer : request.peer with
    | none =>
        simp only [hpeer, Bool.not_true, Bool.false_eq_true, if_false, Option.some.injEq] at h
        exact h ▸ .noPeer hpeer
    | some peer =>
        cases hallowed : access.managementIpAllowlist.allowsIp peer with
        | false =>
            simp only [hpeer, hallowed, Bool.not_true, Bool.not_false, Bool.false_eq_true,
              if_false, if_true, Option.some.injEq] at h
            exact h ▸ .peerNotAllowed hpeer hallowed
        | true =>
            cases hprincipal : authorizeManagement access.hashToken access.managementPrincipals
                request.authorization with
            | none =>
                simp only [hpeer, hallowed, hprincipal, Bool.not_true, Bool.false_eq_true,
                  if_false, Option.some.injEq] at h
                exact h ▸ .nobody hpeer hallowed ((authorizeManagement_none hnodup).mp hprincipal)
            | some authorized =>
                obtain ⟨principal, hshows, rfl⟩ := (hauthorize authorized).mp hprincipal
                cases hspec : managementRouteSpec request.method pattern with
                | none =>
                    simp only [hpeer, hallowed, hprincipal, hspec, Bool.not_true,
                      Bool.false_eq_true, if_false, Option.some.injEq] at h
                    exact h ▸ .notRegistered hpeer hallowed hshows hspec
                | some spec =>
                    simp only [hpeer, hallowed, hprincipal, hspec, Bool.not_true,
                      Bool.false_eq_true, if_false, Bool.not_eq_true', Option.ite_none_right_eq_some,
                      Option.some.injEq] at h
                    exact h.2 ▸ .roleTooLow hpeer hallowed hshows hspec h.1
  · intro h
    cases h with
    | noPeer hpeer => simp [hpeer]
    | peerNotAllowed hpeer hallowed => simp [hpeer, hallowed]
    | nobody hpeer hallowed hnobody =>
        simp [hpeer, hallowed, (authorizeManagement_none hnodup).mpr hnobody]
    | notRegistered hpeer hallowed hshows hspec =>
        simp [hpeer, hallowed, hspec, (hauthorize _).mpr ⟨_, hshows, rfl⟩]
    | roleTooLow hpeer hallowed hshows hspec hrole =>
        simp only [hpeer, hallowed, hspec, (hauthorize _).mpr ⟨_, hshows, rfl⟩]
        simp [ResolvedManagementPrincipal.authorized, hrole]

/-- The gate lets an admitted request pass and no other.  It is the other half of
`managementRoleGate_some`. -/
theorem managementRoleGate_none {access : ManagementAccess}
    (hnodup : (access.managementPrincipals.map (·.tokenHash)).Nodup) {request : RoutedRequest}
    (hpath : isManagementPath request.path = true) (pattern : String) :
    managementRoleGate access request pattern = none ↔
      ∃ spec, managementRouteSpec request.method pattern = some spec ∧
        Admitted access request spec := by
  rw [Option.eq_none_iff_forall_ne_some]
  simp only [ne_eq, managementRoleGate_some hnodup hpath]
  constructor
  -- the checks in their order; a request that fails one would have been refused there
  · intro hpassed
    cases hpeer : request.peer with
    | none => exact absurd (.noPeer hpeer) (hpassed _)
    | some peer =>
        cases hallowed : access.managementIpAllowlist.allowsIp peer with
        | false => exact absurd (.peerNotAllowed hpeer hallowed) (hpassed _)
        | true =>
            by_cases hnobody : ∀ principal, ¬ IdentifiedBy access request principal
            · exact absurd (.nobody hpeer hallowed hnobody) (hpassed _)
            · simp only [not_forall, not_not] at hnobody
              obtain ⟨principal, hshows⟩ := hnobody
              cases hspec : managementRouteSpec request.method pattern with
              | none => exact absurd (.notRegistered hpeer hallowed hshows hspec) (hpassed _)
              | some spec =>
                  refine ⟨spec, rfl, ⟨peer, hpeer, hallowed⟩, principal, hshows, ?_⟩
                  cases hrole : principal.role.allows spec.minimumRole with
                  | false =>
                      exact absurd (.roleTooLow hpeer hallowed hshows hspec hrole) (hpassed _)
                  | true => rfl
  -- no refusal is possible: each names a check that the request passes
  · rintro ⟨spec, hspec, ⟨peer, hpeer, hallowed⟩, principal, hshows, hrole⟩ response hrefused
    cases hrefused with
    | noPeer hpeer' => simp [hpeer] at hpeer'
    | peerNotAllowed hpeer' hallowed' =>
        rw [hpeer] at hpeer'
        cases hpeer'
        simp [hallowed] at hallowed'
    | nobody _ _ hnobody => exact hnobody principal hshows
    | notRegistered _ _ _ hspec' => simp [hspec] at hspec'
    | roleTooLow _ _ hshows' hspec' hrole' =>
        rw [hspec] at hspec'
        cases hspec'
        rw [hshows.unique hnodup hshows'] at hrole'
        simp [hrole] at hrole'

/-- A handler ran: its pattern was found, the gate let the request pass and the route has a
handler for the method. -/
theorem serve_handler {findPattern : String → Option String} {access : ManagementAccess}
    {request : RoutedRequest} {pattern method : String} :
    serve findPattern access request = .handler pattern method ↔
      findPattern request.path = some pattern ∧ request.method = method ∧
        managementRoleGate access request pattern = none ∧
        (routes.any fun route => route.1 == pattern && route.2.handles method) = true := by
  unfold serve
  cases findPattern request.path with
  | none => simp
  | some found =>
      dsimp only
      -- the gate's answer is returned, and the handler is not looked for
      cases hgate : managementRoleGate access request found with
      | some response =>
          simp only [Option.some.injEq]
          constructor
          · intro h
            cases h
          · rintro ⟨rfl, -, hnone, -⟩
            rw [hgate] at hnone
            cases hnone
      | none =>
          dsimp only
          constructor
          · intro h
            split at h
            · next hhandles =>
                injection h with hpattern hmethod
                subst hpattern hmethod
                exact ⟨rfl, rfl, hgate, hhandles⟩
            · cases h
          · rintro ⟨hfound, rfl, -, hhandles⟩
            cases hfound
            rw [if_pos hhandles]

/-- A refusal is the gate's. -/
theorem serve_denied {findPattern : String → Option String} {access : ManagementAccess}
    {request : RoutedRequest} {response : Response} :
    serve findPattern access request = .denied response ↔
      ∃ found, findPattern request.path = some found ∧
        managementRoleGate access request found = some response := by
  unfold serve
  cases findPattern request.path with
  | none => simp
  | some found =>
      dsimp only
      cases hgate : managementRoleGate access request found with
      | some refusal => simp [hgate]
      | none =>
          simp only [Option.some.injEq, exists_eq_left', hgate, reduceCtorEq, iff_false]
          split <;> exact fun h => Served.noConfusion h

theorem serve_notFound {findPattern : String → Option String} {access : ManagementAccess}
    {request : RoutedRequest} :
    serve findPattern access request = .notFound ↔ findPattern request.path = none := by
  unfold serve
  cases findPattern request.path with
  | none => simp
  | some found =>
      dsimp only
      cases managementRoleGate access request found with
      | some refusal => simp
      | none =>
          simp only [reduceCtorEq, iff_false]
          split <;> exact fun h => Served.noConfusion h

/-- Whom the gate lets through to a management path finds a handler for the method.  A request
for a method without a handler has been refused before, as the table has no entry for it. -/
theorem serve_ne_methodNotAllowed {findPattern : String → Option String}
    {access : ManagementAccess}
    (hnodup : (access.managementPrincipals.map (·.tokenHash)).Nodup) {request : RoutedRequest}
    (hpath : isManagementPath request.path = true) :
    serve findPattern access request ≠ .methodNotAllowed := by
  unfold serve
  cases findPattern request.path with
  | none => simp
  | some found =>
      dsimp only
      cases hgate : managementRoleGate access request found with
      | some refusal => simp
      | none =>
          obtain ⟨spec, hspec, -⟩ := (managementRoleGate_none hnodup hpath found).mp hgate
          obtain ⟨hmem, hmethod, hpattern⟩ := managementRouteSpec_some hspec
          have hhandles := handles_of_spec hmem
          rw [hpattern, hmethod] at hhandles
          dsimp only
          rw [if_pos hhandles]
          exact fun h => Served.noConfusion h

/-- No pattern is found for a path that none of the registered ones matches.  This is all that
a refusal as not found depends on. -/
theorem PathRouter.findPattern_none {findPattern : String → Option String}
    (hrouter : PathRouter findPattern) {path : String} :
    findPattern path = none ↔ ∀ route ∈ routes, patternMatches route.1 path = false := by
  constructor
  · intro hnone route hroute
    by_contra hmatch
    have hsome := hrouter.found path route.1 (List.mem_map_of_mem hroute)
      (Bool.eq_true_of_not_eq_false hmatch)
    rw [hnone] at hsome
    cases hsome
  · intro hnomatch
    rw [Option.eq_none_iff_forall_ne_some]
    intro pattern hfound
    obtain ⟨route, hroute, rfl⟩ := List.mem_map.mp (hrouter.registered path pattern hfound)
    have hmatch := hrouter.matching path route.1 hfound
    rw [hnomatch route hroute] at hmatch
    cases hmatch

/-- A handler of the management interface runs exactly for an allowed peer with the token of
an enabled principal whose role the table's entry for the route allows; no path of the
interface reaches any other handler; whoever may only read runs none but the reading ones.
Every other request for such a path is answered with the refusal of the first check that it
fails, or as not found where no pattern matches the path. -/
theorem management_handler_runs_iff {findPattern : String → Option String}
    (hrouter : PathRouter findPattern) {environment : ResolveEnvironment} {adminToken : String}
    {configured : List ManagementPrincipalConfig} {principals : List ResolvedManagementPrincipal}
    (hresolved : resolveManagementPrincipals environment adminToken configured = .ok principals)
    (allowlist : ResolvedManagementIpAllowlist) (request : RoutedRequest)
    (pattern method : String) :
    let access : ManagementAccess := ⟨environment.hashToken, principals, allowlist⟩
    (serve findPattern access request = .handler pattern method ∧
        underManagement pattern = true ↔
      ∃ spec, managementRouteSpec method pattern = some spec ∧
        request.method = method ∧ findPattern request.path = some pattern ∧
        Admitted access request spec) ∧
    (isManagementPath request.path = true →
      serve findPattern access request = .handler pattern method →
      underManagement pattern = true) ∧
    (underManagement pattern = true → method ≠ "GET" →
      serve findPattern access request = .handler pattern method →
      ∃ principal, IdentifiedBy access request principal ∧ principal.role ≠ .readonly) ∧
    (isManagementPath request.path = true →
      (∀ response, serve findPattern access request = .denied response ↔
        ∃ found, findPattern request.path = some found ∧
          RefusedWith access request found response) ∧
      (serve findPattern access request = .notFound ↔
        ∀ route ∈ routes, patternMatches route.1 request.path = false) ∧
      serve findPattern access request ≠ .methodNotAllowed) := by
  intro access
  have hnodup : (access.managementPrincipals.map (·.tokenHash)).Nodup :=
    resolveManagementPrincipals_hashes hresolved
  -- a handler runs only behind the gate, so the gate has found nothing to object to
  have hruns : serve findPattern access request = .handler pattern method ∧
      underManagement pattern = true →
      ∃ spec, managementRouteSpec method pattern = some spec ∧
        request.method = method ∧ findPattern request.path = some pattern ∧
        Admitted access request spec := by
    rintro ⟨hserve, hunder⟩
    obtain ⟨hfound, rfl, hgate, -⟩ := serve_handler.mp hserve
    have hpath := (hrouter.management_iff hfound).mp hunder
    obtain ⟨spec, hspec, hadmitted⟩ := (managementRoleGate_none hnodup hpath pattern).mp hgate
    exact ⟨spec, hspec, rfl, hfound, hadmitted⟩
  refine ⟨⟨hruns, ?_⟩, ?_, ?_, ?_⟩
  -- the pattern of a specification is one of the router's, with a handler for the method
  · rintro ⟨spec, hspec, rfl, hfound, hadmitted⟩
    obtain ⟨hmem, hmethod, hpattern⟩ := managementRouteSpec_some hspec
    have hunder : underManagement pattern = true := by
      rw [← hpattern]
      exact specs_underManagement spec hmem
    have hpath := (hrouter.management_iff hfound).mp hunder
    have hgate := (managementRoleGate_none hnodup hpath pattern).mpr ⟨spec, hspec, hadmitted⟩
    have hhandles := handles_of_spec hmem
    rw [hpattern, hmethod] at hhandles
    exact ⟨serve_handler.mpr ⟨hfound, rfl, hgate, hhandles⟩, hunder⟩
  · intro hpath hserve
    exact (hrouter.management_iff (serve_handler.mp hserve).1).mpr hpath
  -- a route that mutates asks for more than a reader's role
  · intro hunder hmutates hserve
    obtain ⟨spec, hspec, -, -, -, principal, hshows, hrole⟩ := hruns ⟨hserve, hunder⟩
    obtain ⟨hmem, hmethod, -⟩ := managementRouteSpec_some hspec
    have hminimum := specs_roles spec hmem (by rw [hmethod]; exact hmutates)
    refine ⟨principal, hshows, ?_⟩
    intro hreadonly
    rw [hreadonly] at hrole
    cases hspecRole : spec.minimumRole with
    | readonly => exact hminimum hspecRole
    | operator => simp [hspecRole, ManagementRole.allows, ManagementRole.rank] at hrole
    | admin => simp [hspecRole, ManagementRole.allows, ManagementRole.rank] at hrole
  · intro hpath
    refine ⟨?_, ?_, serve_ne_methodNotAllowed hnodup hpath⟩
    · intro response
      rw [serve_denied]
      simp only [managementRoleGate_some hnodup hpath]
    · rw [serve_notFound]
      exact hrouter.findPattern_none

/-- A router that takes the first pattern that matches. -/
def firstMatch (path : String) : Option String :=
  (routes.map (·.1)).find? (patternMatches · path)

theorem firstMatch_pathRouter : PathRouter firstMatch where
  registered := fun _ _ h => List.mem_of_find?_eq_some h
  matching := fun path _ h => List.find?_some (p := (patternMatches · path)) h
  found := by
    intro path pattern hmem hmatch
    unfold firstMatch
    rw [List.find?_isSome]
    exact ⟨pattern, hmem, hmatch⟩

/-- An administrator at the loopback address disables a client token. -/
def disableClientTokenRequest : RoutedRequest where
  method := "POST"
  path := "/management/client-tokens/ci/disable"
  peer := some ⟨"127.0.0.1", true⟩
  authorization := some "Bearer root"

def rootPrincipal : ResolvedManagementPrincipal where
  id := oneKeyEnvironment.stableId "management" "admin"
  name := "local-admin"
  role := .admin
  tokenHash := oneKeyEnvironment.hashToken "root"
  enabled := true

/-- The path has a handler for the method, the peer is a loopback one, and the token is that of an
administrator, so the request passes every check and the handler runs. -/
theorem management_handler_runs_iff_disable :
    serve firstMatch ⟨oneKeyEnvironment.hashToken, [rootPrincipal], .loopbackOnly⟩
        disableClientTokenRequest =
      .handler "/management/client-tokens/:id/disable" "POST" := by
  have hresolved : resolveManagementPrincipals oneKeyEnvironment "root" [] =
      .ok [rootPrincipal] := rfl
  have hruns := (management_handler_runs_iff firstMatch_pathRouter hresolved .loopbackOnly
    disableClientTokenRequest "/management/client-tokens/:id/disable" "POST").1
  refine (hruns.mpr ⟨⟨"POST", "/management/client-tokens/:id/disable", .admin⟩, ?_, rfl, ?_, ?_⟩).1
  · decide +kernel
  · decide +kernel
  · exact ⟨⟨_, rfl, rfl⟩, rootPrincipal,
      ⟨List.mem_singleton.mpr rfl, rfl, "root", by decide +kernel, rfl⟩, rfl⟩

end OneAiKey
