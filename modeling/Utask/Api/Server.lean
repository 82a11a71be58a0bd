import Mathlib.Logic.Relation
import Utask.Gin.Chain
import Utask.Auth
import Utask.Api.Dashboard

/-!
# The routes of the API server (`api`)

`Server.build` registers the routes of the API on a gin engine, each with its chain of
handlers: the middlewares of its group, then the guards `requireAdmin` and `maintenanceMode`
where the route has them, then the tonic handler of the operation.  Plugins add route groups
with `RegisterPluginRoutes`.  A request is served by gin's chain semantics
(`Utask.Gin.serve`).

The two guards differ: `requireAdmin` aborts the chain when the caller is not an admin, while
`maintenanceMode` writes its `405` and returns without aborting, so that gin runs the next
handler anyway.  The handlers of plugin routes and the custom middlewares are opaque
identifiers, and what they do on a request is left open (`Env.outside`): the results below are
about the handlers `build` registers, and say nothing of what a plugin's own handlers do.  The
main results are

* `adminOps_require_admin`: on every server a program sets up from `NewServer`, the handlers of
  the admin operations run only for an admin;
* `adminOps_run_iff_init`: they run for some caller exactly when `auth.Init` succeeded;
* `operations_require_auth`: the handler of every operation but the statistics runs only after
  the authentication middleware let the request through;
* `handle_fixed_after_build`: once built, a server serves the same routes whatever is set up
  after;
* `dashboard_apiBaseURL_one_slash`: the files of the dashboard are served with a base URL of the
  API that ends with exactly one slash;
* `maintenanceMode_never_stops_chain`: maintenance mode never changes which handlers of a route
  run;
* `createTask_runs_in_maintenance_mode`: in maintenance mode, `POST /task` writes `405` and
  runs `handler.CreateTask` all the same.
-/

namespace Utask.Api

open Gin Auth

/-- The authentication middleware of the server: the default of `NewServer`, which only calls
`c.Next()`, or the middleware `WithAuth` or `WithGroupAuth` builds from a provider function
(both outside src), by an identifier of the provider. -/
inductive AuthMiddleware
  | noop
  | provider (p : ℕ)
  | groupProvider (p : ℕ)
deriving DecidableEq, Repr

/-- A handler of a chain that `build` registers.  `foreign f` is a `gin.HandlerFunc` given to
the server from outside src (a custom middleware or a handler of a plugin route), by an
identifier. -/
inductive HandlerFunc
  /-- `gin.Recovery()`. -/
  | recovery
  /-- `StaticFilePatternReplaceMiddleware(...)` of the dashboard or of the swagger UI, by its
  patterns, each with the text that replaces it in the files served. -/
  | staticFilePatternReplace (patterns : List (String × String))
  /-- The file handler `StaticFS` registers for a directory. -/
  | staticFS (root : String)
  /-- `gin.WrapH(promhttp.Handler())`. -/
  | metrics
  | foreign (f : ℕ)
  /-- `ajaxHeadersMiddleware`. -/
  | ajaxHeaders
  /-- `auditLogsMiddleware`. -/
  | auditLogs
  /-- `s.authMiddleware`. -/
  | auth (a : AuthMiddleware)
  | requireAdmin
  | maintenanceMode
  /-- `tonic.Handler(h, status)`, by the name of `h`. -/
  | tonic (h : String) (status : ℕ)
  /-- The handler of `GET /`, which redirects to `/meta`. -/
  | redirectMeta
  /-- `pingHandler`. -/
  | ping
  /-- `router.OpenAPI(...)`. -/
  | openAPI
deriving DecidableEq, Repr

/-- `PluginRoute`, by the fields `build` reads; `Infos` only documents the route. -/
structure PluginRoute where
  secured : Bool
  maintenance : Bool
  path : String
  method : String
  /-- `Handlers`, by the identifiers `HandlerFunc.foreign` takes; what they do is left open
  (`Env.outside`). -/
  handlers : List ℕ
deriving DecidableEq, Repr

/-- `PluginRouterGroup`. -/
structure PluginRouterGroup where
  path : String
  name : String
  description : String
  routes : List PluginRoute
deriving DecidableEq, Repr

/-- A route as `build` registers it: the method, the path of its group and its own path (which
gin joins), and its chain. -/
structure RouteSpec where
  method : String
  path : List String
  handlers : List HandlerFunc
deriving DecidableEq, Repr

/-- A route gin accepts: `combineHandlers` panics on a chain of `abortIndex` handlers or more. -/
structure Route extends RouteSpec where
  short : handlers.length < abortIndex

/-- `Server`, by the fields the routes depend on. -/
structure Server where
  authMiddleware : AuthMiddleware
  customMiddlewares : List ℕ
  pluginRoutes : List PluginRouterGroup
  dashboardPathPrefix : String
  dashboardAPIPathPrefix : String
  dashboardSentryDSN : String
  /-- `httpHandler`: the routes, once `build` has registered them. -/
  httpHandler : Option (List Route)

/-- `NewServer`. -/
def newServer : Server :=
  { authMiddleware := .noop, customMiddlewares := [], pluginRoutes := [], dashboardPathPrefix := "",
    dashboardAPIPathPrefix := "", dashboardSentryDSN := "", httpHandler := none }

namespace Server

/-- `WithAuth`; `none` is a nil provider. -/
def withAuth (s : Server) (authProvider : Option ℕ) : Server :=
  match authProvider with
  | some p => { s with authMiddleware := .provider p }
  | none => s

/-- `WithGroupAuth`; `none` is a nil provider. -/
def withGroupAuth (s : Server) (groupAuthProvider : Option ℕ) : Server :=
  match groupAuthProvider with
  | some p => { s with authMiddleware := .groupProvider p }
  | none => s

/-- `WithCustomMiddlewares`. -/
def withCustomMiddlewares (s : Server) (customMiddlewares : List ℕ) : Server :=
  { s with customMiddlewares := s.customMiddlewares ++ customMiddlewares }

/-- `SetDashboardPathPrefix`. -/
def setDashboardPathPrefix (s : Server) (dashboardPathPrefix : String) : Server :=
  { s with dashboardPathPrefix := dashboardPathPrefix }

/-- `SetDashboardAPIPathPrefix`. -/
def setDashboardAPIPathPrefix (s : Server) (dashboardAPIPathPrefix : String) : Server :=
  { s with dashboardAPIPathPrefix := dashboardAPIPathPrefix }

/-- `SetDashboardSentryDSN`. -/
def setDashboardSentryDSN (s : Server) (dashboardSentryDSN : String) : Server :=
  { s with dashboardSentryDSN := dashboardSentryDSN }

/-- `RegisterPluginRoutes`. -/
def registerPluginRoutes (s : Server) (group : PluginRouterGroup) : Except Error Server := do
  group.routes.forM fun route =>
    if route.handlers.length = 0 then throw (.notImplemented "found route without handler")
    else pure ()
  pure { s with pluginRoutes := s.pluginRoutes ++ [group] }

/-- The patterns of the files of the dashboard, with the texts that replace them. -/
def dashboardPatterns (s : Server) : List (String × String) :=
  [("___UTASK_DASHBOARD_BASEHREF___", generateBaseHref s.dashboardPathPrefix "/ui/dashboard"),
   ("___UTASK_DASHBOARD_PREFIXAPIBASEURL___", generatePathPrefixAPI s.dashboardAPIPathPrefix),
   ("___UTASK_DASHBOARD_SENTRY_DSN___", s.dashboardSentryDSN)]

/-- The patterns of the files of the swagger UI, with the texts that replace them. -/
def swaggerPatterns (s : Server) : List (String × String) :=
  [("___UTASK_DASHBOARD_PREFIXAPIBASEURL___", generatePathPrefixAPI s.dashboardAPIPathPrefix),
   ("___UTASK_DASHBOARD_SENTRY_DSN___", s.dashboardSentryDSN)]

/-- The middlewares `router.Use` puts before every route registered through fizz. -/
def apiMiddlewares (s : Server) : List HandlerFunc :=
  .recovery :: s.customMiddlewares.map .foreign ++ [.ajaxHeaders, .auditLogs]

/-- The chain of a plugin route: `maintenanceMode` if the route asks for it, the
authentication middleware if it is secured, then the route's own handlers. -/
def pluginChain (s : Server) (r : PluginRoute) : List HandlerFunc :=
  s.apiMiddlewares ++ (if r.maintenance then [.maintenanceMode] else []) ++
    (if r.secured then [.auth s.authMiddleware] else []) ++ r.handlers.map .foreign

/-- The routes of the group `authRoutes`, behind the authentication middleware. -/
def authRoutes (s : Server) : List RouteSpec :=
  let g := s.apiMiddlewares ++ [.auth s.authMiddleware]
  let route (method path : String) (hs : List HandlerFunc) : RouteSpec :=
    ⟨method, ["/", path], g ++ hs⟩
  [route "GET" "/template" [.tonic "ListTemplates" 200],
   route "GET" "/template/:name" [.tonic "GetTemplate" 200],
   route "GET" "/function" [.tonic "ListFunctions" 200],
   route "GET" "/function/:name" [.tonic "GetFunction" 200],
   route "POST" "/batch" [.maintenanceMode, .tonic "CreateBatch" 201],
   route "POST" "/task" [.maintenanceMode, .tonic "CreateTask" 201],
   route "GET" "/task" [.tonic "ListTasks" 200],
   route "GET" "/task/:id" [.tonic "GetTask" 200],
   route "PUT" "/task/:id" [.maintenanceMode, .tonic "UpdateTask" 200],
   route "POST" "/task/:id/wontfix" [.maintenanceMode, .tonic "WontfixTask" 204],
   route "DELETE" "/task/:id" [.requireAdmin, .maintenanceMode, .tonic "DeleteTask" 204],
   route "POST" "/task/:id/comment" [.maintenanceMode, .tonic "CreateComment" 201],
   route "GET" "/task/:id/comment" [.tonic "ListComments" 200],
   route "GET" "/task/:id/comment/:commentid" [.tonic "GetComment" 200],
   route "PUT" "/task/:id/comment/:commentid" [.maintenanceMode, .tonic "UpdateComment" 200],
   route "DELETE" "/task/:id/comment/:commentid" [.maintenanceMode, .tonic "DeleteComment" 204],
   route "POST" "/resolution" [.maintenanceMode, .tonic "CreateResolution" 201],
   route "GET" "/resolution/:id" [.tonic "GetResolution" 200],
   route "PUT" "/resolution/:id" [.requireAdmin, .maintenanceMode, .tonic "UpdateResolution" 204],
   route "POST" "/resolution/:id/run" [.maintenanceMode, .tonic "RunResolution" 204],
   route "POST" "/resolution/:id/pause" [.maintenanceMode, .tonic "PauseResolution" 204],
   route "POST" "/resolution/:id/extend" [.maintenanceMode, .tonic "ExtendResolution" 204],
   route "POST" "/resolution/:id/cancel" [.maintenanceMode, .tonic "CancelResolution" 204],
   route "GET" "/resolution/:id/step/:stepName" [.tonic "GetResolutionStep" 200],
   route "PUT" "/resolution/:id/step/:stepName"
     [.requireAdmin, .maintenanceMode, .tonic "UpdateResolutionStep" 204],
   route "PUT" "/resolution/:id/step/:stepName/state"
     [.maintenanceMode, .tonic "UpdateResolutionStepState" 204],
   route "GET" "/" [.redirectMeta],
   route "GET" "/meta" [.tonic "rootHandler" 200],
   route "POST" "/key-rotate" [.requireAdmin, .tonic "keyRotate" 200]]

/-- Every route `build` registers, in order: the static files, the metrics, the routes behind
authentication, the unsecured routes, and the plugin routes. -/
def routeSpecs (s : Server) : List RouteSpec :=
  [⟨"GET", ["/", "/ui/dashboard/*filepath"],
      [.recovery, .staticFilePatternReplace s.dashboardPatterns, .staticFS "./static/dashboard"]⟩,
   ⟨"HEAD", ["/", "/ui/dashboard/*filepath"],
      [.recovery, .staticFilePatternReplace s.dashboardPatterns, .staticFS "./static/dashboard"]⟩,
   ⟨"GET", ["/", "/ui/swagger/*filepath"],
      [.recovery, .staticFilePatternReplace s.swaggerPatterns, .staticFS "./static/swagger-ui"]⟩,
   ⟨"HEAD", ["/", "/ui/swagger/*filepath"],
      [.recovery, .staticFilePatternReplace s.swaggerPatterns, .staticFS "./static/swagger-ui"]⟩,
   ⟨"GET", ["/", "/metrics"], [.recovery, .metrics]⟩] ++
  s.authRoutes ++
  [⟨"GET", ["/", "/unsecured/mon/ping"], s.apiMiddlewares ++ [.ping]⟩,
   ⟨"GET", ["/", "/unsecured/spec.json"], s.apiMiddlewares ++ [.openAPI]⟩,
   ⟨"GET", ["/", "/unsecured/stats"], s.apiMiddlewares ++ [.tonic "Stats" 200]⟩] ++
  s.pluginRoutes.flatMap fun p =>
    p.routes.map fun r => ⟨r.method, [p.path, r.path], s.pluginChain r⟩

/-- The routes gin registers for `build`, or the panic of `combineHandlers` when a chain is too
long. -/
def routes (s : Server) : Except String (List Route) :=
  if h : ∀ r ∈ s.routeSpecs, r.handlers.length < abortIndex then
    .ok (s.routeSpecs.attach.map fun r => ⟨r.1, h r.1 r.2⟩)
  else .error "too many handlers"

/-- `build`: the routes are registered the first time only. -/
def build (s : Server) : Except String Server :=
  match s.httpHandler with
  | some _ => .ok s
  | none => (s.routes).map fun rs => { s with httpHandler := some rs }

end Server

/-! ### Serving a request -/

/-- What a request meets while it is served. -/
structure Env where
  /-- `utask.FMaintenanceMode`. -/
  maintenanceMode : Bool
  /-- The identity and groups the authentication middleware stores in the context. -/
  ctx : Auth.Context
  /-- `adminUsers` and `adminGroups`. -/
  admins : Admins
  /-- Whether the database answers `SELECT 1` with `1`. -/
  pingOk : Bool
  /-- What each handler whose code is outside src does on this request. -/
  outside : HandlerFunc → List Op

/-- `requireAdmin`: `c.AbortWithStatus(401)` writes the status and aborts. -/
def requireAdmin (env : Env) : List Op :=
  if (isAdmin env.admins env.ctx).toBool = false then [.write 401, .abort] else [.next]

/-- `maintenanceMode`: `c.JSON(405, ...)` writes the status; nothing aborts. -/
def maintenanceMode (env : Env) : List Op :=
  if env.maintenanceMode then [.write 405] else [.next]

/-- `pingHandler`. -/
def pingHandler (env : Env) : List Op :=
  if env.pingOk then [.write 200] else [.write 500]

/-- What `pingHandler` answers, from what `zesty.NewDBProvider` and `SELECT 1` return: the status,
the body, and the error it adds to the context. -/
def pingResponse (newDBProvider : Except String Unit) (selectOne : Except String ℤ) :
    ℕ × String × Option String :=
  match newDBProvider with
  | .error err => (500, "", some err)
  | .ok () =>
    match selectOne with
    | .error err => (500, "", some err)
    | .ok i =>
      if i ≠ 1 then (500, "", some ("Unexpected value " ++ toString i)) else (200, "pong", none)

/-- `Env.pingOk` is whether the database answers `SELECT 1` with `1`: `pingHandler` writes the
status of `pingResponse`. -/
lemma pingHandler_eq_pingResponse {env : Env} {newDBProvider : Except String Unit}
    {selectOne : Except String ℤ}
    (h : env.pingOk = true ↔ newDBProvider = .ok () ∧ selectOne = .ok 1) :
    pingHandler env = [.write (pingResponse newDBProvider selectOne).1] := by
  unfold pingHandler pingResponse
  rcases newDBProvider with _ | ⟨⟩ <;> rcases selectOne with _ | i <;> simp_all
  split_ifs <;> simp_all

/-- `rootOut`. -/
structure RootOut where
  applicationName : String
  userIsAdmin : Bool
  username : String
  userGroups : List String
  version : String
  commit : String
deriving DecidableEq, Repr

/-- `rootHandler`, the value of `GET /meta`, with `utask.AppName()`, `utask.Version` and
`utask.Commit`; the nil list of groups it replaces by an empty one is the empty list here. -/
def rootHandler (appName version commit : String) (env : Env) : Except Error RootOut :=
  .ok { applicationName := appName
        userIsAdmin := (isAdmin env.admins env.ctx).toBool
        username := getIdentity env.ctx
        userGroups := getGroups env.ctx
        version := version
        commit := commit }

/-- The body of a handler on a request. -/
def HandlerFunc.body (env : Env) : HandlerFunc → List Op
  | .recovery => [.next]
  | .auth .noop => [.next]
  | .requireAdmin => Api.requireAdmin env
  | .maintenanceMode => Api.maintenanceMode env
  | .tonic _ _ => [.work]
  | .redirectMeta => [.write 301]
  | .ping => pingHandler env
  | h => env.outside h

/-- Serving a request on a route. -/
def serveRoute (env : Env) (r : Route) : Gin.Context :=
  serve (r.handlers.map (HandlerFunc.body env))

/-- The route the router finds for a method and a path pattern, by its group part and its own
part. -/
def Server.route? (s : Server) (method : String) (path : List String) : Option Route :=
  (s.httpHandler.getD []).find? fun r => r.method = method ∧ r.path = path

/-- Serving a request: the router finds its route and gin runs its chain; `none` is gin's
`404`. -/
def Server.handle (s : Server) (env : Env) (method : String) (path : List String) :
    Option Gin.Context :=
  (s.route? method path).map (serveRoute env)

/-! ### Registering the routes -/

namespace Server

/-- `RegisterPluginRoutes` adds the group exactly when every route of it has a handler. -/
lemma registerPluginRoutes_eq_ok_iff {s s' : Server} {group : PluginRouterGroup} :
    s.registerPluginRoutes group = .ok s' ↔
      (∀ r ∈ group.routes, r.handlers ≠ []) ∧
        s' = { s with pluginRoutes := s.pluginRoutes ++ [group] } := by
  rw [registerPluginRoutes, forM_bind_eq_ok_iff, eq_comm (a := s')]
  refine and_congr_left' (forall₂_congr fun r _ => ?_)
  by_cases h : r.handlers = [] <;> simp [h, throw, throwThe, MonadExceptOf.throw, pure, Except.pure]

/-- Gin registers every route of the table, or panics. -/
lemma routes_isOk_iff {s : Server} :
    (∃ rs, s.routes = .ok rs) ↔ ∀ r ∈ s.routeSpecs, r.handlers.length < abortIndex := by
  unfold routes
  split_ifs with h
  · exact iff_of_true ⟨_, rfl⟩ h
  · simp [h]

lemma mem_routeSpecs_of_routes {s : Server} {rs : List Route} (h : s.routes = .ok rs) {r : Route}
    (hr : r ∈ rs) : r.toRouteSpec ∈ s.routeSpecs := by
  unfold routes at h
  split_ifs at h
  cases h
  obtain ⟨⟨r', hr'⟩, -, rfl⟩ := List.mem_map.1 hr
  exact hr'

/-- `build` either keeps the routes it registered before or, the first time, registers the
table's. -/
lemma build_httpHandler {s s' : Server} (h : s.build = .ok s') :
    s'.httpHandler = s.httpHandler ∨
      s.httpHandler = none ∧ ∃ rs, s.routes = .ok rs ∧ s'.httpHandler = some rs := by
  unfold build at h
  split at h
  · cases h
    exact .inl rfl
  next hnone =>
    cases hr : s.routes with
    | error e => simp [hr, Except.map] at h
    | ok rs =>
      simp only [hr, Except.map, Except.ok.injEq] at h
      exact .inr ⟨hnone, rs, rfl, by rw [← h]⟩

end Server

/-- One call a program makes on a server before it serves: the options, `RegisterPluginRoutes`
and `build` (run by `Handler` and `ListenAndServe`). -/
inductive SetupStep : Server → Server → Prop
  | withAuth (s : Server) (p : Option ℕ) : SetupStep s (s.withAuth p)
  | withGroupAuth (s : Server) (p : Option ℕ) : SetupStep s (s.withGroupAuth p)
  | withCustomMiddlewares (s : Server) (ms : List ℕ) : SetupStep s (s.withCustomMiddlewares ms)
  | setDashboardPathPrefix (s : Server) (p : String) : SetupStep s (s.setDashboardPathPrefix p)
  | setDashboardAPIPathPrefix (s : Server) (p : String) :
      SetupStep s (s.setDashboardAPIPathPrefix p)
  | setDashboardSentryDSN (s : Server) (dsn : String) : SetupStep s (s.setDashboardSentryDSN dsn)
  | registerPluginRoutes (s s' : Server) (g : PluginRouterGroup) :
      s.registerPluginRoutes g = .ok s' → SetupStep s s'
  | build (s s' : Server) : s.build = .ok s' → SetupStep s s'

/-- What one setup call can do to the routes: keep them, or register the table's on a server
not yet built. -/
lemma SetupStep.httpHandler_cases {s s' : Server} (hstep : SetupStep s s') :
    s'.httpHandler = s.httpHandler ∨
      s.httpHandler = none ∧ ∃ rs, s.routes = .ok rs ∧ s'.httpHandler = some rs := by
  cases hstep with
  | withAuth p => cases p <;> exact .inl rfl
  | withGroupAuth p => cases p <;> exact .inl rfl
  | withCustomMiddlewares | setDashboardPathPrefix | setDashboardAPIPathPrefix
  | setDashboardSentryDSN => exact .inl rfl
  | registerPluginRoutes _ g h =>
    rw [(Server.registerPluginRoutes_eq_ok_iff.1 h).2]
    exact .inl rfl
  | build _ h => exact Server.build_httpHandler h

/-- A property of every route table `build` registers holds of the routes of every server a
program sets up. -/
lemma routes_of_setup {P : List Route → Prop}
    (hP : ∀ (s : Server) (rs : List Route), s.routes = .ok rs → P rs)
    {s s' : Server} (h : Relation.ReflTransGen SetupStep s s')
    (hs : ∀ rs, s.httpHandler = some rs → P rs) : ∀ rs, s'.httpHandler = some rs → P rs := by
  induction h with
  | refl => exact hs
  | tail _ hstep ih =>
    rcases hstep.httpHandler_cases with h | ⟨-, rs, hrs, h⟩
    · rw [h]
      exact ih
    · intro rs' h'
      rw [h, Option.some.injEq] at h'
      exact h' ▸ hP _ rs hrs

/-! ### Which handlers of a route run -/

section Serving

variable (env : Env)

/-- The handler at position `j` of a route runs exactly when every handler before it lets the
chain go on. -/
lemma mem_enter_serveRoute_iff (r : Route) (j : ℕ) :
    Event.enter j ∈ (serveRoute env r).events ↔
      j < r.handlers.length ∧ ∀ h ∈ r.handlers.take j, passes (h.body env) = true := by
  rw [serveRoute, mem_enter_serve_iff (by simpa using r.short.le), lt_reached_iff]
  simp [← List.map_take]

@[simp] lemma passes_maintenanceMode : passes (maintenanceMode env) = true := by
  unfold maintenanceMode; split <;> rfl

@[simp] lemma passes_pingHandler : passes (pingHandler env) = true := by
  unfold pingHandler; split <;> rfl

lemma passes_requireAdmin :
    passes (requireAdmin env) = true ↔ isAdmin env.admins env.ctx = .ok () := by
  rw [← toBool_eq_true_iff, requireAdmin]
  cases (isAdmin env.admins env.ctx).toBool <;> decide

/-- Whether a handler lets the chain go on does not depend on maintenance mode. -/
@[simp] lemma passes_body_maintenanceMode (b : Bool) (h : HandlerFunc) :
    passes (h.body { env with maintenanceMode := b }) = passes (h.body env) := by
  cases h with
  | maintenanceMode => simp [HandlerFunc.body]
  | auth a => cases a <;> rfl
  | _ => rfl

/-- Maintenance mode never changes which handlers of a route run: `maintenanceMode` writes its
`405` but lets the chain go on. -/
theorem maintenanceMode_never_stops_chain (r : Route) (j : ℕ) :
    Event.enter j ∈ (serveRoute env r).events ↔
      Event.enter j ∈ (serveRoute { env with maintenanceMode := false } r).events := by
  simp only [mem_enter_serveRoute_iff, passes_body_maintenanceMode]

/-- A handler before one that runs has let the chain go on. -/
lemma passes_of_enter (r : Route) {i j : ℕ} (hij : i < j) {h : HandlerFunc}
    (hi : r.handlers[i]? = some h) (hj : Event.enter j ∈ (serveRoute env r).events) :
    passes (h.body env) = true :=
  ((mem_enter_serveRoute_iff env r j).1 hj).2 _
    (List.mem_iff_getElem?.2 ⟨i, by rw [List.getElem?_take_of_lt hij, hi]⟩)

/-- A handler after `requireAdmin` runs only for an admin. -/
lemma isAdmin_of_enter_after_requireAdmin (r : Route) {i j : ℕ} (hij : i < j)
    (hi : r.handlers[i]? = some .requireAdmin) (hj : Event.enter j ∈ (serveRoute env r).events) :
    isAdmin env.admins env.ctx = .ok () :=
  (passes_requireAdmin env).1 (passes_of_enter env r hij hi hj)

/-- When the handlers from outside src let the chain go on, every handler does for an admin. -/
lemma passes_body_of_isAdmin (hadmin : isAdmin env.admins env.ctx = .ok ())
    (hout : ∀ h, passes (env.outside h) = true) (h : HandlerFunc) : passes (h.body env) = true := by
  cases h with
  | requireAdmin => exact (passes_requireAdmin env).2 hadmin
  | maintenanceMode => exact passes_maintenanceMode env
  | ping => exact passes_pingHandler env
  | auth a => cases a <;> first | rfl | exact hout _
  | _ => first | rfl | exact hout _

end Serving

/-- With maintenance mode on, a `POST /task` to a server built from `NewServer` gets the `405`
of `maintenanceMode`, and gin then runs `handler.CreateTask` all the same. -/
theorem createTask_runs_in_maintenance_mode :
    (newServer.build.toOption.bind fun s => s.route? "POST" ["/", "/task"]).bind
        (·.handlers[5]?) = some (.tonic "CreateTask" 201) ∧
    (newServer.build.toOption.bind fun s =>
        s.handle ⟨true, ⟨none, none⟩, ⟨[], []⟩, true, fun _ => [.next]⟩ "POST" ["/", "/task"]).map
        Gin.Context.events =
      some [.enter 0, .enter 1, .enter 2, .enter 3, .enter 4, .write 4 405, .enter 5, .work 5] := by
  decide

/-! ### The admin operations -/

/-- The operations whose routes `build` puts behind `requireAdmin`. -/
def adminOps : List String :=
  ["DeleteTask", "UpdateResolution", "UpdateResolutionStep", "keyRotate"]

/-- Whether a `requireAdmin` comes before every handler of an admin operation of a chain. -/
def adminGuarded : List HandlerFunc → Bool
  | [] => true
  | .requireAdmin :: _ => true
  | .tonic op _ :: hs => !(adminOps.contains op) && adminGuarded hs
  | _ :: hs => adminGuarded hs

lemma adminGuarded_spec {hs : List HandlerFunc} (h : adminGuarded hs = true) {j : ℕ} {op : String}
    {status : ℕ} (hj : hs[j]? = some (.tonic op status)) (hop : op ∈ adminOps) :
    ∃ i < j, hs[i]? = some .requireAdmin := by
  induction hs generalizing j with
  | nil => simp at hj
  | cons x hs ih =>
    cases j with
    | zero =>
      simp only [List.getElem?_cons_zero, Option.some.injEq] at hj
      subst hj
      simp [adminGuarded, hop] at h
    | succ j =>
      rw [List.getElem?_cons_succ] at hj
      have step : adminGuarded hs = true → ∃ i < j + 1, (x :: hs)[i]? = some .requireAdmin :=
        fun h' => let ⟨i, hi, h''⟩ := ih h' hj
          ⟨i + 1, by omega, by rwa [List.getElem?_cons_succ]⟩
      cases x with
      | requireAdmin => exact ⟨0, by omega, by simp⟩
      | tonic op' st => simp only [adminGuarded, Bool.and_eq_true] at h; exact step h.2
      | _ => exact step h

@[simp] lemma adminGuarded_foreign_append (fs : List ℕ) (l : List HandlerFunc) :
    adminGuarded (fs.map .foreign ++ l) = adminGuarded l := by
  induction fs with
  | nil => rfl
  | cons f fs ih => exact ih

@[simp] lemma adminGuarded_apiMiddlewares (s : Server) (l : List HandlerFunc) :
    adminGuarded (s.apiMiddlewares ++ l) = adminGuarded l := by
  simp only [Server.apiMiddlewares, List.cons_append, List.append_assoc]
  exact adminGuarded_foreign_append _ _

@[simp] lemma adminGuarded_pluginChain (s : Server) (r : PluginRoute) :
    adminGuarded (s.pluginChain r) = true := by
  rw [Server.pluginChain, List.append_assoc, List.append_assoc, adminGuarded_apiMiddlewares]
  have := adminGuarded_foreign_append r.handlers []
  split_ifs <;> simpa [adminGuarded] using this

/-- Every route of the table guards its admin operations. -/
lemma routeSpecs_adminGuarded (s : Server) :
    ∀ r ∈ s.routeSpecs, adminGuarded r.handlers = true := by
  simp only [Server.routeSpecs, Server.authRoutes, List.forall_mem_append, List.forall_mem_cons,
    List.forall_mem_flatMap, List.forall_mem_map, List.append_assoc, adminGuarded_apiMiddlewares,
    adminGuarded_pluginChain, List.cons_append, List.nil_append, List.singleton_append,
    implies_true, and_true, List.not_mem_nil, IsEmpty.forall_iff]
  -- what is left is one closed check per fixed route
  repeat' apply And.intro
  all_goals rfl

/-- A route the router finds is one of the routes the server registered. -/
lemma mem_httpHandler_of_route? {s : Server} {method : String} {path : List String} {r : Route}
    (hr : s.route? method path = some r) : ∃ rs, s.httpHandler = some rs ∧ r ∈ rs := by
  have hmem : r ∈ s.httpHandler.getD [] := List.mem_of_find?_eq_some hr
  cases hh : s.httpHandler with
  | none => simp [hh] at hmem
  | some rs => exact ⟨rs, rfl, by rwa [hh] at hmem⟩

/-- Every route a server has registered guards its admin operations. -/
def Guarded (s : Server) : Prop :=
  ∀ rs, s.httpHandler = some rs → ∀ r ∈ rs, adminGuarded r.handlers = true

lemma guarded_of_setup {s : Server} (h : Relation.ReflTransGen SetupStep newServer s) :
    Guarded s :=
  routes_of_setup
    (fun s _ hrs _ hr => routeSpecs_adminGuarded s _ (Server.mem_routeSpecs_of_routes hrs hr)) h
    nofun

/-- On every server a program sets up from `NewServer`, a `requireAdmin` comes before the
handler of an admin operation in every route the router finds. -/
lemma requireAdmin_before_adminOp {s : Server} (hs : Relation.ReflTransGen SetupStep newServer s)
    {method : String} {path : List String} {r : Route} (hr : s.route? method path = some r)
    {j : ℕ} {op : String} {status : ℕ} (hop : op ∈ adminOps)
    (hj : r.handlers[j]? = some (.tonic op status)) :
    ∃ i < j, r.handlers[i]? = some .requireAdmin :=
  let ⟨rs, hh, hmem⟩ := mem_httpHandler_of_route? hr
  adminGuarded_spec (guarded_of_setup hs rs hh r hmem) hj hop

/-- On every server a program sets up from `NewServer`, whatever the plugins and middlewares,
the handler of an admin operation runs on a request only when the caller is an admin. -/
theorem adminOps_require_admin {s : Server} (hs : Relation.ReflTransGen SetupStep newServer s)
    (env : Env) (method : String) (path : List String) {r : Route}
    (hr : s.route? method path = some r) {j : ℕ} {op : String} {status : ℕ} (hop : op ∈ adminOps)
    (hj : r.handlers[j]? = some (.tonic op status))
    (hrun : Event.enter j ∈ (serveRoute env r).events) : isAdmin env.admins env.ctx = .ok () :=
  let ⟨_, hij, hi⟩ := requireAdmin_before_adminOp hs hr hop hj
  isAdmin_of_enter_after_requireAdmin env r hij hi hrun

/-- `DELETE /task/:id` on a server built from `NewServer` runs `handler.DeleteTask` for an
admin. -/
theorem adminOps_require_admin_deleteTask :
    ((newServer.build.toOption.getD newServer).handle
        ⟨false, ⟨some "root", none⟩, ⟨["root"], []⟩, true, fun _ => [.next]⟩
        "DELETE" ["/", "/task/:id"]).map Gin.Context.events =
      some [.enter 0, .enter 1, .enter 2, .enter 3, .enter 4, .enter 5, .enter 6, .work 6] ∧
      isAdmin ⟨["root"], []⟩ ⟨some "root", none⟩ = .ok () :=
  ⟨by decide, adminOps_require_admin
    (.single (.build newServer (newServer.build.toOption.getD newServer) rfl))
    ⟨false, ⟨some "root", none⟩, ⟨["root"], []⟩, true, fun _ => [.next]⟩ "DELETE" ["/", "/task/:id"]
    rfl (j := 6) (by decide) rfl (by decide)⟩

/-- The operations `build` serves without the authentication middleware. -/
def unsecuredOps : List String := ["Stats"]

/-- Whether the authentication middleware comes before every handler of an operation of a
chain, but the unsecured ones. -/
def authGuarded : List HandlerFunc → Bool
  | [] => true
  | .auth _ :: _ => true
  | .tonic op _ :: hs => unsecuredOps.contains op && authGuarded hs
  | _ :: hs => authGuarded hs

lemma authGuarded_spec {hs : List HandlerFunc} (h : authGuarded hs = true) {j : ℕ} {op : String}
    {status : ℕ} (hj : hs[j]? = some (.tonic op status)) (hop : op ∉ unsecuredOps) :
    ∃ i < j, ∃ a, hs[i]? = some (.auth a) := by
  induction hs generalizing j with
  | nil => simp at hj
  | cons x hs ih =>
    cases j with
    | zero =>
      simp only [List.getElem?_cons_zero, Option.some.injEq] at hj
      subst hj
      simp [authGuarded, hop] at h
    | succ j =>
      rw [List.getElem?_cons_succ] at hj
      have step : authGuarded hs = true → ∃ i < j + 1, ∃ a, (x :: hs)[i]? = some (.auth a) :=
        fun h' => let ⟨i, hi, a, h''⟩ := ih h' hj
          ⟨i + 1, by omega, a, by rwa [List.getElem?_cons_succ]⟩
      cases x with
      | auth a => exact ⟨0, by omega, a, by simp⟩
      | tonic op' st => simp only [authGuarded, Bool.and_eq_true] at h; exact step h.2
      | _ => exact step h

@[simp] lemma authGuarded_foreign_append (fs : List ℕ) (l : List HandlerFunc) :
    authGuarded (fs.map .foreign ++ l) = authGuarded l := by
  induction fs with
  | nil => rfl
  | cons f fs ih => exact ih

@[simp] lemma authGuarded_apiMiddlewares (s : Server) (l : List HandlerFunc) :
    authGuarded (s.apiMiddlewares ++ l) = authGuarded l := by
  simp only [Server.apiMiddlewares, List.cons_append, List.append_assoc]
  exact authGuarded_foreign_append _ _

@[simp] lemma authGuarded_pluginChain (s : Server) (r : PluginRoute) :
    authGuarded (s.pluginChain r) = true := by
  rw [Server.pluginChain, List.append_assoc, List.append_assoc, authGuarded_apiMiddlewares]
  have h := authGuarded_foreign_append r.handlers []
  rw [List.append_nil] at h
  split_ifs <;> simp [authGuarded, h]

/-- Every route of the table puts its operations behind the authentication middleware, but the
statistics. -/
lemma routeSpecs_authGuarded (s : Server) :
    ∀ r ∈ s.routeSpecs, authGuarded r.handlers = true := by
  simp only [Server.routeSpecs, Server.authRoutes, List.forall_mem_append, List.forall_mem_cons,
    List.forall_mem_flatMap, List.forall_mem_map, List.append_assoc, authGuarded_apiMiddlewares,
    authGuarded_pluginChain, List.cons_append, List.nil_append, List.singleton_append,
    implies_true, and_true, List.not_mem_nil, IsEmpty.forall_iff]
  repeat' apply And.intro
  all_goals rfl

/-- On every server a program sets up from `NewServer`, whatever the plugins and middlewares,
the handler of every operation but the statistics runs on a request only after the
authentication middleware of its route let the request through. -/
theorem operations_require_auth {s : Server} (hs : Relation.ReflTransGen SetupStep newServer s)
    (env : Env) (method : String) (path : List String) {r : Route}
    (hr : s.route? method path = some r) {j : ℕ} {op : String} {status : ℕ}
    (hop : op ∉ unsecuredOps) (hj : r.handlers[j]? = some (.tonic op status))
    (hrun : Event.enter j ∈ (serveRoute env r).events) :
    ∃ i < j, ∃ a, r.handlers[i]? = some (.auth a) ∧
      passes ((HandlerFunc.auth a).body env) = true := by
  obtain ⟨rs, hh, hmem⟩ := mem_httpHandler_of_route? hr
  have hguard : authGuarded r.handlers = true :=
    routes_of_setup (P := fun rs => ∀ r ∈ rs, authGuarded r.handlers = true)
      (fun s _ hrs _ hr => routeSpecs_authGuarded s _
      (Server.mem_routeSpecs_of_routes hrs hr)) hs nofun rs hh r hmem
  obtain ⟨i, hij, a, hi⟩ := authGuarded_spec hguard hj hop
  exact ⟨i, hij, a, hi, passes_of_enter env r hij hi hrun⟩

/-- `GET /task` on a server built from `NewServer` runs `handler.ListTasks` after the default
authentication middleware. -/
theorem operations_require_auth_listTasks :
    ((newServer.build.toOption.getD newServer).handle
        ⟨false, ⟨none, none⟩, ⟨[], []⟩, true, fun _ => [.next]⟩ "GET" ["/", "/task"]).map
        Gin.Context.events =
      some [.enter 0, .enter 1, .enter 2, .enter 3, .enter 4, .work 4] ∧
    ∃ i < 4, ∃ a, ((newServer.build.toOption.getD newServer).route? "GET" ["/", "/task"]).bind
        (·.handlers[i]?) = some (.auth a) ∧
      passes ((HandlerFunc.auth a).body ⟨false, ⟨none, none⟩, ⟨[], []⟩, true, fun _ => [.next]⟩) =
        true := by
  refine ⟨by decide, ?_⟩
  obtain ⟨i, hi, a, h, hp⟩ := operations_require_auth
    (.single (.build newServer (newServer.build.toOption.getD newServer) rfl))
    ⟨false, ⟨none, none⟩, ⟨[], []⟩, true, fun _ => [.next]⟩ "GET" ["/", "/task"]
    (r := ⟨⟨"GET", ["/", "/task"], [.recovery, .ajaxHeaders, .auditLogs, .auth .noop,
      .tonic "ListTasks" 200]⟩, by decide⟩) rfl (j := 4) (by decide) rfl (by decide)
  exact ⟨i, hi, a, h, hp⟩

/-! ### Setting up a server after it is built -/

/-- `build` registers the routes once: a setup call after it leaves them as they are. -/
lemma SetupStep.httpHandler_eq {s s' : Server} (hstep : SetupStep s s')
    (hb : s.httpHandler.isSome) : s'.httpHandler = s.httpHandler :=
  hstep.httpHandler_cases.resolve_right fun ⟨hnone, _⟩ => by simp [hnone] at hb

lemma httpHandler_of_setup {s s' : Server} (hb : s.httpHandler.isSome)
    (h : Relation.ReflTransGen SetupStep s s') : s'.httpHandler = s.httpHandler := by
  induction h with
  | refl => rfl
  | tail _ hstep ih => rw [hstep.httpHandler_eq (by rwa [ih]), ih]

/-- Once a server is built, no setup call changes what it serves: the options set and the plugin
routes registered after `Handler` or `ListenAndServe` are never seen by a request. -/
theorem handle_fixed_after_build {s s' : Server} (hb : s.httpHandler.isSome)
    (h : Relation.ReflTransGen SetupStep s s') (env : Env) (method : String)
    (path : List String) : s'.handle env method path = s.handle env method path := by
  simp only [Server.handle, Server.route?, httpHandler_of_setup hb h]

/-- A plugin group registered on a built server, which is built again, is a `404`. -/
theorem handle_fixed_after_build_plugin :
    { newServer.build.toOption.getD newServer with
        pluginRoutes := [⟨"/p", "p", "", [⟨false, false, "/x", "GET", [0]⟩]⟩] }.handle
      ⟨false, ⟨none, none⟩, ⟨[], []⟩, true, fun _ => [.next]⟩ "GET" ["/p", "/x"] = none :=
  (handle_fixed_after_build (s := newServer.build.toOption.getD newServer) rfl
    (.tail (.single (.registerPluginRoutes _ _ ⟨"/p", "p", "", [⟨false, false, "/x", "GET", [0]⟩]⟩
      rfl)) (.build _ _ rfl))
    ⟨false, ⟨none, none⟩, ⟨[], []⟩, true, fun _ => [.next]⟩ "GET" ["/p", "/x"]).trans (by decide)

/-! ### The files of the dashboard -/

/-- The patterns a handler replaces in the files it serves. -/
def HandlerFunc.patterns? : HandlerFunc → Option (List (String × String))
  | .staticFilePatternReplace ps => some ps
  | _ => none

@[simp] lemma filterMap_patterns_apiMiddlewares (s : Server) (l : List HandlerFunc) :
    (s.apiMiddlewares ++ l).filterMap HandlerFunc.patterns? = l.filterMap HandlerFunc.patterns? := by
  simp [Server.apiMiddlewares, List.filterMap_append, HandlerFunc.patterns?]

@[simp] lemma filterMap_patterns_pluginChain (s : Server) (r : PluginRoute) :
    (s.pluginChain r).filterMap HandlerFunc.patterns? = [] := by
  rw [Server.pluginChain, List.append_assoc, List.append_assoc, filterMap_patterns_apiMiddlewares]
  split_ifs <;> simp [HandlerFunc.patterns?, List.filterMap_map, Function.comp_def]

/-- The files served by a route of the table are those of the dashboard or of the swagger UI,
with their patterns. -/
lemma routeSpecs_patterns (s : Server) :
    ∀ r ∈ s.routeSpecs, ∀ ps ∈ r.handlers.filterMap HandlerFunc.patterns?,
      ps = s.dashboardPatterns ∨ ps = s.swaggerPatterns := by
  simp only [Server.routeSpecs, Server.authRoutes, List.forall_mem_append, List.forall_mem_cons,
    List.forall_mem_flatMap, List.forall_mem_map, List.append_assoc,
    filterMap_patterns_apiMiddlewares, filterMap_patterns_pluginChain, List.cons_append,
    List.nil_append, List.singleton_append, implies_true, and_true, List.not_mem_nil,
    IsEmpty.forall_iff, List.filterMap_cons, List.filterMap_nil, HandlerFunc.patterns?,
    List.mem_singleton, forall_eq, true_or, or_true, and_self]

/-- Every text that replaces the base URL of the API in the files the routes serve ends with
exactly one slash. -/
def OneSlashBaseURL (rs : List Route) : Prop :=
  ∀ r ∈ rs, ∀ ps ∈ r.handlers.filterMap HandlerFunc.patterns?,
    ∀ v, ("___UTASK_DASHBOARD_PREFIXAPIBASEURL___", v) ∈ ps →
      ∃ q, v = q ++ "/" ∧ hasSuffix q "/" = false

lemma oneSlashBaseURL_routes {s : Server} {rs : List Route} (hrs : s.routes = .ok rs) :
    OneSlashBaseURL rs := by
  intro r hr ps hps v hv
  rcases routeSpecs_patterns s _ (Server.mem_routeSpecs_of_routes hrs hr) ps hps with rfl | rfl <;>
    simp [Server.dashboardPatterns, Server.swaggerPatterns] at hv <;>
    exact hv ▸ generatePathPrefixAPI_one_slash _

/-- On every server a program sets up from `NewServer`, whatever prefixes it sets and in which
order, the files of the dashboard and of the swagger UI are served with a base URL of the API
that ends with exactly one slash. -/
theorem dashboard_apiBaseURL_one_slash {s : Server}
    (hs : Relation.ReflTransGen SetupStep newServer s) (method : String) (path : List String)
    {r : Route} (hr : s.route? method path = some r) (ps : List (String × String))
    (hps : HandlerFunc.staticFilePatternReplace ps ∈ r.handlers) (v : String)
    (hv : ("___UTASK_DASHBOARD_PREFIXAPIBASEURL___", v) ∈ ps) :
    ∃ q, v = q ++ "/" ∧ hasSuffix q "/" = false := by
  have hmem : r ∈ s.httpHandler.getD [] := List.mem_of_find?_eq_some hr
  cases hh : s.httpHandler with
  | none => simp [hh] at hmem
  | some rs =>
    rw [hh, Option.getD_some] at hmem
    exact routes_of_setup (fun _ _ => oneSlashBaseURL_routes) hs nofun rs hh r hmem ps
      (List.mem_filterMap.2 ⟨_, hps, rfl⟩) v hv

/-- The dashboard of a server built from `NewServer` calls the API at `/`. -/
theorem dashboard_apiBaseURL_one_slash_newServer : ∃ q, "/" = q ++ "/" ∧ hasSuffix q "/" = false :=
  dashboard_apiBaseURL_one_slash
    (.single (.build newServer (newServer.build.toOption.getD newServer) rfl))
    "GET" ["/", "/ui/dashboard/*filepath"] rfl newServer.dashboardPatterns (by decide) "/"
    (by decide)

end Utask.Api
