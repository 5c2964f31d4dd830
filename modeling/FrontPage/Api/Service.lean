import FrontPage.Api.Request
import FrontPage.Api.Response
import FrontPage.Pipeline.Hooks

/-!
# The service

The service lists and renders layouts, clears the caches, shows what they hold, runs hooks and shows the metrics.
`route` finds the view of a path, `serve` answers a request and counts it. What fails in a view becomes a response; a
hook that fails hands its article back.
-/

namespace FrontPage

/-- The views of the service. -/
inductive View where
  | listLayouts
  | renderLayouts
  | clearCaches
  | cacheStats
  | runHook (moduleName event : String)
  | metrics
  /-- A file that belongs to the service; there are none. -/
  | file
  deriving DecidableEq, Repr

namespace View

/-- The name under which requests to a view are counted. -/
def endpoint : View → String
  | listLayouts => "layouts.list_layouts_api"
  | renderLayouts => "layouts.render_layouts_api"
  | clearCaches => "layouts.clear_layout_caches_api"
  | cacheStats => "layouts.layout_cache_stats_api"
  | runHook .. => "hooks.run_hook_api"
  | metrics => "metrics"
  | file => "static"

/-- The methods that a view answers. -/
def methods : View → List String
  | listLayouts | cacheStats | metrics | file => ["GET", "HEAD", "OPTIONS"]
  | renderLayouts | clearCaches | runHook .. => ["POST", "OPTIONS"]

/-- The name of a file: not empty, not beginning with a slash, and without a line end but as its first character. -/
def isFileName : List Char → Bool
  | [] => false
  | c :: rest => c ≠ '/' && !rest.contains '\n'

/-- The view at a path. -/
def ofSegments? : List String → Option View
  | ["", "metrics"] => some metrics
  | "" :: "static" :: name => if isFileName ("/".intercalate name).toList then some file else none
  | ["", "api", "layouts"] => some listLayouts
  | ["", "api", "layouts", "render"] => some renderLayouts
  | ["", "api", "layouts", "cache", "clear"] => some clearCaches
  | ["", "api", "layouts", "cache", "stats"] => some cacheStats
  | ["", "api", "hooks", moduleName, event] =>
    if moduleName.isEmpty || event.isEmpty then none else some (runHook moduleName event)
  | _ => none

end View

/-- What a request is for. -/
inductive Route where
  | view (view : View)
  /-- A view whose path has fewer slashes. -/
  | elsewhere
  /-- A view that does not answer the method. -/
  | wrongMethod
  | unknown
  /-- Whatever the path, for the host cannot be looked for. -/
  | unreachable
  deriving DecidableEq, Repr

/-- What a request is for. A path with slashes in a row leads elsewhere if it has a view with one in their place. -/
def Request.route (request : Request) : Route :=
  let answers (view : View) := view.methods.contains request.method
  if request.destination.isReachable then
    match View.ofSegments? (segments request.path), View.ofSegments? (segments (mergeSlashes request.path)) with
    | none, none => .unknown
    | direct, merged =>
      match direct.filter answers, merged.filter answers with
      | some view, _ => .view view
      | none, some _ => .elsewhere
      | none, none => .wrongMethod
  else .unreachable

/-- The name under which a request is counted. -/
def Route.endpoint : Route → String
  | view v => v.endpoint
  | elsewhere => "unknown"
  | wrongMethod => "unknown"
  | unknown => "unknown"
  | unreachable => "unknown"

/-- The response to a path without a view. -/
def notFoundResponse : Response :=
  ⟨404, some (errorDocument (.text "NOT_FOUND")
    (.text ("The requested URL was not found on the server. If you entered the URL manually please check your "
      ++ "spelling and try again.")))⟩

/-- The response to a method that a view does not answer. -/
def wrongMethodResponse : Response :=
  ⟨405, some (errorDocument (.text "METHOD_NOT_ALLOWED")
    (.text "The method is not allowed for the requested URL."))⟩

/-- The response to a request whose host cannot be looked for. -/
def unreachableResponse : Response :=
  ⟨400, some (errorDocument (.text "BAD_REQUEST")
    (.text "The browser (or proxy) sent a request that this server could not understand."))⟩

/-- What went wrong when an action failed. -/
def Failure.problem (failure : Failure) : Problem :=
  let kind : ProblemKind :=
    match failure with
    | .rosterUnreadable _ => .rosterStore
    | .artifactRefused _ => .artifactWrite
    | .page (.invalidSortField _) => .template
    | .page .repeatEndsFirst => .template
    | _ => .other
  ⟨kind, .text failure.message⟩

namespace Pipeline

open FrontPage.Action

/-- The response of a view that lists the active layouts. -/
def listLayoutsView : Action Response := do
  let config ← activeLayouts
  pure (successResponse (.list (config.active.map fun layout => .record layout.summary)) .null 200)

/-- The request asks for work in the background. -/
def wantsBackground (request : Request) : Bool :=
  Text.lower ((request.parameter? "background").getD "false") == "true"

/-- The response of the view that renders the layouts, or queues that. -/
def renderLayoutsView (request : Request) : Action Response := do
  if wantsBackground request then
    match request.queueId with
    | some id => pure (successResponse (.record [("task_id", id)]) (.text "Layout render queued") 202)
    | none =>
      pure (errorResponse (.text "SERVICE_UNAVAILABLE") (.text "Background rendering is unavailable") .null 503)
  else
    let report ← renderReport
    pure (successResponse (.record report.record) .null 200)

/-- The response of the view that clears the caches. -/
def clearCachesView : Action Response := do
  let cleared ← clearCaches
  let fields : Record := cleared.map fun (name, existed) => (name, .bool existed)
  pure (successResponse (.record [("cleared", .record fields)]) (.text "Caches cleared") 200)

/-- What was done with the cache, and the time that its entries have left. -/
def cacheStats : Action Record := do
  let pipeline ← get
  ofExcept .duration (pipeline.cache.stats id pipeline.time)

/-- The document of a request; one that does not hold is one without fields. -/
def carried (request : Request) : Action Value :=
  match request.payload with
  | .nothing => pure (.record [])
  | .document value => pure (value.orElse (.record []))
  | .tooDeep => throw .documentTooDeep

/-- The response of the view that runs a hook; the article is handed back whatever happens. -/
def runHookView (moduleName event : String) (request : Request) : Action Response := do
  match Hook.ofName? event with
  | none => pure (validationResponse (.text "event") (.text ("Unknown hook " ++ quote event)))
  | some hook =>
    match ← carried request with
    | .record payload =>
      let data := (Record.get payload "data").orElse (.record [])
      let previous := (Record.get payload "original").orElse (.record [])
      let arguments := if hook.takesPrevious then [data, previous] else [data]
      match ← attempt (runNamedHook (.text moduleName) (.text event) arguments .pipeline) with
      | .ok item => pure (successResponse item .null 200)
      | .error _ => pure (successResponse data .null 200)
    | _ => throw .notARecord

/-- Takes the number of rows in the roster for the metrics, if they can be counted. -/
def refreshGauge : Action Unit := do
  let pipeline ← get
  match pipeline.roster.count with
  | .ok rows => set { pipeline with metrics := { pipeline.metrics with rosterRows := rows } }
  | .error _ => pure ()

/-- The lines of the metrics. -/
def metricsLines : Action (List String) := do
  refreshGauge
  pure (← get).metrics.lines

/-- The response of a view; in the views of layouts every failure becomes a response. -/
def respond (request : Request) (view : View) : Action Response := do
  let guarded (action : Action Response) : Action Response := do
    match ← attempt (inside 2 action) with
    | .ok response => pure response
    | .error failure => pure failure.problem.inView
  match view with
  | .listLayouts => guarded listLayoutsView
  | .renderLayouts => guarded (renderLayoutsView request)
  | .clearCaches => guarded clearCachesView
  | .cacheStats => guarded do pure (successResponse (.record (← cacheStats)) .null 200)
  | .runHook moduleName event => inside 1 (runHookView moduleName event request)
  | .metrics =>
    refreshGauge
    pure ⟨200, none⟩
  | .file => pure notFoundResponse

/-- The response to a request, in full. -/
def answer (request : Request) : Action Response := do
  match request.route with
  | .unknown => pure notFoundResponse
  | .elsewhere => pure ⟨308, none⟩
  | .wrongMethod => pure wrongMethodResponse
  | .unreachable => pure unreachableResponse
  | .view view =>
    if request.method = "OPTIONS" then pure ⟨200, none⟩
    else
      match ← attempt (respond request view) with
      | .error failure => pure failure.problem.handled
      | .ok response => pure response

/-- Answers a request and counts it; who asks only for the head, spelled in capitals, gets no document. -/
def serve (request : Request) : Action Response := do
  let response ← inside Request.steps (answer request)
  record [.request request.route.endpoint request.method response.status]
  pure (if request.spelling = "HEAD" then { response with document := none } else response)

end Pipeline

end FrontPage
