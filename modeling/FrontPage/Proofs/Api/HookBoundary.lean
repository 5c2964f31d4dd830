import FrontPage.Api.Service
import FrontPage.Proofs.Pipeline.Events
import FrontPage.Proofs.Pipeline.HandingBack

/-!
# Hooks over the service

A request for a hook carries fields (`Payload.fields?`) unless its body is something else that holds or is too deep to
be read. With fields it is answered with a success and the record that the hook hands back, whatever fails in the hook
(`gives_runHookView`). Without them there is nothing to hand back, and since the body is looked at before the hook is
attempted, the failure becomes an internal error (`fails_runHookView`). `serve_hands_back` says when which happens.
-/

namespace FrontPage

/-! ## Requests for hooks -/

/-- The request asks for a hook to run on a record of a module. -/
structure Request.RunsHook (request : Request) (moduleName : String) (hook : Hook) : Prop where
  isReachable : request.destination.isReachable = true
  method : request.method = "POST"
  segments : Request.segments request.path = ["", "api", "hooks", moduleName, hook.name]
  named : moduleName.isEmpty = false

/-- The fields that a request carries. A body that does not hold is one without fields, and so is none. -/
def Payload.fields? : Payload → Option Record
  | .nothing => some []
  | .document (.record fields) => some fields
  | .document value => if value.holds then none else some []
  | .tooDeep => none

/-- The fields of a document are those of the record that it is, or that is taken for it. -/
theorem Payload.fields?_document (value : Value) :
    (Payload.document value).fields? = match value.orElse (.record []) with
      | .record fields => some fields
      | _ => none := by
  cases value with
  | record fields => cases fields <;> rfl
  | _ =>
    simp only [Payload.fields?, Value.orElse]
    split <;> rfl

/-- A hook is found by its name. -/
theorem Hook.ofName?_name (hook : Hook) : Hook.ofName? hook.name = some hook := by
  cases hook <;> decide

namespace Request.RunsHook

variable {request : Request} {moduleName : String} {hook : Hook}

/-- The request is for the view that runs the hook. -/
theorem route_eq (h : request.RunsHook moduleName hook) :
    request.route = .view (.runHook moduleName hook.name) := by
  have hevent : hook.name.isEmpty = false := by cases hook <;> decide
  have hview : View.ofSegments? (Request.segments request.path) = some (.runHook moduleName hook.name) := by
    rw [h.segments]
    simp [View.ofSegments?, h.named, hevent]
  have hanswers : (View.runHook moduleName hook.name).methods.contains request.method = true := by
    rw [h.method]
    rfl
  unfold Request.route
  simp only [h.isReachable, hview, Option.filter, hanswers, if_true]

theorem method_ne (h : request.RunsHook moduleName hook) : request.method ≠ "OPTIONS" := by
  rw [h.method]
  decide

theorem spelling_ne (h : request.RunsHook moduleName hook) : request.spelling ≠ "HEAD" := by
  intro hspelling
  have hmethod := h.method
  rw [Request.method, hspelling] at hmethod
  exact absurd hmethod (by decide +kernel)

end Request.RunsHook

namespace Pipeline

open FrontPage.Action

variable {request : Request} {moduleName : String} {hook : Hook} {fields : Record}

/-! ## The view -/

/-- A body with fields is taken as these. -/
theorem gives_carried (h : request.payload.fields? = some fields) (pipeline : Pipeline) :
    Gives (carried request) pipeline (.record fields) pipeline := by
  unfold carried
  cases hpayload : request.payload with
  | nothing =>
    rw [hpayload] at h
    cases h
    exact .pure _ _
  | document value =>
    rw [hpayload, Payload.fields?_document] at h
    cases hvalue : value.orElse (.record []) with
    | record found =>
      rw [hvalue] at h
      cases h
      dsimp only
      rw [hvalue]
      exact .pure _ _
    | _ =>
      rw [hvalue] at h
      cases h
  | tooDeep =>
    rw [hpayload] at h
    cases h

/-- A body without fields is a value that is no record, or none can be read. -/
theorem carried_of_none (h : request.payload.fields? = none) (pipeline : Pipeline) :
    Fails (carried request) pipeline .documentTooDeep pipeline ∨
      ∃ value, Gives (carried request) pipeline value pipeline ∧ ∀ fields, value ≠ .record fields := by
  unfold carried
  cases hpayload : request.payload with
  | nothing =>
    rw [hpayload] at h
    cases h
  | document value =>
    rw [hpayload, Payload.fields?_document] at h
    refine .inr ⟨value.orElse (.record []), .pure _ _, ?_⟩
    intro fields hvalue
    rw [hvalue] at h
    cases h
  | tooDeep => exact .inl (.throw _ _)

/-- What is handed back of a record of a module: the same, unless a hook before a creation or update gives an article the
identifiers of a menu. -/
def HandedBack (moduleName : String) (hook : Hook) (data item : Value) : Prop :=
  item = data ∨ moduleName = hookedModule ∧ hook.HandsBack data item

/-- A hook that is run by its name hands a record back. -/
theorem yields_runNamedHook (moduleName : String) (hook : Hook) (data previous : Value) :
    Yields (runNamedHook (.text moduleName) (.text hook.name)
        (if hook.takesPrevious then [data, previous] else [data]) .pipeline)
      (HandedBack moduleName hook data) := by
  unfold runNamedHook
  by_cases hmodule : moduleName = hookedModule
  · have hat : Hook.at? (.text moduleName) (.text hook.name) = .ok (some hook) := by
      simp only [Hook.at?, if_pos hmodule, Hook.ofName?_name]
    rw [hat]
    refine .bind (P := (· = some hook)) (.pure rfl) ?_
    rintro _ rfl
    have hhandedBack (previous : Value) :
        Yields (runHook hook data previous .pipeline) (HandedBack moduleName hook data) := by
      intro pipeline item after hgives
      exact .inr ⟨hmodule, yields_runHook hook data previous .pipeline _ _ _ hgives⟩
    cases htakes : hook.takesPrevious with
    | true =>
      simp only [if_true, htakes]
      exact hhandedBack previous
    | false =>
      simp only [htakes, Bool.false_eq_true, if_false]
      exact hhandedBack .null
  · have hat : Hook.at? (.text moduleName) (.text hook.name) = .ok none := by
      simp only [Hook.at?, if_neg hmodule]
    rw [hat]
    refine .bind (P := (· = none)) (.pure rfl) ?_
    rintro _ rfl
    cases hook.takesPrevious <;> exact .pure (.inl rfl)

/-- Where a request carries fields, the view answers with the record that is handed back. -/
theorem gives_runHookView (h : request.payload.fields? = some fields) (moduleName : String) (hook : Hook)
    (pipeline : Pipeline) :
    ∃ item after, Gives (runHookView moduleName hook.name request) pipeline (successResponse item .null 200) after ∧
      HandedBack moduleName hook ((Record.get fields "data").orElse (.record [])) item := by
  unfold runHookView
  rw [Hook.ofName?_name]
  dsimp only
  obtain ⟨result, after, hwork, hitem⟩ := (yields_runNamedHook moduleName hook
    ((Record.get fields "data").orElse (.record [])) ((Record.get fields "original").orElse (.record []))).exists_attempt
    pipeline
  cases result with
  | ok item => exact ⟨item, after, (gives_carried h pipeline).bind (hwork.bind (.pure _ _)), hitem item rfl⟩
  | error cause => exact ⟨_, after, (gives_carried h pipeline).bind (hwork.bind (.pure _ _)), .inl rfl⟩

/-- Where it carries none, the view fails. -/
theorem fails_runHookView (h : request.payload.fields? = none) (moduleName : String) (hook : Hook)
    (pipeline : Pipeline) :
    ∃ cause after, Fails (runHookView moduleName hook.name request) pipeline cause after ∧
      cause.problem.handled = ⟨500, some (errorDocument (.text "INTERNAL_ERROR") (.text unexpected))⟩ := by
  unfold runHookView
  rw [Hook.ofName?_name]
  dsimp only
  rcases carried_of_none h pipeline with hfails | ⟨value, hgives, hrecord⟩
  · exact ⟨_, _, hfails.bind_first _, rfl⟩
  · refine ⟨.notARecord, pipeline, Fails.bind hgives ?_, rfl⟩
    cases value with
    | record fields => exact absurd rfl (hrecord fields)
    | _ => exact .throw _ _

/-! ## The service -/

/-- The response that a view gives, or that becomes of its failure. -/
def settled : Except Failure Response → Response
  | .ok response => response
  | .error failure => failure.problem.handled

/-- A request for a view is answered with what becomes of the view. -/
theorem gives_serve {view : View} (hroute : request.route = .view view) (hmethod : request.method ≠ "OPTIONS")
    (hspelling : request.spelling ≠ "HEAD") {pipeline after : Pipeline} {result : Except Failure Response}
    (hview : Gives (attempt (respond request view))
      { pipeline with store := { pipeline.store with room := pipeline.store.room - Request.steps } } result after) :
    ∃ after, Gives (serve request) pipeline (settled result) after := by
  have hanswer : Gives (answer request)
      { pipeline with store := { pipeline.store with room := pipeline.store.room - Request.steps } } (settled result)
      after := by
    unfold answer
    rw [hroute]
    dsimp only
    rw [if_neg hmethod]
    refine hview.bind ?_
    cases result <;> exact .pure _ _
  unfold serve
  refine hanswer.inside.exists_bind ((Gives.record _ _).exists_bind ?_)
  rw [if_neg hspelling]
  exact ⟨_, .pure _ _⟩

/-- What is handed back is not nothing. -/
theorem HandedBack.ne_null {data item : Value} (h : HandedBack moduleName hook (data.orElse (.record [])) item) :
    item ≠ .null := by
  have hdata : data.orElse (.record []) ≠ .null := by
    intro hnull
    unfold Value.orElse at hnull
    split at hnull
    case isTrue hholds =>
      rw [hnull] at hholds
      cases hholds
    case isFalse => cases hnull
  rcases h with rfl | ⟨-, hback⟩
  · exact hdata
  · cases hback with
    | same => exact hdata
    | menu => exact nofun

/-- A success with data has the data in its document. -/
theorem document_successResponse {item : Value} (h : item ≠ .null) :
    (successResponse item .null 200).document =
      some (.record [("code", .text "SUCCESS"), ("success", .bool true), ("data", item)]) := by
  unfold successResponse successEnvelope
  cases item with
  | null => exact absurd rfl h
  | _ => rfl

/-- A request with fields is answered with the record that is handed back. -/
theorem gives_serve_fields (h : request.RunsHook moduleName hook) (hfields : request.payload.fields? = some fields)
    (pipeline : Pipeline) :
    ∃ item after, Gives (serve request) pipeline (successResponse item .null 200) after ∧
      HandedBack moduleName hook ((Record.get fields "data").orElse (.record [])) item := by
  obtain ⟨item, _, hview, hitem⟩ := gives_runHookView hfields moduleName hook _
  obtain ⟨after, hgives⟩ := gives_serve h.route_eq h.method_ne h.spelling_ne hview.inside.attempt
  exact ⟨item, after, hgives, hitem⟩

/-- A request without fields is answered with an internal error. -/
theorem gives_serve_none (h : request.RunsHook moduleName hook) (hfields : request.payload.fields? = none)
    (pipeline : Pipeline) :
    ∃ after, Gives (serve request) pipeline ⟨500, some (errorDocument (.text "INTERNAL_ERROR") (.text unexpected))⟩
      after := by
  obtain ⟨cause, _, hview, hhandled⟩ := fails_runHookView hfields moduleName hook _
  rw [← hhandled]
  exact gives_serve h.route_eq h.method_ne h.spelling_ne hview.inside.attempt

/-- **A request for a hook is answered with the record, if its body can have one.** A request that asks for a hook of any
module is answered in every state of the pipeline. The status is that of a success exactly if the body is missing, does
not hold, or is a record. Then the response has the data of the body, or an empty record for data that does not hold;
only a hook before the creation or update of an article may have given it the identifiers of a menu. Otherwise the
response is an internal error. -/
theorem serve_hands_back (h : request.RunsHook moduleName hook) (pipeline : Pipeline) :
    ∃ response after, Gives (serve request) pipeline response after ∧
      (response.status = 200 ↔ request.payload.fields?.isSome = true) ∧
      (∀ fields, request.payload.fields? = some fields → ∃ item,
        response.document = some (.record [("code", .text "SUCCESS"), ("success", .bool true), ("data", item)]) ∧
        HandedBack moduleName hook ((Record.get fields "data").orElse (.record [])) item) ∧
      (request.payload.fields? = none →
        response = ⟨500, some (errorDocument (.text "INTERNAL_ERROR") (.text unexpected))⟩) := by
  cases hfields : request.payload.fields? with
  | some fields =>
    obtain ⟨item, after, hgives, hitem⟩ := gives_serve_fields h hfields pipeline
    refine ⟨_, after, hgives, iff_of_true rfl rfl, ?_, nofun⟩
    rintro _ ⟨⟩
    exact ⟨item, document_successResponse hitem.ne_null, hitem⟩
  | none =>
    obtain ⟨after, hgives⟩ := gives_serve_none h hfields pipeline
    refine ⟨_, after, hgives, iff_of_false ?_ ?_, nofun, fun _ => rfl⟩
    · decide
    · decide

/-! ## Two bodies -/

/-- A request for the hook after the creation of an article, with some body. -/
def creationRequest (payload : Payload) : Request where
  spelling := "POST"
  destination := ⟨"localhost".toList, "/api/hooks/articles/after_create".toList, []⟩
  payload

/-- It is one for that hook, whatever the body is. -/
theorem runsHook_creationRequest (payload : Payload) :
    (creationRequest payload).RunsHook hookedModule .afterCreate := by
  have hreachable : (creationRequest .nothing).destination.isReachable = true := by decide +kernel
  have hmethod : (creationRequest .nothing).method = "POST" := by decide +kernel
  have hsegments : Request.segments (creationRequest .nothing).path =
      ["", "api", "hooks", hookedModule, Hook.afterCreate.name] := by decide +kernel
  exact ⟨hreachable, hmethod, hsegments, by decide⟩

/-- A body with an article gives a success, even where no document can be read. -/
theorem serve_hands_back_article :
    (creationRequest (.document (.record [("data", .record [("article_id", .int 5)])]))).RunsHook hookedModule
        .afterCreate ∧
      ∃ response after, Gives
        (serve (creationRequest (.document (.record [("data", .record [("article_id", .int 5)])]))))
        { ofDocument "[]" with outages := { document := some "boom" } } response after ∧ response.status = 200 := by
  refine ⟨runsHook_creationRequest _, ?_⟩
  obtain ⟨response, after, hgives, hstatus, -⟩ := serve_hands_back
    (runsHook_creationRequest (.document (.record [("data", .record [("article_id", .int 5)])])))
    { ofDocument "[]" with outages := { document := some "boom" } }
  exact ⟨response, after, hgives, hstatus.mpr rfl⟩

/-- A body that is a list gives no success, though nothing else is out of order. -/
theorem serve_listBody :
    (creationRequest (.document (.list [.int 1]))).RunsHook hookedModule .afterCreate ∧
      ∀ response after, Gives (serve (creationRequest (.document (.list [.int 1])))) (ofDocument "[]") response after →
        response = ⟨500, some (errorDocument (.text "INTERNAL_ERROR") (.text unexpected))⟩ ∧ response.status ≠ 200 := by
  refine ⟨runsHook_creationRequest _, ?_⟩
  intro response after hgives
  obtain ⟨_, hinternal⟩ := gives_serve_none (runsHook_creationRequest (.document (.list [.int 1]))) rfl (ofDocument "[]")
  obtain ⟨rfl, -⟩ := hgives.unique hinternal
  exact ⟨rfl, by decide⟩

end Pipeline

end FrontPage
