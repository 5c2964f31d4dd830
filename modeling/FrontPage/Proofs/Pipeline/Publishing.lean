import FrontPage.Proofs.Pipeline.Atomicity
import FrontPage.Proofs.Store.Writes

/-!
# Publishing artifacts

Artifacts are published under keys, and keys that are written differently may lead to one path, where the content that
was published last stays (`ObjectStore.Published`). The combined file is written first and waited for
(`publishCombined_gives`), then the files of single layouts are written in the background, where failures are only
counted (`publishAll_gives`). If none is counted, everything was published in the order in which the writes in the
background came to their turn (`publishStageIn_gives`).
-/

namespace FrontPage

open Pipeline

/-! ## Artifacts by their paths -/

/-- The path that the file of an artifact leads to. -/
def Artifact.path? (root : String) (artifact : Artifact) : Option Path :=
  match artifact.file with
  | .text key => Path.resolve? root key
  | _ => none

/-- The content of the last of some artifacts whose file leads to a path. -/
def lastContent? (root : String) (path : Path) : List Artifact → Option String
  | [] => none
  | artifact :: rest =>
    (lastContent? root path rest).or (if artifact.path? root = some path then some artifact.content else none)

theorem lastContent?_append (root : String) (path : Path) (first rest : List Artifact) :
    lastContent? root path (first ++ rest) = (lastContent? root path rest).or (lastContent? root path first) := by
  induction first with
  | nil => simp [lastContent?]
  | cons artifact first ih => simp [lastContent?, ih, Option.or_assoc]

namespace ObjectStore

/-- Artifacts were published one after another: at every path but that of the index is the content of the last artifact
that goes there, and what was there before if none does. -/
structure Published (store after : ObjectStore) (artifacts : List Artifact) : Prop where
  root_eq : after.root = store.root
  reaches : ∀ artifact ∈ artifacts, ∃ path, artifact.path? store.root = some path
  file?_eq : ∀ path, path ≠ [indexName] → after.file? path =
    ((lastContent? store.root path artifacts).map String.toUTF8).or (store.file? path)

variable {store between after : ObjectStore}

theorem Published.nil (store : ObjectStore) : store.Published store [] := ⟨rfl, nofun, fun _ _ => rfl⟩

/-- A content that was written is an artifact that was published. -/
theorem Wrote.published {key : String} {artifact : Artifact} (hfile : artifact.file = .text key)
    (h : store.Wrote after key artifact.content.toUTF8) : store.Published after [artifact] := by
  obtain ⟨hroot, path, hpath, hfiles⟩ := h
  have hartifact : artifact.path? store.root = some path := by
    rw [Artifact.path?, hfile]
    exact hpath
  refine ⟨hroot, ?_, ?_⟩
  · intro other hother
    rw [List.mem_singleton.mp hother]
    exact ⟨path, hartifact⟩
  · intro other hother
    rw [hfiles other hother]
    by_cases heq : other = path
    · simp [lastContent?, hartifact, heq]
    · simp [lastContent?, hartifact, heq, Ne.symm heq]

theorem Published.append {first rest : List Artifact} (h : store.Published between first)
    (hrest : between.Published after rest) : store.Published after (first ++ rest) := by
  refine ⟨hrest.root_eq.trans h.root_eq, ?_, ?_⟩
  · intro artifact hartifact
    rcases List.mem_append.mp hartifact with hfirst | hlast
    · exact h.reaches artifact hfirst
    · rw [← h.root_eq]
      exact hrest.reaches artifact hlast
  · intro path hpath
    rw [hrest.file?_eq path hpath, h.file?_eq path hpath, h.root_eq, lastContent?_append]
    cases lastContent? store.root path rest <;> simp

theorem Published.file?_of_lastContent? {artifacts : List Artifact} (h : store.Published after artifacts)
    {path : Path} {content : String} (hpath : path ≠ [indexName])
    (hlast : lastContent? store.root path artifacts = some content) :
    after.file? path = some content.toUTF8 := by
  rw [h.file?_eq path hpath, hlast]
  rfl

/-- A file is as before exactly if the last content that was published there had been there already. -/
theorem Published.file?_eq_iff {artifacts : List Artifact} (h : store.Published after artifacts) {path : Path}
    (hpath : path ≠ [indexName]) : after.file? path = store.file? path ↔
      ∀ content, lastContent? store.root path artifacts = some content → store.file? path = some content.toUTF8 := by
  rw [h.file?_eq path hpath]
  cases lastContent? store.root path artifacts with
  | none => simp
  | some content => simp [eq_comm]

/-- The content of an artifact is still in its place after others were published, unless the last of these that goes
there has another content. -/
theorem Published.file?_append_iff {artifact : Artifact} {artifacts : List Artifact}
    (h : store.Published after ([artifact] ++ artifacts)) {path : Path}
    (hartifact : artifact.path? store.root = some path) (hpath : path ≠ [indexName]) :
    after.file? path = some artifact.content.toUTF8 ↔
      ∀ content, lastContent? store.root path artifacts = some content → content = artifact.content := by
  rw [h.file?_eq path hpath, lastContent?_append]
  cases lastContent? store.root path artifacts with
  | none => simp [lastContent?, hartifact]
  | some content => simp [String.toByteArray_inj]

end ObjectStore

namespace Pipeline

open FrontPage.Action

variable {pipeline after : Pipeline} {config : LayoutConfig} {items : ItemSet} {start file : String}

/-! ## Writes that fail -/

/-- How many writes in the background have failed. -/
def failedWrites (pipeline : Pipeline) : Nat := pipeline.metrics.count (.artifactWrite .async false)

/-- No action makes that less. -/
theorem untouched_failedWrites (n : Nat) : Untouched (fun pipeline => n ≤ pipeline.failedWrites) fun _ => True where
  store h _ := h
  recordAll h _ _ := by
    unfold failedWrites at h ⊢
    rw [Metrics.count_recordAll]
    omega
  cache h _ _ := h

/-! ## Single artifacts -/

/-- A put that gives something has written the object and nothing else. -/
theorem wrote_putObject {key : Value} {content : String} {type : Option Value}
    (h : Gives (putObject key (.text content) type) pipeline ⟨⟩ after) :
    ∃ name, key = .text name ∧ pipeline.store.Wrote after.store name content.toUTF8 ∧
      after.environment = pipeline.environment ∧ after.metrics = pipeline.metrics := by
  unfold putObject at h
  obtain ⟨_, _, hget, h⟩ := h.of_bind
  cases hget
  dsimp only at h
  split at h
  case h_1 =>
    obtain ⟨_, _, hthrow, -⟩ := h.of_bind
    exact absurd hthrow (Fails.throw _ _).not_gives
  case h_2 =>
    cases key with
    | text name =>
      obtain ⟨_, _, hname, h⟩ := h.of_bind
      cases hname
      obtain ⟨_, _, hset, h⟩ := h.of_bind
      cases hset
      cases hput : (pipeline.store.put name (.text content) type).1 with
      | error cause =>
        rw [hput] at h
        exact absurd h (Fails.ofExcept _ _ _).not_gives
      | ok =>
        rw [hput] at h
        obtain ⟨-, rfl⟩ := h.unique (.ofExcept _ _)
        obtain ⟨bytes, hencode, hwrote⟩ := ObjectStore.wrote_put hput
        cases hencode
        exact ⟨name, rfl, hwrote, rfl, rfl⟩
    | _ =>
      obtain ⟨_, _, hname, -⟩ := h.of_bind
      exact absurd hname (Fails.ofExcept _ _ _).not_gives

/-- A write in the background has failed and is counted, or it has published its artifact. -/
theorem publishAsync_cases {artifact : Artifact}
    (h : Gives (publishAsync artifact.file (.text artifact.content) (.text (contentTypeOf artifact.extension))) pipeline
      ⟨⟩ after) :
    pipeline.failedWrites < after.failedWrites ∨
      (pipeline.failedWrites = after.failedWrites ∧ pipeline.store.Published after.store [artifact]) := by
  rw [publishAsync, if_pos (contentTypeOf_holds artifact.extension)] at h
  obtain ⟨_, _, htype, h⟩ := h.of_bind
  cases htype
  obtain ⟨result, between, hput, h⟩ := h.of_bind
  cases result with
  | error cause =>
    left
    cases h
    have hput' := ((untouched_failedWrites pipeline.failedWrites).preserves_withRoom backgroundSteps
      ((untouched_failedWrites _).preserves_putObject artifact.file (.text artifact.content)
        (some (.text (contentTypeOf artifact.extension))))).attempt pipeline (Nat.le_refl _)
    rw [hput] at hput'
    unfold failedWrites at hput' ⊢
    rw [Metrics.count_recordAll]
    exact Nat.lt_succ_of_le hput'
  | ok =>
    right
    cases h
    obtain ⟨written, hobject, rfl⟩ := hput.of_attempt.of_withRoom
    obtain ⟨name, hname, hwrote, -, hmetrics⟩ := wrote_putObject hobject
    obtain ⟨hroot, hreaches, hfiles⟩ := hwrote.published hname
    refine ⟨?_, ⟨hroot, hreaches, hfiles⟩⟩
    unfold failedWrites
    rw [Metrics.count_recordAll, hmetrics]
    rfl

/-- A file that is waited for has been written, or the pass fails. -/
theorem publishSync_gives {content : String}
    (h : Gives (publishSync (.text file) (.text content) .null) pipeline ⟨⟩ after) :
    pipeline.store.Wrote after.store file content.toUTF8 ∧ after.environment = pipeline.environment ∧
      after.failedWrites = pipeline.failedWrites := by
  rw [publishSync, if_neg (by decide)] at h
  obtain ⟨type, between, htype, h⟩ := h.of_bind
  obtain ⟨rfl, rfl⟩ := htype.unique ((Gives.ofExcept (fileExtension file) pipeline).map _)
  obtain ⟨_, _, hnamed, h⟩ := h.of_bind
  cases hnamed
  obtain ⟨result, between, hput, h⟩ := h.of_bind
  cases result with
  | error cause =>
    obtain ⟨_, _, -, hthrow⟩ := h.of_bind
    exact absurd hthrow (Fails.throw _ _).not_gives
  | ok =>
    cases h
    obtain ⟨written, hobject, rfl⟩ := hput.of_attempt.of_inside
    obtain ⟨name, hname, hwrote, henvironment, hmetrics⟩ := wrote_putObject hobject
    cases hname
    refine ⟨⟨hwrote.root_eq, hwrote.file?_eq⟩, henvironment, ?_⟩
    unfold failedWrites
    rw [Metrics.count_recordAll, hmetrics]
    rfl

/-! ## All artifacts -/

/-- Artifacts that are written in the background one after another are published, unless a write has failed. -/
theorem publishAll_gives (artifacts : List Artifact)
    (h : Gives (artifacts.forM fun artifact =>
      publishAsync artifact.file (.text artifact.content) (.text (contentTypeOf artifact.extension))) pipeline ⟨⟩
      after) :
    pipeline.failedWrites ≤ after.failedWrites ∧
      (after.failedWrites = pipeline.failedWrites → pipeline.store.Published after.store artifacts) := by
  induction artifacts generalizing pipeline with
  | nil =>
    obtain ⟨-, rfl⟩ := h.unique (.pure _ _)
    exact ⟨Nat.le_refl _, fun _ => .nil _⟩
  | cons artifact rest ih =>
    obtain ⟨_, between, hfirst, hrest⟩ := h.of_bind
    obtain ⟨hmore, hpublished⟩ := ih hrest
    rcases publishAsync_cases hfirst with hfailed | ⟨hsame, hwrote⟩
    · exact ⟨by omega, by omega⟩
    · refine ⟨by omega, ?_⟩
      intro hnone
      exact hwrote.append (hpublished (by omega))

/-- The combined file as an artifact, if there are scripts. -/
def combinedArtifacts (file : String) (artifacts : List Artifact) : List Artifact :=
  ((combinedScript? artifacts).map fun script => ⟨.text file, fileExtension file, script⟩).toList

theorem publishCombined_gives {artifacts : List Artifact} {count : Nat}
    (hfile : pipeline.environment.combinedFile = .text file)
    (h : Gives (publishCombined artifacts) pipeline count after) :
    pipeline.store.Published after.store (combinedArtifacts file artifacts) ∧
      after.environment = pipeline.environment ∧ after.failedWrites = pipeline.failedWrites := by
  unfold publishCombined at h
  unfold combinedArtifacts
  cases hscript : combinedScript? artifacts with
  | none =>
    rw [hscript] at h
    obtain ⟨-, rfl⟩ := h.unique (.pure _ _)
    exact ⟨.nil _, rfl, rfl⟩
  | some script =>
    rw [hscript] at h
    obtain ⟨_, _, hget, h⟩ := h.of_bind
    cases hget
    rw [hfile] at h
    obtain ⟨_, between, hsync, h⟩ := h.of_bind
    obtain ⟨-, rfl⟩ := h.unique (.pure _ _)
    obtain ⟨hwrote, henvironment, hfailed⟩ := publishSync_gives hsync
    have hartifact : pipeline.store.Published after.store [⟨.text file, fileExtension file, script⟩] :=
      hwrote.published rfl
    exact ⟨hartifact, henvironment, hfailed⟩

/-- Publishing, where the writes in the background come to their turn in some order. -/
def publishStageIn (order : List Artifact → List Artifact) (artifacts : List Artifact) : Action Nat := do
  let combined ← publishCombined artifacts
  let own := order (ownFiles (← get).environment.combinedFile artifacts)
  own.forM fun artifact =>
    publishAsync artifact.file (.text artifact.content) (.text (contentTypeOf artifact.extension))
  pure (combined + own.length)

/-- They may come to their turn as they are started. -/
theorem publishStageIn_id : publishStageIn id = publishStage := rfl

/-- Publishing writes the combined file and then the files of their own, unless a write has failed. -/
theorem publishStageIn_gives {order : List Artifact → List Artifact} {artifacts : List Artifact} {count : Nat}
    (hfile : pipeline.environment.combinedFile = .text file)
    (h : Gives (publishStageIn order artifacts) pipeline count after) :
    pipeline.failedWrites ≤ after.failedWrites ∧ (after.failedWrites = pipeline.failedWrites →
      pipeline.store.Published after.store
        (combinedArtifacts file artifacts ++ order (ownFiles (.text file) artifacts))) := by
  obtain ⟨combined, between, hcombined, h⟩ := h.of_bind
  obtain ⟨hpublished, henvironment, hsame⟩ := publishCombined_gives hfile hcombined
  obtain ⟨_, _, hget, h⟩ := h.of_bind
  cases hget
  rw [henvironment, hfile] at h
  obtain ⟨_, written, hown, h⟩ := h.of_bind
  obtain ⟨-, rfl⟩ := h.unique (.pure _ _)
  obtain ⟨hmore, hrest⟩ := publishAll_gives _ hown
  refine ⟨by omega, ?_⟩
  intro hnone
  exact hpublished.append (hrest (by omega))

end Pipeline

end FrontPage
