import FrontPage.Proofs.Store.Keys
import FrontPage.Value.Text
import Mathlib.Data.List.Induction

/-!
# A store and what was put into it

A store is asked for one thing after the other (`ObjectStore.run`). As long as no put is for the place of its index
(`ObjectStore.spares`), it is told by the puts that succeeded: an object by the last one at its path, a type by the last
one under its key (`ObjectStore.Follows`). A put that fails changes neither; it may leave a draft, which is read under
its name as long as nothing is put there (`ObjectStore.run_faithful`). Nothing keeps keys from the path of the index,
though, and what is put there takes its place (`ObjectStore.run_replaced`).
-/

namespace FrontPage

/-! ## Requests -/

/-- What a store is asked for. -/
inductive StoreRequest where
  | put (key : String) (content : Content) (type : Value)
  | get (key : String)
  | contentType (key : String)

/-- What a store replies. -/
inductive StoreReply where
  | put (result : Except StoreError Unit)
  | get (result : Except StoreError (Option ByteArray))
  | contentType (result : Except StoreError Value)

/-- A request and the reply to it. -/
structure StoreTurn where
  request : StoreRequest
  reply : StoreReply

namespace ObjectStore

/-- What a store replies to a request, and what it is afterwards. -/
def reply (store : ObjectStore) : StoreRequest → StoreReply × ObjectStore
  | .put key content type =>
    let (result, after) := store.put key content (some type)
    (.put result, after)
  | .get key => (.get (store.get? key), store)
  | .contentType key => (.contentType (store.contentType key), store)

/-- The turns of requests one after the other, and the store after them. -/
def run (store : ObjectStore) : List StoreRequest → List StoreTurn × ObjectStore
  | [] => ([], store)
  | request :: rest =>
    let first := store.reply request
    let others := first.2.run rest
    (⟨request, first.1⟩ :: others.1, others.2)

/-- What is written at a path leaves the place of the index alone: the path is not that of the index, nor is it below
the index as long as there is none. -/
def sparesIndex (store : ObjectStore) (path : Path) : Bool :=
  path != [indexName] && (path.head? != some indexName || (store.file? [indexName]).isSome)

/-- The request leaves the place of the index alone. -/
def spares (store : ObjectStore) : StoreRequest → Bool
  | .put key _ _ => (Path.resolve? store.root key).all store.sparesIndex
  | _ => true

/-- Of requests one after the other, all leave the place of the index alone. -/
def allSpare (store : ObjectStore) : List StoreRequest → Bool
  | [] => true
  | request :: rest => store.spares request && (store.reply request).2.allSpare rest

/-- One more request is replied to by the store after the others. -/
theorem run_concat (store : ObjectStore) (requests : List StoreRequest) (request : StoreRequest) :
    store.run (requests ++ [request]) =
      ((store.run requests).1 ++ [⟨request, ((store.run requests).2.reply request).1⟩],
        ((store.run requests).2.reply request).2) := by
  induction requests generalizing store with
  | nil => rfl
  | cons first rest ih =>
    rw [List.cons_append, run, run, ih]
    rfl

theorem allSpare_concat {store : ObjectStore} {requests : List StoreRequest} {request : StoreRequest} :
    store.allSpare (requests ++ [request]) = true ↔
      store.allSpare requests = true ∧ (store.run requests).2.spares request = true := by
  induction requests generalizing store with
  | nil => simp [allSpare, run]
  | cons first rest ih =>
    rw [List.cons_append, allSpare, allSpare, Bool.and_eq_true, Bool.and_eq_true, ih, and_assoc]
    rfl

end ObjectStore

/-! ## What was put last -/

namespace StoreTurn

/-- The content that a turn put at a path, if it put one there. -/
def stored? (root : String) (path : Path) : StoreTurn → Option ByteArray
  | ⟨.put key content _, .put (.ok ())⟩ =>
    if Path.resolve? root key = some path then content.encode.toOption else none
  | _ => none

/-- The type that a turn noted under a key, if it noted one. -/
def noted? (key : String) : StoreTurn → Option Value
  | ⟨.put other _ type, .put (.ok ())⟩ => if other = key then some type else none
  | _ => none

variable (root : String) (path : Path) (key : String) (turns : List StoreTurn) (turn : StoreTurn)

/-- The content that was put at a path last. -/
def lastStored? : Option ByteArray := turns.reverse.findSome? (stored? root path)

/-- The type that was noted under a key last. -/
def lastNoted? : Option Value := turns.reverse.findSome? (noted? key)

theorem lastStored?_concat :
    lastStored? root path (turns ++ [turn]) = (turn.stored? root path).or (lastStored? root path turns) := by
  rw [lastStored?, List.reverse_append, List.reverse_singleton, List.singleton_append, List.findSome?_cons]
  cases turn.stored? root path <;> rfl

theorem lastNoted?_concat : lastNoted? key (turns ++ [turn]) = (turn.noted? key).or (lastNoted? key turns) := by
  rw [lastNoted?, List.reverse_append, List.reverse_singleton, List.singleton_append, List.findSome?_cons]
  cases turn.noted? key <;> rfl

end StoreTurn

/-! ## Puts -/

namespace ObjectStore

variable {store : ObjectStore} {byKey : Record} {root key : String} {turns : List StoreTurn} {content : Content}
  {type : Value}

/-- The index is in its place, its name makes no text that is too long, and it says of what types contents are, however
little room there is. -/
structure Indexed (store : ObjectStore) (byKey : Record) : Prop where
  fits : store.indexSize ≤ longestPath
  isFree : [indexName] ∉ store.directories
  value_eq : ∀ room, store.index.value room = .ok (.record byKey)

theorem Indexed.contentType_eq (h : store.Indexed byKey) (key : String) :
    store.contentType key = .ok (Record.get byKey key) := by
  rw [contentType, typesByKey, types, foundIndex_eq h.fits, h.value_eq]
  rfl

/-- Where the index is in its place, any type is noted. -/
theorem Indexed.noteType_eq (h : store.Indexed byKey) (key : String) (type : Value) :
    store.noteType key (some type) = (.ok (), { store with index := .types (Record.set byKey key type) }) := by
  have hrecord : store.index.record (store.room - 2) = .ok byKey := by
    rw [Index.record, h.value_eq]
    rfl
  exact ObjectStore.noteType_eq h.fits (by simpa using h.isFree) hrecord key type

/-- A directory that is made on the way to an object is not in the place of the index. -/
theorem isFree_of_head?_ne {path : Path} {directories : List Path} (hfree : [indexName] ∉ store.directories)
    (hhead : path.head? ≠ some indexName)
    (hnew : ∀ directory ∈ directories, directory ∈ store.directories ∨ directory <+: path) :
    [indexName] ∉ directories := by
  intro hm
  rcases hnew _ hm with hold | ⟨rest, hrest⟩
  · exact hfree hold
  · rw [← hrest] at hhead
    exact hhead rfl

/-- Below the index nothing is written, and no directory is made. -/
theorem write_below_index (hfree : [indexName] ∉ store.directories) (hfile : (store.file? [indexName]).isSome = true)
    (name : String) (rest : Path) (content : Content) :
    ∃ cause, store.write (indexName :: name :: rest) content = (.error cause, store) := by
  have hdirectory : store.isDirectory [indexName] = false := by
    rw [isDirectory, Bool.or_eq_false_iff]
    exact ⟨by decide, by simpa using hfree⟩
  have hmake : store.makeDirectories [] (indexName :: name :: rest).dropLast =
      (.error (store.fileInTheWay (name :: rest).dropLast), store) := by
    rw [List.dropLast_cons_cons, makeDirectories]
    simp only [List.nil_append, hdirectory, hfile, Bool.false_eq_true, if_false, if_true]
  rw [write, hmake]
  exact ⟨_, rfl⟩

/-- **What a write does** that leaves the place of the index alone: but for directories and a draft nothing at all when
it fails, and else it writes the object. -/
theorem write_of_spares {path : Path} (hfree : [indexName] ∉ store.directories) (h : store.sparesIndex path = true)
    (content : Content) :
    ∃ directories, [indexName] ∉ directories ∧
      ((∃ cause drafts, ({ store with directories } : ObjectStore).AddsDraft path drafts ∧
          store.write path content = (.error cause, { store with directories, drafts })) ∨
        ∃ bytes, path ≠ [indexName] ∧ content.encode = .ok bytes ∧
          store.write path content =
            (.ok (), { store with directories, objects := putObject path bytes store.objects })) := by
  rw [sparesIndex, Bool.and_eq_true, Bool.or_eq_true, bne_iff_ne, bne_iff_ne] at h
  obtain ⟨hne, hplace⟩ := h
  by_cases hhead : path.head? = some indexName
  · obtain ⟨names, rfl⟩ := List.head?_eq_some_iff.mp hhead
    cases names with
    | nil => exact absurd rfl hne
    | cons name rest =>
      have hfile := hplace.resolve_left fun hother => hother hhead
      obtain ⟨cause, hwrite⟩ := write_below_index hfree hfile name rest content
      exact ⟨store.directories, hfree, .inl ⟨cause, store.drafts, .inl rfl, hwrite⟩⟩
  · obtain ⟨directories, hnew, hfails | ⟨bytes, hencode, hwrite⟩⟩ := store.write_cases path content
    · exact ⟨directories, isFree_of_head?_ne hfree hhead hnew, .inl hfails⟩
    · refine ⟨directories, isFree_of_head?_ne hfree hhead hnew, .inr ⟨bytes, hne, hencode, ?_⟩⟩
      rw [hwrite, writeFile, if_neg hne]

/-- **What a put does** that leaves the place of the index alone: but for directories and a draft nothing at all when it
fails, and else it writes the object and notes the type. -/
theorem Indexed.put_cases (h : store.Indexed byKey) (hspares : store.spares (.put key content type) = true) :
    ∃ directories, [indexName] ∉ directories ∧
      ((∃ cause path drafts, ({ store with directories } : ObjectStore).AddsDraft path drafts ∧
          store.put key content (some type) = (.error cause, { store with directories, drafts })) ∨
        ∃ path bytes, Path.resolve? store.root key = some path ∧ path ≠ [indexName] ∧ content.encode = .ok bytes ∧
          store.put key content (some type) = (.ok (), { store with
            directories, objects := putObject path bytes store.objects,
            index := .types (Record.set byKey key type) })) := by
  unfold put
  cases hpath : store.path? key with
  | error cause => exact ⟨store.directories, h.isFree, .inl ⟨cause, [], store.drafts, .inl rfl, rfl⟩⟩
  | ok path =>
    have hresolve := path?_eq_ok_iff.mp hpath
    rw [spares, hresolve, Option.all_some] at hspares
    obtain ⟨directories, hfree, ⟨cause, drafts, hadds, hwrite⟩ | ⟨bytes, hne, hencode, hwrite⟩⟩ :=
      write_of_spares h.isFree hspares content
    · refine ⟨directories, hfree, .inl ⟨cause, path, drafts, hadds, ?_⟩⟩
      simp only [hwrite]
    · have hwritten : ({ store with directories, objects := putObject path bytes store.objects } : ObjectStore).Indexed
          byKey := ⟨h.fits, hfree, h.value_eq⟩
      refine ⟨directories, hfree, .inr ⟨path, bytes, hresolve, hne, hencode, ?_⟩⟩
      simp only [hwrite, hwritten.noteType_eq]

/-! ## Runs -/

/-- The store holds what was put last: contents by the paths that their keys lead to, types by the keys. All drafts have
names of drafts. -/
structure Follows (store : ObjectStore) (root : String) (turns : List StoreTurn) : Prop where
  root_eq : store.root = root
  indexed : ∃ byKey, store.Indexed byKey ∧ ∀ key, Record.get byKey key = (StoreTurn.lastNoted? key turns).getD .null
  lookup_eq : ∀ path, path ≠ [indexName] → store.objects.lookup path = StoreTurn.lastStored? root path turns
  isDraft : ∀ draft ∈ store.drafts, draft.1.isDraft = true

/-- A new store holds nothing. -/
theorem follows_new {root : String} {draftNames : DraftNames}
    (hfits : ({ root, draftNames } : ObjectStore).indexSize ≤ longestPath) :
    ({ root, draftNames } : ObjectStore).Follows root [] where
  root_eq := rfl
  indexed := ⟨[], ⟨hfits, List.not_mem_nil, fun _ => rfl⟩, fun _ => rfl⟩
  lookup_eq _ _ := rfl
  isDraft := nofun

/-- A turn that put nothing changes nothing about what was put last. -/
theorem Follows.concat (h : store.Follows root turns) {turn : StoreTurn}
    (hstored : ∀ path, turn.stored? root path = none) (hnoted : ∀ key, turn.noted? key = none) :
    store.Follows root (turns ++ [turn]) where
  root_eq := h.root_eq
  indexed := by
    obtain ⟨byKey, hindexed, htypes⟩ := h.indexed
    refine ⟨byKey, hindexed, ?_⟩
    intro key
    rw [StoreTurn.lastNoted?_concat, hnoted, Option.none_or]
    exact htypes key
  lookup_eq path hpath := by
    rw [StoreTurn.lastStored?_concat, hstored, Option.none_or]
    exact h.lookup_eq path hpath
  isDraft := h.isDraft

/-- What a put that fails leaves changes nothing about it. -/
theorem Follows.addsDraft (h : store.Follows root turns) {directories : List Path} {path : Path}
    {drafts : List (Path × ByteArray)} (hfree : [indexName] ∉ directories)
    (hadds : ({ store with directories } : ObjectStore).AddsDraft path drafts) :
    ({ store with directories, drafts } : ObjectStore).Follows root turns where
  root_eq := h.root_eq
  indexed := by
    obtain ⟨byKey, hindexed, htypes⟩ := h.indexed
    exact ⟨byKey, ⟨hindexed.fits, hfree, hindexed.value_eq⟩, htypes⟩
  lookup_eq := h.lookup_eq
  isDraft draft hm := by
    rcases hadds with rfl | ⟨content, rfl⟩
    · exact h.isDraft draft hm
    · rcases List.mem_append.mp hm with hm | hm
      · exact h.isDraft draft hm
      · rw [List.mem_singleton.mp hm]
        exact isDraft_draftPath _ path

/-- **The store goes on with what was put last** after a request that leaves the place of its index alone. -/
theorem Follows.reply (h : store.Follows root turns) {request : StoreRequest} (hspares : store.spares request = true) :
    (store.reply request).2.Follows root (turns ++ [⟨request, (store.reply request).1⟩]) := by
  cases request with
  | get key => exact h.concat (fun _ => rfl) (fun _ => rfl)
  | contentType key => exact h.concat (fun _ => rfl) (fun _ => rfl)
  | put key content type =>
    obtain ⟨byKey, hindexed, htypes⟩ := h.indexed
    have hcases := hindexed.put_cases hspares
    rw [ObjectStore.reply]
    obtain ⟨directories, hfree, ⟨cause, path, drafts, hadds, hput⟩ | ⟨path, bytes, hresolve, hpath, hencode, hput⟩⟩ :=
      hcases
    · rw [hput]
      exact (h.addsDraft hfree hadds).concat (fun _ => rfl) (fun _ => rfl)
    · rw [hput]
      rw [h.root_eq] at hresolve
      refine ⟨h.root_eq, ⟨Record.set byKey key type, ⟨hindexed.fits, hfree, fun _ => rfl⟩, ?_⟩, ?_, h.isDraft⟩
      · intro other
        rw [StoreTurn.lastNoted?_concat, StoreTurn.noted?]
        by_cases hother : key = other
        · rw [if_pos hother, Option.some_or, Option.getD_some, ← hother, Record.get, Record.get?_set_self]
          rfl
        · rw [if_neg hother, Option.none_or, ← htypes other, Record.get, Record.get,
            Record.get?_set_of_ne _ _ (Ne.symm hother)]
      · intro other hother
        rw [StoreTurn.lastStored?_concat, StoreTurn.stored?, hresolve, hencode]
        dsimp only
        rw [lookup_putObject, h.lookup_eq other hother]
        by_cases hsame : other = path
        · rw [if_pos hsame, hsame, if_pos rfl]
          rfl
        · rw [if_neg hsame, if_neg fun he => hsame (Option.some.inj he).symm, Option.none_or]

/-- It does so through any run of such requests. -/
theorem follows_run {root : String} {draftNames : DraftNames} {requests : List StoreRequest}
    (hfits : ({ root, draftNames } : ObjectStore).indexSize ≤ longestPath)
    (h : ({ root, draftNames } : ObjectStore).allSpare requests = true) :
    (({ root, draftNames } : ObjectStore).run requests).2.Follows root
      (({ root, draftNames } : ObjectStore).run requests).1 := by
  induction requests using List.reverseRecOn with
  | nil => exact follows_new hfits
  | append_singleton requests request ih =>
    obtain ⟨hbefore, hlast⟩ := allSpare_concat.mp h
    rw [run_concat]
    exact (ih hbefore).reply hlast

/-- A store that differs in directories away from its index reads the same. -/
theorem file?_directories {directories : List Path} (hold : [indexName] ∉ store.directories)
    (hnew : [indexName] ∉ directories) (path : Path) :
    ({ store with directories } : ObjectStore).file? path = store.file? path := by
  rw [file?, file?]
  split
  · next hpath =>
    rw [hpath]
    simp [hold, hnew]
  · rfl

/-- What a put leaves that fails: every key reads what it read, but for those of one path, which has the name of a draft
and was that of no file, and every type is as it was. -/
structure OnlyDrafts (store after : ObjectStore) (draft : Path) : Prop where
  isDraft : draft.isDraft = true
  file?_eq : store.file? draft = none
  get?_eq : ∀ key, Path.resolve? store.root key ≠ some draft → after.get? key = store.get? key
  contentType_eq : ∀ key, after.contentType key = store.contentType key

/-- **A put that fails leaves at most a draft**, and changes no object and no type, if it leaves the place of the index
alone. -/
theorem Indexed.onlyDrafts (h : store.Indexed byKey) (hspares : store.spares (.put key content type) = true)
    {cause : StoreError} (hfails : (store.put key content (some type)).1 = .error cause) :
    ∃ draft, store.OnlyDrafts (store.put key content (some type)).2 draft := by
  obtain ⟨directories, hfree, ⟨cause, path, drafts, hadds, hput⟩ | ⟨path, bytes, -, -, -, hput⟩⟩ :=
    h.put_cases hspares
  · have hsame := file?_directories h.isFree hfree
    refine ⟨({ store with directories } : ObjectStore).draftPath path, isDraft_draftPath _ path, ?_, ?_, ?_⟩
    · rw [← hsame]
      exact file?_draftPath _ path
    · intro other hother
      rw [hput, get?, get?]
      show (store.path? other).map _ = (store.path? other).map _
      cases hpath : store.path? other with
      | error cause => rfl
      | ok found =>
        have hne : found ≠ ({ store with directories } : ObjectStore).draftPath path := fun heq =>
          hother (heq ▸ path?_eq_ok_iff.mp hpath)
        exact congrArg Except.ok ((hadds.file?_eq hne).trans (hsame found))
    · intro other
      rw [hput]
      rfl
  · rw [hput] at hfails
    cases hfails

/-- **A store is faithful to what was put into it** as long as all puts leave the place of its index alone, and its root
is one that keys stay below and that leaves room for the name of the index. A put that fails changes no object and no
type, but may leave a draft. What is read under a key is what was put last under any key that leads to the same path,
which is one below the root; if nothing was, it is the draft that a put left there, or nothing, and of drafts there are
none but under their names. A key that has no path is refused. The type under a key is the one that was put last under
this very key, or nothing. -/
theorem run_faithful (root : String) (draftNames : DraftNames) (requests : List StoreRequest)
    (hroot : Path.IsSound root) (hfits : ({ root } : ObjectStore).indexSize ≤ longestPath)
    (h : ({ root, draftNames } : ObjectStore).allSpare requests = true) :
    let turns := (({ root, draftNames } : ObjectStore).run requests).1
    let store := (({ root, draftNames } : ObjectStore).run requests).2
    (∀ key content type cause, store.spares (.put key content type) = true →
      (store.put key content (some type)).1 = .error cause →
        ∃ draft, store.OnlyDrafts (store.put key content (some type)).2 draft) ∧
    (∀ key path, Path.resolve? root key = some path → path.IsPlain ∧ (path ≠ [indexName] →
      store.get? key = .ok ((StoreTurn.lastStored? root path turns).or (store.drafts.lookup path)))) ∧
    (∀ path, path.isDraft = false → store.drafts.lookup path = none) ∧
    (∀ key, Path.resolve? root key = none → store.Rejects key) ∧
    ∀ key, store.contentType key = .ok ((StoreTurn.lastNoted? key turns).getD .null) := by
  intro turns store
  have hfollows : store.Follows root turns := follows_run hfits h
  obtain ⟨byKey, hindexed, htypes⟩ := hfollows.indexed
  refine ⟨fun key content type cause hspares hfails => hindexed.onlyDrafts hspares hfails, ?_, ?_, ?_, ?_⟩
  · intro key path hresolve
    refine ⟨Path.isPlain_of_resolve? hroot hresolve, fun hpath => ?_⟩
    rw [← hfollows.root_eq] at hresolve
    rw [← hfollows.lookup_eq path hpath, get?, path?_eq_ok_iff.mpr hresolve]
    exact congrArg Except.ok (file?_of_ne hpath)
  · intro path hpath
    rw [List.lookup_eq_none_iff]
    intro draft hm
    rw [bne_iff_ne]
    rintro rfl
    rw [hfollows.isDraft draft hm] at hpath
    cases hpath
  · intro key hresolve
    rw [← hfollows.root_eq] at hresolve
    exact rejects_of_resolve? hresolve
  · intro key
    rw [hindexed.contentType_eq, htypes]

/-- Two puts that lead to one path, and two that fail. -/
def sharedRequests : List StoreRequest :=
  [.put "a/../b.txt" (.text "first") (.text "text/plain"), .put "b.txt" (.text "second") (.text "text/html"),
   .put "b.txt/c" (.text "third") (.text "text/css"), .put "a/../b.txt" (.other .list) (.text "text/css")]

/-- Whichever way its path is spelled, the object is that of the second put, while the first key keeps its own type; of
the last put its empty draft is left. -/
theorem run_faithful_shared :
    let store := (({ root := "/store" } : ObjectStore).run sharedRequests).2
    store.get? "./b.txt" = .ok (some "second".toUTF8) ∧
      (store.contentType "a/../b.txt").map Value.toText = .ok "text/plain" ∧
      store.get? "tmpaaaaaaaaaaaaa" = .ok (some .empty) := by
  have hspares : ({ root := "/store" } : ObjectStore).allSpare sharedRequests = true := by decide +kernel
  obtain ⟨-, hget, -, -, htype⟩ :=
    run_faithful "/store" .long sharedRequests (by decide +kernel) (by decide +kernel) hspares
  refine ⟨?_, ?_, ?_⟩
  · rw [(hget "./b.txt" ["b.txt"] (by decide +kernel)).2 (by decide)]
    decide +kernel
  · rw [htype]
    decide +kernel
  · rw [(hget "tmpaaaaaaaaaaaaa" ["tmpaaaaaaaaaaaaa"] (by decide +kernel)).2 (by decide)]
    decide +kernel

/-- A put at the path of the index fails and still takes its place: no type can be asked for any more. -/
theorem run_replaced :
    let store := (({ root := "/store" } : ObjectStore).run [.put "a" (.text "x") (.text "text/plain")]).2
    let put := store.put "_content_types.json" (.text "x") (some (.text "text/plain"))
    let cause : Json.ReadError := { flaw := .valueMissing, line := 1, column := 1, position := 0 }
    (store.contentType "a").map Value.toText = .ok "text/plain" ∧ put.1 = .error (.notJson cause) ∧
      (put.2.contentType "a").map Value.toText = .error (.notJson cause) ∧
      put.2.get? "_content_types.json" = .ok (some "x".toUTF8) := by
  refine ⟨?_, ?_, ?_, ?_⟩
  · decide +kernel
  · decide +kernel
  · decide +kernel
  · decide +kernel

end ObjectStore

end FrontPage
