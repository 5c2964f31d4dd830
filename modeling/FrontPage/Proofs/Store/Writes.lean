import FrontPage.Store.Objects

/-!
# What a put changes

A put that succeeds leaves the object at the path of its key, and every other file as it was but the index, where the
type is noted (`ObjectStore.Wrote`, `ObjectStore.wrote_put`). What fails may leave a draft, under a name that was new
(`ObjectStore.AddsDraft`).
-/

namespace FrontPage.ObjectStore

/-- A content was written under a key: it is at the path that the key leads to, and of all other files at most the index
has changed. -/
structure Wrote (store after : ObjectStore) (key : String) (content : ByteArray) : Prop where
  root_eq : after.root = store.root
  file?_eq : ∃ path, Path.resolve? store.root key = some path ∧ ∀ other, other ≠ [indexName] →
    after.file? other = if other = path then some content else store.file? other

variable {store : ObjectStore}

/-! ## Files -/

/-- A file that is not the index is one of the objects, or a draft. -/
theorem file?_of_ne {path : Path} (h : path ≠ [indexName]) :
    store.file? path = (store.objects.lookup path).or (store.drafts.lookup path) := by
  rw [file?, if_neg h]

/-- An object that was put at a path is found there, and all others where they were. -/
theorem lookup_putObject (path other : Path) (content : ByteArray) (objects : List (Path × ByteArray)) :
    (putObject path content objects).lookup other = if other = path then some content else objects.lookup other := by
  induction objects with
  | nil =>
    rw [putObject, List.lookup_cons]
    by_cases h : other = path
    · simp [h]
    · simp [h, beq_eq_false_iff_ne.mpr h]
  | cons object rest ih =>
    obtain ⟨p, c⟩ := object
    rw [putObject]
    by_cases hp : p = path
    · rw [if_pos hp, List.lookup_cons, List.lookup_cons, hp]
      by_cases h : other = path
      · simp [h]
      · simp [h, beq_eq_false_iff_ne.mpr h]
    · rw [if_neg hp, List.lookup_cons, List.lookup_cons, ih]
      by_cases h : other = path
      · simp [h, beq_eq_false_iff_ne.mpr (Ne.symm hp)]
      · simp [h]

theorem root_writeFile (path : Path) (content : ByteArray) : (store.writeFile path content).root = store.root := by
  unfold writeFile
  split <;> rfl

/-- Writing a file changes no other but the index. -/
theorem file?_writeFile (path : Path) (content : ByteArray) {other : Path} (h : other ≠ [indexName]) :
    (store.writeFile path content).file? other = if other = path then some content else store.file? other := by
  unfold writeFile
  by_cases hpath : path = [indexName]
  · have hne : other ≠ path := hpath ▸ h
    rw [if_pos hpath, if_neg hne, file?_of_ne h, file?_of_ne h]
  · rw [if_neg hpath, file?_of_ne h, file?_of_ne h, lookup_putObject]
    by_cases hsame : other = path
    · rw [if_pos hsame, if_pos hsame, Option.some_or]
    · rw [if_neg hsame, if_neg hsame]

/-! ## Drafts -/

/-- The drafts are those of a store, and at most one more, which is that of the file at a path. -/
def AddsDraft (store : ObjectStore) (path : Path) (drafts : List (Path × ByteArray)) : Prop :=
  drafts = store.drafts ∨ ∃ content, drafts = (store.leaveDraft path content).drafts

theorem ne_index_of_isDraft {path : Path} (h : path.isDraft = true) : path ≠ [indexName] := by
  rintro rfl
  exact absurd h (by decide)

theorem isDraft_draftPath (store : ObjectStore) (path : Path) : (store.draftPath path).isDraft = true := by
  rw [Path.isDraft, draftPath, List.getLast?_concat]
  exact store.draftNames.isDraftName_name _ _

/-- There is no file where the next draft will be. -/
theorem file?_draftPath (store : ObjectStore) (path : Path) : store.file? (store.draftPath path) = none := by
  have hnew : store.draftPath path ∉ store.taken := store.draftNames.isNew _ _
  rw [taken, List.mem_append, List.mem_append, not_or, not_or] at hnew
  obtain ⟨⟨hobjects, hdrafts⟩, -⟩ := hnew
  have hlookup (files : List (Path × ByteArray)) (hfiles : store.draftPath path ∉ files.map Prod.fst) :
      files.lookup (store.draftPath path) = none := by
    rw [List.lookup_eq_none_iff]
    exact fun file hm => bne_iff_ne.mpr fun heq => hfiles (heq ▸ List.mem_map_of_mem hm)
  rw [file?_of_ne (ne_index_of_isDraft (store.isDraft_draftPath path)), hlookup _ hobjects, hlookup _ hdrafts]
  rfl

/-- Of all files only the draft is new. -/
theorem AddsDraft.file?_eq {path : Path} {drafts : List (Path × ByteArray)} (h : store.AddsDraft path drafts)
    {file : Path} (hfile : file ≠ store.draftPath path) :
    ({ store with drafts } : ObjectStore).file? file = store.file? file := by
  rcases h with rfl | ⟨content, rfl⟩
  · rfl
  · rw [file?, file?]
    split
    · rfl
    · rw [leaveDraft, List.lookup_append, List.lookup_cons, beq_eq_false_iff_ne.mpr hfile, List.lookup_nil]
      dsimp only
      rw [Option.or_none]

/-! ## Puts -/

/-- Making directories changes nothing else, and there are only new ones on the way to the last. -/
theorem exists_makeDirectories (store : ObjectStore) (base : Path) (names : List String) :
    ∃ directories, (store.makeDirectories base names).2 = { store with directories } ∧
      ∀ directory ∈ directories, directory ∈ store.directories ∨ directory <+: base ++ names := by
  induction names generalizing store base with
  | nil => exact ⟨store.directories, rfl, fun _ hm => .inl hm⟩
  | cons name rest ih =>
    have hsame : ∃ directories, store = { store with directories } ∧
        ∀ directory ∈ directories, directory ∈ store.directories ∨ directory <+: base ++ name :: rest :=
      ⟨store.directories, rfl, fun _ hm => .inl hm⟩
    have hnext : base ++ [name] ++ rest = base ++ name :: rest := by simp
    unfold makeDirectories
    dsimp only
    split
    · obtain ⟨directories, hrest, hnew⟩ := ih store (base ++ [name])
      exact ⟨directories, hrest, hnext ▸ hnew⟩
    split
    · exact hsame
    split
    · exact hsame
    split
    · exact hsame
    · obtain ⟨directories, hrest, hnew⟩ := ih { store with directories := store.directories ++ [base ++ [name]] }
        (base ++ [name])
      refine ⟨directories, hrest, ?_⟩
      intro directory hm
      rcases hnew directory hm with hold | hprefix
      · rcases List.mem_append.mp hold with hold | hmade
        · exact .inl hold
        · right
          rw [List.mem_singleton.mp hmade, ← hnext]
          exact List.prefix_append _ _
      · exact .inr (hnext ▸ hprefix)

/-- **What a write does.** It makes directories on the way to a path, and fails, with a draft left or not, or else the
content is written there. -/
theorem write_cases (store : ObjectStore) (path : Path) (content : Content) :
    ∃ directories, (∀ directory ∈ directories, directory ∈ store.directories ∨ directory <+: path) ∧
      ((∃ cause drafts, ({ store with directories } : ObjectStore).AddsDraft path drafts ∧
          store.write path content = (.error cause, { store with directories, drafts })) ∨
        ∃ bytes, content.encode = .ok bytes ∧
          store.write path content = (.ok (), ({ store with directories } : ObjectStore).writeFile path bytes)) := by
  obtain ⟨directories, hprepared, hnew⟩ := exists_makeDirectories store [] path.dropLast
  refine ⟨directories, ?_, ?_⟩
  · intro directory hm
    exact (hnew directory hm).imp_right fun hprefix => hprefix.trans (List.dropLast_prefix path)
  unfold write
  generalize store.makeDirectories [] path.dropLast = made at hprepared ⊢
  obtain ⟨result, prepared⟩ := made
  obtain rfl : prepared = { store with directories } := hprepared
  cases result with
  | error cause => exact .inl ⟨cause, _, .inl rfl, rfl⟩
  | ok =>
    dsimp only
    cases store.draftFlaw? path with
    | some cause => exact .inl ⟨cause, _, .inl rfl, rfl⟩
    | none =>
      cases hencode : content.encode with
      | error cause => exact .inl ⟨cause, _, .inr ⟨_, rfl⟩, rfl⟩
      | ok bytes =>
        cases ({ store with directories } : ObjectStore).placeFlaw? path with
        | some cause => exact .inl ⟨cause, _, .inr ⟨_, rfl⟩, rfl⟩
        | none => exact .inr ⟨bytes, rfl, rfl⟩

/-- A content that is written at a path is a file there, and no other file but the index has changed. -/
theorem write_ok {path : Path} {content : Content} (h : (store.write path content).1 = .ok ()) :
    ∃ bytes, content.encode = .ok bytes ∧ (store.write path content).2.root = store.root ∧
      ∀ other, other ≠ [indexName] →
        (store.write path content).2.file? other = if other = path then some bytes else store.file? other := by
  obtain ⟨directories, -, ⟨cause, drafts, -, hwrite⟩ | ⟨bytes, hencode, hwrite⟩⟩ := store.write_cases path content
  · rw [hwrite] at h
    cases h
  · rw [hwrite]
    refine ⟨bytes, hencode, root_writeFile path bytes, ?_⟩
    intro other hother
    dsimp only
    rw [file?_writeFile path bytes hother, file?_of_ne hother, file?_of_ne hother]

/-- **What noting a type does.** It changes the index, or fails, with a draft left or not. -/
theorem noteType_cases (store : ObjectStore) (key : String) (type : Option Value) :
    (∃ cause drafts, store.AddsDraft [indexName] drafts ∧
        store.noteType key type = (.error cause, { store with drafts })) ∨
      ∃ index, store.noteType key type = (.ok (), { store with index }) := by
  unfold noteType
  cases store.foundIndex.record (store.room - 2) with
  | error cause => exact .inl ⟨cause, store.drafts, .inl rfl, rfl⟩
  | ok byKey =>
    dsimp only
    split
    · exact .inl ⟨_, store.drafts, .inl rfl, rfl⟩
    cases type with
    | none => exact .inl ⟨_, _, .inr ⟨_, rfl⟩, rfl⟩
    | some type =>
      cases store.indexFlaw? with
      | some cause => exact .inl ⟨cause, _, .inr ⟨_, rfl⟩, rfl⟩
      | none => exact .inr ⟨_, rfl⟩

/-- A text is no longer without the slashes at its end. -/
theorem utf8ByteSize_bare_le (text : String) : (Path.bare text).utf8ByteSize ≤ text.utf8ByteSize := by
  have hsuffix : (text.toList.reverse.dropWhile (· == '/')).reverse <+: text.toList :=
    List.reverse_suffix.mp (by simpa using List.dropWhile_suffix _)
  obtain ⟨slashes, hslashes⟩ := hsuffix
  have htext : text = Path.bare text ++ String.ofList slashes := by
    rw [Path.bare, ← String.ofList_append, hslashes, String.ofList_toList]
  have hsize := congrArg String.utf8ByteSize htext
  rw [String.utf8ByteSize_append] at hsize
  omega

/-- The name of the index makes a longer text than that of its draft. -/
theorem draft_le_indexSize (store : ObjectStore) :
    (Path.bare store.root).utf8ByteSize + 1 + draftSize ≤ store.indexSize := by
  have hbare := utf8ByteSize_bare_le store.root
  have hname : indexName.utf8ByteSize = 19 := by decide +kernel
  have hjoin : store.root.utf8ByteSize + 19 ≤ store.indexSize := by
    rw [indexSize, Path.join, if_neg (by decide)]
    split
    · rw [String.utf8ByteSize_append]
      omega
    · rw [String.utf8ByteSize_append, String.utf8ByteSize_append]
      omega
  rw [draftSize]
  omega

/-- Where its name does not make too long a text, the index is found as it is. -/
theorem foundIndex_eq (h : store.indexSize ≤ longestPath) : store.foundIndex = store.index := by
  rw [foundIndex, if_neg (Nat.not_lt.mpr h)]

/-- **When a type is noted.** The index is a record in its place, under a name that does not make too long a text. -/
theorem noteType_eq {byKey : Record} (hsize : store.indexSize ≤ longestPath)
    (hfree : store.directories.contains [indexName] = false)
    (hrecord : store.index.record (store.room - 2) = .ok byKey) (key : String) (type : Value) :
    store.noteType key (some type) = (.ok (), { store with index := .types (Record.set byKey key type) }) := by
  have hdraft : ¬longestPath < (Path.bare store.root).utf8ByteSize + 1 + draftSize :=
    Nat.not_lt.mpr (Nat.le_trans store.draft_le_indexSize hsize)
  have hflaw : store.indexFlaw? = none := by
    rw [indexFlaw?, if_neg (Nat.not_lt.mpr hsize), hfree]
    rfl
  unfold noteType
  rw [foundIndex_eq hsize, hrecord]
  dsimp only
  rw [if_neg hdraft, hflaw]

/-- **A put writes the object of its key and nothing else but the index.** -/
theorem wrote_put {key : String} {content : Content} {type : Option Value}
    (h : (store.put key content type).1 = .ok ()) :
    ∃ bytes, content.encode = .ok bytes ∧ store.Wrote (store.put key content type).2 key bytes := by
  unfold put at h ⊢
  cases hpath : store.path? key with
  | error cause =>
    rw [hpath] at h
    cases h
  | ok path =>
    rw [hpath] at h
    have hwrite := @write_ok store path content
    dsimp only at h ⊢
    generalize store.write path content = wrote at h hwrite ⊢
    obtain ⟨result, written⟩ := wrote
    cases result with
    | error cause => cases h
    | ok =>
      obtain ⟨bytes, hencode, hroot, hfiles⟩ := hwrite rfl
      dsimp only at h ⊢
      rcases written.noteType_cases key type with ⟨cause, drafts, -, hnote⟩ | ⟨index, hnote⟩
      · rw [hnote] at h
        cases h
      · rw [hnote]
        refine ⟨bytes, hencode, hroot, path, path?_eq_ok_iff.mp hpath, ?_⟩
        intro other hother
        have hobject := hfiles other hother
        rw [file?_of_ne hother] at hobject
        rw [← hobject]
        exact file?_of_ne hother

/-- A text is put into the root of a store, other than in the place of the index, if there can be a file and a draft for
it, and the index is a record in its place. -/
theorem put_text_ok {key name text : String} {type : Value} {byKey : Record} (hpath : store.path? key = .ok [name])
    (hname : name ≠ indexName) (hdraft : store.draftFlaw? [name] = none) (hplace : store.placeFlaw? [name] = none)
    (hsize : store.indexSize ≤ longestPath) (hfree : store.directories.contains [indexName] = false)
    (hrecord : store.index.record (store.room - 2) = .ok byKey) :
    (store.put key (.text text) (some type)).1 = .ok () := by
  have hmake : store.makeDirectories [] ([name] : Path).dropLast = (.ok (), store) := rfl
  have hwrite : store.write [name] (.text text) = (.ok (), store.writeFile [name] text.toUTF8) := by
    unfold write
    rw [hmake]
    dsimp only
    rw [hdraft, hplace]
    rfl
  let written : ObjectStore := { store with objects := putObject [name] text.toUTF8 store.objects }
  have hwritten : store.writeFile [name] text.toUTF8 = written := by
    rw [writeFile, if_neg (by simpa using hname)]
  have hnoted : written.noteType key (some type) =
      (.ok (), { written with index := .types (Record.set byKey key type) }) :=
    @noteType_eq written byKey hsize hfree hrecord key type
  unfold put
  rw [hpath]
  dsimp only
  rw [hwrite, hwritten]
  exact congrArg Prod.fst hnoted

end FrontPage.ObjectStore
