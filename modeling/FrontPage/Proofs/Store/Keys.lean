import FrontPage.Proofs.Store.Paths
import FrontPage.Proofs.Store.Writes

/-!
# What keys stay below

A store confines a key if it rejects the key and changes nothing, or takes it to a path of names below its root, to
which the key that spells the path leads as well; keys share their object exactly if they have one path
(`ObjectStore.Confines`). Keys are compared with the root as texts, which works for roots that are sound for it only: a
store confines every key exactly if its root is one (`ObjectStore.confines_iff`). A root that only leads up is left by
keys that lead further up, and one of two slashes, or of no name, rejects every key (`ObjectStore.not_confined`).
-/

namespace FrontPage.ObjectStore

variable {store : ObjectStore} {root key other : String} {path : Path}

/-! ## Keys that are rejected -/

/-- A key is rejected for where it leads: nothing is read, and a put changes nothing. -/
def Rejects (store : ObjectStore) (key : String) : Prop :=
  ∃ cause, (cause = .keyEscapes key ∨ cause = .pathsMixed) ∧ store.get? key = .error cause ∧
    ∀ content type, store.put key content type = (.error cause, store)

/-- A key that leads to no path below the root is rejected. -/
theorem rejects_of_resolve? (h : Path.resolve? store.root key = none) : store.Rejects key := by
  rw [Path.resolve?] at h
  cases hresolve : Path.resolve store.root key with
  | ok path =>
    rw [hresolve] at h
    cases h
  | error cause =>
    have hpath : store.path? key = .error (refusal key cause) := by
      rw [path?, hresolve]
      rfl
    have hcause : refusal key cause = .keyEscapes key ∨ refusal key cause = .pathsMixed := by
      clear hresolve hpath h
      cases cause with
      | outside => exact .inl rfl
      | mixed => exact .inr rfl
    refine ⟨refusal key cause, hcause, ?_, fun content type => ?_⟩
    · rw [get?, hpath]
      rfl
    · unfold put
      rw [hpath]

/-! ## Keys that share an object -/

/-- Two keys read one object in every store with a root, and write it alike: what a put under either leaves differs at
most in the index, where each has its own type, and in a draft of it. -/
structure ShareObject (root key other : String) : Prop where
  reads : ∀ store : ObjectStore, store.root = root → store.get? key = store.get? other
  writes : ∀ store : ObjectStore, store.root = root → ∀ content type, ∃ draft : Path, draft.isDraft = true ∧
    ∀ file, file ≠ [indexName] → file ≠ draft →
      (store.put key content type).2.file? file = (store.put other content type).2.file? file

/-- What a put leaves is what a write to the path of its key leaves, with some index and perhaps a draft of that. -/
theorem exists_index_put (h : store.path? key = .ok path) (content : Content) (type : Option Value) :
    ∃ index drafts, (store.write path content).2.AddsDraft [indexName] drafts ∧
      (store.put key content type).2 = { (store.write path content).2 with index, drafts } := by
  unfold put
  rw [h]
  dsimp only
  generalize store.write path content = wrote
  obtain ⟨result, written⟩ := wrote
  cases result with
  | error cause => exact ⟨written.index, written.drafts, .inl rfl, rfl⟩
  | ok =>
    rcases written.noteType_cases key type with ⟨cause, drafts, hadds, hnote⟩ | ⟨index, hnote⟩
    · exact ⟨written.index, drafts, hadds, congrArg Prod.snd hnote⟩
    · exact ⟨index, written.drafts, .inl rfl, congrArg Prod.snd hnote⟩

/-- The files but the index and its draft are those that the write leaves. -/
theorem file?_put (h : store.path? key = .ok path) (content : Content) (type : Option Value) {file : Path}
    (hfile : file ≠ [indexName]) (hdraft : file ≠ (store.write path content).2.draftPath [indexName]) :
    (store.put key content type).2.file? file = (store.write path content).2.file? file := by
  obtain ⟨index, drafts, hadds, hput⟩ := exists_index_put h content type
  rw [hput, ← hadds.file?_eq hdraft, file?_of_ne hfile, file?_of_ne hfile]

/-- Keys that lead to one path share its object. -/
theorem shareObject_of_resolve? (hkey : Path.resolve? root key = some path)
    (hother : Path.resolve? root other = some path) : ShareObject root key other where
  reads store hroot := by
    subst hroot
    rw [get?, get?, path?_eq_ok_iff.mpr hkey, path?_eq_ok_iff.mpr hother]
  writes store hroot content type := by
    subst hroot
    refine ⟨_, (store.write path content).2.isDraft_draftPath [indexName], fun file hfile hdraft => ?_⟩
    rw [file?_put (path?_eq_ok_iff.mpr hkey) content type hfile hdraft,
      file?_put (path?_eq_ok_iff.mpr hother) content type hfile hdraft]

/-- In a store with one file, nothing else is a file. -/
theorem file?_writeFile_new (root : String) (path file : Path) (content : ByteArray) :
    (({ root } : ObjectStore).writeFile path content).file? file = if file = path then some content else none := by
  unfold writeFile
  by_cases hpath : path = [indexName]
  · rw [if_pos hpath, file?, hpath]
    rfl
  · rw [if_neg hpath, file?]
    by_cases hfile : file = [indexName]
    · have hne : file ≠ path := fun h => hpath (h.symm.trans hfile)
      rw [if_pos hfile, if_neg hne]
      rfl
    · rw [if_neg hfile, List.lookup_nil, Option.or_none]
      exact (lookup_putObject path file content []).trans rfl

/-- Keys that share an object lead to one path: a file at the path of one of them is read under the other. -/
theorem ShareObject.path_eq {otherPath : Path} (h : ShareObject root key other)
    (hkey : Path.resolve? root key = some path) (hother : Path.resolve? root other = some otherPath) :
    path = otherPath := by
  have hroot : (({ root } : ObjectStore).writeFile path .empty).root = root := root_writeFile path .empty
  have hread := h.reads _ hroot
  rw [get?, get?, path?_eq_ok_iff.mpr (hroot.symm ▸ hkey), path?_eq_ok_iff.mpr (hroot.symm ▸ hother)] at hread
  have hfile := Except.ok.inj hread
  rw [file?_writeFile_new, file?_writeFile_new, if_pos rfl] at hfile
  by_contra hne
  rw [if_neg (Ne.symm hne)] at hfile
  cases hfile

/-! ## What a put keeps -/

/-- A draft that is left is in the place of no file. -/
theorem AddsDraft.keeps {file : Path} {drafts : List (Path × ByteArray)} (h : store.AddsDraft path drafts)
    (hfile : file.isDraft = false ∨ store.file? file ≠ none) :
    ({ store with drafts } : ObjectStore).file? file = store.file? file := by
  refine h.file?_eq ?_
  rintro rfl
  rcases hfile with hdraft | hsome
  · rw [isDraft_draftPath] at hdraft
    cases hdraft
  · exact hsome (store.file?_draftPath path)

/-- A write keeps the root, and every file but that at its path, the index and a draft that is new. -/
theorem write_keeps (store : ObjectStore) (path : Path) (content : Content) :
    (store.write path content).2.root = store.root ∧
      ∀ file, file ≠ path → file ≠ [indexName] → (file.isDraft = false ∨ store.file? file ≠ none) →
        (store.write path content).2.file? file = store.file? file := by
  obtain ⟨directories, -, ⟨cause, drafts, hadds, hwrite⟩ | ⟨bytes, -, hwrite⟩⟩ := store.write_cases path content
  · rw [hwrite]
    refine ⟨rfl, fun file _ hindex hfile => ?_⟩
    have hsame : ({ store with directories } : ObjectStore).file? file = store.file? file := by
      rw [file?_of_ne hindex, file?_of_ne hindex]
    rw [← hsame] at hfile ⊢
    exact hadds.keeps hfile
  · rw [hwrite]
    refine ⟨root_writeFile path bytes, fun file hne hindex _ => ?_⟩
    rw [file?_writeFile path bytes hindex, if_neg hne, file?_of_ne hindex, file?_of_ne hindex]

/-- A put under a key changes nothing that is read under a key with another path, unless that is the index or a draft
that is new. -/
theorem get?_put_of_ne {otherPath : Path} (hkey : store.path? key = .ok path)
    (hother : store.path? other = .ok otherPath) (hne : path ≠ otherPath) (hindex : otherPath ≠ [indexName])
    (hdraft : otherPath.isDraft = false ∨ store.file? otherPath ≠ none) (content : Content) (type : Option Value) :
    (store.put key content type).2.get? other = store.get? other := by
  obtain ⟨hroot, hfiles⟩ := store.write_keeps path content
  obtain ⟨index, drafts, hadds, hput⟩ := exists_index_put hkey content type
  have hwritten := hfiles otherPath (Ne.symm hne) hindex hdraft
  have hafter : (store.put key content type).2.path? other = .ok otherPath := by
    rw [path?_eq_ok_iff, hput]
    dsimp only
    rw [hroot]
    exact path?_eq_ok_iff.mp hother
  have hput : (store.put key content type).2.file? otherPath = store.file? otherPath := by
    rw [← hwritten] at hdraft ⊢
    rw [hput, ← hadds.keeps hdraft, file?_of_ne hindex, file?_of_ne hindex]
  rw [get?, get?, hafter, hother]
  exact congrArg Except.ok hput

/-! ## Confinement -/

/-- **A store confines a key.** -/
structure Confines (store : ObjectStore) (key : String) : Prop where
  /-- The key is rejected and nothing changes, or it has a path of names without slashes behind those of the root. -/
  rejects_or_isPlain : store.Rejects key ∨ ∃ path, store.path? key = .ok path ∧ path.IsPlain ∧
    Path.locate store.root key = .ok (Path.write (Path.lead (Path.join store.root key)) (Path.names store.root ++ path))
  /-- A relative key that never climbs above the root has a path, which is its own normal form. -/
  path?_of_not_climbs : Path.isAbsolute key = false → ¬Path.Climbs (Path.parts key) →
    store.path? key = .ok (Path.names key)
  /-- An absolute key is rejected if it leads past the root, or the root is relative. -/
  rejects_of_outside : Path.isAbsolute key = true →
    (Path.isAbsolute store.root = false ∨ ∀ path, Path.names key ≠ Path.names store.root ++ path) → store.Rejects key
  /-- The relative key that spells the path of the key leads there too, and by the same text, unless the key begins with
  exactly two slashes, which its text then does as well. -/
  path?_spell : ∀ path, store.path? key = .ok path → store.path? path.spell = .ok path ∧
    (Path.lead key ≠ "//" → Path.locate store.root path.spell = Path.locate store.root key)
  /-- Keys share their object exactly if they have one path. If they have not, a put under one of them leaves what the
  other reads, unless that is the index, or a draft that is new. -/
  shareObject_iff : ∀ path other otherPath, store.path? key = .ok path → store.path? other = .ok otherPath →
    (ShareObject store.root key other ↔ path = otherPath) ∧
      (path ≠ otherPath → otherPath ≠ [indexName] → (otherPath.isDraft = false ∨ store.file? otherPath ≠ none) →
        ∀ content type, (store.put key content type).2.get? other = store.get? other)

theorem confines_of_isSound (hroot : Path.IsSound store.root) (key : String) : store.Confines key where
  rejects_or_isPlain := by
    cases hresolve : Path.resolve? store.root key with
    | none => exact .inl (rejects_of_resolve? hresolve)
    | some path =>
      exact .inr ⟨path, path?_eq_ok_iff.mpr hresolve, Path.isPlain_of_resolve? hroot hresolve,
        Path.locate_of_resolve? hresolve⟩
  path?_of_not_climbs hrelative hclimbs := path?_eq_ok_iff.mpr (Path.resolve?_of_not_climbs hroot hrelative hclimbs)
  rejects_of_outside habsolute houtside := by
    refine rejects_of_resolve? (Option.eq_none_iff_forall_ne_some.mpr fun path hpath => ?_)
    obtain ⟨-, hkind, hnames⟩ := Path.resolve?_eq_some_iff.mp hpath
    rw [Path.join, if_pos habsolute] at hkind hnames
    rcases houtside with hrelative | hpast
    · rw [habsolute, hrelative] at hkind
      cases hkind
    · exact hpast path hnames
  path?_spell path hpath := by
    have hresolve := path?_eq_ok_iff.mp hpath
    exact ⟨path?_eq_ok_iff.mpr (Path.resolve?_spell hroot (Path.isPlain_of_resolve? hroot hresolve)),
      Path.locate_spell hroot hresolve⟩
  shareObject_iff path other otherPath hkey hother := by
    refine ⟨⟨fun hshare => hshare.path_eq (path?_eq_ok_iff.mp hkey) (path?_eq_ok_iff.mp hother), ?_⟩,
      fun hne hindex hdraft => get?_put_of_ne hkey hother hne hindex hdraft⟩
    rintro rfl
    exact shareObject_of_resolve? (path?_eq_ok_iff.mp hkey) (path?_eq_ok_iff.mp hother)

/-- **A store confines all keys exactly if its root is sound.** Its normal form must not begin with two slashes, and
must tell a name unless it is absolute. -/
theorem confines_iff (store : ObjectStore) : (∀ key, store.Confines key) ↔ Path.IsSound store.root := by
  refine ⟨fun h => ?_, confines_of_isSound⟩
  by_contra hroot
  rcases Path.exists_of_not_isSound hroot with hnone | hup
  · have hpath := (h "x").path?_of_not_climbs rfl (Path.not_climbs_of_count (by decide +kernel))
    rw [path?_eq_ok_iff, hnone] at hpath
    cases hpath
  · have hpath := path?_eq_ok_iff.mpr hup
    rcases (h "../x").rejects_or_isPlain with ⟨cause, -, hget, -⟩ | ⟨path, hplain, hnames, -⟩
    · rw [get?, hpath] at hget
      cases hget
    · rw [hpath] at hplain
      cases hplain
      exact absurd (hnames ".." List.mem_cons_self).1 (by decide)

/-- A key with a detour and the one that spells its path share their object, and an absolute key that leads past the
root is rejected. -/
theorem confines_detour :
    Path.resolve? "/srv/objects" "a/../b.txt" = some ["b.txt"] ∧
      ShareObject "/srv/objects" "a/../b.txt" "./b.txt" ∧
      ({ root := "/srv/objects" } : ObjectStore).Rejects "/srv/other" := by
  have hconfines := (confines_iff { root := "/srv/objects" }).mpr (by decide +kernel)
  have hdetour : Path.resolve? "/srv/objects" "a/../b.txt" = some ["b.txt"] := by decide +kernel
  have hdot : Path.resolve? "/srv/objects" "./b.txt" = some ["b.txt"] := by decide +kernel
  have hshare := (hconfines "a/../b.txt").shareObject_iff ["b.txt"] "./b.txt" ["b.txt"] (path?_eq_ok_iff.mpr hdetour)
    (path?_eq_ok_iff.mpr hdot)
  have hother := (hconfines "/srv/other").rejects_of_outside (by decide)
  refine ⟨hdetour, hshare.1.mpr rfl, hother (.inr fun path hpath => ?_)⟩
  have hnames : Path.names "/srv/other" = ["srv", "other"] := by decide +kernel
  have hroot : Path.names "/srv/objects" = ["srv", "objects"] := by decide +kernel
  rw [hnames, hroot] at hpath
  exact absurd (List.cons.inj (List.cons.inj hpath).2).1 (by decide)

/-- **Not all roots confine keys.** The directory above a root `..` is open to keys, and below `.` or two slashes no key
is accepted. Where a root does confine keys, one of two slashes in front still has another text for its path than the
key that spells it; a put can refuse a key that never climbs, for it is no name of a file; and what a put under the key
of the root leaves behind, it leaves beside the root. -/
theorem not_confined :
    Path.locate ".." "../secret" = .ok "../../secret" ∧
      (¬Path.Climbs (Path.parts "x") ∧ Path.locate "." "x" = .error .outside ∧
        Path.locate "//srv" "x" = .error .outside) ∧
      (Path.locate "/srv" "//srv/x" = .ok "//srv/x" ∧ Path.locate "/srv" "x" = .ok "/srv/x") ∧
      (¬Path.Climbs (Path.parts "a\x00") ∧
        (({ root := "/srv" } : ObjectStore).put "a\x00" (.text "x") (some .null)).1 = .error .unusableKey) ∧
      (({ root := "/srv" } : ObjectStore).put "" (.text "x") (some .null)).2.file? ["..", "tmpaaaaaaaa"] =
        some "x".toUTF8 := by
  refine ⟨?_, ⟨Path.not_climbs_of_count ?_, ?_, ?_⟩, ⟨?_, ?_⟩, ⟨Path.not_climbs_of_count ?_, ?_⟩, ?_⟩
  all_goals decide +kernel

end FrontPage.ObjectStore
