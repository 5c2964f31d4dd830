import FrontPage.Pipeline.Hooks
import FrontPage.Proofs.Pipeline.Events
import FrontPage.Proofs.Text.Occurrence
import FrontPage.Proofs.Value.Fields

/-!
# Which menu an article gets

The menu of an article is looked for in the menus document by its full name. The search takes the first entry of that
name (`IsFirstMenu`, `findMenu?_eq_some_iff`), and whatever ends it before that leaves the article as it is, so that the
article gets both identifiers of one entry or none (`gives_resolveArticleMenu`). A document that is absent or cannot be
read has no entries.
-/

namespace FrontPage

/-! ## Names -/

/-- A text can be cut at a word if it is two texts with the word between them. -/
theorem cut?_toList_isSome_iff (word : String) (chars : List Char) :
    (Text.cut? word.toList chars).isSome ↔ ∃ front back, String.ofList chars = front ++ word ++ back := by
  rw [Text.cut?_isSome_iff_exists_append]
  constructor
  · rintro ⟨front, back, rfl⟩
    refine ⟨String.ofList front, String.ofList back, ?_⟩
    rw [← ofList_append_append, String.ofList_toList]
  · rintro ⟨front, back, h⟩
    refine ⟨front.toList, back.toList, ?_⟩
    rw [← String.toList_append, ← String.toList_append, ← h, String.toList_ofList]

/-- An article names a menu: its field is a text that joins two parts, and the name is that text without the blanks
around it. -/
def NamesMenu (article : Record) (name : String) : Prop :=
  ∃ menu, Record.get? article "menu" = some (.text menu) ∧ name.toList = Text.trim menu.toList ∧
    ∃ front back, name = front ++ " - " ++ back

/-- What is looked up for an article is the name that it gives. -/
theorem menuNameOf?_eq_some_iff {article : Record} {name : String} :
    menuNameOf? article = some name ↔ NamesMenu article name := by
  constructor
  · intro h
    unfold menuNameOf? at h
    split at h
    · rename_i menu hmenu
      dsimp only at h
      split at h
      · rename_i hcut
        cases h
        exact ⟨menu, Record.get?_of_get hmenu nofun, String.toList_ofList, (cut?_toList_isSome_iff _ _).mp hcut⟩
      · cases h
    · cases h
  · rintro ⟨menu, hmenu, hname, hparts⟩
    have hname : name = String.ofList (Text.trim menu.toList) := by rw [← hname, String.ofList_toList]
    subst hname
    have hget : Record.get article "menu" = .text menu := by rw [Record.get, hmenu, Option.getD_some]
    unfold menuNameOf?
    rw [hget]
    exact if_pos ((cut?_toList_isSome_iff _ _).mpr hparts)

/-! ## Entries -/

/-- `entry` is the first one of a name in a menus document, and all entries before it are records. -/
def IsFirstMenu (name : String) (entries : List Value) (entry : Record) : Prop :=
  ∃ i : Nat, entries[i]? = some (.record entry) ∧ menuName entry = name ∧
    ∀ j < i, ∃ other, entries[j]? = some (.record other) ∧ menuName other ≠ name

/-- Behind a record of another name, the first entry of a name is the first one of the rest. -/
theorem isFirstMenu_cons_of_ne {name : String} {first entry : Record} {rest : List Value} (h : menuName first ≠ name) :
    IsFirstMenu name (.record first :: rest) entry ↔ IsFirstMenu name rest entry := by
  constructor
  · rintro ⟨i, hentry, hname, hbefore⟩
    cases i with
    | zero =>
      cases hentry
      exact absurd hname h
    | succ i => exact ⟨i, hentry, hname, fun j hj => hbefore (j + 1) (Nat.succ_lt_succ hj)⟩
  · rintro ⟨i, hentry, hname, hbefore⟩
    refine ⟨i + 1, hentry, hname, fun j hj => ?_⟩
    cases j with
    | zero => exact ⟨first, rfl, h⟩
    | succ j => exact hbefore j (Nat.lt_of_succ_lt_succ hj)

/-- Only a record stands in front of the first entry of a name, or is it. -/
theorem IsFirstMenu.exists_record {name : String} {first : Value} {rest : List Value} {entry : Record}
    (h : IsFirstMenu name (first :: rest) entry) : ∃ fields, first = .record fields := by
  obtain ⟨i, hentry, -, hbefore⟩ := h
  cases i with
  | zero => exact ⟨entry, Option.some.inj hentry⟩
  | succ i =>
    obtain ⟨other, hother, -⟩ := hbefore 0 (Nat.succ_pos i)
    exact ⟨other, Option.some.inj hother⟩

/-- **The search finds the first entry of a name,** unless there is something before it that is no record. -/
theorem findMenu?_eq_some_iff {name : String} {entries : List Value} {entry : Record} :
    findMenu? name entries = some entry ↔ IsFirstMenu name entries entry := by
  induction entries with
  | nil => simp [findMenu?, IsFirstMenu]
  | cons first rest ih =>
    cases first with
    | record fields =>
      rw [findMenu?]
      by_cases hname : menuName fields = name
      · rw [if_pos hname, Option.some_inj]
        constructor
        · rintro rfl
          exact ⟨0, rfl, hname, fun j hj => absurd hj (Nat.not_lt_zero j)⟩
        · rintro ⟨i, hentry, -, hbefore⟩
          cases i with
          | zero =>
            cases hentry
            rfl
          | succ i =>
            obtain ⟨other, hother, hne⟩ := hbefore 0 (Nat.succ_pos i)
            cases hother
            exact absurd hname hne
      · rw [if_neg hname, ih, isFirstMenu_cons_of_ne hname]
    | _ => 
      constructor
      · intro h
        cases h
      · intro h
        obtain ⟨fields, hfields⟩ := h.exists_record
        cases hfields

/-- A menus document has an entry for the menu that an article names. -/
def HasMenu (document : Option Value) (article entry : Record) : Prop :=
  ∃ name entries, NamesMenu article name ∧ document = some (.list entries) ∧ IsFirstMenu name entries entry

/-- An article whose menu has an entry gets the identifiers of the entry. -/
theorem resolveMenu_of_hasMenu {document : Option Value} {article entry : Record} (h : HasMenu document article entry) :
    resolveMenu article document = withMenu article entry := by
  obtain ⟨name, entries, hname, rfl, hfirst⟩ := h
  unfold resolveMenu
  rw [menuNameOf?_eq_some_iff.mpr hname]
  dsimp only
  rw [findMenu?_eq_some_iff.mpr hfirst]

/-- An article whose menu has no entry stays as it is. -/
theorem resolveMenu_of_not_hasMenu {document : Option Value} {article : Record}
    (h : ∀ entry, ¬HasMenu document article entry) : resolveMenu article document = article := by
  unfold resolveMenu
  split
  · rename_i name entries hname
    split
    · rename_i entry hfound
      exact absurd ⟨name, entries, menuNameOf?_eq_some_iff.mp hname, rfl, findMenu?_eq_some_iff.mp hfound⟩ (h entry)
    · rfl
  · rfl

/-- An article with the identifiers of an entry has its other fields as before. -/
theorem get?_withMenu (article entry : Record) :
    Record.get? (withMenu article entry) "menu_id" = some (Record.get entry "menu_id") ∧
      Record.get? (withMenu article entry) "sub_menu_id" = some (Record.get entry "sub_menu_id") ∧
      ∀ field, field ≠ "menu_id" → field ≠ "sub_menu_id" →
        Record.get? (withMenu article entry) field = Record.get? article field := by
  refine ⟨?_, Record.get?_set_self _ _ _, fun field hmenu hsub => ?_⟩
  · rw [withMenu, Record.get?_set_of_ne _ _ (by decide), Record.get?_set_self]
  · rw [withMenu, Record.get?_set_of_ne _ _ hsub, Record.get?_set_of_ne _ _ hmenu]

/-! ## Resolving -/

namespace Pipeline

open FrontPage.Action

/-- The menus document as it stands; none if it is absent or cannot be read. -/
def menusDocument? (pipeline : Pipeline) : Option Value :=
  match pipeline.documentUnder pipeline.environment.menusKey with
  | .ok document => document
  | .error _ => none

variable {pipeline : Pipeline}

/-- Resolving the menu of an article goes by the menus document, and changes nothing. -/
theorem gives_resolveMenu (h : pipeline.outages.menu = none) (article : Record) :
    Gives (resolveArticleMenu article) pipeline (resolveMenu article pipeline.menusDocument?) pipeline := by
  refine (Gives.get pipeline).bind ?_
  rw [h]
  cases hname : menuNameOf? article with
  | none =>
    have hsame : resolveMenu article pipeline.menusDocument? = article := by
      unfold resolveMenu
      rw [hname]
    rw [hsame]
    exact Gives.pure article pipeline
  | some name =>
    refine (gives_attempt_document? _ pipeline).bind ?_
    unfold menusDocument?
    cases pipeline.documentUnder pipeline.environment.menusKey with
    | ok document => exact Gives.pure _ _
    | error cause =>
      have hsame : resolveMenu article none = article := by
        unfold resolveMenu
        rw [hname]
      dsimp only
      rw [hsame]
      exact Gives.pure _ _

/-- **An article gets both identifiers of the first entry of its menu, or stays as it is.** Resolving its menu gives a
record in every state of the store, and leaves the pipeline as it is. If the menus document is a list with an entry of
the name that the article gives, and only records of other names before it, the record has the identifiers of that
entry, nothing where the entry lacks them, and every other field of the article, the menu with its blanks among them.
Otherwise the record is the article. -/
theorem gives_resolveArticleMenu (hworks : pipeline.outages.menu = none) (article : Record) :
    ∃ result, Gives (resolveArticleMenu article) pipeline result pipeline ∧
      (∀ entry, HasMenu pipeline.menusDocument? article entry →
        Record.get? result "menu_id" = some (Record.get entry "menu_id") ∧
        Record.get? result "sub_menu_id" = some (Record.get entry "sub_menu_id") ∧
        ∀ field, field ≠ "menu_id" → field ≠ "sub_menu_id" → Record.get? result field = Record.get? article field) ∧
      ((∀ entry, ¬HasMenu pipeline.menusDocument? article entry) → result = article) ∧
      (Record.get? article "menu_id" = none →
        (Record.has result "menu_id" ↔ ∃ entry, HasMenu pipeline.menusDocument? article entry)) := by
  refine ⟨_, gives_resolveMenu hworks article, fun entry h => ?_, resolveMenu_of_not_hasMenu, fun hlacks => ?_⟩
  · rw [resolveMenu_of_hasMenu h]
    exact get?_withMenu article entry
  · constructor
    · intro hhas
      by_contra hnone
      rw [resolveMenu_of_not_hasMenu (not_exists.mp hnone), Record.has, hlacks] at hhas
      cases hhas
    · rintro ⟨entry, h⟩
      rw [resolveMenu_of_hasMenu h, Record.has, (get?_withMenu article entry).1]
      rfl

/-- A pipeline as it is at first, with a menus document in its store. -/
def ofMenus (text : String) : Pipeline where
  environment := defaultEnvironment
  store := { root := "/store", objects := [(["sys-menus-lov.json"], text.toUTF8)] }
  now := .int 0

/-- Its menus document is what its text says. -/
theorem menusDocument?_ofMenus {text : String} {chars : List Char} {document : Value}
    (htext : text = String.ofList chars)
    (hread : (Json.readWhole (mostSteps - 1 - readingSteps) chars).toOption = some document) :
    (ofMenus text).menusDocument? = some document := by
  have hresolved : Path.resolve? "/store" "sys-menus-lov.json" = some ["sys-menus-lov.json"] := by
    decide +kernel
  have hkey : ObjectStore.keyText (ofMenus text).environment.menusKey = .ok "sys-menus-lov.json" := rfl
  have hjson : ((ofMenus text).within 1).store.getJson? "sys-menus-lov.json" = .ok (some document) :=
    ObjectStore.getJson?_of_text (ObjectStore.path?_eq_ok_iff.mpr hresolved) rfl (Json.read_of_chars htext hread)
  have hunder : (ofMenus text).documentUnder (ofMenus text).environment.menusKey = .ok (some document) :=
    congrArg (Except.mapError Failure.store) ((bind_of_ok hkey _).trans hjson)
  rw [menusDocument?, hunder]

/-- A menus document with two entries of one name, in which the separator stands twice. -/
def northText : String :=
  "[\x7b\"menu\":\"News\",\"sub_menu\":\"Local\",\"menu_id\":1,\"sub_menu_id\":2\x7d," ++
    "\x7b\"menu\":\"News\",\"sub_menu\":\"Local - North\",\"menu_id\":3\x7d," ++
    "\x7b\"menu\":\"News - Local\",\"sub_menu\":\"North\",\"menu_id\":4,\"sub_menu_id\":5\x7d,null]"

/-- The second of its entries. -/
def northEntry : Record := [("menu", .text "News"), ("sub_menu", .text "Local - North"), ("menu_id", .int 3)]

/-- Its entries. -/
def northEntries : List Value :=
  [.record [("menu", .text "News"), ("sub_menu", .text "Local"), ("menu_id", .int 1), ("sub_menu_id", .int 2)],
    .record northEntry,
    .record [("menu", .text "News - Local"), ("sub_menu", .text "North"), ("menu_id", .int 4), ("sub_menu_id", .int 5)],
    .null]

/-- An article in the menu that both of them name. -/
def northArticle : Record :=
  [("article_id", .int 7), ("menu", .text " News - Local - North\n"), ("sub_menu_id", .int 9)]

theorem hasMenu_north : HasMenu (some (.list northEntries)) northArticle northEntry := by
  refine ⟨"News - Local - North", northEntries, ⟨" News - Local - North\n", rfl, by decide +kernel, "News",
    "Local - North", by decide +kernel⟩, rfl, 1, rfl, by decide +kernel, fun j hj => ?_⟩
  obtain rfl : j = 0 := by omega
  exact ⟨_, rfl, by decide +kernel⟩

/-- The article gets the identifiers of the earlier entry, of which it has only one. -/
theorem gives_resolveArticleMenu_north : ∃ result, (ofMenus northText).outages.menu = none ∧
    HasMenu (ofMenus northText).menusDocument? northArticle northEntry ∧
    Gives (resolveArticleMenu northArticle) (ofMenus northText) result (ofMenus northText) ∧
    Record.get? result "menu_id" = some (.int 3) ∧ Record.get? result "sub_menu_id" = some .null ∧
    Record.get? result "menu" = some (.text " News - Local - North\n") := by
  have hdocument : (ofMenus northText).menusDocument? = some (.list northEntries) :=
    menusDocument?_ofMenus ofList_append_append (by decide +kernel)
  have hmenu : HasMenu (ofMenus northText).menusDocument? northArticle northEntry := hdocument ▸ hasMenu_north
  have hworks : (ofMenus northText).outages.menu = none := rfl
  obtain ⟨result, hgives, hfound, -, -⟩ := gives_resolveArticleMenu hworks northArticle
  obtain ⟨hid, hsub, hkept⟩ := hfound northEntry hmenu
  exact ⟨result, hworks, hmenu, hgives, hid, hsub, hkept "menu" (by decide) (by decide)⟩

end Pipeline

end FrontPage
