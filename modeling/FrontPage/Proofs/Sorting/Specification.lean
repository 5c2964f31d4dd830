import FrontPage.Proofs.Sorting.Records
import FrontPage.Proofs.Text.Capitals
import FrontPage.Proofs.Text.Words
import FrontPage.Proofs.Value.Exactness

/-!
# Reading and writing sort specifications

A specification is read entry by entry. An entry with words in it says a key (`SortKey.Says`), unless its first word is
no name of a field (`SortKey.Refuses`), and blank entries say nothing. A text is refused for the first entry that is
(`SortSpec.read_eq_error_iff`), and any other text is read to the keys that its entries say
(`SortSpec.read_eq_ok_iff`). Keys of valid fields are written in many ways, with blanks and blank entries among them
(`SortSpec.Writes`), and all of these are read back to the keys (`SortSpec.Writes.read_eq`).
-/

namespace FrontPage

open FrontPage.Tree (Blanks)

/-! ## Entries -/

namespace SortKey

variable {entry word : List Char} {key : SortKey}

/-- What an entry says: its first word is the field, and the direction is ascending if there is a second word that is
ASC in upper case. -/
def Says (entry : List Char) (key : SortKey) : Prop :=
  ∃ word others, Text.HasWords entry (word :: others) ∧ (∀ c ∈ word, isFieldChar c = true) ∧
    key.field = String.ofList word ∧
    (key.direction = .ascending ↔ ∃ second ∈ others.head?, Text.upper (String.ofList second) = "ASC")

/-- An entry is refused for its first word if that has a character that names of fields do not have. -/
def Refuses (entry word : List Char) : Prop :=
  ∃ others, Text.HasWords entry (word :: others) ∧ ∃ c ∈ word, isFieldChar c = false

/-- A word says ascending if it is ASC in upper case. -/
theorem saysAscending_iff : saysAscending word = true ↔ Text.upper (String.ofList word) = "ASC" := by
  have hletters : ∀ units ∈ Text.expansions.map Prod.snd, ∀ tail ∈ ['A', 'S', 'C'].tails,
      ¬units.map Char.ofNat <+: tail := by
    decide +kernel
  have hupper : Text.upper (String.ofList word) = "ASC" ↔ word.flatMap Text.upperChar = ['A', 'S', 'C'] := by
    rw [Text.upper, String.toList_ofList]
    exact ⟨fun h => String.ofList_injective h, fun h => congrArg String.ofList h⟩
  have ha (c : Char) : Text.upperChar c = ['A'] ↔ (c == 'a' || c == 'A') = true := by
    rw [Text.upperChar_eq_iff (by decide)]
    simp [show 'A'.toLower = 'a' from rfl, or_comm]
  have hs (c : Char) : Text.upperChar c = ['S'] ↔ (c == 's' || c == 'S' || c == 'ſ') = true := by
    rw [Text.upperChar_eq_iff (by decide)]
    simp [show 'S'.toLower = 's' from rfl, or_assoc, or_left_comm]
  have hc (c : Char) : Text.upperChar c = ['C'] ↔ (c == 'c' || c == 'C') = true := by
    rw [Text.upperChar_eq_iff (by decide)]
    simp [show 'C'.toLower = 'c' from rfl, or_comm]
  rw [hupper, Text.flatMap_upperChar_eq_iff hletters]
  constructor
  · intro h
    rw [saysAscending.eq_def] at h
    split at h
    · rw [Bool.and_eq_true, Bool.and_eq_true, ← ha, ← hs, ← hc] at h
      exact .cons h.1.1 (.cons h.1.2 (.cons h.2 .nil))
    · cases h
  · rintro (_ | ⟨hfirst, _ | ⟨hsecond, _ | ⟨hthird, ⟨⟩⟩⟩⟩)
    rw [saysAscending, Bool.and_eq_true, Bool.and_eq_true, ← ha, ← hs, ← hc]
    exact ⟨⟨hfirst, hsecond⟩, hthird⟩

/-- A blank entry has no key. -/
theorem read_blanks (h : Blanks entry) : read entry = .ok none := by
  rw [read, (Text.HasWords.blanks h).words_eq]

/-- The second word decides on the direction. -/
theorem ascending_head_iff (others : List (List Char)) :
    (others.head?.map saysAscending).getD false = true ↔
      ∃ second ∈ others.head?, Text.upper (String.ofList second) = "ASC" := by
  cases others with
  | nil => simp
  | cons second others => simp [saysAscending_iff]

/-- An entry has the key that it says. -/
theorem Says.read_eq (h : Says entry key) : read entry = .ok (some key) := by
  obtain ⟨word, others, hwords, hword, hfield, hdirection⟩ := h
  obtain ⟨field, direction⟩ := key
  rw [← ascending_head_iff] at hdirection
  subst hfield
  rw [read, hwords.words_eq]
  simp only [List.all_eq_true.mpr hword, if_true]
  cases direction with
  | ascending => rw [if_pos (hdirection.mp rfl)]
  | descending => rw [if_neg fun hascending => nomatch hdirection.mpr hascending]

/-- An entry whose first word is refused is invalid, and the error names that word. -/
theorem Refuses.read_eq (h : Refuses entry word) : read entry = .error ⟨String.ofList word⟩ := by
  obtain ⟨others, hwords, c, hc, hnot⟩ := h
  have hall : ¬word.all isFieldChar = true := fun hall =>
    Bool.false_ne_true (hnot.symm.trans (List.all_eq_true.mp hall c hc))
  rw [read, hwords.words_eq]
  exact if_neg hall

/-- An entry is blank, says a key or is refused. -/
theorem cases_entry (entry : List Char) :
    Blanks entry ∨ (∃ key, Says entry key) ∨ ∃ word, Refuses entry word := by
  obtain ⟨ws, hws⟩ := Text.exists_hasWords entry
  cases ws with
  | nil =>
    cases hws with
    | blanks hblanks => exact .inl hblanks
  | cons word others =>
    by_cases hword : ∀ c ∈ word, isFieldChar c = true
    · let direction : Direction :=
        if (others.head?.map saysAscending).getD false then .ascending else .descending
      have hdirection : direction = .ascending ↔ (others.head?.map saysAscending).getD false = true := by
        cases hhead : (others.head?.map saysAscending).getD false <;> simp [direction, hhead]
      exact .inr (.inl ⟨⟨String.ofList word, direction⟩, word, others, hws, hword, rfl,
        hdirection.trans (ascending_head_iff others)⟩)
    · push Not at hword
      obtain ⟨c, hc, hnot⟩ := hword
      exact .inr (.inr ⟨word, others, hws, c, hc, Bool.eq_false_iff.mpr hnot⟩)

/-- An entry that says a key is not blank, and says no other. -/
theorem Says.not_blanks (h : Says entry key) : ¬Blanks entry := fun hblanks =>
  nomatch h.read_eq.symm.trans (read_blanks hblanks)

theorem Says.unique {other : SortKey} (h : Says entry key) (hother : Says entry other) : key = other :=
  Option.some.inj (Except.ok.inj (h.read_eq.symm.trans hother.read_eq))

/-- An entry that is refused says nothing, and yet it is not blank. -/
theorem Refuses.not_said (h : Refuses entry word) : ¬Says entry key := fun hsaid =>
  nomatch h.read_eq.symm.trans hsaid.read_eq

theorem Refuses.not_blanks (h : Refuses entry word) : ¬Blanks entry := fun hblanks =>
  nomatch h.read_eq.symm.trans (read_blanks hblanks)

end SortKey

/-! ## Reading -/

/-- What follows for the first of two elements in a relation holds of every first one. -/
theorem forall_of_forall₂ {α β : Type} {R : α → β → Prop} {P : α → Prop} {as : List α} {bs : List β}
    (h : List.Forall₂ R as bs) (hP : ∀ a b, R a b → P a) : ∀ a ∈ as, P a :=
  ((List.forall₂_and_left as bs).mp (h.imp fun a b hab => ⟨hP a b hab, hab⟩)).1

/-- The specification that some entries make up. -/
def SortSpec.readEntries (entries : List (List Char)) : Except InvalidSortField SortSpec :=
  (entries.mapM SortKey.read).map fun keys => keys.filterMap id

/-- A text is read piece by piece. -/
theorem SortSpec.read_eq (text : String) : read text = readEntries (text.toList.splitOn ',') := by
  rw [read, readEntries, Text.pieces_eq_splitOn]

namespace SortSpec

variable {entry word : List Char} {entries : List (List Char)} {key : SortKey} {spec : SortSpec}

/-- Blank entries say nothing. -/
theorem readEntries_cons_of_blanks (h : Blanks entry) (entries : List (List Char)) :
    readEntries (entry :: entries) = readEntries entries := by
  rw [readEntries, readEntries, List.mapM_cons, SortKey.read_blanks h]
  cases entries.mapM SortKey.read <;> rfl

/-- The key of an entry comes before those of the entries behind it. -/
theorem readEntries_cons_of_said (h : SortKey.Says entry key) (entries : List (List Char)) :
    readEntries (entry :: entries) = (readEntries entries).map (key :: ·) := by
  rw [readEntries, readEntries, List.mapM_cons, h.read_eq]
  cases entries.mapM SortKey.read <;> rfl

/-- An entry that is refused spoils those behind it. -/
theorem readEntries_cons_of_refuses (h : SortKey.Refuses entry word) (entries : List (List Char)) :
    readEntries (entry :: entries) = .error ⟨String.ofList word⟩ := by
  rw [readEntries, List.mapM_cons, h.read_eq]
  rfl

/-- Entries are read to the keys that those of them say that are not blank. -/
theorem readEntries_eq_ok_iff : readEntries entries = .ok spec ↔
    List.Forall₂ SortKey.Says (entries.filter fun entry => ¬Blanks entry) spec := by
  induction entries generalizing spec with
  | nil =>
    rw [List.filter_nil, List.forall₂_nil_left_iff]
    exact ⟨fun h => (Except.ok.inj h).symm, fun h => congrArg Except.ok h.symm⟩
  | cons entry entries ih =>
    rcases SortKey.cases_entry entry with hblanks | ⟨key, hsaid⟩ | ⟨word, hrefuses⟩
    · rw [readEntries_cons_of_blanks hblanks, ih, List.filter_cons_of_neg (by simpa using hblanks)]
    · rw [readEntries_cons_of_said hsaid, List.filter_cons_of_pos (by simpa using hsaid.not_blanks)]
      constructor
      · intro h
        cases hread : readEntries entries with
        | error flaw =>
          rw [hread] at h
          cases h
        | ok rest =>
          rw [hread] at h
          cases h
          exact .cons hsaid (ih.mp hread)
      · rintro (_ | ⟨hkey, hrest⟩)
        rw [ih.mpr hrest, hsaid.unique hkey]
        rfl
    · rw [readEntries_cons_of_refuses hrefuses, List.filter_cons_of_pos (by simpa using hrefuses.not_blanks)]
      constructor
      · exact nofun
      · rintro (_ | ⟨hkey, -⟩)
        exact absurd hkey hrefuses.not_said

/-- An entry that is not refused leaves the flaw to those behind it. -/
theorem readEntries_cons_of_not_refuses (h : ∀ word, ¬SortKey.Refuses entry word) {flaw : InvalidSortField} :
    readEntries (entry :: entries) = .error flaw ↔ readEntries entries = .error flaw := by
  rcases SortKey.cases_entry entry with hblanks | ⟨key, hsaid⟩ | ⟨word, hrefuses⟩
  · rw [readEntries_cons_of_blanks hblanks]
  · rw [readEntries_cons_of_said hsaid]
    cases readEntries entries with
    | error other => rfl
    | ok rest => exact ⟨nofun, nofun⟩
  · exact absurd hrefuses (h word)

/-- The entries are refused for the first word of the first entry that is. -/
theorem readEntries_eq_error_iff {flaw : InvalidSortField} : readEntries entries = .error flaw ↔
    ∃ before entry behind word, entries = before ++ entry :: behind ∧
      (∀ earlier ∈ before, ∀ word, ¬SortKey.Refuses earlier word) ∧ SortKey.Refuses entry word ∧
      flaw = ⟨String.ofList word⟩ := by
  induction entries with
  | nil =>
    constructor
    · exact nofun
    · rintro ⟨before, entry, behind, word, hsplit, -⟩
      exact absurd hsplit.symm (List.append_ne_nil_of_right_ne_nil _ (List.cons_ne_nil _ _))
  | cons first entries ih =>
    by_cases hfirst : ∃ word, SortKey.Refuses first word
    · obtain ⟨word, hrefuses⟩ := hfirst
      rw [readEntries_cons_of_refuses hrefuses]
      constructor
      · rintro ⟨⟩
        exact ⟨[], first, entries, word, rfl, nofun, hrefuses, rfl⟩
      · rintro ⟨before, entry, behind, other, hsplit, hbefore, hother, rfl⟩
        cases before with
        | nil =>
          cases hsplit
          exact congrArg Except.error (Except.error.inj (hrefuses.read_eq.symm.trans hother.read_eq))
        | cons earlier before =>
          cases hsplit
          exact absurd hrefuses (hbefore first List.mem_cons_self word)
    · have hnone : ∀ word, ¬SortKey.Refuses first word := not_exists.mp hfirst
      rw [readEntries_cons_of_not_refuses hnone, ih]
      constructor
      · rintro ⟨before, entry, behind, word, rfl, hbefore, hrest⟩
        exact ⟨first :: before, entry, behind, word, rfl, List.forall_mem_cons.mpr ⟨hnone, hbefore⟩, hrest⟩
      · rintro ⟨before, entry, behind, word, hsplit, hbefore, hrefuses, hflaw⟩
        cases before with
        | nil =>
          cases hsplit
          exact absurd hrefuses (hnone word)
        | cons earlier before =>
          cases hsplit
          exact ⟨before, entry, behind, word, rfl, (List.forall_mem_cons.mp hbefore).2, hrefuses, hflaw⟩

/-- A text is read to the keys that those of its entries say that are not blank. -/
theorem read_eq_ok_iff {text : String} : SortSpec.read text = .ok spec ↔
    List.Forall₂ SortKey.Says ((text.toList.splitOn ',').filter fun entry => ¬Blanks entry) spec := by
  rw [SortSpec.read_eq, readEntries_eq_ok_iff]

/-- A text is refused for the first word of the first entry that is. -/
theorem read_eq_error_iff {text : String} {flaw : InvalidSortField} : SortSpec.read text = .error flaw ↔
    ∃ before entry behind word, text.toList.splitOn ',' = before ++ entry :: behind ∧
      (∀ earlier ∈ before, ∀ word, ¬SortKey.Refuses earlier word) ∧ SortKey.Refuses entry word ∧
      flaw = ⟨String.ofList word⟩ := by
  rw [SortSpec.read_eq, readEntries_eq_error_iff]

/-- The error names the whole word. -/
example : SortSpec.read "heading ASC, issue-date; DESC" = .error ⟨"issue-date;"⟩ := by decide +kernel

/-- A text is refused if one of its entries is. -/
theorem exists_read_error_iff {text : String} : (∃ flaw, SortSpec.read text = .error flaw) ↔
    ∃ entry ∈ text.toList.splitOn ',', ∃ word, SortKey.Refuses entry word := by
  constructor
  · rintro ⟨flaw, hread⟩
    obtain ⟨before, entry, behind, word, hsplit, -, hrefuses, -⟩ := read_eq_error_iff.mp hread
    rw [hsplit]
    exact ⟨entry, List.mem_append_right _ List.mem_cons_self, word, hrefuses⟩
  · rintro ⟨entry, hentry, word, hrefuses⟩
    cases hread : SortSpec.read text with
    | error flaw => exact ⟨flaw, rfl⟩
    | ok spec =>
      -- Each entry that is not blank says a key, and so this one would.
      have hmem : entry ∈ (text.toList.splitOn ',').filter fun entry => ¬Blanks entry :=
        List.mem_filter.mpr ⟨hentry, by simpa using hrefuses.not_blanks⟩
      have hnone := forall_of_forall₂ (read_eq_ok_iff.mp hread)
        fun entry key (hsaid : SortKey.Says entry key) (h : SortKey.Refuses entry word) => h.not_said hsaid
      exact (hnone entry hmem hrefuses).elim

end SortSpec

/-! ## Writing -/

/-- The field of a key is a name that it can have. -/
def SortKey.IsValid (key : SortKey) : Prop :=
  key.field.toList ≠ [] ∧ ∀ c ∈ key.field.toList, SortKey.isFieldChar c = true

/-- The texts that write a key: its field and its direction, with blanks between and maybe around them. -/
inductive SortKey.Writes (key : SortKey) : List Char → Prop
  | entry {lead gap trail : List Char} : Blanks lead → Blanks gap → gap ≠ [] → Blanks trail →
      Writes key (lead ++ (key.field.toList ++ (gap ++ (key.direction.name.toList ++ trail))))

/-- The entries that write a specification: one for each key in turn, and blank ones anywhere. -/
inductive SortSpec.WritesEntries : SortSpec → List (List Char) → Prop
  | nil : WritesEntries [] []
  | blank {spec : SortSpec} {entry : List Char} {entries : List (List Char)} : Blanks entry →
      WritesEntries spec entries → WritesEntries spec (entry :: entries)
  | key {key : SortKey} {spec : SortSpec} {entry : List Char} {entries : List (List Char)} : key.Writes entry →
      WritesEntries spec entries → WritesEntries (key :: spec) (entry :: entries)

/-- A text writes a specification: it is made of entries that do, joined by commas. -/
def SortSpec.Writes (spec : SortSpec) (text : String) : Prop :=
  ∃ entries, spec.WritesEntries entries ∧ text.toList = [','].intercalate entries

/-- The shortest text of a specification without blank entries. -/
def SortSpec.print (spec : SortSpec) : String :=
  String.ofList ([','].intercalate (spec.map fun key => key.field.toList ++ ([' '] ++ key.direction.name.toList)))

section

variable {key : SortKey} {spec : SortSpec} {entry : List Char} {entries : List (List Char)} {text : String}

/-- Characters of fields are no blanks. -/
theorem SortKey.isBlank_of_isFieldChar {c : Char} (h : isFieldChar c = true) : Text.isBlank c = false :=
  Text.isBlank_of_isWordChar (Text.isWordChar_of_ascii h)

/-- Blanks are no commas. -/
theorem Tree.Blanks.comma_notMem {text : List Char} (h : Blanks text) : ',' ∉ text := fun hm =>
  absurd (h _ hm) (by decide)

/-- A key that an entry says has a valid field. -/
theorem SortKey.Says.isValid (h : SortKey.Says entry key) : key.IsValid := by
  obtain ⟨word, others, hwords, hword, hfield, -⟩ := h
  rw [IsValid, hfield, String.toList_ofList]
  refine ⟨?_, hword⟩
  cases hwords with
  | word _ hne => exact hne

/-- The names of directions are words. -/
theorem Direction.isWord_name (direction : Direction) : direction.name.toList ≠ [] ∧ ',' ∉ direction.name.toList ∧
    ∀ c ∈ direction.name.toList, Text.isBlank c = false := by
  cases direction <;> exact ⟨by decide, by decide, List.forall_iff_forall_mem.mp (by decide)⟩

/-- Only the name of ascending is ASC in upper case. -/
theorem Direction.eq_ascending_iff (direction : Direction) :
    direction = .ascending ↔ Text.upper direction.name = "ASC" := by
  cases direction <;> decide +kernel

/-- An entry that writes a key says it. -/
theorem SortKey.Writes.said (h : key.Writes entry) (hkey : key.IsValid) : SortKey.Says entry key := by
  obtain @⟨lead, gap, trail, hlead, hgap, hne, htrail⟩ := h
  obtain ⟨hname, -, hnotBlank⟩ := key.direction.isWord_name
  have hfield : ∀ c ∈ key.field.toList, Text.isBlank c = false := fun c hc => isBlank_of_isFieldChar (hkey.2 c hc)
  have hbehind : ∀ c ∈ (gap ++ (key.direction.name.toList ++ trail)).head?, Text.isBlank c = true := by
    obtain ⟨d, gap, rfl⟩ := List.exists_cons_of_ne_nil hne
    rintro c ⟨⟩
    exact hgap d List.mem_cons_self
  have hend : ∀ c ∈ trail.head?, Text.isBlank c = true := fun c hc => htrail c (List.mem_of_mem_head? hc)
  have hdirection : key.direction = .ascending ↔
      ∃ second ∈ [key.direction.name.toList].head?, Text.upper (String.ofList second) = "ASC" := by
    rw [Direction.eq_ascending_iff]
    simp
  exact ⟨key.field.toList, [key.direction.name.toList],
    .word hlead hkey.1 hfield hbehind (.word hgap hname hnotBlank hend (.blanks htrail)), hkey.2,
    String.ofList_toList.symm, hdirection⟩

/-- An entry that writes a key has no comma. -/
theorem SortKey.Writes.comma_notMem (h : key.Writes entry) (hkey : key.IsValid) : ',' ∉ entry := by
  obtain ⟨hlead, hgap, -, htrail⟩ := h
  have hfield : ',' ∉ key.field.toList := fun hm => absurd (hkey.2 _ hm) (by decide)
  simp only [List.mem_append, not_or]
  exact ⟨hlead.comma_notMem, hfield, hgap.comma_notMem, key.direction.isWord_name.2.1, htrail.comma_notMem⟩

theorem SortSpec.WritesEntries.comma_notMem (h : spec.WritesEntries entries) (hspec : ∀ key ∈ spec, key.IsValid) :
    ∀ entry ∈ entries, ',' ∉ entry := by
  induction h with
  | nil => exact List.forall_mem_nil _
  | blank hblanks _ ih => exact List.forall_mem_cons.mpr ⟨hblanks.comma_notMem, ih hspec⟩
  | key hkey _ ih =>
    obtain ⟨hvalid, hrest⟩ := List.forall_mem_cons.mp hspec
    exact List.forall_mem_cons.mpr ⟨hkey.comma_notMem hvalid, ih hrest⟩

/-- Entries that write a specification are read back to it. -/
theorem SortSpec.WritesEntries.readEntries_eq (h : spec.WritesEntries entries) (hspec : ∀ key ∈ spec, key.IsValid) :
    readEntries entries = .ok spec := by
  induction h with
  | nil => rfl
  | blank hblanks _ ih => rw [readEntries_cons_of_blanks hblanks, ih hspec]
  | key hkey _ ih =>
    obtain ⟨hvalid, hrest⟩ := List.forall_mem_cons.mp hspec
    rw [readEntries_cons_of_said (hkey.said hvalid), ih hrest]
    rfl

/-- A text that writes a specification of valid fields is read back to it. -/
theorem SortSpec.Writes.read_eq (h : spec.Writes text) (hspec : ∀ key ∈ spec, key.IsValid) :
    SortSpec.read text = .ok spec := by
  obtain ⟨entries, hentries, htext⟩ := h
  have hread := hentries.readEntries_eq hspec
  cases entries with
  | nil =>
    rw [SortSpec.read_eq, htext]
    exact hread
  | cons entry entries =>
    have hsplit := List.splitOn_intercalate ',' (hentries.comma_notMem hspec) (List.cons_ne_nil _ _)
    rw [SortSpec.read_eq, htext, hsplit, hread]

/-- The printed text of a specification writes it. -/
theorem SortSpec.writes_print (spec : SortSpec) : spec.Writes spec.print := by
  refine ⟨_, ?_, String.toList_ofList⟩
  induction spec with
  | nil => exact .nil
  | cons key spec ih =>
    have hkey := @SortKey.Writes.entry key [] [' '] [] (by decide) (by decide) (by decide) (by decide)
    rw [List.nil_append, List.append_nil] at hkey
    exact .key hkey ih

/-- What a text is read to has valid fields. -/
theorem SortSpec.isValid_of_read (h : SortSpec.read text = .ok spec) : ∀ key ∈ spec, key.IsValid :=
  forall_of_forall₂ (read_eq_ok_iff.mp h).flip fun _ _ hsaid => SortKey.Says.isValid hsaid

end

/-- **A specification is read by its grammar, and reading undoes writing.** A text is refused if some entry is, and read
to the keys that those of its entries say that are not blank. Every text that writes a specification of valid fields
is read back to it. What a text is read to can be written, and whichever way it is, it is read back the same. -/
theorem SortSpec.reads_grammar :
    (∀ text : String, (∃ flaw, SortSpec.read text = .error flaw) ↔
        ∃ entry ∈ text.toList.splitOn ',', ∃ word, SortKey.Refuses entry word) ∧
      (∀ (text : String) (spec : SortSpec), SortSpec.read text = .ok spec ↔
        List.Forall₂ SortKey.Says ((text.toList.splitOn ',').filter fun entry => ¬Blanks entry) spec) ∧
      (∀ (spec : SortSpec) (text : String), (∀ key ∈ spec, key.IsValid) → spec.Writes text →
        SortSpec.read text = .ok spec) ∧
      ∀ (text : String) (spec : SortSpec), SortSpec.read text = .ok spec →
        spec.Writes spec.print ∧ ∀ printed, spec.Writes printed → SortSpec.read printed = .ok spec :=
  ⟨fun _ => exists_read_error_iff, fun _ _ => read_eq_ok_iff, fun _ _ hspec hwrites => hwrites.read_eq hspec,
    fun _ spec hread => ⟨writes_print spec, fun _ hwrites => hwrites.read_eq (isValid_of_read hread)⟩⟩

/-- Two headings with blanks of several kinds, a blank entry, a word too many and no direction. -/
theorem SortSpec.reads_grammar_headings :
    let spec : SortSpec := [⟨"issue_date", .ascending⟩, ⟨"heading", .descending⟩]
    SortSpec.read " issue_date\u00a0a\u017fc first,\u2003,heading" = .ok spec ∧
      spec.print = "issue_date ASC,heading DESC" ∧ SortSpec.read "issue_date ASC,heading DESC" = .ok spec := by
  intro spec
  have hread : SortSpec.read " issue_date\u00a0a\u017fc first,\u2003,heading" = .ok spec := by decide +kernel
  have hprint : spec.print = "issue_date ASC,heading DESC" := by decide +kernel
  obtain ⟨hwrites, hback⟩ := SortSpec.reads_grammar.2.2.2 _ spec hread
  rw [hprint] at hwrites
  exact ⟨hread, hprint, hback _ hwrites⟩

end FrontPage
