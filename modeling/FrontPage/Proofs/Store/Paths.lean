import FrontPage.Proofs.Text.Words
import FrontPage.Store.Path
import Mathlib.Data.List.Induction

/-!
# Where keys lead

The names of a normal form are names that a directory can have, behind any number of `..` if the text is relative
(`Path.IsNormal`), and the normal form of a normal form is the same (`Path.names_normal`). So a key has a path exactly
if the names of its normal form go on from those of the root, for roots of which the normal form is told by its names
(`Path.resolve?_eq_some_iff`). Below a root that is sound for keys (`Path.IsSound`), a path is made of names
(`Path.isPlain_of_resolve?`), and a key that never climbs leads to where it leads below every other such root
(`Path.resolve?_of_not_climbs`).
-/

namespace FrontPage

/-- Behind a separator other pieces begin. -/
theorem Text.pieces_append_cons (separator : Char) (front back : List Char) :
    pieces separator (front ++ separator :: back) = pieces separator front ++ pieces separator back := by
  induction front with
  | nil => simp [pieces]
  | cons c rest ih =>
    rw [List.cons_append, pieces, pieces, ih]
    by_cases hc : c = separator
    · rw [if_pos hc, if_pos hc, List.cons_append]
    · rw [if_neg hc, if_neg hc]
      cases hrest : pieces separator rest with
      | nil => exact absurd hrest (pieces_ne_nil separator rest)
      | cons piece others => rfl

namespace Path

variable {root key part text : String} {start path : Path} {row : List String} {absolute : Bool}

/-! ## Parts -/

/-- A part of a key names something if it is neither empty nor `.` or `..`. -/
def IsName (part : String) : Prop := part ≠ "" ∧ part ≠ "." ∧ part ≠ ".."

instance : DecidablePred IsName := fun part => inferInstanceAs (Decidable (part ≠ "" ∧ part ≠ "." ∧ part ≠ ".."))

/-- A path whose components are names without slashes. -/
def IsPlain (path : Path) : Prop := ∀ name ∈ path, IsName name ∧ '/' ∉ name.toList

/-- The parts are those that a normal form is written with: none is empty or a dot, and none has a slash. -/
def IsWritten (names : Path) : Prop := ∀ name ∈ names, name ≠ "" ∧ name ≠ "." ∧ '/' ∉ name.toList

theorem IsPlain.isWritten (h : IsPlain path) : IsWritten path := fun name hm =>
  ⟨(h name hm).1.1, (h name hm).1.2.1, (h name hm).2⟩

/-- A part of a key stays, goes up or names something. -/
theorem part_cases (part : String) : (part = "" ∨ part = ".") ∨ part = ".." ∨ IsName part := by
  unfold IsName
  tauto

/-- No part of a key has a slash. -/
theorem notMem_of_mem_parts (h : part ∈ parts key) : '/' ∉ part.toList := by
  obtain ⟨piece, hm, rfl⟩ := List.mem_map.mp h
  rw [String.toList_ofList]
  exact Text.notMem_of_mem_pieces hm

/-- The parts of two texts with a slash between them. -/
theorem parts_append_slash (text other : String) : parts (text ++ "/" ++ other) = parts text ++ parts other := by
  have hchars : (text ++ "/" ++ other).toList = text.toList ++ '/' :: other.toList := by simp
  rw [parts, hchars, Text.pieces_append_cons, List.map_append]
  rfl

theorem parts_slash_append (text : String) : parts ("/" ++ text) = "" :: parts text :=
  parts_append_slash "" text

/-- The parts of a text that begins with a slash begin with an empty one. -/
theorem head?_parts_of_isAbsolute (h : isAbsolute text = true) : (parts text).head? = some "" := by
  obtain ⟨rest, hrest⟩ := List.head?_eq_some_iff.mp (beq_iff_eq.mp h)
  rw [parts, hrest, Text.pieces, if_pos rfl]
  rfl

/-- Names with slashes between them are the parts of what that makes. -/
theorem parts_intercalate (h : IsWritten path) (hne : path ≠ []) : parts ("/".intercalate path) = path := by
  have hslash : ∀ piece ∈ path.map String.toList, '/' ∉ piece := by
    intro piece hm
    obtain ⟨component, hcomponent, rfl⟩ := List.mem_map.mp hm
    exact (h component hcomponent).2.2
  have hjoined : ("/".intercalate path).toList = ['/'].intercalate (path.map String.toList) :=
    String.toList_intercalate
  rw [parts, hjoined, Text.pieces_eq_splitOn, List.splitOn_intercalate '/' hslash (by simpa using hne), List.map_map]
  exact List.map_id'' (fun _ => String.ofList_toList) _

/-- Names with slashes between them are told by what that makes. -/
theorem intercalate_inj {other : Path} (h : IsWritten path) (hother : IsWritten other)
    (heq : "/".intercalate path = "/".intercalate other) : path = other := by
  have hempty (names : Path) (hnames : IsWritten names) (hne : names ≠ []) : "/".intercalate names ≠ "" := by
    intro hnothing
    have hparts := parts_intercalate hnames hne
    rw [hnothing] at hparts
    exact (hnames "" (hparts ▸ List.mem_singleton_self "")).1 rfl
  rcases eq_or_ne path [] with rfl | hne
  · by_contra hne
    exact hempty other hother (Ne.symm hne) heq.symm
  rcases eq_or_ne other [] with rfl | hne'
  · exact absurd heq (hempty path h hne)
  · rw [← parts_intercalate h hne, heq, parts_intercalate hother hne']

/-- What begins with a name does not begin with a slash. -/
theorem isAbsolute_intercalate (h : IsWritten path) : isAbsolute ("/".intercalate path) = false := by
  rcases eq_or_ne path [] with rfl | hne
  · rfl
  · by_contra habsolute
    have hhead := head?_parts_of_isAbsolute (by simpa using habsolute)
    rw [parts_intercalate h hne] at hhead
    exact (h "" (List.mem_of_mem_head? hhead)).1 rfl

/-! ## Steps -/

theorem step_of_stays (h : part = "" ∨ part = ".") (absolute : Bool) (names : Path) :
    step absolute names part = names := by
  rcases h with rfl | rfl <;> rfl

theorem step_of_isName (h : IsName part) (absolute : Bool) (names : Path) :
    step absolute names part = names ++ [part] := by
  obtain ⟨hempty, hdot, hup⟩ := h
  simp [step, hempty, hdot, hup]

/-- Behind a name, one goes up to where the name began. -/
theorem step_up {names : Path} (h : names.getLast? ≠ some "..") (hne : absolute = true ∨ names ≠ []) :
    step absolute names ".." = names.dropLast := by
  rcases hne with rfl | hne
  · simp [step, h]
  · simp [step, h, hne]

/-- Where there is nothing to go up from, a relative path goes on upwards. -/
theorem step_further_up (count : Nat) :
    step false (List.replicate count "..") ".." = List.replicate (count + 1) ".." := by
  cases count with
  | zero => rfl
  | succ count => simp [step, List.getLast?_replicate, List.replicate_succ']

/-- Names are gone down one after the other. -/
theorem walk_of_isName (absolute : Bool) (start : Path) (h : ∀ part ∈ row, IsName part) :
    walk absolute start row = start ++ row := by
  induction row generalizing start with
  | nil => exact (List.append_nil start).symm
  | cons part rest ih =>
    obtain ⟨hpart, hrest⟩ := List.forall_mem_cons.mp h
    show walk absolute (step absolute start part) rest = _
    rw [step_of_isName hpart, ih _ hrest, List.append_assoc, List.singleton_append]

theorem walk_append_parts (absolute : Bool) (start : Path) (front back : List String) :
    walk absolute start (front ++ back) = walk absolute (walk absolute start front) back :=
  List.foldl_append

/-! ## Normal forms -/

/-- The names are those of a normal form: plain ones, and in front of them `..` any number of times if the path is
relative. -/
def IsNormal (absolute : Bool) (names : Path) : Prop :=
  ∃ count plain, names = List.replicate count ".." ++ plain ∧ IsPlain plain ∧ (absolute = true → count = 0)

theorem IsNormal.isWritten {names : Path} (h : IsNormal absolute names) : IsWritten names := by
  obtain ⟨count, plain, rfl, hplain, -⟩ := h
  intro name hm
  rcases List.mem_append.mp hm with hup | hm
  · rw [List.eq_of_mem_replicate hup]
    decide
  · exact hplain.isWritten name hm

/-- One more part of a text keeps names normal. -/
theorem IsNormal.step {names : Path} (h : IsNormal absolute names) (hpart : '/' ∉ part.toList) :
    IsNormal absolute (step absolute names part) := by
  obtain ⟨count, plain, rfl, hplain, habsolute⟩ := h
  rcases part_cases part with hstays | rfl | hname
  · rw [step_of_stays hstays]
    exact ⟨count, plain, rfl, hplain, habsolute⟩
  · rcases List.eq_nil_or_concat plain with rfl | ⟨front, last, rfl⟩
    · rw [List.append_nil]
      cases absolute with
      | true =>
        obtain rfl := habsolute rfl
        exact ⟨0, [], rfl, nofun, fun _ => rfl⟩
      | false =>
        rw [step_further_up]
        exact ⟨count + 1, [], (List.append_nil _).symm, nofun, nofun⟩
    · rw [List.concat_eq_append] at hplain ⊢
      have hlast := (hplain last (List.mem_append_right _ (List.mem_singleton_self last))).1.2.2
      rw [← List.append_assoc, step_up (by simpa using hlast) (.inr (by simp)), List.dropLast_concat]
      exact ⟨count, front, rfl, fun name hm => hplain name (List.mem_append_left _ hm), habsolute⟩
  · rw [step_of_isName hname, List.append_assoc]
    refine ⟨count, plain ++ [part], rfl, ?_, habsolute⟩
    intro name hm
    rcases List.mem_append.mp hm with hm | hm
    · exact hplain name hm
    · rw [List.mem_singleton.mp hm]
      exact ⟨hname, hpart⟩

theorem isNormal_walk (h : IsNormal absolute start) (hrow : ∀ part ∈ row, '/' ∉ part.toList) :
    IsNormal absolute (walk absolute start row) := by
  induction row generalizing start with
  | nil => exact h
  | cons part rest ih =>
    obtain ⟨hpart, hrest⟩ := List.forall_mem_cons.mp hrow
    exact ih (h.step hpart) hrest

theorem isNormal_names (text : String) : IsNormal (isAbsolute text) (names text) :=
  isNormal_walk ⟨0, [], rfl, nofun, fun _ => rfl⟩ fun _ => notMem_of_mem_parts

/-- Normal names are left as they are. -/
theorem walk_of_isNormal {names : Path} (h : IsNormal absolute names) : walk absolute [] names = names := by
  obtain ⟨count, plain, rfl, hplain, habsolute⟩ := h
  have hups : walk absolute [] (List.replicate count "..") = List.replicate count ".." := by
    cases absolute with
    | true =>
      obtain rfl := habsolute rfl
      rfl
    | false =>
      clear habsolute
      induction count with
      | zero => rfl
      | succ count ih =>
        rw [List.replicate_succ', walk_append_parts, ih, ← List.replicate_succ']
        exact step_further_up count
  rw [walk_append_parts, hups, walk_of_isName absolute _ fun name hm => (hplain name hm).1]

/-- A normal form begins with no slash if the text is relative, and else with one or two. -/
theorem lead_cases (text : String) :
    (isAbsolute text = false ∧ lead text = "") ∨
      (isAbsolute text = true ∧ (lead text = "/" ∨ lead text = "//")) := by
  unfold isAbsolute lead
  split
  · next h => simp [h]
  · next h => simp [h]
  · next h => simp [h]
  · next h =>
    left
    refine ⟨?_, rfl⟩
    rw [beq_eq_false_iff_ne]
    intro hhead
    obtain ⟨rest, hrest⟩ := List.head?_eq_some_iff.mp hhead
    exact h rest hrest

/-- A text in normal form writes names: they are its parts, behind parts that lead nowhere. -/
def Writes (text : String) (names : Path) : Prop :=
  ∃ front, parts text = front ++ names ∧ ∀ part ∈ front, part = "" ∨ part = "."

theorem Writes.slash_append {names : Path} (h : Writes text names) : Writes ("/" ++ text) names := by
  obtain ⟨front, hparts, hfront⟩ := h
  refine ⟨"" :: front, ?_, List.forall_mem_cons.mpr ⟨.inl rfl, hfront⟩⟩
  rw [parts_slash_append, hparts, List.cons_append]

theorem Writes.walk_eq {names : Path} (h : Writes text names) (hnormal : IsNormal absolute names) :
    walk absolute [] (parts text) = names := by
  obtain ⟨front, hparts, hfront⟩ := h
  have hstays : walk absolute [] front = [] := by
    clear hparts
    induction front with
    | nil => rfl
    | cons part rest ih =>
      obtain ⟨hpart, hrest⟩ := List.forall_mem_cons.mp hfront
      show walk absolute (step absolute [] part) rest = []
      rw [step_of_stays hpart, ih hrest]
  rw [hparts, walk_append_parts, hstays, walk_of_isNormal hnormal]

theorem Writes.filter_eq {names : Path} (h : Writes text names) (hwritten : IsWritten names) :
    (parts text).filter (fun part => part != "" && part != ".") = names := by
  obtain ⟨front, hparts, hfront⟩ := h
  have hnone : front.filter (fun part => part != "" && part != ".") = [] := by
    rw [List.filter_eq_nil_iff]
    intro part hm
    rcases hfront part hm with rfl | rfl
    · decide
    · decide
  have hall : names.filter (fun part => part != "" && part != ".") = names := by
    rw [List.filter_eq_self]
    intro name hm
    obtain ⟨hempty, hdot, -⟩ := hwritten name hm
    simp [hempty, hdot]
  rw [hparts, List.filter_append, hnone, hall, List.nil_append]

theorem writes_intercalate {names : Path} (h : IsWritten names) : Writes ("/".intercalate names) names := by
  rcases eq_or_ne names [] with rfl | hne
  · exact ⟨[""], rfl, by simp⟩
  · exact ⟨[], parts_intercalate h hne, nofun⟩

theorem write_of_lead {lead : String} (h : lead ≠ "") (names : Path) :
    write lead names = lead ++ "/".intercalate names := by
  rw [write, if_neg (by simp [h])]

theorem write_of_names {names : Path} (h : names ≠ []) (lead : String) :
    write lead names = lead ++ "/".intercalate names := by
  rw [write, if_neg (by simp [h])]

theorem writes_normal (text : String) : Writes (normal text) (names text) := by
  have hnames := writes_intercalate (isNormal_names text).isWritten
  rw [normal]
  rcases lead_cases text with ⟨-, hlead⟩ | ⟨-, hlead | hlead⟩
  · rw [hlead]
    rcases eq_or_ne (names text) [] with hnone | hsome
    · rw [hnone]
      exact ⟨["."], by decide +kernel, by simp⟩
    · rwa [write_of_names hsome, String.empty_append]
  · rw [hlead, write_of_lead (by decide)]
    exact hnames.slash_append
  · rw [hlead, write_of_lead (by decide), show "//" = "/" ++ "/" from rfl, String.append_assoc]
    exact hnames.slash_append.slash_append

theorem isAbsolute_slash_append (text : String) : isAbsolute ("/" ++ text) = true := by
  simp [isAbsolute]

/-- A normal form is absolute if the text is. -/
theorem isAbsolute_normal (text : String) : isAbsolute (normal text) = isAbsolute text := by
  rw [normal]
  rcases lead_cases text with ⟨habsolute, hlead⟩ | ⟨habsolute, hlead | hlead⟩
  · rw [hlead, habsolute]
    rcases eq_or_ne (names text) [] with hnone | hsome
    · rw [hnone]
      rfl
    · rw [write_of_names hsome, String.empty_append]
      exact isAbsolute_intercalate (isNormal_names text).isWritten
  · rw [hlead, habsolute, write_of_lead (by decide)]
    exact isAbsolute_slash_append _
  · rw [hlead, habsolute, write_of_lead (by decide), show "//" = "/" ++ "/" from rfl, String.append_assoc]
    exact isAbsolute_slash_append _

/-- **The names of a normal form are those of the text.** -/
theorem names_normal (text : String) : names (normal text) = names text := by
  rw [names, isAbsolute_normal]
  exact (writes_normal text).walk_eq (isNormal_names text)

/-! ## What paths have in common -/

theorem commonNames_subset (path other : Path) : commonNames path other ⊆ path := by
  induction path generalizing other with
  | nil => cases other <;> exact List.nil_subset _
  | cons name rest ih =>
    cases other with
    | nil => exact List.nil_subset _
    | cons first others =>
      rw [commonNames]
      split
      · exact List.cons_subset_cons name (ih others)
      · exact List.nil_subset _

/-- A path has another one in common with it if it goes on from it. -/
theorem commonNames_eq_iff {path other : Path} : commonNames path other = other ↔ other <+: path := by
  induction path generalizing other with
  | nil => cases other <;> simp [commonNames]
  | cons name rest ih =>
    cases other with
    | nil => simp [commonNames]
    | cons first others =>
      rw [commonNames, List.cons_prefix_cons]
      by_cases h : name = first
      · rw [if_pos h, List.cons.injEq, ih]
        exact and_congr_left fun _ => eq_comm
      · rw [if_neg h]
        simp [Ne.symm h]

/-- What normal forms have in common is written as a normal form is, unless that begins with two slashes or is a dot. -/
theorem common?_normal (text other : String) :
    common? (normal text) (normal other) =
      if isAbsolute text = isAbsolute other then
        some ((if isAbsolute text then "/" else "") ++ "/".intercalate (commonNames (names text) (names other)))
      else none := by
  unfold common?
  dsimp only
  rw [isAbsolute_normal, isAbsolute_normal, (writes_normal text).filter_eq (isNormal_names text).isWritten,
    (writes_normal other).filter_eq (isNormal_names other).isWritten]

/-- When names, written behind a slash or none, are a normal form. -/
theorem intercalate_eq_normal_iff {common : Path} (h : IsWritten common) (text : String) :
    (if isAbsolute text then "/" else "") ++ "/".intercalate common = normal text ↔
      lead text ≠ "//" ∧ (isAbsolute text = true ∨ names text ≠ []) ∧ common = names text := by
  have hnames := (isNormal_names text).isWritten
  rw [normal]
  rcases lead_cases text with ⟨habsolute, hlead⟩ | ⟨habsolute, hlead | hlead⟩
  · rw [hlead, habsolute, if_neg Bool.false_ne_true, String.empty_append]
    rcases eq_or_ne (names text) [] with hnone | hsome
    · rw [hnone]
      refine iff_of_false (fun hdot => ?_) (by simp)
      rcases eq_or_ne common [] with rfl | hne
      · exact absurd hdot (by decide)
      · have hparts := parts_intercalate h hne
        rw [hdot, show parts (write "" []) = ["."] by decide +kernel] at hparts
        exact (h "." (hparts ▸ List.mem_singleton_self ".")).2.1 rfl
    · rw [write_of_names hsome, String.empty_append]
      refine ⟨fun heq => ⟨by decide, .inr hsome, intercalate_inj h hnames heq⟩, ?_⟩
      rintro ⟨-, -, rfl⟩
      rfl
  · rw [hlead, habsolute, if_pos rfl, write_of_lead (by decide), String.append_right_inj]
    refine ⟨fun heq => ⟨by decide, .inl rfl, intercalate_inj h hnames heq⟩, ?_⟩
    rintro ⟨-, -, rfl⟩
    rfl
  · rw [hlead, habsolute, if_pos rfl, write_of_lead (by decide), show "//" = "/" ++ "/" from rfl, String.append_assoc,
      String.append_right_inj]
    refine iff_of_false (fun heq => ?_) (by simp)
    have hrelative := isAbsolute_intercalate h
    rw [heq, isAbsolute_slash_append] at hrelative
    cases hrelative

/-! ## Keys -/

/-- **When a key has a path**, and what its text is. -/
theorem locate_eq_ok_iff {located : String} : locate root key = .ok located ↔
    (lead root ≠ "//" ∧ (isAbsolute root = true ∨ names root ≠ [])) ∧ isAbsolute (join root key) = isAbsolute root ∧
      names root <+: names (join root key) ∧ located = normal (join root key) := by
  unfold locate
  dsimp only
  rw [common?_normal]
  by_cases hkind : isAbsolute (join root key) = isAbsolute root
  · have hwritten : IsWritten (commonNames (names (join root key)) (names root)) := fun name hm =>
      (isNormal_names (join root key)).isWritten name (commonNames_subset _ _ hm)
    have hcommon := intercalate_eq_normal_iff hwritten root
    rw [commonNames_eq_iff] at hcommon
    rw [if_pos hkind, hkind]
    generalize (if isAbsolute root then "/" else "") ++ _ = common at hcommon ⊢
    dsimp only
    by_cases hroot : common = normal root
    · obtain ⟨hlead, hnames, hprefix⟩ := hcommon.mp hroot
      rw [if_pos hroot, Except.ok.injEq, eq_comm]
      exact ⟨fun heq => ⟨⟨hlead, hnames⟩, rfl, hprefix, heq⟩, fun h => h.2.2.2⟩
    · rw [if_neg hroot]
      refine iff_of_false nofun ?_
      rintro ⟨⟨hlead, hnames⟩, -, hprefix, -⟩
      exact hroot (hcommon.mpr ⟨hlead, hnames, hprefix⟩)
  · rw [if_neg hkind]
    refine iff_of_false nofun ?_
    rintro ⟨-, hsame, -⟩
    exact hkind hsame

/-- **Where a key leads**, if it has a path. -/
theorem resolve?_eq_some_iff : resolve? root key = some path ↔
    (lead root ≠ "//" ∧ (isAbsolute root = true ∨ names root ≠ [])) ∧ isAbsolute (join root key) = isAbsolute root ∧
      names (join root key) = names root ++ path := by
  rw [resolve?, resolve]
  cases hlocate : locate root key with
  | error refusal =>
    refine iff_of_false nofun ?_
    rintro ⟨hroot, hkind, hnames⟩
    have hlocated := locate_eq_ok_iff.mpr ⟨hroot, hkind, ⟨path, hnames.symm⟩, rfl⟩
    rw [hlocate] at hlocated
    cases hlocated
  | ok located =>
    obtain ⟨hroot, hkind, ⟨rest, hrest⟩, rfl⟩ := locate_eq_ok_iff.mp hlocate
    show some ((names (normal (join root key))).drop (names root).length) = some path ↔ _
    rw [names_normal, ← hrest, List.drop_left, Option.some.injEq, List.append_cancel_left_eq]
    exact ⟨fun h => ⟨hroot, hkind, h⟩, fun h => h.2.2⟩

/-- A key that has a path has it as a text: the names of the root and of the path below it. -/
theorem locate_of_resolve? (h : resolve? root key = some path) :
    locate root key = .ok (write (lead (join root key)) (names root ++ path)) := by
  obtain ⟨hroot, hkind, hnames⟩ := resolve?_eq_some_iff.mp h
  refine locate_eq_ok_iff.mpr ⟨hroot, hkind, ⟨path, hnames.symm⟩, ?_⟩
  rw [normal, hnames]

/-- A root that keys stay below: its normal form does not begin with two slashes, and tells a name, unless it is
absolute. -/
def IsSound (root : String) : Prop :=
  lead root ≠ "//" ∧ (isAbsolute root = true ∨ ∃ name ∈ names root, name ≠ "..")

instance : DecidablePred IsSound := fun root =>
  inferInstanceAs (Decidable (lead root ≠ "//" ∧ (isAbsolute root = true ∨ ∃ name ∈ names root, name ≠ "..")))

theorem IsSound.reaches (h : IsSound root) : lead root ≠ "//" ∧ (isAbsolute root = true ∨ names root ≠ []) := by
  refine ⟨h.1, h.2.imp_right ?_⟩
  rintro ⟨name, hm, -⟩
  exact List.ne_nil_of_mem hm

/-- **Below a sound root, the path of a key is made of names without slashes.** -/
theorem isPlain_of_resolve? (hroot : IsSound root) (h : resolve? root key = some path) : IsPlain path := by
  obtain ⟨-, hkind, hnames⟩ := resolve?_eq_some_iff.mp h
  obtain ⟨count, plain, hnormal, hplain, habsolute⟩ := isNormal_names (join root key)
  rw [hnormal] at hnames
  rcases List.append_eq_append_iff.mp hnames with ⟨rest, -, hpath⟩ | ⟨rest, hups, rfl⟩
  · exact fun name hm => hplain name (hpath ▸ List.mem_append_right _ hm)
  · rcases hroot.2 with hslash | ⟨name, hm, hname⟩
    · obtain rfl := habsolute (hkind.trans hslash)
      obtain ⟨-, rfl⟩ := List.nil_eq_append_iff.mp hups
      exact hplain
    · exact absurd (List.eq_of_mem_replicate (hups ▸ List.mem_append_left rest hm)) hname

/-! ## Keys joined to a root -/

/-- A relative key stands behind the root and a slash. -/
theorem join_cases (hkey : isAbsolute key = false) (root : String) :
    (root = "" ∧ join root key = key) ∨
      (root ≠ "" ∧ root.toList.getLast? ≠ some '/' ∧ join root key = root ++ ("/" ++ key)) ∨
      ∃ front, root = front ++ "/" ∧ join root key = root ++ key := by
  rw [join, if_neg (by simp [hkey])]
  rcases List.eq_nil_or_concat root.toList with hnone | ⟨front, last, hroot⟩
  · obtain rfl : root = "" := by simpa using hnone
    exact .inl ⟨rfl, by simp⟩
  · have hlast : root.toList.getLast? = some last := by rw [hroot, List.concat_eq_append, List.getLast?_concat]
    rw [hlast]
    by_cases hslash : last = '/'
    · subst hslash
      refine .inr (.inr ⟨String.ofList front, ?_, if_pos rfl⟩)
      rw [← String.toList_inj, hroot]
      simp
    · refine .inr (.inl ⟨?_, by simpa using hslash, ?_⟩)
      · rintro rfl
        simp at hlast
      · rw [if_neg (by simpa using hslash), String.append_assoc]

theorem isAbsolute_append (h : text ≠ "") (other : String) : isAbsolute (text ++ other) = isAbsolute text := by
  have hne : text.toList ≠ [] := by simpa using h
  rw [isAbsolute, String.toList_append, List.head?_append_of_ne_nil _ hne]
  rfl

/-- What stands behind a text does not change the slashes that it begins with, unless they go on. -/
theorem lead_append (h : text ≠ "") {other : String}
    (hslash : text.toList.getLast? ≠ some '/' ∨ isAbsolute other = false) : lead (text ++ other) = lead text := by
  have hne : text.toList ≠ [] := by simpa using h
  unfold isAbsolute at hslash
  unfold lead
  rw [String.toList_append]
  generalize text.toList = front at hne hslash ⊢
  generalize other.toList = back at hslash ⊢
  -- Only the first three characters count, so that what stands behind matters for shorter texts of nothing but slashes.
  have hback (hfront : front.getLast? = some '/') : back = [] ∨ ∃ c rest, c ≠ '/' ∧ back = c :: rest := by
    cases back with
    | nil => exact .inl rfl
    | cons c rest => exact .inr ⟨c, rest, by simpa [hfront] using hslash, rfl⟩
  rcases front with _ | ⟨first, _ | ⟨second, _ | ⟨third, rest⟩⟩⟩
  · exact absurd rfl hne
  · rcases eq_or_ne first '/' with rfl | hfirst
    · rcases hback rfl with rfl | ⟨c, rest, hc, rfl⟩
      · rfl
      · simp [hc]
    · simp [hfirst]
  · rcases eq_or_ne first '/' with rfl | hfirst
    · rcases eq_or_ne second '/' with rfl | hsecond
      · rcases hback rfl with rfl | ⟨c, rest, hc, rfl⟩
        · rfl
        · simp [hc]
      · simp [hsecond]
    · simp [hfirst]
  · by_cases hfirst : first = '/' <;> by_cases hsecond : second = '/' <;> by_cases hthird : third = '/' <;>
      simp [hfirst, hsecond, hthird]

theorem isAbsolute_join (hkey : isAbsolute key = false) (root : String) :
    isAbsolute (join root key) = isAbsolute root := by
  rcases join_cases hkey root with ⟨rfl, hjoin⟩ | ⟨hne, -, hjoin⟩ | ⟨front, rfl, hjoin⟩
  · rw [hjoin, hkey]
    rfl
  · rw [hjoin, isAbsolute_append hne]
  · rw [hjoin, isAbsolute_append (by simp)]

theorem lead_join (hkey : isAbsolute key = false) (root : String) : lead (join root key) = lead root := by
  rcases join_cases hkey root with ⟨rfl, hjoin⟩ | ⟨hne, hlast, hjoin⟩ | ⟨front, rfl, hjoin⟩
  · rw [hjoin]
    rcases lead_cases key with ⟨-, hlead⟩ | ⟨habsolute, -⟩
    · exact hlead
    · rw [hkey] at habsolute
      cases habsolute
  · rw [hjoin, lead_append hne (.inl hlast)]
  · rw [hjoin, lead_append (by simp) (.inr hkey)]

/-- A relative key is gone along from the root. -/
theorem names_join (hkey : isAbsolute key = false) (root : String) :
    names (join root key) = walk (isAbsolute root) (names root) (parts key) := by
  rw [names, isAbsolute_join hkey]
  rcases join_cases hkey root with ⟨rfl, hjoin⟩ | ⟨-, -, hjoin⟩ | ⟨front, rfl, hjoin⟩
  · rw [hjoin]
    rfl
  · rw [hjoin, ← String.append_assoc, parts_append_slash, walk_append_parts]
    rfl
  · have hroot : names (front ++ "/") = walk (isAbsolute (front ++ "/")) [] (parts front) := by
      rw [names, ← String.append_empty (s := front ++ "/"), parts_append_slash, walk_append_parts, String.append_empty]
      rfl
    rw [hjoin, parts_append_slash, walk_append_parts, hroot]

/-! ## Keys that stay below -/

/-- Some beginning of the parts of a key has more parts that go up than names. -/
def Climbs (parts : List String) : Prop :=
  ∃ front, front <+: parts ∧ (front.filter (IsName ·)).length < front.count ".."

/-- What never goes up does not climb. -/
theorem not_climbs_of_count (h : row.count ".." = 0) : ¬Climbs row := by
  rintro ⟨front, hfront, hclimbs⟩
  have hcount := hfront.sublist.count_le ".."
  omega

/-- The key that spells a path below the root; that of the root itself is a dot. -/
def spell (path : Path) : String := write "" path

/-- A walk that begins below a root, and never goes up further than it has gone down, leads to the same place below
every root. -/
theorem walk_append (absolute : Bool) (root : Path) {path : Path} (hplain : ∀ name ∈ path, name ≠ "..")
    (h : ∀ front, front <+: row → front.count ".." ≤ (front.filter (IsName ·)).length + path.length) :
    walk absolute (root ++ path) row = root ++ walk false path row := by
  induction row generalizing path with
  | nil => rfl
  | cons part rest ih =>
    have hfront (front : List String) (hf : front <+: rest) := h (part :: front) (List.cons_prefix_cons.mpr ⟨rfl, hf⟩)
    show walk absolute (step absolute (root ++ path) part) rest = root ++ walk false (step false path part) rest
    rcases part_cases part with hstays | rfl | hname
    · rw [step_of_stays hstays, step_of_stays hstays]
      refine ih hplain fun front hf => ?_
      have hcount := hfront front hf
      rcases hstays with rfl | rfl
      · simpa [IsName] using hcount
      · simpa [IsName] using hcount
    · have hne : path ≠ [] := by
        rintro rfl
        have hup := h [".."] (List.cons_prefix_cons.mpr ⟨rfl, List.nil_prefix⟩)
        simp [IsName] at hup
      have hlast : path.getLast? ≠ some ".." := fun hup => hplain ".." (List.mem_of_getLast? hup) rfl
      have hpos := List.length_pos_iff.mpr hne
      rw [step_up hlast (.inr hne), step_up (by rwa [List.getLast?_append_of_ne_nil _ hne]) (.inr (by simp [hne])),
        List.dropLast_append_of_ne_nil hne]
      refine ih (fun name hm => hplain name (List.dropLast_subset path hm)) fun front hf => ?_
      have hcount := hfront front hf
      rw [List.count_cons_self, List.filter_cons_of_neg (by simp [IsName])] at hcount
      rw [List.length_dropLast]
      omega
    · rw [step_of_isName hname, step_of_isName hname, List.append_assoc]
      refine ih (fun name hm => ?_) fun front hf => ?_
      · rcases List.mem_append.mp hm with hm | hm
        · exact hplain name hm
        · rw [List.mem_singleton.mp hm]
          exact hname.2.2
      · have hcount := hfront front hf
        rw [List.count_cons_of_ne hname.2.2, List.filter_cons_of_pos (by simpa using hname), List.length_cons] at hcount
        rw [List.length_append, List.length_singleton]
        omega

/-- A relative key that never climbs leads to one path below every sound root. -/
theorem resolve?_of_not_climbs (hroot : IsSound root) (hkey : isAbsolute key = false) (h : ¬Climbs (parts key)) :
    resolve? root key = some (names key) := by
  refine resolve?_eq_some_iff.mpr ⟨hroot.reaches, isAbsolute_join hkey root, ?_⟩
  have hwalk : walk (isAbsolute root) (names root ++ []) (parts key) = names root ++ walk false [] (parts key) :=
    walk_append _ _ nofun fun front hf => Nat.le_of_not_lt fun hlt => h ⟨front, hf, hlt⟩
  have hkeyNames : names key = walk false [] (parts key) := by rw [names, hkey]
  rw [names_join hkey, hkeyNames, ← hwalk, List.append_nil]

theorem isAbsolute_spell (h : IsPlain path) : isAbsolute (spell path) = false := by
  rcases eq_or_ne path [] with rfl | hne
  · rfl
  · rw [spell, write_of_names hne, String.empty_append]
    exact isAbsolute_intercalate h.isWritten

/-- **A path is what the key that spells it leads to.** -/
theorem resolve?_spell (hroot : IsSound root) (h : IsPlain path) : resolve? root (spell path) = some path := by
  refine resolve?_eq_some_iff.mpr ⟨hroot.reaches, isAbsolute_join (isAbsolute_spell h) root, ?_⟩
  rw [names_join (isAbsolute_spell h)]
  rcases eq_or_ne path [] with rfl | hne
  · rw [List.append_nil, show parts (spell []) = ["."] by decide +kernel]
    rfl
  · rw [spell, write_of_names hne, String.empty_append, parts_intercalate h.isWritten hne]
    exact walk_of_isName _ _ fun name hm => (h name hm).1

/-- A key that does not begin with exactly two slashes has the path that the key has that spells it. -/
theorem locate_spell (hroot : IsSound root) (h : resolve? root key = some path) (hkey : lead key ≠ "//") :
    locate root (spell path) = locate root key := by
  have hplain := isPlain_of_resolve? hroot h
  have hrelative := isAbsolute_spell hplain
  have hlead : lead (join root key) = lead root := by
    cases habsolute : isAbsolute key with
    | false => exact lead_join habsolute root
    | true =>
      have hjoin : join root key = key := by rw [join, if_pos habsolute]
      obtain ⟨-, hkind, -⟩ := resolve?_eq_some_iff.mp h
      rw [hjoin] at hkind ⊢
      have hslash (text : String) (htext : isAbsolute text = true) (htwo : lead text ≠ "//") : lead text = "/" := by
        rcases lead_cases text with ⟨hnone, -⟩ | ⟨-, hone | hboth⟩
        · rw [htext] at hnone
          cases hnone
        · exact hone
        · exact absurd hboth htwo
      rw [hslash key habsolute hkey, hslash root (hkind ▸ habsolute) hroot.1]
  rw [locate_of_resolve? h, locate_of_resolve? (resolve?_spell hroot hplain), lead_join hrelative, hlead]

/-- Below any other root, some relative key either has no path though it does not climb, or has one that leads up. -/
theorem exists_of_not_isSound (hroot : ¬IsSound root) :
    resolve? root "x" = none ∨ resolve? root "../x" = some ["..", "x"] := by
  by_cases hreaches : lead root ≠ "//" ∧ (isAbsolute root = true ∨ names root ≠ [])
  · right
    obtain ⟨hlead, hnames⟩ := hreaches
    have hups : ¬(isAbsolute root = true ∨ ∃ name ∈ names root, name ≠ "..") := fun h => hroot ⟨hlead, h⟩
    push Not at hups
    obtain ⟨hrelative, hall⟩ := hups
    refine resolve?_eq_some_iff.mpr ⟨⟨hlead, hnames⟩, isAbsolute_join rfl root, ?_⟩
    have hrow : names root = List.replicate (names root).length ".." := List.eq_replicate_length.mpr hall
    have hparts : parts "../x" = ["..", "x"] := by decide +kernel
    rw [names_join rfl, hparts, Bool.eq_false_iff.mpr hrelative, hrow]
    show step false (step false _ "..") "x" = _
    rw [step_further_up, step_of_isName (by decide), List.replicate_succ', List.append_assoc]
    rfl
  · left
    rw [Option.eq_none_iff_forall_ne_some]
    intro path hpath
    exact hreaches (resolve?_eq_some_iff.mp hpath).1

end Path

end FrontPage
