import FrontPage.Value

/-!
# Fields of records

The names of a record's fields are different in all records that come in from outside. Setting a field keeps them so
and leaves the names that are there in their order (`Record.nodup_set`, `Record.prefix_set`). `Record.combine` sets one
field after the other, each to a value made of the one that is there and of another one; merging two records is the
case in which the other value is taken (`Record.get?_merge`).
-/

namespace FrontPage.Record

variable {fields others : Record} {name : String} {value : Value}

/-! ## Names -/

/-- A field is found only if the record has its name. -/
theorem get?_eq_none_iff : Record.get? fields name = none ↔ name ∉ fields.map Prod.fst := by
  rw [Record.get?, List.lookup_eq_none_iff, List.mem_map]
  constructor
  · rintro h ⟨field, hm, rfl⟩
    exact absurd rfl (bne_iff_ne.mp (h field hm))
  · intro h field hm
    exact bne_iff_ne.mpr fun he => h ⟨field, hm, he.symm⟩

/-- A field that is found is one of the record. -/
theorem mem_of_get? (h : Record.get? fields name = some value) : (name, value) ∈ fields := by
  obtain ⟨before, behind, rfl, -⟩ := List.lookup_eq_some_iff.mp h
  exact List.mem_append_right _ List.mem_cons_self

/-- What a record has something in is one of its fields. -/
theorem get?_of_get (h : Record.get fields name = value) (hne : value ≠ .null) :
    Record.get? fields name = some value := by
  cases hfield : Record.get? fields name with
  | none =>
    rw [Record.get, hfield, Option.getD_none] at h
    exact absurd h.symm hne
  | some found => rw [← h, Record.get, hfield, Option.getD_some]

/-- In a record of different names every field is found. -/
theorem get?_of_mem (hnodup : (fields.map Prod.fst).Nodup) (h : (name, value) ∈ fields) :
    Record.get? fields name = some value := by
  induction fields with
  | nil => exact absurd h List.not_mem_nil
  | cons field rest ih =>
    obtain ⟨hfield, hrest⟩ := List.nodup_cons.mp hnodup
    rw [Record.get?, List.lookup_cons]
    rcases List.mem_cons.mp h with rfl | h
    · simp
    · have hne : (name == field.1) = false := beq_eq_false_iff_ne.mpr fun he =>
        hfield (he ▸ List.mem_map_of_mem h)
      rw [hne]
      exact ih hrest h

theorem map_fst_set (fields : Record) (name : String) (value : Value) :
    (Record.set fields name value).map Prod.fst =
      if name ∈ fields.map Prod.fst then fields.map Prod.fst else fields.map Prod.fst ++ [name] := by
  induction fields with
  | nil => rfl
  | cons field rest ih =>
    obtain ⟨n, v⟩ := field
    rw [Record.set]
    by_cases hn : n = name
    · simp [hn]
    · rw [if_neg hn, List.map_cons, List.map_cons, ih]
      simp only [List.mem_cons, Ne.symm hn, false_or]
      split <;> simp

/-- Setting a field leaves the names that are there in their order. -/
theorem prefix_set (fields : Record) (name : String) (value : Value) :
    fields.map Prod.fst <+: (Record.set fields name value).map Prod.fst := by
  rw [map_fst_set]
  split
  · exact List.prefix_rfl
  · exact List.prefix_append _ _

/-- Setting a field keeps the names different. -/
theorem nodup_set (h : (fields.map Prod.fst).Nodup) (name : String) (value : Value) :
    ((Record.set fields name value).map Prod.fst).Nodup := by
  rw [map_fst_set]
  split
  · exact h
  · next hname =>
    refine List.nodup_append.mpr ⟨h, List.pairwise_singleton _ name, ?_⟩
    intro other hother _ hlast
    rw [List.mem_singleton.mp hlast]
    rintro rfl
    exact hname hother

/-! ## Combining records -/

/-- The record with the fields of another set in it, each to what is made of the value that is there, if there is one,
and of the other's. -/
def combine (make : Option Value → Value → Value) (fields others : Record) : Record :=
  others.foldl (fun r f => Record.set r f.1 (make (Record.get? r f.1) f.2)) fields

section

variable {make : Option Value → Value → Value}

theorem combine_cons (field : String × Value) :
    combine make fields (field :: others) =
      combine make (Record.set fields field.1 (make (Record.get? fields field.1) field.2)) others := rfl

/-- What a combined record has under a name is made of what the two records have there. -/
theorem get?_combine (fields : Record) (h : (others.map Prod.fst).Nodup) (name : String) :
    Record.get? (combine make fields others) name =
      ((Record.get? others name).map (make (Record.get? fields name))).or (Record.get? fields name) := by
  induction others generalizing fields with
  | nil => rfl
  | cons field others ih =>
    obtain ⟨hfield, hothers⟩ := List.nodup_cons.mp h
    rw [combine_cons, ih _ hothers]
    by_cases hname : name = field.1
    · have hnone : Record.get? others name = none := get?_eq_none_iff.mpr (hname ▸ hfield)
      have hsome : Record.get? (field :: others) name = some field.2 := by
        rw [Record.get?, List.lookup_cons, hname]
        simp
      rw [hnone, hsome, hname, Record.get?_set_self]
      rfl
    · have hne : (name == field.1) = false := beq_eq_false_iff_ne.mpr hname
      have hbehind : Record.get? (field :: others) name = Record.get? others name := by
        rw [Record.get?, Record.get?, List.lookup_cons, hne]
      rw [hbehind, Record.get?_set_of_ne _ _ hname]

theorem prefix_combine (fields others : Record) :
    fields.map Prod.fst <+: (combine make fields others).map Prod.fst := by
  induction others generalizing fields with
  | nil => exact List.prefix_rfl
  | cons field others ih => exact (prefix_set fields _ _).trans (ih _)

theorem nodup_combine (h : (fields.map Prod.fst).Nodup) (others : Record) :
    ((combine make fields others).map Prod.fst).Nodup := by
  induction others generalizing fields with
  | nil => exact h
  | cons field others ih => exact ih (nodup_set h _ _)

/-- A field that the other record does not set stays where it is. -/
theorem combine_cons_of_notMem (field : String × Value) (fields : Record) (h : field.1 ∉ others.map Prod.fst) :
    combine make (field :: fields) others = field :: combine make fields others := by
  induction others generalizing fields with
  | nil => rfl
  | cons other others ih =>
    obtain ⟨hother, hothers⟩ := not_or.mp (mt List.mem_cons.mpr h)
    have hne : (other.1 == field.1) = false := beq_eq_false_iff_ne.mpr (Ne.symm hother)
    have hget : Record.get? (field :: fields) other.1 = Record.get? fields other.1 := by
      rw [Record.get?, Record.get?, List.lookup_cons, hne]
    have hset (made : Value) : Record.set (field :: fields) other.1 made = field :: Record.set fields other.1 made := by
      obtain ⟨n, v⟩ := field
      rw [Record.set, if_neg hother]
    rw [combine_cons, combine_cons, hget, hset, ih _ hothers]

/-- Combining a record with one that begins with the same names gives the other one, if the values made are those that
it has. -/
theorem combine_eq_right (hnames : fields.map Prod.fst <+: others.map Prod.fst) (hnodup : (others.map Prod.fst).Nodup)
    (hmake : ∀ field ∈ others, make (Record.get? fields field.1) field.2 = field.2) :
    combine make fields others = others := by
  induction others generalizing fields with
  | nil =>
    rw [List.map_nil, List.prefix_nil, List.map_eq_nil_iff] at hnames
    subst hnames
    rfl
  | cons other others ih =>
    obtain ⟨hother, hothers⟩ := List.nodup_cons.mp hnodup
    have hfirst := hmake other List.mem_cons_self
    rw [combine_cons, hfirst]
    cases fields with
    | nil =>
      have hrest := @ih [] List.nil_prefix hothers fun field hm => hmake field (List.mem_cons_of_mem _ hm)
      rw [Record.set, combine_cons_of_notMem _ _ hother, hrest]
    | cons field fields =>
      obtain ⟨n, v⟩ := field
      rw [List.map_cons, List.map_cons, List.cons_prefix_cons] at hnames
      obtain ⟨hname, hnames⟩ := hnames
      have hname : n = other.1 := hname
      rw [Record.set, if_pos hname, hname, combine_cons_of_notMem _ _ hother, ih hnames hothers]
      intro behind hm
      have hne : (behind.1 == n) = false := beq_eq_false_iff_ne.mpr fun he =>
        hother (hname ▸ he ▸ List.mem_map_of_mem hm)
      have hbehind := hmake behind (List.mem_cons_of_mem _ hm)
      rwa [Record.get?, List.lookup_cons, hne] at hbehind

end

/-! ## Merging -/

theorem merge_eq_combine (fields others : Record) :
    Record.merge fields others = combine (fun _ value => value) fields others := rfl

/-- Merging records, the fields of the second count where it has them. -/
theorem get?_merge (fields : Record) {others : Record} (h : (others.map Prod.fst).Nodup) (name : String) :
    Record.get? (Record.merge fields others) name = (Record.get? others name).or (Record.get? fields name) := by
  rw [merge_eq_combine, get?_combine fields h]
  cases Record.get? others name <;> rfl

/-- A record that was merged into one of different names is merged into it again without effect. -/
theorem merge_merge (h : (fields.map Prod.fst).Nodup) (others : Record) :
    Record.merge fields (Record.merge fields others) = Record.merge fields others := by
  rw [merge_eq_combine, merge_eq_combine]
  exact combine_eq_right (prefix_combine fields others) (nodup_combine h others) fun _ _ => rfl

/-- Merging a record into itself changes nothing. -/
theorem merge_self (h : (fields.map Prod.fst).Nodup) : Record.merge fields fields = fields := by
  rw [merge_eq_combine]
  exact combine_eq_right List.prefix_rfl h fun _ _ => rfl

end FrontPage.Record
