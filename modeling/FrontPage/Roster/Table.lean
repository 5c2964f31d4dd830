import FrontPage.Roster.Column

/-!
# The table of the roster

A table holds the rows of articles by their identifiers, in ascending order. It is a finite map: `Table.find?` says
what `put` and `erase` do (`find?_put`, `find?_erase`), and tables that agree under it are the same (`ext_find?`).
-/

namespace FrontPage

/-- Rows by the identifiers of their articles, in ascending order. -/
structure Table where
  entries : List (Int × Row)
  ascending : entries.Pairwise fun a b => a.1 < b.1

namespace Table

/-- The table without rows. -/
def empty : Table := ⟨[], .nil⟩

/-- The entry of an identifier in a list of entries. -/
def lookup (id : Int) : List (Int × Row) → Option Row
  | [] => none
  | (k, row) :: rest => if k = id then some row else lookup id rest

/-- The row of an article. -/
def find? (table : Table) (id : Int) : Option Row := lookup id table.entries

/-- The article has a row. -/
def has (table : Table) (id : Int) : Bool := (table.find? id).isSome

/-- The entries with one put in its place, in the place of one with its identifier. -/
def putEntry (id : Int) (row : Row) : List (Int × Row) → List (Int × Row)
  | [] => [(id, row)]
  | (k, r) :: rest =>
    if id < k then (id, row) :: (k, r) :: rest
    else if k < id then (k, r) :: putEntry id row rest
    else (id, row) :: rest

/-- An identifier in the entries after one is put in was there before or is the new one. -/
theorem mem_putEntry {id : Int} {row : Row} {entries : List (Int × Row)} {e : Int × Row}
    (h : e ∈ putEntry id row entries) : e = (id, row) ∨ e ∈ entries := by
  induction entries with
  | nil => simp_all [putEntry]
  | cons f rest ih =>
    obtain ⟨k, r⟩ := f
    simp only [putEntry] at h
    split at h
    · simpa using h
    · split at h
      · rcases List.mem_cons.mp h with h | h
        · exact .inr (h ▸ List.mem_cons_self)
        · exact (ih h).imp_right (List.mem_cons_of_mem _)
      · rcases List.mem_cons.mp h with h | h
        · exact .inl h
        · exact .inr (List.mem_cons_of_mem _ h)

/-- Putting an entry in keeps the order. -/
theorem pairwise_putEntry {id : Int} {row : Row} {entries : List (Int × Row)}
    (h : entries.Pairwise fun a b => a.1 < b.1) : (putEntry id row entries).Pairwise fun a b => a.1 < b.1 := by
  induction entries with
  | nil => simp [putEntry]
  | cons f rest ih =>
    obtain ⟨k, r⟩ := f
    obtain ⟨hk, hr⟩ := List.pairwise_cons.mp h
    simp only [putEntry]
    split
    · rename_i hlt
      refine List.pairwise_cons.mpr ⟨fun e he => ?_, h⟩
      rcases List.mem_cons.mp he with rfl | he
      · exact hlt
      · exact Int.lt_trans hlt (hk e he)
    · split
      · rename_i hlt
        refine List.pairwise_cons.mpr ⟨fun e he => ?_, ih hr⟩
        rcases mem_putEntry he with rfl | he
        · exact hlt
        · exact hk e he
      · rename_i h₁ h₂
        obtain rfl : id = k := by omega
        exact List.pairwise_cons.mpr ⟨hk, hr⟩

/-- The table with a row put in, in the place of the article's row if it has one. -/
def put (table : Table) (id : Int) (row : Row) : Table :=
  ⟨putEntry id row table.entries, pairwise_putEntry table.ascending⟩

/-- The table without the row of an article. -/
def erase (table : Table) (id : Int) : Table :=
  ⟨table.entries.filter fun e => e.1 != id, table.ascending.filter _⟩

/-- Where all identifiers are larger, there is no entry. -/
theorem lookup_eq_none {id : Int} {entries : List (Int × Row)} (h : ∀ e ∈ entries, id < e.1) :
    lookup id entries = none := by
  induction entries with
  | nil => rfl
  | cons f rest ih =>
    obtain ⟨k, r⟩ := f
    have hk : id < k := h (k, r) List.mem_cons_self
    have hne : k ≠ id := by omega
    simp [lookup, hne, ih fun e he => h e (List.mem_cons_of_mem _ he)]

/-- The row that was put in is found, and other articles keep theirs. -/
theorem find?_put (table : Table) (id other : Int) (row : Row) :
    (table.put id row).find? other = if other = id then some row else table.find? other := by
  obtain ⟨entries, h⟩ := table
  simp only [find?, put]
  induction entries with
  | nil =>
    by_cases hi : id = other
    · simp [putEntry, lookup, hi]
    · simp [putEntry, lookup, hi, Ne.symm hi]
  | cons f rest ih =>
    obtain ⟨k, r⟩ := f
    obtain ⟨hk, hr⟩ := List.pairwise_cons.mp h
    simp only [putEntry]
    split
    · by_cases hi : id = other
      · simp [lookup, hi]
      · simp [lookup, hi, Ne.symm hi]
    · split
      · rename_i hlt
        by_cases hko : k = other
        · have : other ≠ id := by omega
          simp [lookup, hko, this]
        · simp [lookup, hko, ih hr]
      · rename_i h₁ h₂
        obtain rfl : id = k := by omega
        by_cases hi : id = other
        · simp [lookup, hi]
        · simp [lookup, hi, Ne.symm hi]

/-- An erased article has no row, and others keep theirs. -/
theorem find?_erase (table : Table) (id other : Int) :
    (table.erase id).find? other = if other = id then none else table.find? other := by
  obtain ⟨entries, h⟩ := table
  simp only [find?, erase]
  clear h
  induction entries with
  | nil => simp [lookup]
  | cons f rest ih =>
    obtain ⟨k, r⟩ := f
    by_cases hk : k = id
    · subst hk
      by_cases ho : other = k
      · simpa [ho] using ih
      · have hne : ¬k = other := fun h => ho h.symm
        simpa [lookup, ho, hne] using ih
    · by_cases hko : k = other
      · subst hko
        simp [lookup, hk]
      · simpa [lookup, hk, hko] using ih

/-- Tables with the same rows are the same. -/
theorem ext_find? {s t : Table} (h : ∀ id, s.find? id = t.find? id) : s = t := by
  obtain ⟨as, ha⟩ := s
  obtain ⟨bs, hb⟩ := t
  congr 1
  simp only [find?] at h
  induction as generalizing bs with
  | nil =>
    cases bs with
    | nil => rfl
    | cons b bs => simpa [lookup] using h b.1
  | cons a as ih =>
    obtain ⟨i, r⟩ := a
    cases bs with
    | nil => simpa [lookup] using h i
    | cons b bs =>
      obtain ⟨j, q⟩ := b
      obtain ⟨hi, has⟩ := List.pairwise_cons.mp ha
      obtain ⟨hj, hbs⟩ := List.pairwise_cons.mp hb
      have hij : i = j := by
        rcases Int.lt_trichotomy i j with hlt | heq | hgt
        · have h₁ := h i
          rw [@lookup_eq_none i ((j, q) :: bs) fun e he => ?_] at h₁
          · simp [lookup] at h₁
          · rcases List.mem_cons.mp he with rfl | he
            · exact hlt
            · exact Int.lt_trans hlt (hj e he)
        · exact heq
        · have h₁ := h j
          rw [@lookup_eq_none j ((i, r) :: as) fun e he => ?_] at h₁
          · simp [lookup] at h₁
          · rcases List.mem_cons.mp he with rfl | he
            · exact hgt
            · exact Int.lt_trans hgt (hi e he)
      subst hij
      have hrq : r = q := by simpa [lookup] using h i
      subst hrq
      congr 1
      refine ih has bs hbs fun id => ?_
      by_cases hid : i = id
      · subst hid
        rw [lookup_eq_none hi, lookup_eq_none hj]
      · simpa [lookup, hid] using h id

end Table

end FrontPage
