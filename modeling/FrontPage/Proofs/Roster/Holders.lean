import FrontPage.Roster.Statement
import Mathlib.Data.Finset.Card

/-!
# Holders of a flag

The holders of a flag in a table are the articles whose rows hold it (`Table.mem_holders`). Putting a row in makes its
article a holder or takes it out (`Table.holders_put`), erasing one takes it out (`Table.holders_erase`). What the roster
counts for an article, by a sum over all rows (`Roster.sum?_heldByOther`) or by the rows of which a condition holds
(`Roster.length_heldByOther`), are the holders besides it (`Roster.holders_exactly`).
-/

namespace FrontPage

/-- A set with a member put in has one member more than without it. -/
theorem card_insert_eq (s : Finset Int) (a : Int) : (insert a s).card = (s.erase a).card + 1 := by
  rw [← Finset.card_erase_add_one (Finset.mem_insert_self a s), Finset.erase_insert_eq_erase]

namespace Table

/-- The articles whose rows hold a flag. -/
def holders (table : Table) (flag : Flag) : Finset Int :=
  ((table.entries.filter fun e => e.2.holds flag).map Prod.fst).toFinset

variable {table : Table} {id : Int} {row : Row} {flag : Flag}

/-- The row that is found for an article is the one that is entered for it. -/
theorem find?_eq_some_iff : table.find? id = some row ↔ (id, row) ∈ table.entries := by
  obtain ⟨entries, h⟩ := table
  rw [find?]
  induction entries with
  | nil => simp [lookup]
  | cons e rest ih =>
    obtain ⟨k, r⟩ := e
    obtain ⟨hk, hr⟩ := List.pairwise_cons.mp h
    by_cases hi : k = id
    · subst hi
      have hrest : (k, row) ∉ rest := fun hm => lt_irrefl k (hk _ hm)
      simp [lookup, hrest, eq_comm]
    · simpa [lookup, hi, Ne.symm hi] using ih hr

/-- The articles of a table are entered once. -/
theorem nodup_ids (table : Table) : (table.entries.map Prod.fst).Nodup :=
  List.Pairwise.map _ (fun _ _ h => ne_of_lt h) table.ascending

theorem mem_holders : id ∈ table.holders flag ↔ ∃ row, table.find? id = some row ∧ row.holds flag = true := by
  simp only [holders, List.mem_toFinset, List.mem_map, List.mem_filter, find?_eq_some_iff]
  constructor
  · rintro ⟨⟨k, row⟩, ⟨hm, hf⟩, rfl⟩
    exact ⟨row, hm, hf⟩
  · rintro ⟨row, hm, hf⟩
    exact ⟨(id, row), ⟨hm, hf⟩, rfl⟩

/-- A row put in makes its article a holder of its flags, and of no others. -/
theorem holders_put (table : Table) (id : Int) (row : Row) (flag : Flag) :
    (table.put id row).holders flag =
      if row.holds flag then insert id (table.holders flag) else (table.holders flag).erase id := by
  ext other
  rw [mem_holders, find?_put]
  by_cases ho : other = id
  · subst ho
    cases hf : row.holds flag <;> simp [hf]
  · rw [if_neg ho, ← mem_holders]
    cases row.holds flag <;> simp [ho]

/-- An erased article is no holder. -/
theorem holders_erase (table : Table) (id : Int) (flag : Flag) :
    (table.erase id).holders flag = (table.holders flag).erase id := by
  ext other
  rw [mem_holders, find?_erase]
  by_cases ho : other = id
  · simp [ho]
  · rw [if_neg ho, ← mem_holders]
    simp [ho]

/-- The table without the row that a term means. -/
def without (table : Table) : IdTerm → Table
  | .exactly id => table.erase id
  | _ => table

end Table

/-- The identifier is another. -/
def IdTerm.differs : IdTerm → Int → Bool
  | .none, _ => true
  | .unknown, _ => false
  | .exactly i, id => id != i
  | .other, _ => true

namespace Roster

/-- How many rows hold a flag, leaving out the identifiers that a term means. -/
def holders (table : Table) (term : IdTerm) (flag : Flag) : Nat :=
  (table.entries.filter fun e => e.2.holds flag && term.differs e.1).length

/-- What is counted are the holders that differ from a term. -/
theorem holders_eq_card (table : Table) (term : IdTerm) (flag : Flag) :
    holders table term flag = ((table.holders flag).filter fun id => term.differs id = true).card := by
  have hnodup : ((table.entries.filter fun e => e.2.holds flag && term.differs e.1).map Prod.fst).Nodup :=
    (List.filter_sublist.map Prod.fst).nodup table.nodup_ids
  rw [holders, ← List.length_map Prod.fst, ← List.toFinset_card_of_nodup hnodup]
  congr 1
  ext id
  simp only [List.mem_toFinset, List.mem_map, List.mem_filter, Bool.and_eq_true, Finset.mem_filter,
    Table.mem_holders, Table.find?_eq_some_iff]
  constructor
  · rintro ⟨⟨k, row⟩, ⟨hm, hf, hd⟩, rfl⟩
    exact ⟨⟨row, hm, hf⟩, hd⟩
  · rintro ⟨⟨row, hm, hf⟩, hd⟩
    exact ⟨(id, row), ⟨hm, hf, hd⟩, rfl⟩

/-- For an article that is named exactly, the other holders are counted. -/
theorem holders_exactly (table : Table) (id : Int) (flag : Flag) :
    holders table (.exactly id) flag = ((table.holders flag).erase id).card := by
  rw [holders_eq_card]
  congr 1
  ext other
  simp [IdTerm.differs, and_comm]

end Roster

/-! ## Counting -/

theorem Verdict.and_eq_holds_iff {a b : Verdict} : a.and b = .holds ↔ a = .holds ∧ b = .holds := by
  cases a <;> cases b <;> simp [Verdict.and]

/-- A row of which it is unknown whether it holds a flag does not hold it. -/
theorem Row.holdsFlag_eq_holds_iff {row : Row} {flag : Flag} : row.holdsFlag flag = .holds ↔ row.holds flag = true := by
  rw [Row.holdsFlag, Row.holds]
  cases row.get (.flag flag) with
  | null => simp
  | int n => simp
  | real x => simp
  | text s => simp

/-- An identifier of which it is unknown whether it is another does not count as one. -/
theorem IdTerm.differsFrom_eq_holds_iff {term : IdTerm} {id : Int} :
    term.differsFrom id = .holds ↔ term.differs id = true := by
  cases term <;> simp [differsFrom, differs]

namespace Roster

theorem heldByOther_eq_holds_iff {term : IdTerm} {flag : Flag} {entry : Int × Row} :
    heldByOther term flag entry = .holds ↔ (entry.2.holds flag && term.differs entry.1) = true := by
  rw [heldByOther, Verdict.and_eq_holds_iff, Row.holdsFlag_eq_holds_iff, IdTerm.differsFrom_eq_holds_iff,
    Bool.and_eq_true]

/-- The rows of which the condition holds are the ones that are to be counted. -/
theorem length_heldByOther (table : Table) (term : IdTerm) (flag : Flag) :
    (table.entries.filter fun entry => heldByOther term flag entry = .holds).length = holders table term flag := by
  simp only [heldByOther_eq_holds_iff, Bool.decide_eq_true]
  rfl

/-- The sum of a one for each entry of which a condition holds is how many these are, also if there is no entry. -/
theorem sum?_toNat (condition : Int × Row → Verdict) (entries : List (Int × Row)) :
    (sum? (entries.map fun entry => (condition entry).toNat)).getD 0 =
      (entries.filter fun entry => condition entry = .holds).length := by
  have hsum : (entries.map fun entry => (condition entry).toNat).foldr (· + ·) 0 =
      (entries.filter fun entry => condition entry = .holds).length := by
    induction entries with
    | nil => rfl
    | cons entry rest ih =>
      rw [List.map_cons, List.foldr_cons, ih, List.filter_cons]
      cases h : condition entry <;> simp [Verdict.toNat, Nat.add_comm]
  cases entries with
  | nil => rfl
  | cons entry rest => exact hsum

/-- Summed up, a flag is counted like by the rows that are to be counted. -/
theorem sum?_heldByOther (table : Table) (term : IdTerm) (flag : Flag) :
    (sum? (table.entries.map fun entry => (heldByOther term flag entry).toNat)).getD 0 = holders table term flag := by
  rw [sum?_toNat, length_heldByOther]

end Roster

end FrontPage
