/-!
# Values for every member of a finite type

`Numbered` numbers the members of a finite type from zero on. `Slots ι α` then holds one value of `α` for every member
of `ι`, stored in that order; it is a function on `ι` (`Slots.get_ofFn`, `Slots.ext_get`) whose values are computed
once.
-/

namespace FrontPage

/-- A finite type whose members are numbered. -/
class Numbered (ι : Type) where
  size : Nat
  all : Vector ι size
  index : ι → Fin size
  all_index : ∀ i, all[index i] = i
  index_all : ∀ k : Fin size, index all[k] = k

/-- The members of a numbered type in order. -/
def Numbered.list (ι : Type) [Numbered ι] : List ι := (Numbered.all (ι := ι)).toList

/-- Every member is listed. -/
theorem Numbered.mem_list {ι : Type} [Numbered ι] (i : ι) : i ∈ Numbered.list ι := by
  have h := Numbered.all_index i
  rw [Numbered.list, Vector.mem_toList_iff]
  exact h ▸ Vector.getElem_mem _

/-- A value for every member of a numbered type. -/
structure Slots (ι : Type) [Numbered ι] (α : Type) where
  values : Vector α (Numbered.size ι)

namespace Slots

variable {ι : Type} [Numbered ι] {α : Type}

/-- The values of a function. -/
def ofFn (f : ι → α) : Slots ι α := ⟨(Numbered.all (ι := ι)).map f⟩

/-- The value of a member. -/
def get (s : Slots ι α) (i : ι) : α := s.values[Numbered.index i]

/-- The members with their values, in order. -/
def toList (s : Slots ι α) : List (ι × α) := (Numbered.list ι).map fun i => (i, s.get i)

@[simp] theorem get_ofFn (f : ι → α) (i : ι) : (ofFn f).get i = f i := by
  have h := Numbered.all_index i
  simp only [get, ofFn, Fin.getElem_fin, Vector.getElem_map] at h ⊢
  rw [h]

/-- Slots with the same values are the same. -/
theorem ext_get {s t : Slots ι α} (h : ∀ i, s.get i = t.get i) : s = t := by
  obtain ⟨v⟩ := s
  obtain ⟨w⟩ := t
  congr 1
  apply Vector.ext
  intro k hk
  have hi := h ((Numbered.all (ι := ι))[k])
  have hx := Numbered.index_all (ι := ι) ⟨k, hk⟩
  simp only [Fin.getElem_fin] at hx
  simpa [get, hx] using hi

end Slots

end FrontPage
