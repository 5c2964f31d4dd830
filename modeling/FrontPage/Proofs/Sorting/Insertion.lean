import FrontPage.Proofs.Sorting.Stable
import FrontPage.Sorting.Insertion

/-!
# Sorting by insertion is stable

Where no comparison fails and the outcomes are those of an order, `sortByInsertion` gives the stably sorted list
(`exists_sortByInsertion`). The values may be images of what the order is about. The list grows by one value at a time
and is sorted stably before and after (`exists_insertSorted`): the place that is found between two others has in front
of it what the value is not before, and behind it what the value is before (`exists_placeBetween`).
-/

namespace FrontPage

variable {α β ε : Type} {cmp : α → α → Ordering} {f : α → β} {before : β → β → Except ε Bool}

/-- The list up to a member, the member, and the list behind it. -/
theorem eq_take_append_drop (values : List α) {place : Nat} (h : place < values.length) :
    values = values.take place ++ values[place] :: values.drop (place + 1) := by
  rw [← List.drop_eq_getElem_cons h, List.take_append_drop]

section

variable [Std.TransCmp cmp] {values : List α} {value : α}

/-- A member that a value is not before has in front of it members that the value is not before. -/
theorem isLE_of_mem_take {place : Nat} (hplace : place < values.length)
    (hvalues : values.Pairwise fun a b => (cmp a b).isLE) (h : (cmp values[place] value).isLE) :
    ∀ a ∈ values.take (place + 1), (cmp a value).isLE := by
  intro a ha
  rw [List.take_succ_eq_append_getElem hplace] at ha
  rcases List.mem_append.mp ha with ha | ha
  · rw [eq_take_append_drop values hplace] at hvalues
    exact Std.TransCmp.isLE_trans ((List.pairwise_append.mp hvalues).2.2 a ha _ List.mem_cons_self) h
  · rw [List.mem_singleton.mp ha]
    exact h

/-- A member that a value is before has behind it members that the value is before. -/
theorem lt_of_mem_drop {place : Nat} (hplace : place < values.length)
    (hvalues : values.Pairwise fun a b => (cmp a b).isLE) (h : cmp value values[place] = .lt) :
    ∀ a ∈ values.drop place, cmp value a = .lt := by
  intro a ha
  rw [List.drop_eq_getElem_cons hplace] at ha
  rcases List.mem_cons.mp ha with rfl | ha
  · exact h
  · rw [eq_take_append_drop values hplace] at hvalues
    exact Std.TransCmp.lt_of_lt_of_isLE h (List.rel_of_pairwise_cons (List.pairwise_append.mp hvalues).2.1 ha)

/-- The search between two places finds one between them that suits the value. -/
theorem exists_placeBetween (hbefore : ∀ a b, before (f a) (f b) = .ok (cmp a b == .lt))
    (hvalues : values.Pairwise fun a b => (cmp a b).isLE) {low high : Nat} (hle : low ≤ high)
    (hlength : high ≤ values.length) (hlow : ∀ a ∈ values.take low, (cmp a value).isLE)
    (hhigh : ∀ a ∈ values.drop high, cmp value a = .lt) :
    ∃ place, placeBetween (before (f value)) (values.map f).toArray low high = .ok place ∧
      (∀ a ∈ values.take place, (cmp a value).isLE) ∧ ∀ a ∈ values.drop place, cmp value a = .lt := by
  induction hwidth : high - low using Nat.strongRecOn generalizing low high with
  | ind width ih =>
    rw [placeBetween]
    by_cases hlt : low < high
    · have hmiddle : (low + high) / 2 < values.length := by omega
      have hget : (values.map f).toArray[(low + high) / 2]? = some (f values[(low + high) / 2]) := by
        rw [List.getElem?_toArray, List.getElem?_map, List.getElem?_eq_getElem hmiddle, Option.map_some]
      rw [if_pos hlt, hget]
      simp only [hbefore]
      cases hcmp : cmp value values[(low + high) / 2] with
      | lt => exact ih _ (by omega) (by omega) (by omega) hlow (lt_of_mem_drop hmiddle hvalues hcmp) rfl
      | eq =>
        have hmember : (cmp values[(low + high) / 2] value).isLE := by
          rw [Std.OrientedCmp.eq_symm hcmp]
          rfl
        exact ih _ (by omega) (by omega) hlength (isLE_of_mem_take hmiddle hvalues hmember) hhigh rfl
      | gt =>
        have hmember : (cmp values[(low + high) / 2] value).isLE :=
          Ordering.isLE_of_eq_lt (Std.OrientedCmp.lt_of_gt hcmp)
        exact ih _ (by omega) (by omega) hlength (isLE_of_mem_take hmiddle hvalues hmember) hhigh rfl
    · obtain rfl : low = high := by omega
      rw [if_neg hlt]
      exact ⟨low, rfl, hlow, hhigh⟩

/-- A value that is inserted leaves the list stably sorted. -/
theorem exists_insertSorted {list : List α} (hbefore : ∀ a b, before (f a) (f b) = .ok (cmp a b == .lt))
    (h : StablySorted cmp list values) (value : α) :
    ∃ sorted, insertSorted before (values.map f) (f value) = .ok (sorted.map f) ∧
      StablySorted cmp (list ++ [value]) sorted := by
  have hnone : ∀ a ∈ values.take 0, (cmp a value).isLE := by
    rw [List.take_zero]
    exact nofun
  have hall : ∀ a ∈ values.drop values.length, cmp value a = .lt := by
    rw [List.drop_length]
    exact nofun
  obtain ⟨place, hplace, hfront, hback⟩ :=
    exists_placeBetween hbefore h.inOrder (Nat.zero_le _) (Nat.le_refl _) hnone hall
  refine ⟨values.take place ++ value :: values.drop place, ?_, ?_⟩
  · rw [insertSorted, List.length_map, hplace, List.map_append, List.map_cons, List.map_take, List.map_drop]
    rfl
  · rw [← List.take_append_drop place values] at h
    exact h.insert hfront hback

/-- So do values that are inserted one after the other. -/
theorem exists_foldlM_insertSorted {list : List α} (hbefore : ∀ a b, before (f a) (f b) = .ok (cmp a b == .lt))
    (h : StablySorted cmp list values) (more : List α) :
    ∃ sorted, (more.map f).foldlM (insertSorted before) (values.map f) = .ok (sorted.map f) ∧
      StablySorted cmp (list ++ more) sorted := by
  induction more generalizing list values with
  | nil => exact ⟨values, rfl, by rwa [List.append_nil]⟩
  | cons value more ih =>
    obtain ⟨inserted, hinserted, hstable⟩ := exists_insertSorted hbefore h value
    obtain ⟨sorted, hsorted, hall⟩ := ih hstable
    rw [List.append_assoc, List.singleton_append] at hall
    exact ⟨sorted, by rw [List.map_cons, List.foldlM_cons, hinserted]; exact hsorted, hall⟩

end

/-- What goes on a run is the beginning of what follows it, each value before the one in front of it or each not. -/
theorem exists_goOnRun (hbefore : ∀ a b, before (f a) (f b) = .ok (cmp a b == .lt)) (descends : Bool) (last : α)
    (values : List α) :
    ∃ run behind, goOnRun before descends (f last) (values.map f) = .ok (run.map f, behind.map f) ∧
      values = run ++ behind ∧ (last :: run).IsChain fun a b => (cmp b a == .lt) = descends := by
  induction values generalizing last with
  | nil => exact ⟨[], [], rfl, rfl, .singleton last⟩
  | cons value rest ih =>
    rw [List.map_cons, goOnRun]
    simp only [hbefore]
    by_cases hrun : (cmp value last == .lt) = descends
    · obtain ⟨run, behind, hgo, hrest, hchain⟩ := ih value
      refine ⟨value :: run, behind, ?_, by rw [hrest, List.cons_append], .cons_cons hrun hchain⟩
      show (if (cmp value last == .lt) = descends then _ else _) = _
      rw [if_pos hrun, hgo]
      rfl
    · refine ⟨[], value :: rest, ?_, rfl, .singleton last⟩
      show (if (cmp value last == .lt) = descends then _ else _) = _
      rw [if_neg hrun]
      rfl

/-- **Sorting by insertion gives the stably sorted list**, if no comparison fails and the outcomes are of an order. -/
theorem exists_sortByInsertion [Std.TransCmp cmp] (hbefore : ∀ a b, before (f a) (f b) = .ok (cmp a b == .lt))
    (list : List α) :
    ∃ sorted, sortByInsertion before (list.map f) = .ok (sorted.map f) ∧ StablySorted cmp list sorted := by
  match list with
  | [] => exact ⟨[], rfl, .self .nil⟩
  | [a] => exact ⟨[a], rfl, .self (List.pairwise_singleton _ a)⟩
  | first :: second :: rest =>
    obtain ⟨run, behind, hgo, rfl, hchain⟩ := exists_goOnRun hbefore (cmp second first == .lt) second rest
    have hstart : (first :: second :: run).IsChain fun a b => (cmp b a == .lt) = (cmp second first == .lt) :=
      .cons_cons rfl hchain
    simp only [List.map_cons, sortByInsertion, hbefore]
    cases hdescends : cmp second first == .lt with
    | true =>
      rw [hdescends] at hstart hgo
      have htrans : Trans (fun a b : α => (cmp b a == .lt) = true) (fun a b => (cmp b a == .lt) = true)
          fun a b => (cmp b a == .lt) = true :=
        ⟨fun hab hbc => beq_iff_eq.mpr (Std.TransCmp.lt_trans (eq_of_beq hbc) (eq_of_beq hab))⟩
      have hfalls := hstart.pairwise.imp fun hab => eq_of_beq hab
      obtain ⟨sorted, hsorted, hstable⟩ := exists_foldlM_insertSorted hbefore (.reverse hfalls) behind
      refine ⟨sorted, ?_, hstable⟩
      rw [List.map_reverse, List.map_cons, List.map_cons] at hsorted
      show ((goOnRun before true (f second) ((run ++ behind).map f)).bind _) = _
      rw [hgo]
      exact hsorted
    | false =>
      rw [hdescends] at hstart hgo
      have hrises : (first :: second :: run).IsChain fun a b => (cmp a b).isLE := hstart.imp fun a b hab => by
        rw [@Std.OrientedCmp.eq_swap _ cmp _ a b, Ordering.isLE_swap, Ordering.isGE_eq_not_beq_lt, hab]
        rfl
      have htrans : Trans (fun a b : α => (cmp a b).isLE = true) (fun a b => (cmp a b).isLE = true)
          fun a b => (cmp a b).isLE = true := ⟨fun hab hbc => Std.TransCmp.isLE_trans hab hbc⟩
      obtain ⟨sorted, hsorted, hstable⟩ := exists_foldlM_insertSorted hbefore (.self hrises.pairwise) behind
      refine ⟨sorted, ?_, hstable⟩
      rw [List.map_cons, List.map_cons] at hsorted
      show ((goOnRun before false (f second) ((run ++ behind).map f)).bind _) = _
      rw [hgo]
      exact hsorted

end FrontPage
