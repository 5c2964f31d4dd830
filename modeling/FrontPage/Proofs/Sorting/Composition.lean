import FrontPage.Proofs.Sorting.Records

/-!
# Sorting by one specification after another

Sorting is stable, so that records sorted by one specification and then by another are sorted by both, the later one in
front (`sortRecords_of_append`). So what a sort leaves undecided stays as it came (`sortRecords_refines`), and a
specification that is asked again, or a field that is asked again at its end, decides nothing more
(`sortRecords_composes`).
-/

namespace FrontPage

variable {spec first second : SortSpec} {records : List Record}

/-- The order of two specifications one after the other is that of the first, and where it does not decide that of the
second. -/
theorem SortSpec.order_append (first second : SortSpec) (records : List Record) :
    SortSpec.order (first ++ second) records = compareLex (first.order records) (second.order records) := by
  funext a b
  exact SortSpec.compare_append first second a.1 b.1

/-- Records sorted by the second specification and then by the first are sorted by both. -/
theorem sortRecords_of_append (hfirst : first.Sortable records) (hsecond : second.Sortable records) :
    sortRecords (first ++ second) records = sortRecords first (sortRecords second records) := by
  have htrans := SortSpec.transCmp_order hfirst
  have htrans' := SortSpec.transCmp_order hsecond
  have hboth : SortSpec.Sortable (first ++ second) records := fun key hkey =>
    (List.mem_append.mp hkey).elim (hfirst key) (hsecond key)
  have htransBoth := SortSpec.transCmp_order hboth
  have hone := stablySorted_order hboth
  have htwo := (stablySorted_order hsecond).lex (@stablySorted_mergeSort _ (first.order records) _ _)
  rw [← SortSpec.order_append] at htwo
  rw [sortRecords_eq second, sortRecords_members first, sortRecords_eq (first ++ second), hone.unique htwo]

/-- Records that are sorted stay as they are. -/
theorem sortRecords_sortRecords (h : spec.Sortable records) :
    sortRecords spec (sortRecords spec records) = sortRecords spec records := by
  have hsorted := (stablySorted_order h).inOrder
  rw [sortRecords_eq spec records, sortRecords_members, List.mergeSort_of_pairwise hsorted]

/-- A field of a specification that is asked again at its end decides nothing. -/
theorem sortRecords_of_repeated {key : SortKey} (hkey : ∃ other ∈ spec, other.field = key.field) :
    sortRecords (spec ++ [key]) records = sortRecords spec records := by
  obtain ⟨other, hother, hfield⟩ := hkey
  have horder : SortSpec.order (spec ++ [key]) records = spec.order records := by
    funext a b
    rw [SortSpec.order_append, compareLex]
    cases hspec : spec.order records a b with
    | eq =>
      -- Records that tie are the same in the field that is asked again.
      have hties := SortSpec.compare_eq_eq_iff.mp hspec
      have hsame := List.all_eq_true.mp hties other hother
      rw [hfield] at hsame
      have hagain : key.compare a.1 b.1 = .eq := SortKey.compare_eq_eq_iff.mpr hsame
      show (key.compare a.1 b.1).then .eq = .eq
      rw [hagain]
      rfl
    | _ => rfl
  rw [sortRecords_eq, sortRecords_eq, horder]

/-- Records that tie stay in any relation in which they came. -/
theorem sortRecords_refines {R : Record → Record → Prop} (h : spec.Sortable records) (hrecords : records.Pairwise R) :
    (sortRecords spec records).Pairwise fun a b => spec.Precedes a b ∨ spec.ties a b = true ∧ R a b := by
  have htrans := SortSpec.transCmp_order h
  have hmembers : records.attach.Pairwise fun a b => R a.1 b.1 := by
    rw [← List.attach_map_subtype_val records, List.pairwise_map] at hrecords
    exact hrecords
  rw [sortRecords_eq, List.pairwise_map]
  refine ((stablySorted_order h).refines hmembers).imp fun {a b} hab => ?_
  rcases hab with hlt | ⟨heq, hR⟩
  · exact .inl ((SortSpec.compare_eq_lt_iff (h.proper a) (h.proper b)).mp hlt)
  · exact .inr ⟨SortSpec.compare_eq_eq_iff.mp heq, hR⟩

/-- **Sorting composes key by key.** If each field of two specifications is a number in all records or in none of them,
sorting by the one after the other is sorting by both, the later one in front. So sorting again changes nothing, and
neither does a field that is asked again at the end of a specification, in either direction; and whatever relation the
records came in, those that tie are still in it. -/
theorem sortRecords_composes (hfirst : first.Uniform records) (hsecond : second.Uniform records) :
    sortRecords (first ++ second) records = sortRecords first (sortRecords second records) ∧
      sortRecords first (sortRecords first records) = sortRecords first records ∧
      (∀ key : SortKey, (∃ other ∈ first, other.field = key.field) →
        sortRecords (first ++ [key]) records = sortRecords first records) ∧
      ∀ R : Record → Record → Prop, records.Pairwise R →
        (sortRecords first records).Pairwise fun a b => first.Precedes a b ∨ first.ties a b = true ∧ R a b :=
  ⟨sortRecords_of_append hfirst.sortable hsecond.sortable, sortRecords_sortRecords hfirst.sortable,
    fun _ => sortRecords_of_repeated, fun _ => sortRecords_refines hfirst.sortable⟩

/-- Ranks and then names, the rank asked again the other way round, and the order in which the records came. -/
theorem sortRecords_composes_ranked :
    rankThenName.Uniform rankedRecords ∧
      sortRecords (rankThenName ++ rankThenName) rankedRecords =
        sortRecords rankThenName (sortRecords rankThenName rankedRecords) ∧
      sortRecords (rankThenName ++ [⟨"rank", .ascending⟩]) rankedRecords = sortRecords rankThenName rankedRecords ∧
      (sortRecords rankThenName rankedRecords).Pairwise fun a b => rankThenName.Precedes a b ∨
        rankThenName.ties a b = true ∧ (Record.get a "id").compareWith (Record.get b "id") = .lt := by
  obtain ⟨hboth, -, hagain, hrefines⟩ := sortRecords_composes uniform_rankedRecords uniform_rankedRecords
  refine ⟨uniform_rankedRecords, hboth, hagain _ ⟨_, List.mem_cons_self, rfl⟩, hrefines _ ?_⟩
  decide +kernel

end FrontPage
