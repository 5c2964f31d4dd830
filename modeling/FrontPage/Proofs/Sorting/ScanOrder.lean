import FrontPage.Proofs.Sorting.Records

/-!
# Sorting records that come in another order

Over records whose fields can be sorted by, it does not matter in which order they come: the sorted lists agree, record
for record, up to records that tie (`sortRecords_of_perm`). Whether a field can be sorted by depends on tangled numbers
alone (`comparison_consistent`). Ten, two and a text that begins like ten are tangled, and come out in the order in
which they went in (`comparison_tangled`).
-/

namespace FrontPage

variable {spec : SortSpec} {records other : List Record}

/-- Whether records can be sorted does not depend on their order. -/
theorem SortSpec.Sortable.perm (h : spec.Sortable records) (hperm : records.Perm other) : spec.Sortable other := by
  intro key hkey
  obtain ⟨hproper, huntangled⟩ := h key hkey
  refine ⟨fun a ha => hproper a (hperm.mem_iff.mpr ha), fun a ha b hb c hc => ?_⟩
  exact huntangled a (hperm.mem_iff.mpr ha) b (hperm.mem_iff.mpr hb) c (hperm.mem_iff.mpr hc)

/-- Records that come in another order are sorted to the same list, up to records that tie. -/
theorem sortRecords_of_perm (h : spec.Sortable records) (hperm : records.Perm other) :
    List.Forall₂ (fun a b => spec.ties a b = true) (sortRecords spec records) (sortRecords spec other) := by
  have htrans := SortSpec.transCmp_order h
  let members : List { r // r ∈ records } := other.attach.map fun r => ⟨r.1, hperm.mem_iff.mpr r.2⟩
  have hmembers : members.map Subtype.val = other := by
    rw [List.map_map]
    exact List.attach_map_subtype_val other
  have hmembersPerm : records.attach.Perm members := by
    rw [← List.map_perm_map_iff Subtype.val_injective, List.attach_map_subtype_val, hmembers]
    exact hperm
  have hone := stablySorted_order h
  have htwo := @stablySorted_mergeSort _ (spec.order records) htrans members
  have hsorted := (hone.perm.trans hmembersPerm).trans htwo.perm.symm
  have hforall := forall₂_of_perm hsorted hone.inOrder htwo.inOrder
  rw [sortRecords_eq, ← hmembers, sortRecords_members, List.forall₂_map_left_iff, List.forall₂_map_right_iff]
  exact hforall.imp fun a b heq => SortSpec.compare_eq_eq_iff.mp heq

/-- **Comparing values is an order but for tangled numbers.** Turning a comparison round turns its outcome round. Chains
of smaller or equal values hold among any values of which no two numbers are tangled with a text, and only among such.
Records whose fields have such values are sorted to the same list in whatever order they come, up to records that tie,
and so they are as values. -/
theorem comparison_consistent :
    (∀ a b : Value, a ≠ .number (.float .nan) → b ≠ .number (.float .nan) →
        a.compareWith b = (b.compareWith a).swap) ∧
      (∀ values : Value → Prop, (∀ v, values v → v ≠ .number (.float .nan)) →
        ((∀ a b c, values a → values b → values c → (a.compareWith b).isLE = true → (b.compareWith c).isLE = true →
            (a.compareWith c).isLE = true) ↔
          ∀ x y between, values x → values y → values between → ¬x.Tangled y between)) ∧
      ∀ (spec : SortSpec) (records other : List Record), spec.Sortable records → records.Perm other →
        List.Forall₂ (fun a b => spec.ties a b = true) (sortRecords spec records) (sortRecords spec other) ∧
          sortValues spec.asValue (.list (records.map .record)) = .ok ((sortRecords spec records).map .record) ∧
          sortValues spec.asValue (.list (other.map .record)) = .ok ((sortRecords spec other).map .record) := by
  refine ⟨fun _ _ => Value.compareWith_swap, fun _ => Value.compareWith_trans_iff, fun spec records other h hperm => ?_⟩
  exact ⟨sortRecords_of_perm h hperm, sortValues_records h, sortValues_records (h.perm hperm)⟩

/-- Numbers that compare as their texts do, with a text behind them, and the ranked records from behind. -/
theorem comparison_consistent_ranked :
    (∀ a b c : Value, a ∈ [.int 10, .int 15, .text "1x"] → b ∈ [.int 10, .int 15, .text "1x"] →
        c ∈ [.int 10, .int 15, .text "1x"] → (a.compareWith b).isLE = true → (b.compareWith c).isLE = true →
          (a.compareWith c).isLE = true) ∧
      rankThenName.Sortable rankedRecords ∧ rankedRecords.Perm rankedRecords.reverse ∧
      List.Forall₂ (fun a b => rankThenName.ties a b = true) (sortRecords rankThenName rankedRecords)
        (sortRecords rankThenName rankedRecords.reverse) := by
  obtain ⟨-, hchains, horder⟩ := comparison_consistent
  have hsortable := uniform_rankedRecords.sortable
  have hreverse := rankedRecords.reverse_perm.symm
  refine ⟨(hchains (· ∈ [.int 10, .int 15, .text "1x"]) (by decide +kernel)).mpr ?_, hsortable, hreverse,
    (horder _ _ _ hsortable hreverse).1⟩
  rintro x y t hx - ht ⟨⟨m, n, hm, -⟩, hnone, -, hle⟩
  simp only [List.mem_cons, List.not_mem_nil, or_false] at hx ht
  rcases ht with rfl | rfl | rfl
  · cases hnone
  · cases hnone
  · rcases hx with rfl | rfl | rfl
    · exact absurd hle (by decide +kernel)
    · exact absurd hle (by decide +kernel)
    · exact absurd hm (by rw [show (Value.text "1x").toNumber? = none by decide +kernel]; exact nofun)

/-- A record with one field. -/
def rankOnly (rank : Value) : Value := .record [("rank", rank)]

/-- **Ten, two and a text that begins like ten are in no order**: ten goes before the text and the text before two. They
are sorted to two different lists as they come in two different orders. -/
theorem comparison_tangled :
    (¬∀ a b c : Value, a ≠ .number (.float .nan) → b ≠ .number (.float .nan) → c ≠ .number (.float .nan) →
        (a.compareWith b).isLE = true → (b.compareWith c).isLE = true → (a.compareWith c).isLE = true) ∧
      sortValues (SortSpec.asValue [⟨"rank", .ascending⟩])
          (.list [rankOnly (.int 10), rankOnly (.text "1x"), rankOnly (.int 2)]) =
        .ok [rankOnly (.int 10), rankOnly (.text "1x"), rankOnly (.int 2)] ∧
      sortValues (SortSpec.asValue [⟨"rank", .ascending⟩])
          (.list [rankOnly (.int 2), rankOnly (.int 10), rankOnly (.text "1x")]) =
        .ok [rankOnly (.int 2), rankOnly (.int 10), rankOnly (.text "1x")] := by
  refine ⟨fun h => ?_, by decide +kernel, by decide +kernel⟩
  exact absurd (h (.int 10) (.text "1x") (.int 2) nofun nofun nofun (by decide +kernel) (by decide +kernel))
    (by decide +kernel)

end FrontPage
