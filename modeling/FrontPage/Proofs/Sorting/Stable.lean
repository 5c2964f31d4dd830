import Mathlib.Data.List.Forall2
import Mathlib.Data.List.Perm.Basic

/-!
# Stable sorting

A list is stably sorted (`StablySorted`) if it holds the members of another one in order, and those that compare equal
as that one has them. There is one such list only (`StablySorted.unique`), whatever finds it: the merge sort of the
library does (`stablySorted_mergeSort`), and so do two such sorts one after the other for the one comparison and then
the other (`StablySorted.lex`). Of two lists with the same members in different orders the sorted ones agree up to
members that compare equal (`forall₂_of_perm`).
-/

namespace FrontPage

variable {α : Type} {cmp : α → α → Ordering} {list sorted other : List α}

/-- The members of a list in the order of a comparison, those that compare equal in the order of the list. -/
structure StablySorted (cmp : α → α → Ordering) (list sorted : List α) : Prop where
  perm : sorted.Perm list
  inOrder : sorted.Pairwise fun a b => (cmp a b).isLE
  stable : ∀ a, sorted.filter (cmp a · == .eq) = list.filter (cmp a · == .eq)

/-- A list in order is stably sorted. -/
theorem StablySorted.self (h : list.Pairwise fun a b => (cmp a b).isLE) : StablySorted cmp list list :=
  ⟨.refl list, h, fun _ => rfl⟩

section

variable [Std.TransCmp cmp]

/-- Two lists in order are the same if they have the same members, and those that compare equal in the same order. -/
theorem eq_of_ties (hperm : sorted.Perm other) (hsorted : sorted.Pairwise fun a b => (cmp a b).isLE)
    (hother : other.Pairwise fun a b => (cmp a b).isLE)
    (hties : ∀ a, sorted.filter (cmp a · == .eq) = other.filter (cmp a · == .eq)) : sorted = other := by
  induction sorted generalizing other with
  | nil => exact hperm.nil_eq
  | cons a sorted ih =>
    cases other with
    | nil => exact absurd hperm.symm.nil_eq (List.cons_ne_nil a sorted).symm
    | cons b other =>
      have hself (c : α) : cmp c c = .eq := Std.ReflCmp.compare_self
      have hab : (cmp a b).isLE := by
        rcases List.mem_cons.mp (hperm.symm.subset List.mem_cons_self) with rfl | hb
        · rw [hself]
          rfl
        · exact List.rel_of_pairwise_cons hsorted hb
      have hba : (cmp b a).isLE := by
        rcases List.mem_cons.mp (hperm.subset List.mem_cons_self) with rfl | ha
        · rw [hself]
          rfl
        · exact List.rel_of_pairwise_cons hother ha
      -- The heads compare equal, so they are the first members of the same class.
      have htie : cmp a b = .eq := Std.OrientedCmp.isLE_antisymm hab hba
      have hfirst := hties a
      rw [List.filter_cons_of_pos (by rw [hself]; rfl), List.filter_cons_of_pos (by rw [htie]; rfl)] at hfirst
      obtain ⟨rfl, -⟩ := List.cons.inj hfirst
      refine congrArg (a :: ·) (ih hperm.cons_inv hsorted.tail hother.tail fun c => ?_)
      have hc := hties c
      rw [List.filter_cons, List.filter_cons] at hc
      split at hc
      · exact (List.cons.inj hc).2
      · exact hc

/-- **There is one stably sorted list.** -/
theorem StablySorted.unique (h : StablySorted cmp list sorted) (h' : StablySorted cmp list other) : sorted = other :=
  eq_of_ties (h.perm.trans h'.perm.symm) h.inOrder h'.inOrder fun a => (h.stable a).trans (h'.stable a).symm

/-- Members that all compare equal to one are in order. -/
theorem pairwise_filter_tie (a : α) (list : List α) :
    (list.filter (cmp a · == .eq)).Pairwise fun b c => (cmp b c).isLE := by
  refine List.pairwise_of_forall_mem_list fun b hb c hc => ?_
  have hab : cmp a b = .eq := eq_of_beq (List.mem_filter.mp hb).2
  have hac : cmp a c = .eq := eq_of_beq (List.mem_filter.mp hc).2
  rw [← Std.TransCmp.congr_left hab, hac]
  rfl

/-- **The merge sort is stable.** -/
theorem stablySorted_mergeSort (list : List α) :
    StablySorted cmp list (list.mergeSort fun a b => (cmp a b).isLE) := by
  have htrans (a b c : α) (hab : (cmp a b).isLE = true) (hbc : (cmp b c).isLE = true) : (cmp a c).isLE = true :=
    Std.TransCmp.isLE_trans hab hbc
  have htotal (a b : α) : ((cmp a b).isLE || (cmp b a).isLE) = true := by
    rw [@Std.OrientedCmp.eq_swap _ cmp _ b a]
    cases cmp a b <;> rfl
  have hperm := List.mergeSort_perm list fun a b => (cmp a b).isLE
  refine ⟨hperm, List.pairwise_mergeSort htrans htotal list, fun a => ?_⟩
  have hsub := List.sublist_mergeSort htrans htotal (pairwise_filter_tie a list) List.filter_sublist
  have hfiltered := hsub.filter (cmp a · == .eq)
  rw [List.filter_filter] at hfiltered
  simp only [Bool.and_self] at hfiltered
  exact (hfiltered.eq_of_length (hperm.filter _).length_eq.symm).symm

/-- A value goes behind the members it is not before and in front of those it is before. -/
theorem StablySorted.insert {front back : List α} {value : α} (h : StablySorted cmp list (front ++ back))
    (hfront : ∀ a ∈ front, (cmp a value).isLE) (hback : ∀ a ∈ back, cmp value a = .lt) :
    StablySorted cmp (list ++ [value]) (front ++ value :: back) := by
  obtain ⟨hinFront, hinBack, hbetween⟩ := List.pairwise_append.mp h.inOrder
  refine ⟨?_, ?_, fun c => ?_⟩
  · exact List.perm_middle.trans ((h.perm.cons value).trans (List.perm_append_singleton value list).symm)
  · refine List.pairwise_append.mpr ⟨hinFront, List.pairwise_cons.mpr ⟨fun a ha => ?_, hinBack⟩, fun a ha b hb => ?_⟩
    · rw [hback a ha]
      rfl
    · rcases List.mem_cons.mp hb with rfl | hb
      · exact hfront a ha
      · exact hbetween a ha b hb
  · rw [List.filter_append, List.filter_append, ← h.stable c, List.filter_append, List.append_assoc, List.filter_cons,
      List.filter_singleton]
    split
    · next htie =>
      -- What ties with the value is not behind its place.
      have hnone : back.filter (cmp c · == .eq) = [] := by
        refine List.filter_eq_nil_iff.mpr fun a ha => ?_
        rw [Std.TransCmp.congr_left (eq_of_beq htie), hback a ha]
        exact Bool.false_ne_true
      rw [hnone, htie]
      rfl
    · next htie => rw [Bool.eq_false_iff.mpr htie, cond_false, List.append_nil]

/-- What falls strictly is in order the other way round, and nothing of it compares equal. -/
theorem StablySorted.reverse (h : list.Pairwise fun a b => cmp b a = .lt) : StablySorted cmp list list.reverse := by
  refine ⟨list.reverse_perm, List.pairwise_reverse.mpr (h.imp fun hlt => Ordering.isLE_of_eq_lt hlt), fun c => ?_⟩
  rw [List.filter_reverse]
  have hapart : (list.filter (cmp c · == .eq)).Pairwise fun _ _ => False := by
    refine (h.filter _).imp_of_mem fun {a b} ha hb hlt => ?_
    have hca : cmp c a = .eq := eq_of_beq (List.mem_filter.mp ha).2
    have hcb : cmp c b = .eq := eq_of_beq (List.mem_filter.mp hb).2
    rw [← Std.TransCmp.congr_left hcb, hca] at hlt
    cases hlt
  cases hfilter : list.filter (cmp c · == .eq) with
  | nil => rfl
  | cons a rest =>
    cases rest with
    | nil => rfl
    | cons b rest =>
      rw [hfilter] at hapart
      exact (List.rel_of_pairwise_cons hapart List.mem_cons_self).elim

/-- In a stably sorted list members that compare equal are in the relation that the list has them in. -/
theorem StablySorted.refines {R : α → α → Prop} (h : StablySorted cmp list sorted) (hlist : list.Pairwise R) :
    sorted.Pairwise fun a b => cmp a b = .lt ∨ cmp a b = .eq ∧ R a b := by
  refine List.pairwise_iff_forall_sublist.mpr fun {a b} hsub => ?_
  have hle : (cmp a b).isLE := List.pairwise_iff_forall_sublist.mp h.inOrder hsub
  rcases Ordering.isLE_iff_eq_lt_or_eq_eq.mp hle with hlt | heq
  · exact .inl hlt
  · have hself : cmp a a = .eq := Std.ReflCmp.compare_self
    have hties := hsub.filter (cmp a · == .eq)
    rw [h.stable a, List.filter_cons_of_pos (by rw [hself]; rfl), List.filter_cons_of_pos (by rw [heq]; rfl)] at hties
    exact .inr ⟨heq, List.pairwise_iff_forall_sublist.mp hlist (hties.trans List.filter_sublist)⟩

/-- **Sorting by one comparison what another has sorted is sorting by both**, the one sorted by last deciding. -/
theorem StablySorted.lex {cmp' : α → α → Ordering} [Std.TransCmp cmp'] (h : StablySorted cmp' list sorted)
    (h' : StablySorted cmp sorted other) : StablySorted (compareLex cmp cmp') list other := by
  refine ⟨h'.perm.trans h.perm, (h'.refines h.inOrder).imp fun {a b} hab => ?_, fun a => ?_⟩
  · rcases hab with hlt | ⟨heq, hle⟩
    · rw [compareLex, hlt]
      rfl
    · rw [compareLex, heq]
      exact hle
  · have hboth (values : List α) : values.filter (compareLex cmp cmp' a · == .eq) =
        (values.filter (cmp a · == .eq)).filter (cmp' a · == .eq) := by
      rw [List.filter_filter]
      refine List.filter_congr fun b _ => ?_
      rw [compareLex]
      cases cmp a b <;> cases cmp' a b <;> rfl
    have hswap (values : List α) : (values.filter (cmp a · == .eq)).filter (cmp' a · == .eq) =
        (values.filter (cmp' a · == .eq)).filter (cmp a · == .eq) := by
      rw [List.filter_filter, List.filter_filter]
      exact List.filter_congr fun b _ => Bool.and_comm _ _
    rw [hboth, hboth, h'.stable a, hswap, h.stable a, hswap]

/-- Two lists in order with the same members agree up to members that compare equal. -/
theorem forall₂_of_perm (hperm : sorted.Perm other) (hsorted : sorted.Pairwise fun a b => (cmp a b).isLE)
    (hother : other.Pairwise fun a b => (cmp a b).isLE) : List.Forall₂ (fun a b => cmp a b = .eq) sorted other := by
  -- Members that compare equal compare alike with everything, so that the comparison is antisymmetric on the
  -- functions `cmp a`, and the two lists of these functions are the same.
  have halike {a b : α} (h : cmp a = cmp b) : cmp a b = .eq := by
    rw [h]
    exact Std.ReflCmp.compare_self
  have hrow {a b : α} (h : cmp a b = .eq) : cmp a = cmp b := funext fun _ => Std.TransCmp.congr_left h
  let le (f g : α → Ordering) : Prop := ∃ a b, cmp a = f ∧ cmp b = g ∧ (cmp a b).isLE
  have hrows {values : List α} (h : values.Pairwise fun a b => (cmp a b).isLE) : (values.map cmp).Pairwise le :=
    List.pairwise_map.mpr (h.imp fun {a b} hab => ⟨a, b, rfl, rfl, hab⟩)
  have hanti (f g : α → Ordering) (_ : f ∈ sorted.map cmp) (_ : g ∈ other.map cmp) (hfg : le f g) (hgf : le g f) :
      f = g := by
    obtain ⟨a, b, rfl, rfl, hab⟩ := hfg
    obtain ⟨b', a', hb, ha, hba⟩ := hgf
    have hba' : (cmp b a).isLE := by
      rw [Std.TransCmp.congr_left (halike hb.symm), Std.TransCmp.congr_right (halike ha.symm)]
      exact hba
    exact hrow (Std.OrientedCmp.isLE_antisymm hab hba')
  have hmap := List.Perm.eq_of_pairwise hanti (hrows hsorted) (hrows hother) (hperm.map cmp)
  have hforall := List.forall₂_eq_eq_eq ▸ hmap
  rw [List.forall₂_map_left_iff, List.forall₂_map_right_iff] at hforall
  exact hforall.imp fun _ _ => halike

end

end FrontPage
