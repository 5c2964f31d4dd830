import FrontPage.Proofs.Roster.Holders

/-!
# Requests for places

The articles that hold a flag are a set, and each classification settles for one article whether it is in it. What comes
of a list of such requests, one after the other, is `PlaceRequest.settleAll`. Settling a list leaves an orderly set
(`orderly_settleAll`); settling it again only adds articles to that, and then nothing changes any more
(`Orderly.settle_settleAll`). A list that is settled from nothing gives the places to the first articles that want one
(`settleAll_empty`).
-/

namespace FrontPage

/-- There is room for an article besides the others in a set; a limit of zero leaves room for all. -/
def HasRoom (limit : Nat) (held : Finset Int) (id : Int) : Prop := limit = 0 ∨ (held.erase id).card < limit

instance (limit : Nat) (held : Finset Int) (id : Int) : Decidable (HasRoom limit held id) :=
  inferInstanceAs (Decidable (_ ∨ _))

/-- Where there is room for an article, the set is no larger than the limit with it. -/
theorem HasRoom.card_insert_le {limit : Nat} {held : Finset Int} {id : Int} (h : HasRoom limit held id) :
    limit = 0 ∨ (insert id held).card ≤ limit := by
  rw [card_insert_eq]
  exact h

theorem HasRoom.of_subset {limit : Nat} {held larger : Finset Int} {id : Int} (h : HasRoom limit larger id)
    (hsub : held ⊆ larger) : HasRoom limit held id :=
  h.imp_right (Finset.card_le_card (Finset.erase_subset_erase id hsub)).trans_lt

/-- An article, and whether it wants a place. -/
structure PlaceRequest where
  id : Int
  wanted : Bool

namespace PlaceRequest

/-- The set after an article has been given a place that it wants, if there is room, and none otherwise. -/
def settle (limit : Nat) (held : Finset Int) (request : PlaceRequest) : Finset Int :=
  if request.wanted = true ∧ HasRoom limit held request.id then insert request.id held else held.erase request.id

/-- The set after some requests, one after the other. -/
def settleAll (limit : Nat) (held : Finset Int) (requests : List PlaceRequest) : Finset Int :=
  requests.foldl (settle limit) held

/-- Of the articles of some requests only those are in the set that want to, and none if the set is above the limit. -/
structure Orderly (limit : Nat) (requests : List PlaceRequest) (held : Finset Int) : Prop where
  wanted : ∀ request ∈ requests, request.id ∈ held → request.wanted = true
  few : limit = 0 ∨ held.card ≤ limit ∨ ∀ request ∈ requests, request.id ∉ held

/-- An article that wants a place has one, unless there is no room. -/
def Content (limit : Nat) (held : Finset Int) (request : PlaceRequest) : Prop :=
  request.wanted = true → request.id ∈ held ∨ ¬HasRoom limit held request.id

section

variable {limit : Nat} {held : Finset Int} {request : PlaceRequest} {requests before rest : List PlaceRequest}

/-! ## Once -/

/-- Settling a further request keeps a set orderly, whatever articles of other requests were in it before. -/
theorem Orderly.settle_new (h : Orderly limit before held) (hnew : request.id ∉ before.map PlaceRequest.id) :
    Orderly limit (before ++ [request]) (settle limit held request) := by
  have hne : ∀ other ∈ before, other.id ≠ request.id := fun other hm he => hnew (he ▸ List.mem_map_of_mem hm)
  rw [settle]
  split
  · next hgiven =>
    refine ⟨fun other hm hin => ?_, hgiven.2.card_insert_le.imp_right .inl⟩
    rcases List.mem_append.mp hm with hm | hm
    · exact h.wanted other hm (Finset.mem_of_mem_insert_of_ne hin (hne other hm))
    · rw [List.mem_singleton.mp hm]
      exact hgiven.1
  · refine ⟨fun other hm hin => ?_, h.few.imp_right fun hor => hor.imp ?_ fun hnone other hm hin => ?_⟩
    · rcases List.mem_append.mp hm with hm | hm
      · exact h.wanted other hm (Finset.mem_of_mem_erase hin)
      · rw [List.mem_singleton.mp hm] at hin
        exact absurd hin (Finset.notMem_erase _ _)
    · exact (Finset.card_le_card (Finset.erase_subset _ _)).trans
    · rcases List.mem_append.mp hm with hm | hm
      · exact hnone other hm (Finset.mem_of_mem_erase hin)
      · rw [List.mem_singleton.mp hm] at hin
        exact Finset.notMem_erase _ _ hin

/-- Settling further requests keeps a set orderly. -/
theorem Orderly.settleAll_new (h : Orderly limit before held) (hnodup : ((before ++ rest).map PlaceRequest.id).Nodup) :
    Orderly limit (before ++ rest) (settleAll limit held rest) := by
  induction rest generalizing before held with
  | nil => rwa [List.append_nil]
  | cons request rest ih =>
    have hnew : request.id ∉ before.map PlaceRequest.id := by
      rw [List.map_append, List.map_cons] at hnodup
      exact fun hm => (List.nodup_append.mp hnodup).2.2 _ hm _ List.mem_cons_self rfl
    rw [List.append_cons] at hnodup ⊢
    exact ih (h.settle_new hnew) hnodup

/-- Settling a list of requests leaves an orderly set. -/
theorem orderly_settleAll (limit : Nat) (held : Finset Int) (hnodup : (requests.map PlaceRequest.id).Nodup) :
    Orderly limit requests (settleAll limit held requests) := by
  have hstart : Orderly limit [] held := ⟨nofun, .inr (.inr nofun)⟩
  exact hstart.settleAll_new hnodup

theorem orderly_empty (limit : Nat) (requests : List PlaceRequest) : Orderly limit requests ∅ :=
  ⟨fun _ _ hin => absurd hin (Finset.notMem_empty _), .inr (.inr fun _ _ => Finset.notMem_empty _)⟩

/-! ## Once more -/

/-- In an orderly set there is room for an article that is in it. -/
theorem Orderly.hasRoom (h : Orderly limit requests held) (hm : request ∈ requests) (hin : request.id ∈ held) :
    HasRoom limit held request.id := by
  rcases h.few with hzero | hfew | hnone
  · exact .inl hzero
  · exact .inr ((Finset.card_erase_lt_of_mem hin).trans_le hfew)
  · exact absurd hin (hnone request hm)

/-- Settling a request of an orderly set puts its article in or does nothing. -/
theorem Orderly.settle_eq (h : Orderly limit requests held) (hm : request ∈ requests) :
    settle limit held request = if request.wanted = true ∧ HasRoom limit held request.id then insert request.id held
      else held := by
  rw [settle]
  split
  · rfl
  · next hdenied =>
    exact Finset.erase_eq_of_notMem fun hin => hdenied ⟨h.wanted request hm hin, h.hasRoom hm hin⟩

/-- Settling a request of an orderly set takes no article out. -/
theorem Orderly.subset_settle (h : Orderly limit requests held) (hm : request ∈ requests) :
    held ⊆ settle limit held request := by
  rw [h.settle_eq hm]
  split
  · exact Finset.subset_insert _ _
  · exact Finset.Subset.refl _

/-- Settling one of its requests keeps a set orderly. -/
theorem Orderly.settle (h : Orderly limit requests held) (hnodup : (requests.map PlaceRequest.id).Nodup)
    (hm : request ∈ requests) : Orderly limit requests (settle limit held request) := by
  rw [h.settle_eq hm]
  split
  · next hgiven =>
    refine ⟨fun other ho hin => ?_, hgiven.2.card_insert_le.imp_right .inl⟩
    rcases Finset.mem_insert.mp hin with he | hin
    · rw [List.inj_on_of_nodup_map hnodup ho hm he]
      exact hgiven.1
    · exact h.wanted other ho hin
  · exact h

/-- A request that was settled is content. -/
theorem Orderly.content_settle (h : Orderly limit requests held) (hm : request ∈ requests) :
    Content limit (PlaceRequest.settle limit held request) request := by
  intro hwanted
  rw [h.settle_eq hm]
  split
  · exact .inl (Finset.mem_insert_self _ _)
  · next hdenied => exact .inr fun hroom => hdenied ⟨hwanted, hroom⟩

theorem Content.of_subset {larger : Finset Int} (h : Content limit held request) (hsub : held ⊆ larger) :
    Content limit larger request :=
  fun hwanted => (h hwanted).imp (hsub ·) fun hfull hroom => hfull (hroom.of_subset hsub)

/-- Settling a request that is content does nothing. -/
theorem Orderly.settle_of_content (h : Orderly limit requests held) (hm : request ∈ requests)
    (hcontent : Content limit held request) : PlaceRequest.settle limit held request = held := by
  rw [h.settle_eq hm]
  split
  · next hgiven => exact Finset.insert_eq_of_mem ((hcontent hgiven.1).resolve_right fun hfull => hfull hgiven.2)
  · rfl

/-- Settling requests of an orderly set keeps it orderly, takes no article out and makes them content. -/
theorem Orderly.settleAll (h : Orderly limit requests held) (hnodup : (requests.map PlaceRequest.id).Nodup)
    (hsub : ∀ request ∈ rest, request ∈ requests) :
    Orderly limit requests (settleAll limit held rest) ∧ held ⊆ settleAll limit held rest ∧
      ∀ request ∈ rest, Content limit (settleAll limit held rest) request := by
  induction rest generalizing held with
  | nil => exact ⟨h, Finset.Subset.refl _, nofun⟩
  | cons request rest ih =>
    have hm := hsub request List.mem_cons_self
    obtain ⟨horderly, hgrown, hcontent⟩ :=
      ih (h.settle hnodup hm) fun other ho => hsub other (List.mem_cons_of_mem _ ho)
    refine ⟨horderly, (h.subset_settle hm).trans hgrown, fun other ho => ?_⟩
    rcases List.mem_cons.mp ho with rfl | ho
    · exact (h.content_settle hm).of_subset hgrown
    · exact hcontent other ho

/-- **After all requests of an orderly set have been settled, settling one of them again changes nothing.** -/
theorem Orderly.settle_settleAll (h : Orderly limit requests held) (hnodup : (requests.map PlaceRequest.id).Nodup)
    (hm : request ∈ requests) :
    PlaceRequest.settle limit (PlaceRequest.settleAll limit held requests) request =
      PlaceRequest.settleAll limit held requests := by
  obtain ⟨horderly, -, hcontent⟩ := h.settleAll hnodup fun _ hr => hr
  exact horderly.settle_of_content hm (hcontent request hm)

/-! ## From nothing -/

/-- Requests of articles that are not in the set: the places that are left go to the first ones that want one. -/
theorem settleAll_of_notMem (hpos : 0 < limit) (hnodup : (requests.map PlaceRequest.id).Nodup)
    (hnew : ∀ request ∈ requests, request.id ∉ held) :
    settleAll limit held requests =
      held ∪ (((requests.filter PlaceRequest.wanted).take (limit - held.card)).map PlaceRequest.id).toFinset := by
  -- The induction is on the requests; the places that are left are those that the set leaves.
  induction requests generalizing held with
  | nil => simp [settleAll]
  | cons request rest ih =>
    obtain ⟨hrest, hnodup⟩ := List.nodup_cons.mp hnodup
    have hnot := hnew request List.mem_cons_self
    have hothers : ∀ other ∈ rest, other.id ∉ held := fun other ho => hnew other (List.mem_cons_of_mem _ ho)
    have hroom : HasRoom limit held request.id ↔ held.card < limit := by
      rw [HasRoom, Finset.erase_eq_of_notMem hnot]
      omega
    rw [settleAll, List.foldl_cons, ← settleAll, settle, List.filter_cons]
    cases hwanted : request.wanted with
    | false =>
      rw [if_neg (by simp), if_neg (by simp), Finset.erase_eq_of_notMem hnot, ih hnodup hothers]
    | true =>
      rw [if_pos rfl]
      by_cases hlt : held.card < limit
      · have hnext : ∀ other ∈ rest, other.id ∉ insert request.id held := by
          intro other ho hin
          rcases Finset.mem_insert.mp hin with he | hin
          · exact hrest (he ▸ List.mem_map_of_mem ho)
          · exact hothers other ho hin
        have hleft : limit - held.card = limit - (held.card + 1) + 1 := by omega
        rw [if_pos ⟨rfl, hroom.mpr hlt⟩, ih hnodup hnext, Finset.card_insert_of_notMem hnot, hleft, List.take_succ_cons,
          List.map_cons, List.toFinset_cons, Finset.union_insert, Finset.insert_union]
      · have hleft : limit - held.card = 0 := by omega
        rw [if_neg fun h => hlt (hroom.mp h.2), Finset.erase_eq_of_notMem hnot, ih hnodup hothers, hleft,
          List.take_zero, List.take_zero]

/-- **Settled from nothing, a list of requests gives the places to the first that want one.** -/
theorem settleAll_empty (hpos : 0 < limit) (hnodup : (requests.map PlaceRequest.id).Nodup) :
    settleAll limit ∅ requests = (((requests.filter PlaceRequest.wanted).take limit).map PlaceRequest.id).toFinset := by
  rw [settleAll_of_notMem hpos hnodup fun _ _ => Finset.notMem_empty _, Finset.empty_union, Finset.card_empty,
    Nat.sub_zero]

end

end PlaceRequest

end FrontPage
