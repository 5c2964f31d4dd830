import FrontPage.Pipeline.Hooks
import FrontPage.Proofs.Pipeline.Running

/-!
# Hooks hand articles back

Whatever becomes of the work that a hook does, something is handed back (`gives_handBack`), so that a hook on an article
gives something in every state of the pipeline (`exists_runHook`). What hooks give is what they were given, but the
hooks before a creation or update may give an article the two identifiers of a menu (`Hook.HandsBack`,
`yields_runHook`). Together this is `runHook_hands_back`.
-/

namespace FrontPage

/-! ## What actions give -/

/-- Whatever the action gives has a property. -/
def Yields {α : Type} (action : Action α) (P : α → Prop) : Prop :=
  ∀ pipeline a after, Gives action pipeline a after → P a

namespace Yields

variable {α β : Type} {action other : Action α} {next : α → Action β} {P : α → Prop} {Q : β → Prop}

theorem pure {a : α} (h : P a) : Yields (Pure.pure a) P := by
  intro pipeline found after hgives
  exact (hgives.unique (.pure a pipeline)).1 ▸ h

theorem throw (cause : Failure) : Yields (MonadExcept.throw cause : Action α) P := by
  intro pipeline found after hgives
  exact absurd hgives (Fails.throw cause pipeline).not_gives

theorem bind (h : Yields action P) (hnext : ∀ a, P a → Yields (next a) Q) : Yields (action >>= next) Q := by
  intro pipeline found after hgives
  obtain ⟨a, between, hfirst, hrest⟩ := hgives.of_bind
  exact hnext a (h _ _ _ hfirst) _ _ _ hrest

/-- It is enough that the last part of an action gives what has the property. -/
theorem bind_last (h : ∀ a, Yields (next a) Q) : Yields (action >>= next) Q := by
  intro pipeline found after hgives
  obtain ⟨a, between, -, hrest⟩ := hgives.of_bind
  exact h a _ _ _ hrest

theorem ite {c : Prop} [Decidable c] (h : Yields action P) (hother : Yields other P) :
    Yields (if c then action else other) P := by
  split
  · exact h
  · exact hother

theorem inside (steps : Nat) (h : Yields action P) : Yields (Action.inside steps action) P := by
  intro pipeline found after hgives
  obtain ⟨between, hinside, -⟩ := hgives.of_inside
  exact h _ _ _ hinside

/-- An attempt gives a failure or what the action gives. -/
theorem exists_attempt (h : Yields action P) (pipeline : Pipeline) :
    ∃ result after, Gives (Action.attempt action) pipeline result after ∧ ∀ a, result = .ok a → P a :=
  ⟨_, _, Gives.attempt_run action pipeline, fun _ ha => h _ _ _ (Prod.ext ha rfl)⟩

end Yields

namespace Pipeline

open FrontPage.Action

/-! ## Menus -/

/-- What a menus document says about an article gives it the identifiers of a menu, or leaves it as it is. -/
theorem resolveMenu_cases (article : Record) (document : Option Value) :
    resolveMenu article document = article ∨ ∃ entry, resolveMenu article document = withMenu article entry := by
  unfold resolveMenu
  split
  · split
    · exact .inr ⟨_, rfl⟩
    · exact .inl rfl
  · exact .inl rfl

/-- An article whose menu was resolved has the identifiers of a menu, or is as it was. -/
theorem yields_resolveArticleMenu (article : Record) :
    Yields (resolveArticleMenu article) fun item => item = article ∨ ∃ entry, item = withMenu article entry := by
  unfold resolveArticleMenu
  apply Yields.bind_last
  intro pipeline
  cases pipeline.outages.menu with
  | some message => exact .bind (P := fun _ => False) (.throw _) fun _ h => h.elim
  | none =>
    cases menuNameOf? article with
    | none => exact .pure (.inl rfl)
    | some name =>
      apply Yields.bind_last
      intro found
      cases found with
      | ok document => exact .pure (resolveMenu_cases article document)
      | error cause => exact .pure (.inl rfl)

/-! ## Handing back -/

/-- What is handed back is what the work gives, and the record when the work fails. -/
theorem gives_handBack (data : Value) (work : Action Value) (pipeline : Pipeline) :
    Gives (handBack data work) pipeline ((work.run pipeline).1.toOption.getD data) (work.run pipeline).2 := by
  refine (Gives.attempt_run work pipeline).bind ?_
  cases (work.run pipeline).1 <;> exact .pure _ _

/-- Work hands back what it gives, and the record if it fails. -/
theorem yields_handBack {data : Value} {work : Action Value} {P : Value → Prop} (hdata : P data) (h : Yields work P) :
    Yields (handBack data work) P := by
  intro pipeline item after hgives
  obtain ⟨rfl, -⟩ := hgives.unique (gives_handBack data work pipeline)
  cases hwork : (work.run pipeline).1 with
  | ok value => exact h _ _ _ (Prod.ext hwork rfl)
  | error cause => exact hdata

end Pipeline

/-- What a hook gives back of a value that it is given: the same, or an article with the identifiers of a menu if it is
a hook before a creation or update. -/
inductive Hook.HandsBack (hook : Hook) (data : Value) : Value → Prop
  | same : HandsBack hook data data
  | menu {article entry : Record} : hook = .beforeCreate ∨ hook = .beforeUpdate → data = .record article →
      HandsBack hook data (.record (withMenu article entry))

namespace Pipeline

open FrontPage.Action

/-- The work of a hook before a creation or update. -/
theorem yields_beforeChange {hook : Hook} (hhook : hook = .beforeCreate ∨ hook = .beforeUpdate) (data : Value)
    (workplace : Workplace) :
    Yields (if workplace = .pipeline then handBack data do pure (.record (← resolveArticleMenu (← asRecord data)))
      else pure data) (hook.HandsBack data) := by
  apply Yields.ite
  · refine yields_handBack .same ?_
    cases data with
    | record article =>
      refine .bind (P := (· = article)) (.pure rfl) ?_
      rintro _ rfl
      refine .bind (yields_resolveArticleMenu _) ?_
      rintro item (rfl | ⟨entry, rfl⟩)
      · exact .pure .same
      · exact .pure (.menu hhook rfl)
    | _ => exact .bind (P := fun _ => False) (.throw _) fun _ h => h.elim
  · exact .pure .same

/-- What hooks give. -/
theorem yields_runHook (hook : Hook) (data previous : Value) (workplace : Workplace) :
    Yields (runHook hook data previous workplace) (hook.HandsBack data) := by
  unfold runHook
  apply Yields.inside
  cases hook with
  | beforeCreate => exact yields_beforeChange (.inl rfl) data workplace
  | beforeUpdate => exact yields_beforeChange (.inr rfl) data workplace
  | beforeDelete => exact .pure .same
  | afterCreate => exact .bind_last fun _ => yields_handBack .same (.bind_last fun _ => .pure .same)
  | afterUpdate =>
    exact .bind_last fun _ => yields_handBack .same (.bind_last fun _ => .bind_last fun _ => .pure .same)
  | afterDelete =>
    refine .bind_last fun _ => yields_handBack .same ?_
    exact .ite (.pure .same) (.bind_last fun _ => .pure .same)

/-- A hook on an article gives something in every state. -/
theorem exists_runHook (hook : Hook) (article : Record) (previous : Value) (workplace : Workplace)
    (pipeline : Pipeline) :
    ∃ item after, Gives (runHook hook (.record article) previous workplace) pipeline item after := by
  have hhandBack (work : Action Value) (pipeline : Pipeline) :
      Gives (do let _ ← asRecord (.record article); handBack (.record article) work) pipeline _ _ :=
    (Gives.pure article pipeline).bind (gives_handBack (.record article) work pipeline)
  unfold runHook
  cases hook with
  | beforeCreate | beforeUpdate =>
    by_cases hplace : workplace = .pipeline
    · rw [if_pos hplace]
      exact ⟨_, _, (gives_handBack _ _ _).inside⟩
    · rw [if_neg hplace]
      exact ⟨_, _, (Gives.pure _ _).inside⟩
  | beforeDelete => exact ⟨_, _, (Gives.pure _ _).inside⟩
  | afterCreate | afterUpdate | afterDelete => exact ⟨_, _, (hhandBack _ _).inside⟩

/-- **A hook hands its article back.** Whatever state the pipeline is in, whatever the record was before and whatever
there is to work in, a hook on an article gives an article. Only the hooks before a creation or update change it, and
they change nothing but the two identifiers of its menu: either both or none of them. -/
theorem runHook_hands_back (hook : Hook) (article : Record) (previous : Value) (workplace : Workplace)
    (pipeline : Pipeline) :
    ∃ item after, Gives (runHook hook (.record article) previous workplace) pipeline (.record item) after ∧
      (hook ≠ .beforeCreate → hook ≠ .beforeUpdate → item = article) ∧
      (∀ name, name ≠ "menu_id" → name ≠ "sub_menu_id" → Record.get? item name = Record.get? article name) ∧
      (item = article ∨ ∃ entry : Record, Record.get? item "menu_id" = some (Record.get entry "menu_id") ∧
        Record.get? item "sub_menu_id" = some (Record.get entry "sub_menu_id")) := by
  obtain ⟨value, after, hgives⟩ := exists_runHook hook article previous workplace pipeline
  have hvalue := yields_runHook hook (.record article) previous workplace _ _ _ hgives
  cases hvalue with
  | same => exact ⟨article, after, hgives, fun _ _ => rfl, fun _ _ _ => rfl, .inl rfl⟩
  | @menu found entry hhook harticle =>
    obtain rfl : article = found := Value.record.inj harticle
    refine ⟨withMenu article entry, after, hgives, ?_, ?_, .inr ⟨entry, ?_, ?_⟩⟩
    · intro hcreate hupdate
      exact (hhook.elim hcreate hupdate).elim
    · intro name hmenu hsub
      rw [withMenu, Record.get?_set_of_ne _ _ hsub, Record.get?_set_of_ne _ _ hmenu]
    · rw [withMenu, Record.get?_set_of_ne _ _ (by decide), Record.get?_set_self]
    · rw [withMenu, Record.get?_set_self]

end Pipeline

end FrontPage
