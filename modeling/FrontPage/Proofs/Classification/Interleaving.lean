import FrontPage.Proofs.Classification.History
import FrontPage.Proofs.Classification.OwnRow

/-!
# The order between articles

Where no layout of a flag has a limit, what a run of calls does to an article is what the calls on this article do alone
(`run_own`): each call goes by its own row and leaves the others. So calls may be interleaved between articles in any
way: the same table is left, and every call gives the same flags (`interleavings_agree`).
-/

namespace FrontPage

/-- The call is on an article. -/
def Call.isOn (call : Call) (id : Int) : Bool := call.term == .exactly id

/-- The calls on an article, each with the flags that it gives. -/
def answers (id : Int) (turns : List Turn) : List (Call × Option FlagSet) :=
  (turns.filter fun turn => turn.call.isOn id).map fun turn => (turn.call, turn.flags)

theorem answers_cons (id : Int) (turn : Turn) (turns : List Turn) :
    answers id (turn :: turns) =
      if turn.call.isOn id then (turn.call, turn.flags) :: answers id turns else answers id turns := by
  rw [answers, answers, List.filter_cons]
  split <;> rfl

/-- The call is on an article whose identifier is a whole number, and no active layout of a flag has a limit. -/
structure Call.IsFree (call : Call) : Prop where
  named : ∃ id, Record.get call.record idColumn = .int id
  unlimited : call.IsUnlimited

namespace Call

variable {call : Call} {id : Int}

theorem isOn_iff (h : ∃ id, Record.get call.record idColumn = .int id) :
    call.isOn id = true ↔ Record.get call.record idColumn = .int id := by
  obtain ⟨named, hnamed⟩ := h
  rw [isOn, beq_iff_eq, term, IdTerm.ofValue_of_int hnamed, hnamed]
  constructor
  · intro hterm
    rw [IdTerm.exactly.inj hterm]
  · intro hid
    cases hid
    rfl

/-- A call on another article leaves the row of an article. -/
theorem find?_after_of_not_isOn (h : ∃ id, Record.get call.record idColumn = .int id) (hother : call.isOn id = false)
    (table : Table) : (call.after table).find? id = table.find? id := by
  obtain ⟨named, hnamed⟩ := h
  have hterm : call.term = .exactly named := IdTerm.ofValue_of_int hnamed
  refine (call.effect table).find?_of_ne hterm fun hid => ?_
  rw [isOn, hterm, hid, beq_self_eq_true] at hother
  cases hother

end Call

/-- **What a run does to an article is what the calls on it do alone**, on any table with the same row of it. -/
theorem run_own {calls : List Call} (hfree : ∀ call ∈ calls, call.IsFree) (id : Int) {s t : Table}
    (h : s.find? id = t.find? id) :
    (Call.afterAll calls s).find? id = (Call.afterAll (calls.filter (·.isOn id)) t).find? id ∧
      answers id (Turn.all s calls) = answers id (Turn.all t (calls.filter (·.isOn id))) := by
  induction calls generalizing s t with
  | nil => exact ⟨h, rfl⟩
  | cons call rest ih =>
    have hcall := hfree call List.mem_cons_self
    have hrest : ∀ other ∈ rest, other.IsFree := fun other ho => hfree other (List.mem_cons_of_mem _ ho)
    rw [List.filter_cons, Turn.all, answers_cons]
    cases hon : call.isOn id with
    | false =>
      have hkept : (call.after s).find? id = t.find? id := (Call.find?_after_of_not_isOn hcall.named hon s).trans h
      exact ih hrest hkept
    | true =>
      obtain ⟨hflags, hleft⟩ := hcall.unlimited.ownRow ((Call.isOn_iff hcall.named).mp hon) h
      obtain ⟨hrow, hanswers⟩ := ih hrest hleft
      refine ⟨hrow, ?_⟩
      rw [if_pos rfl, if_pos rfl, Turn.all, answers_cons, if_pos hon, hanswers, Turn.flags, Turn.flags, hflags]

/-- **Without limits the order between articles does not matter.** Two runs with the same calls in the same order for
each article leave the same table, and each call gives the same flags. -/
theorem interleavings_agree {calls others : List Call} (hfree : ∀ call ∈ calls, call.IsFree)
    (hothers : ∀ call ∈ others, call.IsFree)
    (hsame : ∀ id, calls.filter (·.isOn id) = others.filter (·.isOn id)) (table : Table) :
    Call.afterAll calls table = Call.afterAll others table ∧
      ∀ id, answers id (Turn.all table calls) = answers id (Turn.all table others) := by
  have hagree (id : Int) : (Call.afterAll calls table).find? id = (Call.afterAll others table).find? id ∧
      answers id (Turn.all table calls) = answers id (Turn.all table others) := by
    have hrow : table.find? id = table.find? id := rfl
    have hone := run_own hfree id hrow
    have hother := run_own hothers id hrow
    rw [← hsame] at hother
    exact ⟨hone.1.trans hother.1.symm, hone.2.trans hother.2.symm⟩
  exact ⟨Table.ext_find? fun id => (hagree id).1, fun id => (hagree id).2⟩

/-- A classification under a group without a limit and a layout of no flag with one. -/
def freeCall (id : Int) (operation : Operation) (menu : String) : Call where
  config := ⟨[{ name := "ArticleGroup1", clause := .text "menu = 'Home'" }, { name := "Headlines", limit := .int 1 }]⟩
  record := [("article_id", .int id), ("menu", .text menu)]
  operation
  now := .int 3

theorem isFree_freeCall (id : Int) (operation : Operation) (menu : String) : (freeCall id operation menu).IsFree := by
  refine ⟨⟨id, rfl⟩, fun layout hm flag hname => ?_⟩
  rcases List.mem_cons.mp hm with rfl | hm
  · have hzero : (Number.int 0).isPositive = false := by decide +kernel
    exact hzero
  · obtain rfl := List.mem_singleton.mp hm
    have hnames : ∀ flag ∈ Flag.all, "Headlines" ≠ flag.layoutName := by decide +kernel
    exact absurd hname (hnames flag (Numbered.mem_list flag))

theorem isOn_freeCall (id other : Int) (operation : Operation) (menu : String) :
    (freeCall id operation menu).isOn other = decide (id = other) := by
  rw [Bool.eq_iff_iff, Call.isOn_iff ⟨id, rfl⟩, decide_eq_true_iff]
  constructor
  · intro h
    cases h
    rfl
  · rintro rfl
    rfl

/-- Two articles take turns, or one comes after the other: the first leaves the home page in the end, and the second
stays on it. -/
theorem interleavings_agree_turns :
    let calls :=
      [freeCall 5 .create "Home", freeCall 6 .create "Home", freeCall 5 .update "News", freeCall 6 .update "Home"]
    let others :=
      [freeCall 6 .create "Home", freeCall 6 .update "Home", freeCall 5 .create "Home", freeCall 5 .update "News"]
    (∀ id, calls.filter (·.isOn id) = others.filter (·.isOn id)) ∧
    Call.afterAll calls .empty = Call.afterAll others .empty ∧
    (∀ id, answers id (Turn.all .empty calls) = answers id (Turn.all .empty others)) ∧
    (Call.afterAll calls .empty).entries.map Prod.fst = [6] := by
  intro calls others
  have hfree : ∀ call ∈ calls, call.IsFree := by
    simp [calls, isFree_freeCall]
  have hothers : ∀ call ∈ others, call.IsFree := by
    simp [others, isFree_freeCall]
  have hsame (id : Int) : calls.filter (·.isOn id) = others.filter (·.isOn id) := by
    simp only [calls, others, List.filter_cons, isOn_freeCall]
    by_cases hfirst : 5 = id
    · subst hfirst
      rfl
    · simp [hfirst]
  obtain ⟨htable, hanswers⟩ := interleavings_agree hfree hothers hsame .empty
  exact ⟨hsame, htable, hanswers, by decide +kernel⟩

end FrontPage
