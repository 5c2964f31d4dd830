import FrontPage.Proofs.Text.Spelling
import Mathlib.Data.List.TakeWhile

/-!
# Texts with blanks around them

What `trim` leaves of a text neither begins nor ends with a blank (`Firm`), and the text is that with blanks around it
(`exists_trim`). A firm text is what is left of every text that puts blanks around it (`trim_append`).
-/

namespace FrontPage.Text

/-- A text neither begins nor ends with a blank. -/
def Firm (text : List Char) : Prop := Stops isBlank text ∧ Stops isBlank text.reverse

/-- A text whose first and last character are no blanks is firm. -/
theorem firm_of_ends {c d : Char} {text rest : List Char} (hfirst : text = c :: rest) (hc : isBlank c = false)
    {before : List Char} (hlast : text = before ++ [d]) (hd : isBlank d = false) : Firm text := by
  refine ⟨hfirst ▸ stops_cons hc, ?_⟩
  rw [hlast, List.reverse_append]
  exact stops_cons hd

/-- So is a text between a firm one in front and a firm one at the end, neither of them empty. -/
theorem Firm.append {front back : List Char} (hfront : Firm front) (hne : front ≠ []) (hback : Firm back)
    (hne' : back ≠ []) (middle : List Char) : Firm (front ++ (middle ++ back)) := by
  have hstops {text : List Char} (h : Stops isBlank text) (hne : text ≠ []) (rest : List Char) :
      Stops isBlank (text ++ rest) := by
    cases text with
    | nil => exact absurd rfl hne
    | cons c text => exact stops_cons (h c rfl)
  refine ⟨hstops hfront.1 hne _, ?_⟩
  rw [List.reverse_append, List.reverse_append, List.append_assoc]
  exact hstops hback.2 (mt List.reverse_eq_nil_iff.mp hne') _

/-- The rest of a text behind its leading blanks begins with no blank. -/
theorem stops_dropWhile (p : Char → Bool) (text : List Char) : Stops p (text.dropWhile p) := by
  intro c hc
  have hnot := List.head?_dropWhile_not p text
  rw [hc] at hnot
  exact hnot

/-- A text is what is behind its leading characters of a class, and these. -/
theorem exists_dropWhile (p : Char → Bool) (text : List Char) :
    ∃ run, (∀ c ∈ run, p c = true) ∧ text = run ++ text.dropWhile p :=
  ⟨text.takeWhile p, fun _ hc => List.mem_takeWhile_imp hc, List.takeWhile_append_dropWhile.symm⟩

/-- A text is its middle with blanks around it. -/
theorem exists_trim (text : List Char) : ∃ lead trail, (∀ c ∈ lead, isBlank c = true) ∧
    (∀ c ∈ trail, isBlank c = true) ∧ text = lead ++ (trim text ++ trail) := by
  obtain ⟨lead, hlead, htext⟩ := exists_dropWhile isBlank text
  obtain ⟨trail, htrail, hrest⟩ := exists_dropWhile isBlank (text.dropWhile isBlank).reverse
  refine ⟨lead, trail.reverse, hlead, fun c hc => htrail c (List.mem_reverse.mp hc), ?_⟩
  have hmiddle := congrArg List.reverse hrest
  rw [List.reverse_reverse, List.reverse_append] at hmiddle
  rw [trim, trimEnd, ← hmiddle]
  exact htext

/-- The blanks around a firm text are taken off. -/
theorem trim_append {lead body trail : List Char} (hlead : ∀ c ∈ lead, isBlank c = true)
    (htrail : ∀ c ∈ trail, isBlank c = true) (hbody : Firm body) : trim (lead ++ (body ++ trail)) = body := by
  cases body with
  | nil =>
    have hall : ∀ c ∈ lead ++ trail, isBlank c = true := fun c hc =>
      (List.mem_append.mp hc).elim (hlead c) (htrail c)
    have hnone : (lead ++ trail).dropWhile isBlank = [] := List.dropWhile_eq_nil_iff.mpr hall
    rw [List.nil_append, trim, hnone]
    rfl
  | cons c body =>
    have hfront : Stops isBlank (c :: body ++ trail) := stops_cons (hbody.1 c rfl)
    have hback : Stops isBlank (c :: body).reverse := hbody.2
    rw [trim, dropWhile_run hlead hfront, trimEnd, List.reverse_append,
      dropWhile_run (fun d hd => htrail d (List.mem_reverse.mp hd)) hback, List.reverse_reverse]

/-- A firm text has no blanks to take off. -/
theorem Firm.trim_eq {text : List Char} (h : Firm text) : trim text = text := by
  have hbare := @trim_append [] text [] nofun nofun h
  rwa [List.append_nil] at hbare

/-- Nothing is left of blanks, and of nothing else. -/
theorem trim_eq_nil_iff {text : List Char} : trim text = [] ↔ ∀ c ∈ text, isBlank c = true := by
  constructor
  · intro h
    obtain ⟨lead, trail, hlead, htrail, htext⟩ := exists_trim text
    rw [htext, h]
    exact fun c hc => (List.mem_append.mp hc).elim (hlead c) (htrail c)
  · intro h
    have hfirm : Firm [] := ⟨nofun, nofun⟩
    have hblanks := @trim_append text [] [] h nofun hfirm
    rwa [List.append_nil, List.append_nil] at hblanks

end FrontPage.Text
