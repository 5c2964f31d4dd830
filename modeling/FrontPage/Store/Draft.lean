import FrontPage.Store.Path

/-!
# Drafts

A file is written under a new name before it is moved to its place. What is there under that name is its draft. Which
name it gets is up to the `DraftNames` of a store: one that begins as the names of all drafts do, and that nothing
beside it has.
-/

namespace FrontPage

/-- The name of a draft: `tmp`, and letters behind it. -/
def isDraftName (name : String) : Bool :=
  name.toList.take 3 == "tmp".toList &&
    (name.toList.drop 3).all fun c => "abcdefghijklmnopqrstuvwxyz0123456789_".toList.contains c

/-- The path ends in the name of a draft. -/
def Path.isDraft (path : Path) : Bool := path.getLast?.any isDraftName

/-- How drafts are named: in any directory, however many paths are taken, there is a new name. How many letters it has
is left open, so that it never runs out of names. -/
structure DraftNames where
  name : Path → List Path → String
  isDraftName_name : ∀ directory taken, isDraftName (name directory taken) = true
  isNew : ∀ directory taken, directory ++ [name directory taken] ∉ taken

namespace DraftNames

/-- A draft's name with so many letters. -/
def ofLength (count : Nat) : String := String.ofList ("tmp".toList ++ List.replicate count 'a')

theorem isDraftName_ofLength (count : Nat) : isDraftName (ofLength count) = true := by
  have hdrop : ("tmp".toList ++ List.replicate count 'a').drop 3 = List.replicate count 'a' := rfl
  rw [isDraftName, ofLength, String.toList_ofList, hdrop, List.all_replicate, Bool.and_eq_true]
  refine ⟨rfl, ?_⟩
  split
  · rfl
  · decide

/-- The letters of the longest name that a path ends in. -/
def longest (taken : List Path) : Nat := (taken.map fun path => (path.getLast?.getD "").length).max?.getD 0

/-- A name of more letters is new in any directory. -/
theorem append_ofLength_notMem (directory : Path) (taken : List Path) :
    directory ++ [ofLength (longest taken + 8)] ∉ taken := by
  intro hm
  have hlength : (ofLength (longest taken + 8)).length ≤ longest taken :=
    List.le_max?_getD_of_mem (List.mem_map.mpr ⟨_, hm, by rw [List.getLast?_concat, Option.getD_some]⟩)
  rw [ofLength, String.length_ofList, List.length_append, List.length_replicate] at hlength
  exact absurd hlength (by omega)

/-- Names that are longer than all others. -/
def long : DraftNames where
  name _ taken := ofLength (longest taken + 8)
  isDraftName_name _ taken := isDraftName_ofLength (longest taken + 8)
  isNew := append_ofLength_notMem

end DraftNames

end FrontPage
