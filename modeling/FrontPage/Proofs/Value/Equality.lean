import FrontPage.Layout.Config

/-!
# Equality of values

Values are equal if they are the same part by part (`Value.same_iff`), so that it can be decided, and so it can of what
is made of values: layouts and configurations.
-/

namespace FrontPage

namespace Value

mutual

/-- The values are the same, part by part. -/
def same : Value → Value → Bool
  | .null, .null => true
  | .bool a, .bool b => a == b
  | .number m, .number n => m == n
  | .text s, .text t => s == t
  | .list as, .list bs => sameItems as bs
  | .record fs, .record gs => sameFields fs gs
  | _, _ => false

/-- The lists are the same, item by item. -/
def sameItems : List Value → List Value → Bool
  | [], [] => true
  | a :: as, b :: bs => a.same b && sameItems as bs
  | _, _ => false

/-- The records are the same, field by field. -/
def sameFields : List (String × Value) → List (String × Value) → Bool
  | [], [] => true
  | (m, a) :: fs, (n, b) :: gs => m == n && a.same b && sameFields fs gs
  | _, _ => false

end

mutual

theorem same_refl (a : Value) : a.same a = true := by
  cases a with
  | list as => exact sameItems_refl as
  | record fs => exact sameFields_refl fs
  | _ => simp [same]

theorem sameItems_refl (as : List Value) : sameItems as as = true := by
  cases as with
  | nil => rfl
  | cons a as => rw [sameItems, same_refl a, sameItems_refl as, Bool.and_self]

theorem sameFields_refl (fs : List (String × Value)) : sameFields fs fs = true := by
  cases fs with
  | nil => rfl
  | cons f fs => rw [sameFields, same_refl f.2, sameFields_refl fs, beq_self_eq_true, Bool.and_self, Bool.and_self]

end

mutual

theorem eq_of_same {a b : Value} (h : a.same b = true) : a = b := by
  cases a with
  | list as =>
    cases b with
    | list bs => rw [eq_of_sameItems h]
    | _ => cases h
  | record fs =>
    cases b with
    | record gs => rw [eq_of_sameFields h]
    | _ => cases h
  | _ => cases b <;> simp_all [same]

theorem eq_of_sameItems {as bs : List Value} (h : sameItems as bs = true) : as = bs := by
  cases as with
  | nil => cases bs <;> simp_all [sameItems]
  | cons a as =>
    cases bs with
    | nil => cases h
    | cons b bs =>
      rw [sameItems, Bool.and_eq_true] at h
      rw [eq_of_same h.1, eq_of_sameItems h.2]

theorem eq_of_sameFields {fs gs : List (String × Value)} (h : sameFields fs gs = true) : fs = gs := by
  cases fs with
  | nil => cases gs <;> simp_all [sameFields]
  | cons f fs =>
    cases gs with
    | nil => cases h
    | cons g gs =>
      obtain ⟨m, a⟩ := f
      obtain ⟨n, b⟩ := g
      rw [sameFields, Bool.and_eq_true, Bool.and_eq_true] at h
      rw [eq_of_beq h.1.1, eq_of_same h.1.2, eq_of_sameFields h.2]

end

theorem same_iff {a b : Value} : a.same b = true ↔ a = b := ⟨eq_of_same, fun h => h ▸ same_refl a⟩

instance : DecidableEq Value := fun _ _ => decidable_of_iff _ same_iff

end Value

deriving instance DecidableEq for Layout
deriving instance DecidableEq for LayoutConfig

end FrontPage
