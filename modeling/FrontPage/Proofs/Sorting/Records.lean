import FrontPage.Proofs.Sorting.Insertion
import FrontPage.Proofs.Value.Comparison
import FrontPage.Proofs.Value.Equality
import FrontPage.Sorting

/-!
# Sorting records

A specification orders records by the first field in which they are not the same (`SortSpec.Precedes`,
`SortSpec.ties`). Over records whose fields can be sorted by (`Sortable`) this is an order (`SortSpec.transCmp_order`),
so that there is one stably sorted list (`stablySorted_order`). That is what the records are sorted to, as they are and
as values (`sortRecords_stable`). A field can be sorted by if it is a number in all records or in none
(`Uniform.sortable`).
-/

namespace FrontPage

/-! ## The order of a specification -/

/-- The name of a direction. -/
def Direction.name : Direction → String
  | .ascending => "ASC"
  | .descending => "DESC"

/-- A key as a value: the pair of its field and the name of its direction. -/
def SortKey.asValue (key : SortKey) : Value := .list [.text key.field, .text key.direction.name]

/-- A specification as a value. -/
def SortSpec.asValue (spec : SortSpec) : Value := .list (spec.map SortKey.asValue)

/-- A record goes before another by a key: its field is smaller, or larger if the key descends. -/
def SortKey.Precedes (key : SortKey) (a b : Record) : Prop :=
  match key.direction with
  | .ascending => (Record.get a key.field).Below (Record.get b key.field)
  | .descending => (Record.get b key.field).Below (Record.get a key.field)

/-- A record goes before another by the first key whose field is not the same in both. -/
inductive SortSpec.Precedes : SortSpec → Record → Record → Prop
  | first {key : SortKey} {rest : SortSpec} {a b : Record} : key.Precedes a b → Precedes (key :: rest) a b
  | later {key : SortKey} {rest : SortSpec} {a b : Record} :
      (Record.get a key.field).sameAs (Record.get b key.field) = true → Precedes rest a b → Precedes (key :: rest) a b

/-- Two records are the same in all fields of a specification. -/
def SortSpec.ties (spec : SortSpec) (a b : Record) : Bool :=
  spec.all fun key => (Record.get a key.field).sameAs (Record.get b key.field)

/-- The fields of a specification are numbers in a record, or not, but none is what is not a number. -/
def SortSpec.Proper (spec : SortSpec) (a : Record) : Prop :=
  ∀ key ∈ spec, Record.get a key.field ≠ .number (.float .nan)

section

variable {spec : SortSpec} {key : SortKey} {a b : Record}

/-- A key does not tell records apart that are the same in its field. -/
theorem SortKey.compare_eq_eq_iff :
    key.compare a b = .eq ↔ (Record.get a key.field).sameAs (Record.get b key.field) = true := by
  rw [← Value.compareWith_eq_eq_iff, compare]
  cases key.direction with
  | ascending => rfl
  | descending => exact Ordering.swap_eq_eq

/-- A key says smaller of a record that goes before another by it. -/
theorem SortKey.compare_eq_lt_iff (ha : Record.get a key.field ≠ .number (.float .nan))
    (hb : Record.get b key.field ≠ .number (.float .nan)) : key.compare a b = .lt ↔ key.Precedes a b := by
  rw [compare, Precedes]
  cases key.direction with
  | ascending => exact Value.compareWith_eq_lt_iff ha hb
  | descending =>
    show (Value.compareWith _ _).swap = .lt ↔ _
    rw [← Value.compareWith_swap hb ha]
    exact Value.compareWith_eq_lt_iff hb ha

/-- A specification does not tell records apart that tie. -/
theorem SortSpec.compare_eq_eq_iff : SortSpec.compare spec a b = .eq ↔ spec.ties a b = true := by
  induction spec with
  | nil => exact ⟨fun _ => rfl, fun _ => rfl⟩
  | cons key rest ih =>
    rw [compare, Ordering.then_eq_eq, SortKey.compare_eq_eq_iff, ih, ties, ties, List.all_cons, Bool.and_eq_true]

/-- A specification says smaller of a record that goes before another by it. -/
theorem SortSpec.compare_eq_lt_iff (ha : spec.Proper a) (hb : spec.Proper b) :
    SortSpec.compare spec a b = .lt ↔ spec.Precedes a b := by
  induction spec with
  | nil => exact ⟨nofun, nofun⟩
  | cons key rest ih =>
    obtain ⟨hakey, harest⟩ := List.forall_mem_cons.mp ha
    obtain ⟨hbkey, hbrest⟩ := List.forall_mem_cons.mp hb
    rw [compare, Ordering.then_eq_lt, SortKey.compare_eq_lt_iff hakey hbkey, SortKey.compare_eq_eq_iff,
      ih harest hbrest]
    constructor
    · rintro (hfirst | ⟨hsame, hlater⟩)
      · exact .first hfirst
      · exact .later hsame hlater
    · intro h
      cases h with
      | first hfirst => exact .inl hfirst
      | later hsame hlater => exact .inr ⟨hsame, hlater⟩

/-- Records are compared by two specifications one after the other. -/
theorem SortSpec.compare_append (first second : SortSpec) (a b : Record) :
    SortSpec.compare (first ++ second) a b =
      (SortSpec.compare first a b).then (SortSpec.compare second a b) := by
  induction first with
  | nil => rfl
  | cons key rest ih => rw [List.cons_append, compare, compare, ih, Ordering.then_assoc]

end

/-! ## Fields that can be sorted by -/

/-- A field can be sorted by: in no record it is what is not a number, and no two numbers of it are tangled with a
text of it. -/
structure Sortable (records : List Record) (field : String) : Prop where
  proper : ∀ a ∈ records, Record.get a field ≠ .number (.float .nan)
  untangled : ∀ a ∈ records, ∀ b ∈ records, ∀ c ∈ records,
    ¬(Record.get a field).Tangled (Record.get b field) (Record.get c field)

/-- A field is a number in all records, and none that is not one, or it is a number in none of them. -/
def Uniform (records : List Record) (field : String) : Prop :=
  (∀ a ∈ records, ∃ n, (Record.get a field).toNumber? = some n ∧ n ≠ .float .nan) ∨
    ∀ a ∈ records, (Record.get a field).toNumber? = none

/-- All fields of a specification are numbers in all records or in none of them. -/
def SortSpec.Uniform (spec : SortSpec) (records : List Record) : Prop :=
  ∀ key ∈ spec, FrontPage.Uniform records key.field

/-- All fields of a specification can be sorted by. -/
def SortSpec.Sortable (spec : SortSpec) (records : List Record) : Prop :=
  ∀ key ∈ spec, FrontPage.Sortable records key.field

section

variable {records : List Record} {field : String}

/-- A uniform field can be sorted by: a tangle needs numbers and what is none. -/
theorem Uniform.sortable (h : Uniform records field) : Sortable records field := by
  rcases h with h | h
  · refine ⟨fun a ha hnan => ?_, fun a _ b _ c hc htangled => ?_⟩
    · obtain ⟨n, hn, hne⟩ := h a ha
      rw [hnan, Value.toNumber?_number] at hn
      exact hne (Option.some.inj hn).symm
    · obtain ⟨n, hn, -⟩ := h c hc
      rw [htangled.noNumber] at hn
      cases hn
  · refine ⟨fun a ha hnan => ?_, fun a ha b _ c _ htangled => ?_⟩
    · have hnone := h a ha
      rw [hnan, Value.toNumber?_number] at hnone
      cases hnone
    · obtain ⟨m, n, hm, -⟩ := htangled.upward
      rw [h a ha] at hm
      cases hm

/-- The values of a field that can be sorted by are in an order. -/
theorem Sortable.transCmp_compareWith (h : Sortable records field) :
    Std.TransCmp fun a b : { r // r ∈ records } => (Record.get a.1 field).compareWith (Record.get b.1 field) := by
  let values (v : Value) : Prop := ∃ r ∈ records, Record.get r field = v
  have hproper (v : Value) (hv : values v) : v ≠ .number (.float .nan) := by
    obtain ⟨r, hr, rfl⟩ := hv
    exact h.proper r hr
  have huntangled (x y t : Value) (hx : values x) (hy : values y) (ht : values t) : ¬x.Tangled y t := by
    obtain ⟨a, ha, rfl⟩ := hx
    obtain ⟨b, hb, rfl⟩ := hy
    obtain ⟨c, hc, rfl⟩ := ht
    exact h.untangled a ha b hb c hc
  have htrans := (Value.compareWith_trans_iff hproper).mpr huntangled
  exact {
    eq_swap := fun {a b} => Value.compareWith_swap (h.proper a.1 a.2) (h.proper b.1 b.2)
    isLE_trans := fun {a b c} => htrans _ _ _ ⟨a.1, a.2, rfl⟩ ⟨b.1, b.2, rfl⟩ ⟨c.1, c.2, rfl⟩ }

/-- So are the records by a key with such a field, whatever its direction. -/
theorem Sortable.transCmp_compare {key : SortKey} (h : Sortable records key.field) :
    Std.TransCmp fun a b : { r // r ∈ records } => key.compare a.1 b.1 := by
  have htrans := h.transCmp_compareWith
  cases hdirection : key.direction with
  | ascending =>
    have hkey : (fun a b : { r // r ∈ records } => key.compare a.1 b.1) =
        fun a b => (Record.get a.1 key.field).compareWith (Record.get b.1 key.field) := by
      funext a b
      rw [SortKey.compare, hdirection]
    rw [hkey]
    exact htrans
  | descending =>
    have hkey : (fun a b : { r // r ∈ records } => key.compare a.1 b.1) =
        fun a b => (Record.get b.1 key.field).compareWith (Record.get a.1 key.field) := by
      funext a b
      rw [SortKey.compare, hdirection]
      exact (Value.compareWith_swap (h.proper b.1 b.2) (h.proper a.1 a.2)).symm
    rw [hkey]
    exact htrans.opposite

end

/-- The order of some records by a specification. -/
def SortSpec.order (spec : SortSpec) (records : List Record) (a b : { r // r ∈ records }) : Ordering :=
  SortSpec.compare spec a.1 b.1

section

variable {spec : SortSpec} {records : List Record}

theorem SortSpec.Uniform.sortable (h : spec.Uniform records) : spec.Sortable records :=
  fun key hkey => (h key hkey).sortable

theorem SortSpec.Sortable.proper (h : spec.Sortable records) (a : { r // r ∈ records }) : spec.Proper a.1 :=
  fun key hkey => (h key hkey).proper a.1 a.2

/-- **A specification orders records whose fields can be sorted by.** -/
theorem SortSpec.transCmp_order (h : spec.Sortable records) : Std.TransCmp (spec.order records) := by
  induction spec with
  | nil => exact { eq_swap := rfl, isLE_trans := fun _ _ => rfl }
  | cons key rest ih =>
    obtain ⟨hkey, hrest⟩ := List.forall_mem_cons.mp h
    have hfirst := hkey.transCmp_compare
    have hlater := ih hrest
    exact inferInstanceAs (Std.TransCmp (compareLex (fun a b : { r // r ∈ records } => key.compare a.1 b.1)
      (SortSpec.order rest records)))

/-! ## The sorted records -/

/-- Records are sorted as members of any list that has them. -/
theorem sortRecords_members (spec : SortSpec) (members : List { r // r ∈ records }) :
    sortRecords spec (members.map Subtype.val) =
      (members.mergeSort fun a b => (spec.order records a b).isLE).map Subtype.val := by
  rw [sortRecords]
  refine (List.map_mergeSort fun a _ b _ => ?_).symm
  exact Ordering.isLE_eq_not_beq_gt

theorem sortRecords_eq (spec : SortSpec) (records : List Record) :
    sortRecords spec records =
      (records.attach.mergeSort fun a b => (spec.order records a b).isLE).map Subtype.val := by
  rw [← sortRecords_members, List.attach_map_subtype_val]

/-- A pair of a field and the name of a direction is read as the key that it is. -/
theorem SortEntry.ofValues_asValue (spec : SortSpec) :
    SortEntry.ofValues (spec.map SortKey.asValue) = (spec.map some, none) := by
  induction spec with
  | nil => rfl
  | cons key rest ih =>
    have hpair : SortEntry.ofPair key.asValue = .ok (some key) := by
      obtain ⟨field, direction⟩ := key
      cases direction <;> rfl
    rw [List.map_cons, List.map_cons, SortEntry.ofValues, hpair]
    dsimp only
    rw [ih]

/-- Records as values are compared as records. -/
theorem SortEntry.compare_records (spec : SortSpec) (a b : Record) :
    SortEntry.compare (spec.map some) none (.record a) (.record b) = .ok (SortSpec.compare spec a b) := by
  induction spec with
  | nil => rfl
  | cons key rest ih =>
    rw [List.map_cons, SortEntry.compare, Option.elim_some, SortSpec.compare]
    cases key.compare a b with
    | eq => exact ih
    | _ => rfl

/-- Records as values are sorted as records. -/
theorem sortByEntries_records (h : spec.Sortable records) :
    sortByEntries (spec.map some) none (records.map .record) = .ok ((sortRecords spec records).map .record) := by
  have htrans := SortSpec.transCmp_order h
  have hbefore (a b : { r // r ∈ records }) :
      (SortEntry.compare (spec.map some) none (.record a.1) (.record b.1)).map (· == .lt) =
        .ok (spec.order records a b == .lt) := by
    rw [SortEntry.compare_records]
    rfl
  obtain ⟨sorted, hsorted, hstable⟩ := @exists_sortByInsertion _ _ _ _ (fun a => Value.record a.1)
    (fun a b => (SortEntry.compare (spec.map some) none a b).map (· == .lt)) htrans hbefore records.attach
  have hvalues (members : List { r // r ∈ records }) :
      members.map (fun a => Value.record a.1) = (members.map Subtype.val).map Value.record := by
    rw [List.map_map]
    rfl
  rw [hvalues, hvalues, List.attach_map_subtype_val] at hsorted
  rw [sortByEntries, hsorted, hstable.unique (stablySorted_mergeSort _), ← sortRecords_eq]

theorem sortRecords_nil (records : List Record) : sortRecords [] records = records :=
  List.mergeSort_of_pairwise (List.pairwise_of_forall fun _ _ => rfl)

theorem stablySorted_order (h : spec.Sortable records) :
    StablySorted (spec.order records) records.attach
      (records.attach.mergeSort fun a b => (spec.order records a b).isLE) := by
  have htrans := SortSpec.transCmp_order h
  exact stablySorted_mergeSort _

/-- A list of values is sorted by a specification that is a value as the records are that it holds. -/
theorem sortValues_records (h : spec.Sortable records) :
    sortValues spec.asValue (.list (records.map .record)) = .ok ((sortRecords spec records).map .record) := by
  have hshort (hlength : records.length < 2) : sortRecords spec records = records := by
    refine List.mergeSort_of_pairwise ?_
    rcases records with - | ⟨a, - | ⟨b, rest⟩⟩
    · exact .nil
    · exact List.pairwise_singleton _ a
    · exact absurd hlength (by simp)
  have hspec : spec.asValue.holds = !spec.isEmpty := by
    rw [SortSpec.asValue, Value.holds, List.isEmpty_map]
  rw [sortValues, Value.parts_list, hspec, Bool.not_not]
  show (if (spec.isEmpty || decide ((records.map Value.record).length < 2)) = true then _ else _) = _
  rw [List.length_map]
  split
  case isTrue hnothing =>
    rcases (Bool.or_eq_true _ _).mp hnothing with hempty | hlength
    · rw [List.isEmpty_iff.mp hempty, sortRecords_nil]
      rfl
    · rw [hshort (of_decide_eq_true hlength)]
      rfl
  case isFalse =>
    rw [SortSpec.asValue, Value.parts_list]
    dsimp only [bind, Except.bind]
    rw [SortEntry.ofValues_asValue]
    exact sortByEntries_records h

/-- **Records are sorted stably by several keys.** If each field of a specification is a number in all records or in
none of them, the sorted list has the same records, each goes before those behind it or ties with them and none of
those goes before it, and the records that tie with any are in the order in which they were. A specification of nothing
leaves the list as it is. Sorting the records as values by the specification as a value comes to the same. -/
theorem sortRecords_stable (h : spec.Uniform records) :
    (sortRecords spec records).Perm records ∧
      (sortRecords spec records).Pairwise (fun a b =>
        (spec.Precedes a b ∨ spec.ties a b = true) ∧ ¬spec.Precedes b a) ∧
      (∀ a ∈ records, (sortRecords spec records).filter (spec.ties a) = records.filter (spec.ties a)) ∧
      sortRecords [] records = records ∧
      sortValues spec.asValue (.list (records.map .record)) = .ok ((sortRecords spec records).map .record) := by
  have hsortable := h.sortable
  have hstable := stablySorted_order hsortable
  have hproper := hsortable.proper
  have htrans := SortSpec.transCmp_order hsortable
  have hties (a : { r // r ∈ records }) (members : List { r // r ∈ records }) :
      (members.map Subtype.val).filter (spec.ties a.1) =
        (members.filter (spec.order records a · == .eq)).map Subtype.val := by
    rw [List.filter_map]
    refine congrArg (List.map Subtype.val) (List.filter_congr fun b _ => ?_)
    rw [Bool.eq_iff_iff, beq_iff_eq]
    exact SortSpec.compare_eq_eq_iff.symm
  refine ⟨List.mergeSort_perm _ _, ?_, fun a ha => ?_, sortRecords_nil records, sortValues_records hsortable⟩
  · rw [sortRecords_eq, List.pairwise_map]
    refine hstable.inOrder.imp fun {a b} hle => ⟨?_, fun hafter => ?_⟩
    · rcases Ordering.isLE_iff_eq_lt_or_eq_eq.mp hle with hlt | heq
      · exact .inl ((SortSpec.compare_eq_lt_iff (hproper a) (hproper b)).mp hlt)
      · exact .inr (SortSpec.compare_eq_eq_iff.mp heq)
    · exact Std.OrientedCmp.not_lt_of_isLE hle ((SortSpec.compare_eq_lt_iff (hproper b) (hproper a)).mpr hafter)
  · have hclass := hties ⟨a, ha⟩
    rw [sortRecords_eq, hclass, hstable.stable, ← hclass, List.attach_map_subtype_val]

end

/-- Records with ranks that are numbers of all kinds, and with names that are none. -/
def rankedRecords : List Record :=
  [[("id", .int 1), ("rank", .int 2), ("name", .text "b")],
   [("id", .int 2), ("rank", .text " 10 ")],
   [("id", .int 3), ("rank", .number (.float (.finite false (2 * unitsPerOne)))), ("name", .bool true)],
   [("id", .int 4), ("rank", .text "2"), ("name", .text "b")],
   [("id", .int 5), ("rank", .text "1e1"), ("name", .null)]]

/-- The highest rank first, and of one rank the names in order. -/
def rankThenName : SortSpec := [⟨"rank", .descending⟩, ⟨"name", .ascending⟩]

theorem uniform_rankedRecords : rankThenName.Uniform rankedRecords := by
  have hname : ∀ a ∈ rankedRecords, (Record.get a "name").toNumber? = none := by decide +kernel
  have hrank : ∀ a ∈ rankedRecords, (Record.get a "rank").toNumber?.any (· ≠ .float .nan) = true := by decide +kernel
  intro key hkey
  rcases List.mem_pair.mp hkey with rfl | rfl
  · exact .inl fun a ha => by simpa [Option.any_eq_true] using hrank a ha
  · exact .inr hname

/-- Two records that tie though one rank is an integer and the other a text, and all the records as values. -/
theorem sortRecords_stable_ranked :
    rankThenName.Uniform rankedRecords ∧
      ((sortRecords rankThenName rankedRecords).filter
        (rankThenName.ties [("id", .int 1), ("rank", .int 2), ("name", .text "b")])).map (Record.get · "id") =
          [.int 1, .int 4] ∧
      sortValues rankThenName.asValue (.list (rankedRecords.map .record)) =
        .ok ((sortRecords rankThenName rankedRecords).map .record) := by
  obtain ⟨-, -, hties, -, hvalues⟩ := sortRecords_stable uniform_rankedRecords
  refine ⟨uniform_rankedRecords, ?_, hvalues⟩
  rw [hties _ List.mem_cons_self]
  decide +kernel

end FrontPage
