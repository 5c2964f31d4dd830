import FrontPage.Text.Case
import FrontPage.Text.Keyword

/-!
# Lower case and ASCII letters

Whether a text begins with certain ASCII characters in any letter case, or is made of them, is asked of its lower case,
and there other characters could pass for ASCII letters. Only two do: the dotted capital I begins its lower case with
`i`, and the Kelvin sign has the lower case `k`. So where the characters are others (`isPlain`), or nothing but an `i`
that others follow (`isUnambiguous`), the question is about the ASCII case of the text (`prefix_lowerAfter_iff`,
`lowerAfter_eq_iff`, `begins_lower_iff`).
-/

namespace FrontPage.Text

/-- The character is one of ASCII, and not one of the letters `i` and `k`. -/
def isPlain (c : Char) : Bool := decide (c.toNat < 128) && c.toLower != 'i' && c.toLower != 'k'

/-! ## Characters -/

/-- The lower case of an ASCII character is one. -/
theorem toNat_toLower_lt {c : Char} (h : c.toNat < 128) : c.toLower.toNat < 128 := by
  have hall : ∀ n : Fin 128, (Char.ofNat n).toLower.toNat < 128 := by decide +kernel
  have hc := hall ⟨c.toNat, h⟩
  rwa [Char.ofNat_toNat] at hc

/-- ASCII knows no other case of what is no ASCII character. -/
theorem toLower_of_le {c : Char} (h : 128 ≤ c.toNat) : c.toLower = c := by
  have hbehind : ¬(c.val ≥ 'A'.val ∧ c.val ≤ 'Z'.val) := by
    rintro ⟨-, hlast⟩
    have hcode : c.toNat ≤ 90 := UInt32.le_iff_toNat_le.mp hlast
    omega
  exact dif_neg hbehind

/-- The runs of capitals that are no ASCII letters lead to small letters that are none, but for the Kelvin sign. -/
theorem capitalRuns_le : ∀ run ∈ capitalRuns, 128 ≤ run.first ∧
    (run.first = run.last ∧ run.first + run.shift = 107 ∨
      128 ≤ run.first + run.shift ∧ (run.last + run.shift < 0xD800 ∨
        0xDFFF < run.first + run.shift ∧ run.last + run.shift < 0x110000)) := by
  decide +kernel

/-- A run that leads beyond ASCII, and not across the surrogates, leads from every character in it beyond ASCII. -/
theorem CaseRun.le_toNat_shifted {run : CaseRun} (habove : 128 ≤ run.first + run.shift)
    (hvalid : run.last + run.shift < 0xD800 ∨ 0xDFFF < run.first + run.shift ∧ run.last + run.shift < 0x110000)
    {n : Nat} (hfirst : run.first ≤ n) (hlast : n ≤ run.last) :
    128 ≤ (Char.ofNat ((n : Int) + run.shift).toNat).toNat := by
  have hchar : ((n : Int) + run.shift).toNat.isValidChar := by
    unfold Nat.isValidChar
    omega
  have hcode : (Char.ofNat ((n : Int) + run.shift).toNat).toNat = ((n : Int) + run.shift).toNat := by
    rw [Char.ofNat, dif_pos hchar]
    rfl
  rw [hcode]
  omega

/-- What a run leads to from a character in it is `k` or no ASCII character. -/
theorem shifted_of_run {run : CaseRun} (hrun : run ∈ capitalRuns) {n : Nat} (hfirst : run.first ≤ n)
    (hlast : n ≤ run.last) :
    Char.ofNat ((n : Int) + run.shift).toNat = 'k' ∨ 128 ≤ (Char.ofNat ((n : Int) + run.shift).toNat).toNat := by
  obtain ⟨-, ⟨hone, hk⟩ | ⟨habove, hvalid⟩⟩ := capitalRuns_le run hrun
  · have hcode : ((n : Int) + run.shift).toNat = 107 := by omega
    rw [hcode]
    exact .inl rfl
  · exact .inr (CaseRun.le_toNat_shifted habove hvalid hfirst hlast)

theorem lowerChar_of_lt {c : Char} (h : c.toNat < 128) : lowerChar c = [c.toLower] := if_pos h

/-- What is no ASCII character has a lower case of `i` with a dot, or one that begins with `k` or with no ASCII
character. -/
theorem lowerChar_cases {c : Char} (h : 128 ≤ c.toNat) :
    lowerChar c = ['i', '\u0307'] ∨
      ∃ small rest, lowerChar c = small :: rest ∧ (small = 'k' ∨ 128 ≤ small.toNat) := by
  rw [lowerChar, if_neg (by omega)]
  by_cases hsigma : c.toNat = 0x3A3
  · exact .inr ⟨_, _, if_pos hsigma, .inr (by decide)⟩
  by_cases hdotted : c.toNat = 0x130
  · rw [if_neg hsigma, if_pos hdotted]
    exact .inl rfl
  rw [if_neg hsigma, if_neg hdotted]
  cases hfound : capitalRuns.find?
      fun r => r.first ≤ c.toNat && c.toNat ≤ r.last && (c.toNat - r.first) % r.step == 0 with
  | none => exact .inr ⟨c, [], rfl, .inr h⟩
  | some run =>
    have hbounds := List.find?_some hfound
    simp only [Bool.and_eq_true, decide_eq_true_eq] at hbounds
    exact .inr ⟨_, [], rfl, shifted_of_run (List.mem_of_find?_eq_some hfound) hbounds.1.1 hbounds.1.2⟩

/-! ## Texts -/

/-- A word of ASCII characters without `k`, in which another character follows every `i`. -/
def isUnambiguous : List Char → Bool
  | [] => true
  | c :: rest =>
    decide (c.toNat < 128) && c.toLower != 'k' && (c.toLower != 'i' || !rest.isEmpty) && isUnambiguous rest

theorem isUnambiguous_cons_iff {c : Char} {rest : List Char} : isUnambiguous (c :: rest) = true ↔
    c.toNat < 128 ∧ c.toLower ≠ 'k' ∧ (c.toLower = 'i' → rest ≠ []) ∧ isUnambiguous rest = true := by
  rw [isUnambiguous]
  simp [and_assoc, ← Decidable.imp_iff_not_or]

/-- An unambiguous word is one of ASCII characters. -/
theorem ascii_of_isUnambiguous {letters : List Char} (h : isUnambiguous letters = true) :
    ∀ c ∈ letters, c.toNat < 128 := by
  induction letters with
  | nil => exact nofun
  | cons c rest ih =>
    obtain ⟨hc, -, -, hrest⟩ := isUnambiguous_cons_iff.mp h
    exact List.forall_mem_cons.mpr ⟨hc, ih hrest⟩

/-- Plain characters make an unambiguous word. -/
theorem isUnambiguous_of_isPlain {letters : List Char} (h : ∀ c ∈ letters, isPlain c = true) :
    isUnambiguous letters = true := by
  induction letters with
  | nil => rfl
  | cons c rest ih =>
    have hc := h c List.mem_cons_self
    unfold isPlain at hc
    simp only [Bool.and_eq_true, decide_eq_true_eq, bne_iff_ne] at hc
    exact isUnambiguous_cons_iff.mpr
      ⟨hc.1.1, hc.2, fun hi => absurd hi hc.1.2, ih fun other ho => h other (List.mem_cons_of_mem _ ho)⟩

/-- No character besides ASCII has a lower case that begins an unambiguous word together with what follows. -/
theorem not_prefix_of_isUnambiguous {letters : List Char} (h : isUnambiguous letters = true) (hne : letters ≠ [])
    {c : Char} (hc : 128 ≤ c.toNat) (rest : List Char) : ¬letters.map Char.toLower <+: lowerChar c ++ rest := by
  obtain ⟨first, letters, rfl⟩ := List.exists_cons_of_ne_nil hne
  obtain ⟨hascii, hk, hi, hletters⟩ := isUnambiguous_cons_iff.mp h
  rw [List.map_cons]
  intro hbegins
  rcases lowerChar_cases hc with hdotted | ⟨small, others, hsmall, hcase⟩
  · rw [hdotted, List.cons_append, List.cons_prefix_cons] at hbegins
    -- The character behind the `i` would be the dot.
    obtain ⟨second, letters, rfl⟩ := List.exists_cons_of_ne_nil (hi hbegins.1)
    rw [List.map_cons, List.cons_append, List.cons_prefix_cons] at hbegins
    have hlower := toNat_toLower_lt (isUnambiguous_cons_iff.mp hletters).1
    rw [hbegins.2.1] at hlower
    exact absurd hlower (by decide)
  · rw [hsmall, List.cons_append, List.cons_prefix_cons] at hbegins
    rcases hcase with rfl | hcase
    · exact hk hbegins.1
    · have hlower := toNat_toLower_lt hascii
      rw [hbegins.1] at hlower
      omega

/-- The lower case of a text begins with that of an unambiguous word exactly if the text begins with the word in any
ASCII case. -/
theorem prefix_lowerAfter_iff {letters : List Char} (h : isUnambiguous letters = true) (cased : Bool)
    (text : List Char) :
    letters.map Char.toLower <+: lowerAfter cased text ↔
      (text.take letters.length).map Char.toLower = letters.map Char.toLower := by
  induction letters generalizing cased text with
  | nil => simp
  | cons c letters ih =>
    obtain ⟨hascii, -, -, hletters⟩ := isUnambiguous_cons_iff.mp h
    cases text with
    | nil => simp [lowerAfter]
    | cons d text =>
      rw [lowerAfter]
      generalize (if isCaseIgnored d then cased else isCased d) = after
      by_cases hd : d.toNat < 128
      · have hsigma : ¬d.toNat = 0x3A3 := by omega
        simp only [hsigma, lowerChar_of_lt hd, List.map_cons, List.length_cons, List.take_succ_cons, decide_false,
          Bool.false_and, Bool.false_eq_true, if_false, List.cons_append, List.nil_append, List.cons_prefix_cons,
          ih hletters, List.cons.injEq, eq_comm]
      · have hlower := toNat_toLower_lt hascii
        refine iff_of_false ?_ ?_
        · split
          · rw [List.map_cons, List.cons_append, List.cons_prefix_cons]
            rintro ⟨hsame, -⟩
            rw [hsame] at hlower
            exact absurd hlower (by decide)
          · exact not_prefix_of_isUnambiguous h (List.cons_ne_nil _ _) (by omega) _
        · rw [List.length_cons, List.take_succ_cons, List.map_cons, List.map_cons, List.cons.injEq,
            toLower_of_le (by omega)]
          rintro ⟨hsame, -⟩
          rw [← hsame] at hlower
          exact hd hlower

/-- A text has at least as many small letters as characters. -/
theorem length_le_lowerAfter (cased : Bool) (text : List Char) : text.length ≤ (lowerAfter cased text).length := by
  induction text generalizing cased with
  | nil => exact Nat.zero_le _
  | cons c text ih =>
    have hchunk : 1 ≤ (if c.toNat = 0x3A3 && cased && !casedNext text then ['\u03c2'] else lowerChar c).length := by
      split
      · exact Nat.le_refl 1
      · by_cases hc : c.toNat < 128
        · rw [lowerChar_of_lt hc]
          exact Nat.le_refl 1
        · rcases lowerChar_cases (by omega : 128 ≤ c.toNat) with hdotted | ⟨small, rest, hsmall, -⟩
          · rw [hdotted]
            decide
          · rw [hsmall]
            exact Nat.succ_le_succ (Nat.zero_le _)
    rw [lowerAfter, List.length_append, List.length_cons]
    have hrest := ih (if isCaseIgnored c then cased else isCased c)
    omega

/-- The lower case of ASCII is letter by letter. -/
theorem lowerAfter_of_ascii {text : List Char} (h : ∀ c ∈ text, c.toNat < 128) (cased : Bool) :
    lowerAfter cased text = text.map Char.toLower := by
  induction text generalizing cased with
  | nil => rfl
  | cons c text ih =>
    have hc := h c List.mem_cons_self
    have hsigma : ¬c.toNat = 0x3A3 := by omega
    rw [lowerAfter, ih fun other ho => h other (List.mem_cons_of_mem _ ho)]
    simp [hsigma, lowerChar_of_lt hc]

/-- The lower case of a text is that of an unambiguous word exactly if the text is the word in any ASCII case. -/
theorem lowerAfter_eq_iff {letters : List Char} (h : isUnambiguous letters = true) (cased : Bool) (text : List Char) :
    lowerAfter cased text = letters.map Char.toLower ↔ text.map Char.toLower = letters.map Char.toLower := by
  constructor
  · intro hlower
    have hlength := length_le_lowerAfter cased text
    rw [hlower, List.length_map] at hlength
    have hbegins := (prefix_lowerAfter_iff h cased text).mp (hlower ▸ List.prefix_rfl)
    rwa [List.take_of_length_le hlength] at hbegins
  · intro hsame
    have hletters := ascii_of_isUnambiguous h
    have hascii : ∀ c ∈ text, c.toNat < 128 := by
      intro c hc
      obtain ⟨letter, hletter, hlower⟩ := List.mem_map.mp (hsame ▸ List.mem_map_of_mem hc)
      rcases Nat.lt_or_ge c.toNat 128 with hlt | hge
      · exact hlt
      · rw [toLower_of_le hge] at hlower
        exact hlower ▸ toNat_toLower_lt (hletters letter hletter)
    rw [lowerAfter_of_ascii hascii, hsame]

/-- A text begins with plain characters in any letter case exactly if as many characters at its beginning are they in
any ASCII case. -/
theorem begins_lower_iff {start text : String} (h : ∀ c ∈ start.toList, isPlain c = true) :
    begins (lower start) (lower text) = true ↔
      (text.toList.take start.toList.length).map Char.toLower = start.toList.map Char.toLower := by
  have hunambiguous := isUnambiguous_of_isPlain h
  have hstart : (lower start).toList = start.toList.map Char.toLower := by
    rw [lower, String.toList_ofList, lowerAfter_of_ascii (ascii_of_isUnambiguous hunambiguous)]
  rw [begins, List.isPrefixOf_iff_prefix, hstart, lower, String.toList_ofList]
  exact prefix_lowerAfter_iff hunambiguous false text.toList

/-- The Kelvin sign passes for a letter, and so does the dotted capital I. -/
example : begins (lower "k") (lower "\u212a") = true ∧ begins (lower "i") (lower "\u0130") = true := by decide +kernel

end FrontPage.Text
