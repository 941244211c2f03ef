import PageTemplates.Text.Units

/-! # Text and its units

No text is lost in its units. Texts are ordered by their units, which is the order of their
characters where none of these is a pair of surrogates.
-/

namespace PageTemplates.Text

theorem toNat_toUInt16 {number : Nat} (bound : number < 0x10000) :
    number.toUInt16.toNat = number :=
  Nat.mod_eq_of_lt bound

theorem isLeading_eq (unit : CodeUnit) :
    CodeUnit.isLeading unit = decide (0xD800 ≤ unit.toNat ∧ unit.toNat ≤ 0xDBFF) := by
  simp [CodeUnit.isLeading, UInt16.le_iff_toNat_le]

theorem isTrailing_eq (unit : CodeUnit) :
    CodeUnit.isTrailing unit = decide (0xDC00 ≤ unit.toNat ∧ unit.toNat ≤ 0xDFFF) := by
  simp [CodeUnit.isTrailing, UInt16.le_iff_toNat_le]

/-- A character is no surrogate. -/
theorem toNat_character (character : Char) :
    character.toNat < 0xD800 ∨ 0xDFFF < character.toNat ∧ character.toNat < 0x110000 :=
  character.valid

/-- The units of a character are read as that character, whatever follows them. -/
theorem ofUnits_characterUnits_append (character : Char) (rest : List CodeUnit) :
    ofUnits (characterUnits character ++ rest) = character :: ofUnits rest := by
  have valid := toNat_character character
  rw [characterUnits]
  split
  next single =>
    have code := toNat_toUInt16 single
    have notLeading : CodeUnit.isLeading character.toNat.toUInt16 = false := by
      rw [isLeading_eq, code, decide_eq_false_iff_not]
      omega
    have notTrailing : CodeUnit.isTrailing character.toNat.toUInt16 = false := by
      rw [isTrailing_eq, code, decide_eq_false_iff_not]
      omega
    rw [List.singleton_append, ofUnits.eq_def]
    simp [notLeading, notTrailing, code, Char.ofNat_toNat]
  next pair =>
    have leadingBound : 0xD800 + (character.toNat - 0x10000) / 0x400 < 0x10000 := by omega
    have trailingBound : 0xDC00 + (character.toNat - 0x10000) % 0x400 < 0x10000 := by omega
    have leadingCode := toNat_toUInt16 leadingBound
    have trailingCode := toNat_toUInt16 trailingBound
    have leading : CodeUnit.isLeading
        (0xD800 + (character.toNat - 0x10000) / 0x400).toUInt16 = true := by
      rw [isLeading_eq, leadingCode, decide_eq_true_iff]
      omega
    have trailing : CodeUnit.isTrailing
        (0xDC00 + (character.toNat - 0x10000) % 0x400).toUInt16 = true := by
      rw [isTrailing_eq, trailingCode, decide_eq_true_iff]
      omega
    have code : 0x10000 + (0xD800 + (character.toNat - 0x10000) / 0x400 - 0xD800) * 0x400 +
        (0xDC00 + (character.toNat - 0x10000) % 0x400 - 0xDC00) = character.toNat := by
      omega
    simp only [List.cons_append, List.nil_append, ofUnits, leading, trailing, if_true,
      joinSurrogates, leadingCode, trailingCode, code, Char.ofNat_toNat]

/-- No text is lost in its units. -/
theorem ofUnits_flatMap_characterUnits (text : List Char) :
    ofUnits (text.flatMap characterUnits) = text := by
  induction text with
  | nil => rfl
  | cons character rest induction =>
      rw [List.flatMap_cons, ofUnits_characterUnits_append, induction]

theorem units_injective {left right : String} (same : units left = units right) :
    left = right := by
  have characters := congrArg ofUnits same
  simp only [units, ofUnits_flatMap_characterUnits] at characters
  exact String.toList_injective characters

/-! ## The order of units -/

theorem compareUnits_cons (unit other : CodeUnit) (rest others : List CodeUnit) :
    compareUnits (unit :: rest) (other :: others) =
      (compare unit other).then (compareUnits rest others) := by
  rw [compareUnits]
  split
  next less =>
    rw [Std.compare_eq_lt.mpr less]
    rfl
  next notLess =>
    split
    next greater =>
      rw [Std.compare_eq_gt.mpr greater]
      rfl
    next notGreater =>
      have same : unit = other :=
        UInt16.le_antisymm (UInt16.not_lt.mp notGreater) (UInt16.not_lt.mp notLess)
      rw [same, Std.compare_self]
      rfl

theorem compareUnits_eq_compare (left right : List CodeUnit) :
    compareUnits left right = compare left right := by
  induction left generalizing right with
  | nil => cases right <;> rfl
  | cons unit rest induction =>
      cases right with
      | nil => rfl
      | cons other others => rw [compareUnits_cons, List.compare_cons_cons, induction]

theorem compareUnits_eq_lt {left right : List CodeUnit} :
    compareUnits left right = .lt ↔ left < right := by
  induction left generalizing right with
  | nil => cases right <;> simp [compareUnits]
  | cons unit rest induction =>
      cases right with
      | nil => simp [compareUnits]
      | cons other others =>
          rw [compareUnits_cons, Ordering.then_eq_lt, Std.compare_eq_lt,
            Std.LawfulEqOrd.compare_eq_iff_eq, induction, List.cons_lt_cons_iff]

/-- Where every character is a single unit, units are ordered as characters are. -/
theorem flatMap_characterUnits_lt_iff {left right : List Char}
    (leftSingle : ∀ character ∈ left, character.toNat < 0x10000)
    (rightSingle : ∀ character ∈ right, character.toNat < 0x10000) :
    left.flatMap characterUnits < right.flatMap characterUnits ↔ left < right := by
  have single {character : Char} (below : character.toNat < 0x10000) :
      characterUnits character = [character.toNat.toUInt16] := if_pos below
  induction left generalizing right with
  | nil =>
      cases right with
      | nil => simp
      | cons other others => simp [single (rightSingle other List.mem_cons_self)]
  | cons character rest induction =>
      cases right with
      | nil => simp
      | cons other others =>
          rw [List.forall_mem_cons] at leftSingle rightSingle
          simp only [List.flatMap_cons, single leftSingle.1, single rightSingle.1,
            List.singleton_append, List.cons_lt_cons_iff, induction leftSingle.2 rightSingle.2]
          rw [UInt16.lt_iff_toNat_lt, ← UInt16.toNat_inj, toNat_toUInt16 leftSingle.1,
            toNat_toUInt16 rightSingle.1, Char.toNat_inj]
          exact Iff.rfl

theorem units_lt_iff {left right : String}
    (leftSingle : ∀ character ∈ left.toList, character.toNat < 0x10000)
    (rightSingle : ∀ character ∈ right.toList, character.toNat < 0x10000) :
    units left < units right ↔ left < right :=
  flatMap_characterUnits_lt_iff leftSingle rightSingle

/-! ## How many units there are -/

@[simp]
theorem length_characterUnits (character : Char) :
    (characterUnits character).length = if character.toNat < 0x10000 then 1 else 2 := by
  rw [characterUnits]
  split <;> rfl

theorem length_flatMap_characterUnits (text : List Char) :
    (text.flatMap characterUnits).length =
      text.length + text.countP fun character => 0x10000 ≤ character.toNat := by
  induction text with
  | nil => rfl
  | cons character rest induction =>
      rw [List.flatMap_cons, List.length_append, induction, List.length_cons,
        List.countP_cons, length_characterUnits]
      by_cases low : character.toNat < 0x10000
      · rw [if_pos low, if_neg (by simpa using low)]
        omega
      · rw [if_neg low, if_pos (by simpa using low)]
        omega

theorem length_le_unitCount (text : String) : text.toList.length ≤ unitCount text := by
  rw [unitCount, units, length_flatMap_characterUnits]
  exact Nat.le_add_right _ _

end PageTemplates.Text
