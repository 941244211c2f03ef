/-! # UTF-16 code units

Lengths, positions inside strings and the order of strings are measured in UTF-16
code units. A character below U+10000 is one unit; any other is a pair of
surrogates, the leading one first.
-/

namespace PageTemplates.Text

abbrev CodeUnit := UInt16

def characterUnits (character : Char) : List CodeUnit :=
  if character.toNat < 0x10000 then
    [character.toNat.toUInt16]
  else
    let offset := character.toNat - 0x10000
    [(0xD800 + offset / 0x400).toUInt16, (0xDC00 + offset % 0x400).toUInt16]

example : characterUnits '😀' = [0xD83D, 0xDE00] := by decide

def units (text : String) : List CodeUnit :=
  text.toList.flatMap characterUnits

def unitCount (text : String) : Nat :=
  (units text).length

example : unitCount "a😀b" = 4 := by decide

namespace CodeUnit

def isLeading (unit : CodeUnit) : Bool := 0xD800 ≤ unit && unit ≤ 0xDBFF

def isTrailing (unit : CodeUnit) : Bool := 0xDC00 ≤ unit && unit ≤ 0xDFFF

end CodeUnit

/-- What stands for a unit that is no character: U+FFFD. -/
def replacement : Char := '\uFFFD'

def joinSurrogates (leading trailing : CodeUnit) : Char :=
  Char.ofNat (0x10000 + (leading.toNat - 0xD800) * 0x400 + (trailing.toNat - 0xDC00))

/-- Read units as characters. A surrogate outside a pair becomes U+FFFD. -/
def ofUnits : List CodeUnit → List Char
  | [] => []
  | unit :: rest =>
      if CodeUnit.isLeading unit then
        match rest with
        | [] => [replacement]
        | next :: others =>
            if CodeUnit.isTrailing next then
              joinSurrogates unit next :: ofUnits others
            else
              replacement :: ofUnits (next :: others)
      else if CodeUnit.isTrailing unit then
        replacement :: ofUnits rest
      else
        Char.ofNat unit.toNat :: ofUnits rest

example : ofUnits [0x61, 0xD83D, 0xDE00, 0xD83D, 0x62, 0xDE00] =
    ['a', '😀', '\uFFFD', 'b', '\uFFFD'] := by decide

/-- The order of unit sequences: by the first difference, a shorter beginning first. -/
def compareUnits : List CodeUnit → List CodeUnit → Ordering
  | [], [] => .eq
  | [], _ :: _ => .lt
  | _ :: _, [] => .gt
  | left :: lefts, right :: rights =>
      if left < right then .lt
      else if right < left then .gt
      else compareUnits lefts rights

/-- A character beyond U+FFFF comes before U+FFFF, since its units are surrogates. -/
example : compareUnits (units "😀") (units "\uFFFF") = .lt := by decide

end PageTemplates.Text
