/-! # Line endings

A file may end its lines with a carriage return and a line feed. Templates are kept
with line feeds alone.
-/

namespace PageTemplates.Text

/-- Every pair of a carriage return and a line feed replaced by the line feed, from
left to right. A carriage return elsewhere stays. -/
def joinLineEnds : List Char → List Char
  | '\r' :: '\n' :: rest => '\n' :: joinLineEnds rest
  | character :: rest => character :: joinLineEnds rest
  | [] => []

example : joinLineEnds "a\r\nb\r\r\n\rc".toList = "a\nb\r\n\rc".toList := by decide

/-- Whether some carriage return stands directly before a line feed. -/
def hasLineEndPair : List Char → Bool
  | '\r' :: '\n' :: _ => true
  | _ :: rest => hasLineEndPair rest
  | [] => false

def normalizeLines (text : String) : String :=
  String.ofList (joinLineEnds text.toList)

/-- As `normalizeLines`, for texts that mostly need no change: the text is rebuilt
only where it has a pair to join. -/
def normalizeLinesIfNeeded (text : String) : String :=
  if hasLineEndPair text.toList then normalizeLines text else text

end PageTemplates.Text
