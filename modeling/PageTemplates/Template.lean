import PageTemplates.Template.Piece
import PageTemplates.Template.Segment

/-! # Templates

A compiled source: its segments in order. Texts that stand side by side, as where an
opening mark is never closed, are one segment.
-/

namespace PageTemplates

structure Template where
  segments : List Segment

namespace Template

def segmentsOf : List Piece → List Segment
  | [] => []
  | .text span :: rest =>
      match segmentsOf rest with
      | .text following :: others => .text (String.ofList span ++ following) :: others
      | segments => .text (String.ofList span) :: segments
  | .tag _ code :: rest => Segment.ofCode code :: segmentsOf rest

def compile (source : String) : Template :=
  ⟨segmentsOf (Piece.all source.toList)⟩

def hasIncludes (template : Template) : Bool :=
  template.segments.any Segment.isInclusion

end Template

end PageTemplates
