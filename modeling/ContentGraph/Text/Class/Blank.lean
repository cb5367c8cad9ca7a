import ContentGraph.Text.Span

/-!
# Blanks

White space of the Unicode Character Database, version 14, with the four
information separators.
-/

namespace ContentGraph.Text

/-- The spans of blank characters. -/
def blankSpans : List Span :=
  [(9, 13, 1), (28, 32, 1), (133, 133, 1), (160, 160, 1), (5760, 5760, 1), (8192, 8202, 1),
   (8232, 8233, 1), (8239, 8239, 1), (8287, 8287, 1), (12288, 12288, 1)]

end ContentGraph.Text
