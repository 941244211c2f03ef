/-! # Text inside markup

The five characters with a meaning in markup are replaced by entities, so that a
text shows as it is between tags and inside quoted attributes.
-/

namespace PageTemplates.Text

def replaceCharacter (marked : Char) (entity : List Char) (text : List Char) : List Char :=
  text.flatMap fun character => if character = marked then entity else [character]

/-- The text with its markup characters replaced, one kind after the other. The
ampersand goes first, since every entity begins with one. -/
def escapeMarkup (text : String) : String :=
  let afterAmpersands := replaceCharacter '&' "&amp;".toList text.toList
  let afterLess := replaceCharacter '<' "&lt;".toList afterAmpersands
  let afterGreater := replaceCharacter '>' "&gt;".toList afterLess
  let afterQuotes := replaceCharacter '"' "&quot;".toList afterGreater
  String.ofList (replaceCharacter '\'' "&#39;".toList afterQuotes)

example : escapeMarkup "<a> & 'b' &amp;" =
    "&lt;a&gt; &amp; &#39;b&#39; &amp;amp;" := by decide

end PageTemplates.Text
