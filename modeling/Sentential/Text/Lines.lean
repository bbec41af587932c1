/-!
# Lines

Printed text is a sequence of lines, each of which ends with a newline.
-/

namespace Sentential.Text

/-- The text of some lines: each is followed by a newline, the last one too. -/
def ofLines (lines : List String) : String := String.join (lines.map (· ++ "\n"))

end Sentential.Text
