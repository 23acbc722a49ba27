import RecordAudit.Text.Blank

/-!
# Flags written in running text

A flag is set by one of three affirmative words alone; any other text, and no text, leaves it clear.
-/

namespace RecordAudit.Reading

open Text

/-- The texts that set a flag, in lower case. -/
def affirmatives : List String := ["yes", "true", "1"]

/-- Whether the trimmed text is an affirmative word in any letter case. No character outside ASCII
has one of their letters as its lower-case form. -/
def isAffirmative (s : String) : Bool :=
  affirmatives.contains (String.ofList ((trim s.toList).map Char.toLower))

def readFlag : Option String → Bool
  | none => false
  | some s => isAffirmative s

/-- Whether a value is there and not empty. -/
def readPresence : Option String → Bool
  | none => false
  | some s => s != ""

end RecordAudit.Reading
