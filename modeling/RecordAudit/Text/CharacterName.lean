import RecordAudit.Text.CharacterName.Aliases
import RecordAudit.Text.CharacterName.AncientScripts
import RecordAudit.Text.CharacterName.CompatibilityForms
import RecordAudit.Text.CharacterName.EasternScripts
import RecordAudit.Text.CharacterName.EuropeanScripts
import RecordAudit.Text.CharacterName.FurtherScripts
import RecordAudit.Text.CharacterName.ModernScripts
import RecordAudit.Text.CharacterName.Notations
import RecordAudit.Text.CharacterName.Pictographs
import RecordAudit.Text.CharacterName.SignLists
import RecordAudit.Text.CharacterName.Symbols
import RecordAudit.Text.Ranges

/-!
# Names of characters

Most characters have their names in tables. The names of Hangul syllables are put together from the
names of their parts, and those of unified ideographs end in the code point; these have to be
written in capital letters, while the case of letters in other names does not matter.
-/

namespace RecordAudit.Text.CharacterName

/-! ## Names in tables -/

/-- All tables, in the order of the code points. -/
def tables : List (List (Nat × String)) :=
  [europeanScripts, easternScripts, modernScripts, symbols, furtherScripts, compatibilityForms,
   ancientScripts, signLists, notations, pictographs]

/-- A name as a list of words, each with the blank or the hyphen that ends it. -/
abbrev Words := List (List Char)

def wordsOf : List Char → Words
  | [] => []
  | c :: rest =>
    match c == ' ' || c == '-', wordsOf rest with
    | false, word :: after => (c :: word) :: after
    | _, after => [c] :: after

/-- The entries of a line: how many words are shared, and the text after them. -/
def entriesOf : List Char → List (Nat × List Char)
  | [] => []
  | c :: rest =>
    if c.isLower then (c.toNat - 'a'.toNat, rest.takeWhile (!·.isLower)) :: entriesOf rest
    else entriesOf rest

/-- The names that entries write after a given name. -/
def namesAfter (previous : Words) : List (Nat × List Char) → List Words
  | [] => []
  | (shared, text) :: rest =>
    let name := previous.take shared ++ wordsOf text
    name :: namesAfter name rest

/-- The code point of a name in lines of a table, after a given name. -/
def findInLines (target : List Char) : Words → List (Nat × String) → Option Nat
  | _, [] => none
  | previous, (first, line) :: rest =>
    let names := namesAfter previous (entriesOf line.toList)
    match names.findIdx? (·.flatten == target) with
    | some i => some (first + i)
    | none => findInLines target (names.getLastD previous) rest

/-- The code point of a name among the further names of characters. -/
def findAlias (target : String) : Option Nat :=
  (aliases.find? fun (_, names) => (names.splitOn ";").contains target).map Prod.fst

/-! ## Names by rule -/

/-- The parts of Hangul syllables in the order of their code points. -/
def initials : List String :=
  ["G", "GG", "N", "D", "DD", "R", "M", "B", "BB", "S", "SS", "", "J", "JJ", "C", "K",
    "T", "P", "H"]

def vowels : List String :=
  ["A", "AE", "YA", "YAE", "EO", "E", "YEO", "YE", "O", "WA", "WAE", "OE", "YO", "U", "WEO", "WE",
   "WI", "YU", "EU", "YI", "I"]

def finals : List String :=
  ["", "G", "GG", "GS", "N", "NJ", "NH", "D", "L", "LG", "LM", "LB", "LS", "LT", "LP", "LH", "M",
   "B", "BS", "S", "SS", "NG", "J", "C", "K", "T", "P", "H"]

/-- The longest part that a text starts with: its index, and the text after it. -/
def longestPart (parts : List String) (cs : List Char) : Option (Nat × List Char) :=
  let fitting := parts.zipIdx.filter fun (part, _) => part.toList.isPrefixOf cs
  (fitting.foldl (fun best (part, i) =>
    match best with
    | some (longest, _) => if longest < part.length then some (part.length, i) else best
    | none => some (part.length, i)) none).map fun (length, i) => (i, cs.drop length)

def syllable? (cs : List Char) : Option Nat := do
  let (initial, rest) ← longestPart initials cs
  let (vowel, rest) ← longestPart vowels rest
  let (final, rest) ← longestPart finals rest
  if rest.isEmpty then some (0xAC00 + (initial * vowels.length + vowel) * finals.length + final)
  else none

/-- The unified ideographs. -/
def ideographRanges : List (Nat × Nat) :=
  [(0x3400, 0x4DBF), (0x4E00, 0x9FFF), (0x20000, 0x2A6DF), (0x2A700, 0x2B738), (0x2B740, 0x2B81D),
   (0x2B820, 0x2CEA1), (0x2CEB0, 0x2EBE0), (0x30000, 0x3134A)]

def capitalHexValue? (c : Char) : Option Nat :=
  if c.isDigit then some (c.toNat - '0'.toNat)
  else if 'A' ≤ c ∧ c ≤ 'F' then some (c.toNat - 'A'.toNat + 10)
  else none

/-- The code point of a unified ideograph, written in four or five digits. -/
def ideograph? (cs : List Char) : Option Nat := do
  let digits ← cs.mapM capitalHexValue?
  let n := digits.foldl (fun n d => 16 * n + d) 0
  if (digits.length == 4 || digits.length == 5) && inRanges ideographRanges n then some n else none

/-! ## All names -/

/-- The code point of the character with a name. -/
def find? (name : String) : Option Nat :=
  let syllables := "HANGUL SYLLABLE ".toList
  let ideographs := "CJK UNIFIED IDEOGRAPH-".toList
  let cs := name.toList
  if syllables.isPrefixOf cs then syllable? (cs.drop syllables.length)
  else if ideographs.isPrefixOf cs then ideograph? (cs.drop ideographs.length)
  else
    let target := cs.map Char.toUpper
    tables.findSome? (findInLines target []) <|> findAlias (String.ofList target)

end RecordAudit.Text.CharacterName
