import RecordAudit.Text.Ranges

/-!
# Blank characters

`isBlank` holds of the white space and the separators of the bidirectional classes, in any script.
Trimming and splitting at blanks use this one class, and so does the blank class of patterns.
-/

namespace RecordAudit.Text

def blankRanges : List (Nat × Nat) :=
  [(9, 13), (28, 32), (133, 133), (160, 160), (5760, 5760), (8192, 8202), (8232, 8233),
   (8239, 8239), (8287, 8287), (12288, 12288)]

/-- White space in any script, line and paragraph separators, and the four information
separators. -/
def isBlank (c : Char) : Bool := inRanges blankRanges c.toNat

/-- The blanks that may surround a number: all but the information separators. -/
def isNumberBlank (c : Char) : Bool := isBlank c && !(28 ≤ c.toNat && c.toNat ≤ 31)

def trimStart (cs : List Char) : List Char := cs.dropWhile isBlank

def trimEnd (cs : List Char) : List Char := (cs.reverse.dropWhile isBlank).reverse

def trim (cs : List Char) : List Char := trimEnd (trimStart cs)

def trimNumber (cs : List Char) : List Char :=
  ((cs.dropWhile isNumberBlank).reverse.dropWhile isNumberBlank).reverse

/-- The maximal runs of characters that are not blank. -/
def words (cs : List Char) : List (List Char) :=
  (splitByBlanks cs).filter (!·.isEmpty)
where
  /-- Cuts at every blank, empty pieces included. -/
  splitByBlanks : List Char → List (List Char)
    | [] => [[]]
    | c :: rest =>
      if isBlank c then [] :: splitByBlanks rest
      else match splitByBlanks rest with
        | [] => [[c]]
        | w :: ws => (c :: w) :: ws

/-- Whether a line ends at the character. -/
def isLineEnd (c : Char) : Bool :=
  inRanges [(10, 13), (28, 30), (133, 133), (8232, 8233)] c.toNat

/-- The lines of a text without their ends; a carriage return and a line feed are one end. The text
after the last end is a line unless it is empty. -/
def splitLines (cs : List Char) : List (List Char) := go [] cs
where
  /-- Splits what follows the characters of a line that were read, newest first. -/
  go (line : List Char) : List Char → List (List Char)
    | [] => if line.isEmpty then [] else [line.reverse]
    | '\r' :: '\n' :: rest => line.reverse :: go [] rest
    | c :: rest => if isLineEnd c then line.reverse :: go [] rest else go (c :: line) rest

/-- The words with one space between neighbours: every run of blanks becomes one space. -/
def collapseBlanks (cs : List Char) : List Char := List.intercalate [' '] (words cs)

end RecordAudit.Text
