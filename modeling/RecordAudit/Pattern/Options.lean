/-!
# Options of patterns

An option changes how a pattern is read or matched. Each has a letter, by which a pattern can turn
it on inside its own text, and a name.
-/

namespace RecordAudit.Pattern

inductive Flag where
  /-- Repetition is not allowed. -/
  | template
  | ignoreCase
  /-- Reserved for patterns over bytes. -/
  | locale
  /-- Line starts and line ends count as the start and the end of the text. -/
  | multiline
  /-- The dot matches line ends as well. -/
  | dotAll
  /-- Character classes range over all scripts; so they do unless `ascii` is on. -/
  | unicode
  /-- Blanks and comments of the pattern itself are skipped. -/
  | verbose
  /-- Character classes and letter case know ASCII only. -/
  | ascii
  deriving DecidableEq, Repr

/-- Options that are turned on. -/
abbrev Options := List Flag

namespace Flag

def ofLetter? : Char → Option Flag
  | 't' => some .template
  | 'i' => some .ignoreCase
  | 'L' => some .locale
  | 'm' => some .multiline
  | 's' => some .dotAll
  | 'u' => some .unicode
  | 'x' => some .verbose
  | 'a' => some .ascii
  | _ => none

def shownNames : List (Flag × String) :=
  [(template, "TEMPLATE"), (ignoreCase, "IGNORECASE"), (multiline, "MULTILINE"), (dotAll, "DOTALL"),
   (verbose, "VERBOSE"), (ascii, "ASCII")]

/-- Flags that choose the character classes; at most one can be on. -/
def isClassFlag (f : Flag) : Bool := [ascii, locale, unicode].contains f

/-- Flags that a part of a pattern cannot have for itself. -/
def isWholeFlag (f : Flag) : Bool := f == template

end Flag

/-- The options of a part of a pattern that turns some on and some off. -/
def Options.change (options : Options) (on off : List Flag) : Options :=
  let kept := if on.any Flag.isClassFlag then options.filter (!·.isClassFlag) else options
  (kept ++ on).filter (!off.contains ·)

/-- Whether the same flags are on, as far as they are shown. -/
def Options.agree (a b : Options) : Bool :=
  Flag.shownNames.all fun (f, _) => a.contains f == b.contains f

end RecordAudit.Pattern
