import RecordAudit.Pattern.Options
import RecordAudit.Text.Blank
import RecordAudit.Text.Quoted
import RecordAudit.Text.Uppercase
import RecordAudit.Text.Word

/-!
# Patterns

The tree of a pattern. Options are resolved: every leaf says itself whether it ignores case or knows
ASCII only.
-/

namespace RecordAudit

namespace Pattern

open Text

/-- Classes of characters that have an escape. -/
inductive CharClass where
  | digit
  | blank
  | word
  deriving DecidableEq, Repr

def CharClass.contains (ascii : Bool) (c : Char) : CharClass → Bool
  | .digit => if ascii then c.isDigit else isDecimal c
  | .blank => if ascii then [' ', '\t', '\n', '\r', '\x0b', '\x0c'].contains c else isBlank c
  | .word => if ascii then c.isAlphanum || c == '_' else isWordChar c

/-- How a character of the text is compared with one of the pattern. -/
inductive Folding where
  /-- As it is. -/
  | exact
  /-- Up to the case of ASCII letters. -/
  | ascii
  /-- Up to the case of all letters. -/
  | full
  deriving DecidableEq, Repr

namespace Folding

def fold : Folding → Char → Char
  | exact, c => c
  | ascii, c => c.toLower
  | full, c => toLowercase c

/-- The folded characters that are the same letter as a character of the pattern. -/
def letters : Folding → Char → List Char
  | full, c => toLowercase c :: sameLetter (toLowercase c)
  | folding, c => [folding.fold c]

/-- The code points of the characters that fold to the same letter as a folded character. -/
def variants : Folding → Char → List Nat
  | exact, c => [c.toNat]
  | ascii, c => [c.toNat, c.toUpper.toNat]
  | full, c => caseVariants c

/-- Whether folding makes a difference to some character between two code points. -/
def mattersBetween (low high : Nat) : Folding → Bool
  | exact => false
  | ascii => low ≤ 90 && 65 ≤ high || low ≤ 122 && 97 ≤ high
  | full => hasCasedBetween low high

end Folding

/-- How characters are compared under given options. -/
def Options.folding (options : Options) : Folding :=
  if !options.contains .ignoreCase then .exact
  else if options.contains .ascii then .ascii
  else .full

/-- A part of a set of characters. -/
inductive SetItem where
  | code (codePoint : Nat)
  | range (low high : Nat)
  | class (which : CharClass) (negated : Bool)
  deriving DecidableEq, Repr

/-- A set of characters together with the options under which it is tested. -/
structure CharSet where
  items : List SetItem
  negated : Bool
  folding : Folding
  /-- Whether classes know ASCII only. -/
  ascii : Bool
  deriving DecidableEq, Repr

/-- Code points from here on have no place in the table that a folded set is looked up in. -/
def tableSize : Nat := 0x10000

namespace SetItem

/-- Whether an item makes its set a folded one. -/
def wantsFolding (folding : Folding) : SetItem → Bool
  | code n => folding.mattersBetween n n || tableSize ≤ n
  | range low high => folding.mattersBetween low high || tableSize ≤ high
  | .class .. => false

/-- Whether a folded character belongs to an item. Beyond the table a code stands for itself only,
and a range holds what it lists and what has an upper-case form that it lists. -/
def holdsFolded (folding : Folding) (ascii : Bool) (c : Char) : SetItem → Bool
  | code n => if n < tableSize then (folding.variants c).contains n else c.toNat == n
  | range low high =>
    (folding.variants c).any (fun n => n < tableSize && low ≤ n && n ≤ high) ||
      tableSize ≤ high &&
        [c, toUppercase c].any fun d => low ≤ d.toNat && d.toNat ≤ high
  | .class which negated => which.contains ascii c != negated

def holds (ascii : Bool) (c : Char) : SetItem → Bool
  | code n => c.toNat == n
  | range low high => low ≤ c.toNat && c.toNat ≤ high
  | .class which negated => which.contains ascii c != negated

end SetItem

namespace CharSet

/-- A set that is folded only where one of its items asks for it. -/
def ofItems (items : List SetItem) (negated : Bool) (folding : Folding) (ascii : Bool) : CharSet :=
  let items := items.eraseDups
  ⟨items, negated, if items.any (·.wantsFolding folding) then folding else .exact, ascii⟩

/-- Whether a character belongs to the set. -/
def contains (set : CharSet) (c : Char) : Bool :=
  let found := match set.folding with
    | .exact => set.items.any (·.holds set.ascii c)
    | folding => set.items.any (·.holdsFolded folding set.ascii (folding.fold c))
  found != set.negated

/-- Whether the set means the same without folding. -/
def isPlain (set : CharSet) : Bool :=
  set.items.all fun
    | .code n => !set.folding.mattersBetween n n
    | .range low high =>
      !set.folding.mattersBetween low high && (set.folding == .exact || high < tableSize)
    | .class .. => true

end CharSet

inductive Symbol where
  /-- Any character, line ends only on request. -/
  | any (lineEnds : Bool)
  /-- One character, or all others. -/
  | code (codePoint : Nat) (negated : Bool) (folding : Folding)
  | set (chars : CharSet)
  deriving DecidableEq, Repr

namespace Symbol

/-- A symbol for one character, folded only if that makes a difference. -/
def ofCode (codePoint : Nat) (negated : Bool) (folding : Folding) : Symbol :=
  .code codePoint negated (if folding.mattersBetween codePoint codePoint then folding else .exact)

def accepts (c : Char) : Symbol → Bool
  | any lineEnds => lineEnds || c != '\n'
  | code n negated .exact => (c.toNat == n) != negated
  | code n negated folding => (folding.letters (Char.ofNat n)).contains (folding.fold c) != negated
  | set chars => chars.contains c

/-- How the symbol compares characters. -/
def folding : Symbol → Folding
  | any _ => .exact
  | code _ _ folding => folding
  | set chars => chars.folding

/-- Whether the symbol is no single character or set that is tested as it is. -/
def isFolded : Symbol → Bool
  | any _ => true
  | code _ negated folding => negated || folding != .exact
  | set chars => chars.folding != .exact

/-- Whether the symbol is looked up in a table after folding. -/
def isFoldedSet : Symbol → Bool
  | any _ => false
  | code n _ folding => folding != .exact && (folding.letters (Char.ofNat n)).length != 1
  | set chars => chars.folding != .exact

end Symbol

inductive Anchor where
  | textStart
  | lineStart
  | textEnd
  /-- The end of the text, or before a line end that ends it. -/
  | lastLineEnd
  | lineEnd
  | wordBoundary (ascii : Bool)
  | noWordBoundary (ascii : Bool)
  deriving DecidableEq, Repr

/-- How a repetition chooses its count. -/
inductive Mode where
  | greedy
  | lazy
  /-- As many as possible, each settled before the next. -/
  | possessive
  deriving DecidableEq, Repr

/-- The least and the greatest count of characters that a part can match. -/
structure Width where
  least : Nat
  greatest : Option Nat
  deriving DecidableEq, Repr

inductive Node where
  | empty
  | seq (first second : Node)
  /-- An alternative, and what is tried after it. -/
  | alt (first others : Node)
  /-- What is left when all alternatives are used up: it matches nowhere. -/
  | never
  | symbol (symbol : Symbol)
  | anchor (anchor : Anchor)
  | group (index : Nat) (body : Node)
  /-- A part with options of its own. -/
  | flagged (body : Node)
  | repetition (mode : Mode) (least : Nat) (greatest : Option Nat) (body : Node)
  /-- A part that is settled once it has matched. -/
  | atomic (body : Node)
  | lookAhead (negated : Bool) (body : Node)
  | lookBehind (negated : Bool) (width : Width) (body : Node)
  /-- The text that a group has matched. -/
  | reference (group : Nat) (width : Width) (folding : Folding)
  /-- A choice by whether a group has matched. -/
  | conditional (group : Nat) (present absent : Node)
  deriving Repr

/-- Counts from this number on stand for no bound. -/
def maxRepeat : Nat := 4294967295

namespace Width

def zero : Width := ⟨0, some 0⟩

def one : Width := ⟨1, some 1⟩

/-- The width of no alternative at all, which any other one takes the place of. -/
def ofNone : Width := ⟨maxRepeat - 1, some 0⟩

/-- Whether all matches have the same width, below the greatest count. -/
def isFixed (w : Width) : Bool := w.greatest == some w.least && w.least < maxRepeat

def add (a b : Width) : Width :=
  ⟨a.least + b.least, match a.greatest, b.greatest with
    | some m, some n => some (m + n)
    | _, _ => none⟩

def join (a b : Width) : Width :=
  ⟨min a.least b.least, match a.greatest, b.greatest with
    | some m, some n => some (max m n)
    | _, _ => none⟩

def times (w : Width) (least : Nat) (greatest : Option Nat) : Width :=
  ⟨w.least * least, match w.greatest, greatest with
    | some 0, _ => some 0
    | some m, some n => some (m * n)
    | none, some 0 => some 0
    | _, none => none
    | none, _ => none⟩

end Width

namespace Node

def width : Node → Width
  | empty | anchor _ | lookAhead .. | lookBehind .. => .zero
  | never => .ofNone
  | seq a b => a.width.add b.width
  | alt a b => a.width.join b.width
  | symbol _ => .one
  | group _ body | flagged body | atomic body => body.width
  | repetition _ least greatest body => body.width.times least greatest
  | reference _ width _ => width
  | conditional _ present absent => present.width.join absent.width

def ofList : List Node → Node
  | [] => empty
  | [node] => node
  | node :: rest => seq node (ofList rest)

/-- The symbol that a node is, whatever its options. -/
def symbol? : Node → Option Symbol
  | symbol s => some s
  | flagged body => body.symbol?
  | _ => none

/-- Whether two nodes without inner parts are the same. -/
def sameLeaf : Node → Node → Bool
  | symbol s, symbol t => s == t
  | anchor a, anchor b => a == b
  | reference g _ _, reference h _ _ => g == h
  | _, _ => false

end Node

end Pattern

/-- A pattern: its text, its options, and its tree. -/
structure Pattern where
  source : String
  options : Pattern.Options
  root : Pattern.Node

namespace Pattern

/-- Patterns are the same when text and options are. -/
def same (a b : Pattern) : Bool := a.source == b.source && a.options.agree b.options

/-- The pattern as it is shown: its text, cut after 200 characters, and its options. -/
def shown (p : Pattern) : String :=
  let names := (Flag.shownNames.filter (p.options.contains ·.1)).map ("re." ++ ·.2)
  "re.compile(" ++ (Text.quote p.source).take 200 ++
    (if names.isEmpty then "" else ", " ++ "|".intercalate names) ++ ")"

end Pattern

end RecordAudit
