import RecordAudit.Pattern.Reference
import RecordAudit.Pattern.Inline

/-!
# Reading patterns

A pattern is a list of alternatives, an alternative a sequence of parts, and a part may be followed
by a repetition. `Pattern.read` reads a whole text as a pattern.
-/

namespace RecordAudit

namespace Pattern

open Text Reader

/-- What a part is for a repetition that follows it. -/
inductive Role where
  | anchor
  | repeated
  | other
  deriving DecidableEq

/-- A part of a sequence: its nodes, more than one where a group only holds them together. -/
structure Part where
  nodes : List Node
  role : Role

def boundOf (digits : List Char) : Reader Nat := do
  if 4300 < digits.length then throw ⟨.boundTooLong digits.length, none⟩
  let n := valueIn 10 digits
  if maxRepeat ≤ n then throw ⟨.boundTooLarge, none⟩
  return n

/-- The bounds between braces; without well-formed bounds nothing is read. -/
def readBounds? : Reader (Option (Nat × Option Nat)) := do
  let start ← get
  if (← peek?) == some (.plain '\x7d') then return none
  let low ← takeUpTo Char.isDigit start.rest.length
  let hasSecond ← accept ','
  let high ← if hasSecond then takeUpTo Char.isDigit start.rest.length else pure low
  if ← accept '\x7d' then
    let least ← if low.isEmpty then pure 0 else boundOf low
    if high.isEmpty then return some (least, none)
    let greatest ← boundOf high
    if greatest < least then failAt .boundsReversed start.position
    return some (least, some greatest)
  else
    set start
    return none

/-- The mark after a repetition that chooses its mode. -/
def readMode : Reader Mode := do
  if ← accept '?' then return .lazy
  if ← accept '+' then return .possessive
  return .greedy

def readRepetition (parts : List Part) (position least : Nat) (greatest : Option Nat) :
    Reader (List Part) := do
  match parts with
  | [] => failAt .nothingToRepeat position
  | part :: earlier =>
    match part.role with
    | .anchor => failAt .nothingToRepeat position
    | .repeated => failAt .repeatedRepetition position
    | .other =>
      let node := .repetition (← readMode) least greatest (.ofList part.nodes)
      return ⟨[node], .repeated⟩ :: earlier

def readEscape (options : Options) (c : Char) : Reader Part := do
  let ascii := options.contains .ascii
  match c with
  | 'A' => return ⟨[.anchor .textStart], .anchor⟩
  | 'Z' => return ⟨[.anchor .textEnd], .anchor⟩
  | 'b' => return ⟨[.anchor (.wordBoundary ascii)], .anchor⟩
  | 'B' => return ⟨[.anchor (.noWordBoundary ascii)], .anchor⟩
  | '0' => return ⟨[literal options (valueIn 8 (← takeUpTo isOctal 2))], .other⟩
  | _ =>
    match classEscape? c with
    | some item => return ⟨[setOf options [item] false], .other⟩
    | none =>
      if c.isDigit then return ⟨[← readNumbered options c], .other⟩
      else return ⟨[literal options (← readCodeEscape c)], .other⟩

def nodesOfParts (parts : List Part) : List Node := parts.reverse.flatMap (·.nodes)

/-- The nodes that all alternatives begin with, and what is left of each. -/
def splitSharedStart : List Node → List (List Node) → List Node × List (List Node)
  | [], others => ([], [] :: others)
  | node :: rest, others =>
    if others.all fun other => other.head?.any node.sameLeaf then
      let (shared, rests) := splitSharedStart rest (others.map List.tail)
      (node :: shared, rests)
    else ([], (node :: rest) :: others)

/-- The items of the set that an alternative is, if it is one character or a set that is not
negated. -/
def itemsOf? : List Node → Option (List SetItem)
  | [.symbol (.code n false _)] => some [.code n]
  | [.symbol (.set chars)] => if chars.negated then none else some chars.items
  | _ => none

/-- Alternatives as a sequence: what they share at the start comes once, and alternatives that are
single characters are one set. -/
def joinAlternatives (options : Options) : List (List Node) → List Node
  | [] => []
  | [only] => only
  | first :: others =>
    let (shared, rests) := splitSharedStart first others
    shared ++ [match rests.mapM itemsOf? with
      | some items => setOf options items.flatten false
      | none => rests.foldr (fun nodes others => .alt (.ofList nodes) others) .never]

def isPatternBlank (c : Char) : Bool := [' ', '\t', '\n', '\r', '\x0b', '\x0c'].contains c

/-- What a group opens: a part, nothing, or options for the whole pattern. -/
inductive Opened where
  | part (nodes : List Node)
  | nothing
  | options

mutual

/-- Alternatives up to a closing parenthesis or the end. Flags for the whole pattern may stand at
the start of its first alternative. -/
def readAlternatives : Nat → Options → Bool → Bool → Reader (List (List Node))
  | 0, _, _, _ => fail .unterminatedGroup
  | fuel + 1, options, outermost, first => do
    let nodes ← readSequence fuel options (outermost && first) []
    if ← accept '|' then
      let whole := (← get).options
      let options := if outermost then whole else options
      return nodes :: (← readAlternatives fuel options outermost false)
    else return [nodes]

/-- A sequence of parts, given those that were read, last one first. -/
def readSequence : Nat → Options → Bool → List Part → Reader (List Node)
  | 0, _, _, _ => fail .unterminatedGroup
  | fuel + 1, options, start, parts => do
    let position := (← get).position
    match ← peek? with
    | none | some (.plain '|') | some (.plain ')') => return nodesOfParts parts
    | some token =>
      let _ ← next?
      let go := readSequence fuel options start
      let one := fun node => go (⟨[node], .other⟩ :: parts)
      let anchor := fun a => go (⟨[.anchor a], .anchor⟩ :: parts)
      let repeated := fun (least : Nat) (greatest : Option Nat) => do
        go (← readRepetition parts position least greatest)
      match token with
      | .escaped c => go ((← readEscape options c) :: parts)
      | .plain c =>
        if options.contains .verbose && isPatternBlank c then go parts
        else if options.contains .verbose && c == '#' then
          let _ ← skipPast '\n' ((← get).rest.length + 1)
          go parts
        else match c with
          | '[' => one (← readSet options position)
          | '.' => one (.symbol (.any (options.contains .dotAll)))
          | '^' => anchor (if options.contains .multiline then .lineStart else .textStart)
          | '$' => anchor (if options.contains .multiline then .lineEnd else .lastLineEnd)
          | '?' => repeated 0 (some 1)
          | '*' => repeated 0 none
          | '+' => repeated 1 none
          | '\x7b' =>
            match ← readBounds? with
            | some (least, greatest) => repeated least greatest
            | none => one (literal options c.toNat)
          | '(' =>
            match ← readGroup fuel options (start && parts.isEmpty) position with
            | .part nodes => go (⟨nodes, .other⟩ :: parts)
            | .nothing => go parts
            | .options => readSequence fuel (← get).options start parts
          | _ => one (literal options c.toNat)

def readGroup : Nat → Options → Bool → Nat → Reader Opened
  | 0, _, _, _ => fail .unterminatedGroup
  | fuel + 1, options, start, position => do
    let close : Reader Unit := do
      if ← accept ')' then return else failAt .unterminatedGroup position
    let inner := fun options => do
      return joinAlternatives options (← readAlternatives fuel options false false)
    let closed := fun options => do
      let nodes ← inner options
      close
      return nodes
    let capture := fun name => do
      let group ← openGroup name
      let body := Node.ofList (← closed options)
      closeGroup group body.width
      return Opened.part [.group group body]
    let flags := fun first => do
      match ← readFlags first with
      | .scoped on off => return Opened.part [.flagged (.ofList (← closed (options.change on off)))]
      | .whole on =>
        if start then
          modify fun s => { s with options := s.options ++ on }
          return Opened.options
        else failAt .misplacedFlags position
    if !(← accept '?') then capture none
    else match ← next? with
      | none => fail .unexpectedEnd
      | some (.plain ':') => return .part (← closed options)
      | some (.plain '>') => return .part [.atomic (.ofList (← closed options))]
      | some (.plain '=') => return .part [.lookAhead false (.ofList (← closed options))]
      | some (.plain '!') => return .part [.lookAhead true (.ofList (← closed options))]
      | some (.plain '-') => flags none
      | some (.plain '#') =>
        if ← skipPast ')' ((← get).rest.length + 1) then return .nothing
        else failAt .unterminatedComment position
      | some (.plain 'P') =>
        if ← accept '<' then capture (some (String.ofList (← readGroupName '>')))
        else if ← accept '=' then return .part [← readNamedReference options]
        else match ← next? with
          | none => fail .unexpectedEnd
          | some token =>
            failBack (.unknownExtension (String.ofList ('P' :: token.text))) (token.text.length + 2)
      | some (.plain '<') =>
        match ← next? with
        | none => fail .unexpectedEnd
        | some token =>
          if token == .plain '=' || token == .plain '!' then
            let outer := (← get).behindFrom
            modify fun s => { s with behindFrom := outer <|> some s.groupCount }
            let body := Node.ofList (← inner options)
            modify fun s => { s with behindFrom := outer }
            close
            return .part [.lookBehind (token == .plain '!') body.width body]
          else
            failBack (.unknownExtension (String.ofList ('<' :: token.text))) (token.text.length + 2)
      | some (.plain '(') =>
        let group ← readCondition
        checkLookBehind group
        let present ← readSequence fuel options false []
        let hasSecond ← accept '|'
        let absent ← if hasSecond then readSequence fuel options false [] else pure []
        if hasSecond && (← peek?) == some (.plain '|') then fail .tooManyBranches
        close
        return .part [.conditional group (.ofList present) (.ofList absent)]
      | some token =>
        match token with
        | .plain c =>
          match Flag.ofLetter? c with
          | some flag => flags (some flag)
          | none => failBack (.unknownExtension c.toString) 2
        | .escaped _ => failBack (.unknownExtension (String.ofList token.text)) 3

end

def readPattern : Reader Node := do
  checkDangling
  let options := (← get).options
  let alternatives ← readAlternatives (3 * (← get).rest.length + 3) options true true
  let s ← get
  if s.options.contains .ascii && s.options.contains .unicode then
    throw ⟨.asciiAndUnicode, none⟩
  if !s.rest.isEmpty then fail .unbalancedParenthesis
  match s.conditions.find? fun (group, _) => s.groupCount ≤ group with
  | some (group, position) => failAt (.unknownGroup group) position
  | none => return .ofList (joinAlternatives s.options alternatives)

def Mode.shown : Mode → String
  | .greedy => "MAX_REPEAT"
  | .lazy => "MIN_REPEAT"
  | .possessive => "POSSESSIVE_REPEAT"

/-- Refuses what a well-formed pattern still cannot be matched with, the first such part in the
order in which parts begin: a look-behind of several widths, and under the flag for it any
repetition. -/
def Node.checkMatchable (template : Bool) : Node → Except Fault Unit
  | .lookBehind _ width body => do
    if !width.isFixed then throw ⟨.variableLookBehind, none⟩
    body.checkMatchable template
  | .repetition mode _ _ body => do
    if template then throw ⟨.repetitionRefused mode.shown, none⟩
    body.checkMatchable template
  | .seq a b | .alt a b | .conditional _ a b => do
    a.checkMatchable template
    b.checkMatchable template
  | .group _ body | .flagged body | .atomic body | .lookAhead _ body => body.checkMatchable template
  | .empty | .never | .symbol _ | .anchor _ | .reference .. => return

end Pattern

def Pattern.read (source : String) (options : Pattern.Options) : Except Pattern.Fault Pattern := do
  let cs := source.toList
  let (root, s) ← Pattern.readPattern.run ⟨cs, cs, 0, options, [], [], none, []⟩
  root.checkMatchable (s.options.contains .template)
  return ⟨source, s.options, root⟩

end RecordAudit
