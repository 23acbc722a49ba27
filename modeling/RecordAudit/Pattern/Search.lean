import RecordAudit.Fault
import RecordAudit.Pattern.Basic

/-!
# Searching with patterns

A node is matched from a place in the text, and what follows it in the pattern is its rest, so that
a later failure returns to an earlier choice. The first way to match that is found counts.

What an attempt has done is its trail: the place of its last step, and the places where groups began
and ended. A failure hands its trail back as well. Alternatives and repetitions that fail restore
the trail they started from, except that outside of any repetition the marks of groups that were
already there stay as the failure left them; and a possessive repetition goes on from the place
where its last, failing, round stopped.
-/

namespace RecordAudit

namespace Pattern

open Text

/-- What an attempt has done so far. -/
structure Trail where
  /-- The place of the last step. -/
  place : Nat
  /-- The start and the end of every group, first group first, as far as groups were entered. -/
  marks : Array (Option Nat)
  deriving DecidableEq, Repr

namespace Trail

def goTo (t : Trail) (place : Nat) : Trail := { t with place }

def mark (t : Trail) (index place : Nat) : Trail :=
  if index < t.marks.size then { t with marks := t.marks.set! index (some place) }
  else { t with marks := t.marks ++
    Array.replicate (index - t.marks.size) none |>.push (some place) }

def span? (t : Trail) (group : Nat) : Option (Nat × Nat) :=
  match (t.marks[2 * group - 2]?).join, (t.marks[2 * group - 1]?).join with
  | some start, some stop => if start ≤ stop then some (start, stop) else none
  | _, _ => none

/-- Forgets the marks that were set after others were saved, and those that replaced them where a
repetition is under way. -/
def restore (t : Trail) (saved : Array (Option Nat)) (looping : Bool) : Trail :=
  { t with marks := if looping then saved else t.marks.take saved.size }

/-- Whether some group ended before it began. -/
def hasReversedSpan (t : Trail) : Bool :=
  (List.range (t.marks.size / 2)).any fun i =>
    match (t.marks[2 * i]?).join, (t.marks[2 * i + 1]?).join with
    | some start, some stop => stop < start
    | _, _ => false

end Trail

/-- What came of an attempt. -/
structure Outcome where
  matched : Bool
  trail : Trail

/-- What some part of a pattern begins with. -/
inductive Opening where
  /-- Nothing, as the part is empty. -/
  | nothing
  | symbol (s : Symbol)
  /-- Something that is no symbol tested as it is. -/
  | other
  deriving DecidableEq, Repr

namespace Opening

/-- What a part begins with together with the part after it. -/
def followedBy : Opening → Opening → Opening
  | nothing, next => next
  | opening, _ => opening

@[simp] theorem nothing_followedBy (next : Opening) : nothing.followedBy next = next := rfl

@[simp] theorem followedBy_nothing (opening : Opening) :
    opening.followedBy nothing = opening := by
  cases opening <;> rfl

/-- Whether a part that begins so cannot begin with a certain character, or with the end of the
text. -/
def excludes (c : Option Char) : Opening → Bool
  | symbol s => !c.any (s.accepts ·)
  | _ => false

end Opening

/-- What remains to be matched. -/
structure Rest where
  opening : Opening
  run : (place : Nat) → Trail → Outcome

def Rest.done : Rest := ⟨.nothing, fun place t => ⟨true, t.goTo place⟩⟩

/-- A way to match one part before a rest. -/
structure Matcher where
  opening : Opening
  run : Rest → (place : Nat) → Trail → Outcome

/-- A matcher of a part that begins with no symbol. -/
def Matcher.ofRun (run : Rest → (place : Nat) → Trail → Outcome) : Matcher := ⟨.other, run⟩

/-! ## Conditions on places -/

def isWordAt (ascii : Bool) (c : Option Char) : Bool := c.any (CharClass.word.contains ascii)

/-- Whether an anchor holds at a place. No place of an empty text is inside or outside a word. -/
def Anchor.holds (text : Array Char) (place : Nat) : Anchor → Bool
  | .textStart => place == 0
  | .lineStart => place == 0 || text[place - 1]? == some '\n'
  | .textEnd => place == text.size
  | .lastLineEnd => place == text.size || place + 1 == text.size && text[place]? == some '\n'
  | .lineEnd => place == text.size || text[place]? == some '\n'
  | .wordBoundary ascii => isWordAt ascii (before place) != isWordAt ascii text[place]?
  | .noWordBoundary ascii =>
    text.size != 0 && isWordAt ascii (before place) == isWordAt ascii text[place]?
where
  before : Nat → Option Char
    | 0 => none
    | place + 1 => text[place]?

/-! ## Repetition of one character -/

/-- For each place the end of the longest run of accepted characters that begins there. -/
def runEnds (accepts : Char → Bool) (text : Array Char) : Array Nat :=
  (text.foldr (fun c (ends : Array Nat) =>
    ends.push (if accepts c then ends.back?.getD 0 else text.size - ends.size))
      #[text.size]).reverse

/-- Runs of characters of a text that a symbol accepts. -/
structure Runs where
  text : Array Char
  ends : Array Nat
  /-- Whether counting a run is itself a step for every character. -/
  stepwise : Bool

namespace Runs

def of (text : Array Char) (s : Symbol) : Runs := ⟨text, runEnds (s.accepts ·) text, s.isFoldedSet⟩

/-- The length of the run at a place, up to a limit. -/
def count (runs : Runs) (place : Nat) (limit : Option Nat) : Nat :=
  let length := runs.ends[place]?.getD place - place
  match limit with
  | some limit => min length limit
  | none => length

/-- The place of the last step after counting. -/
def counted (runs : Runs) (place count : Nat) : Nat :=
  if runs.stepwise then place + count else place

/-- The greatest number up to `spare` of places after `low` to a certain character. -/
def lastBefore? (text : Array Char) (code low : Nat) : (spare : Nat) → Option Nat
  | 0 => if holds low then some 0 else none
  | spare + 1 =>
    if holds (low + (spare + 1)) then some (spare + 1) else lastBefore? text code low spare
where
  holds (place : Nat) : Bool :=
    match text[place]? with
    | some c => c.toNat == code
    | none => false

/-- Matches the rest after a run that gives up to `spare` characters back, the longest run first.
Where the rest begins with a certain character, only its places are tried. -/
def giveBack (runs : Runs) (k : Rest) (looping : Bool) (saved : Array (Option Nat)) (low : Nat) :
    (fuel spare : Nat) → Trail → Outcome
  | 0, _, t => ⟨false, t⟩
  | fuel + 1, spare, t =>
    let tried := match k.opening with
      | .symbol (.code n false .exact) => lastBefore? runs.text n low spare
      | _ => some spare
    match tried with
    | none => ⟨false, t⟩
    | some spare =>
      let r := k.run (low + spare) (t.goTo (low + spare))
      if r.matched then r
      else
        let t := r.trail.restore saved looping
        match spare with
        | 0 => ⟨false, t⟩
        | spare + 1 => runs.giveBack k looping saved low fuel spare t

/-- Matches the rest after a run that takes up to `spare` further characters, the shortest first. -/
def takeMore (runs : Runs) (k : Rest) (looping : Bool) (saved : Array (Option Nat)) :
    (spare place : Nat) → Trail → Outcome
  | spare, place, t =>
    let r := k.run place (t.goTo place)
    if r.matched then r
    else
      let t := r.trail.restore saved looping
      match spare with
      | 0 => ⟨false, t.goTo (runs.counted place (runs.count place (some 1)))⟩
      | spare + 1 => runs.takeMore k looping saved spare (place + 1) t

/-- Matches a repetition of a symbol. -/
def matcher (runs : Runs) (mode : Mode) (least : Nat) (greatest : Option Nat) (looping : Bool) :
    Matcher :=
  .ofRun fun k place t =>
    if runs.text.size - place < least then ⟨false, t⟩
    else match mode with
      | .greedy =>
        let count := runs.count place greatest
        let t := t.goTo (runs.counted place count)
        if count < least then ⟨false, t⟩
        else
          let spare := count - least
          runs.giveBack k looping t.marks (place + least) (spare + 1) spare t
      | .lazy =>
        let count := runs.count place (some least)
        let t := t.goTo (runs.counted place count)
        if count < least then ⟨false, t⟩
        else runs.takeMore k looping t.marks (runs.count place greatest - least) (place + least) t
      | .possessive =>
        let count := runs.count place greatest
        if count < least then ⟨false, t.goTo (runs.counted place count)⟩
        else k.run (place + count) (t.goTo (place + count))

end Runs

/-! ## Repetition of other parts -/

/-- Whether one more round is allowed after some. -/
def allowsMore (count : Nat) : Option Nat → Bool
  | some greatest => count < greatest
  | none => true

namespace Matcher

/-- Rounds of a repetition, as many as possible. Beyond the least count a further round is tried
only where the round before it did not begin; `fuel` bounds the number of rounds. -/
def greedy (body : Matcher) (least : Nat) (greatest : Option Nat) (k : Rest) :
    (fuel count : Nat) → (last : Option Nat) → (place : Nat) → Trail → Outcome
  | 0, _, _, _, t => ⟨false, t⟩
  | fuel + 1, count, last, place, t =>
    let t := t.goTo place
    let orBack := fun (r : Outcome) => if r.matched then r else ⟨false, r.trail.goTo place⟩
    if count < least then
      orBack (body.run ⟨.other, body.greedy least greatest k fuel (count + 1) last⟩ place t)
    else if allowsMore count greatest && last != some place then
      let r := body.run ⟨.other, body.greedy least greatest k fuel (count + 1) (some place)⟩ place t
      if r.matched then r else orBack (k.run place t)
    else orBack (k.run place t)

/-- Rounds of a repetition, as few as possible. -/
def lazy (body : Matcher) (least : Nat) (greatest : Option Nat) (k : Rest) (looping : Bool) :
    (fuel count : Nat) → (last : Option Nat) → (place : Nat) → Trail → Outcome
  | 0, _, _, _, t => ⟨false, t⟩
  | fuel + 1, count, last, place, t =>
    let t := t.goTo place
    let further := fun (last : Option Nat) (t : Trail) =>
      let rest := ⟨.other, body.lazy least greatest k looping fuel (count + 1) last⟩
      let r := body.run rest place t
      if r.matched then r else ⟨false, r.trail.goTo place⟩
    if count < least then further last t
    else
      let r := k.run place t
      if r.matched then r
      else
        let t := (r.trail.restore t.marks looping).goTo place
        if allowsMore count greatest && last != some place then further (some place) t
        else ⟨false, t⟩

/-- A count of rounds, each settled before the next. -/
def settled (body : Matcher) : (count : Nat) → Trail → Outcome
  | 0, t => ⟨true, t⟩
  | count + 1, t =>
    let r := body.run .done t.place t
    if r.matched then body.settled count r.trail else r

/-- Further settled rounds, as many as match. The place where the last one fails is kept. -/
def settledMore (body : Matcher) (greatest : Option Nat) :
    (fuel count : Nat) → (last : Option Nat) → Trail → Trail
  | 0, _, _, t => t
  | fuel + 1, count, last, t =>
    if allowsMore count greatest && last != some t.place then
      let r := body.run .done t.place t
      if r.matched then body.settledMore greatest fuel (count + 1) (some t.place) r.trail
      else ⟨r.trail.place, t.marks⟩
    else t

def repeated (body : Matcher) (size : Nat) (mode : Mode) (least : Nat) (greatest : Option Nat)
    (looping : Bool) : Matcher :=
  let fuel := least + (size + 2) * (size + 2)
  .ofRun fun k place t =>
    match mode with
    | .greedy => body.greedy least greatest k fuel 0 none place t
    | .lazy => body.lazy least greatest k looping fuel 0 none place t
    | .possessive =>
      let r := body.settled least (t.goTo place)
      if r.matched then
        let t := body.settledMore greatest fuel least none r.trail
        k.run t.place t
      else ⟨false, r.trail.goTo place⟩

end Matcher

/-! ## Nodes -/

namespace Node

/-- The way to match a node in a text; `looping` says whether the node is part of a repetition that
is under way. -/
def matcher (text : Array Char) : Node → (looping : Bool) → Matcher
  | .empty, _ => ⟨.nothing, fun k place t => k.run place t⟩
  | .seq a b, looping =>
    let first := a.matcher text looping
    let second := b.matcher text looping
    ⟨first.opening.followedBy second.opening, fun k place t =>
      first.run ⟨second.opening.followedBy k.opening, second.run k⟩ place t⟩
  | .alt a others, looping =>
    let first := a.matcher text looping
    let second := others.matcher text looping
    .ofRun fun k place t =>
      if first.opening.excludes text[place]? then second.run k place t
      else
        let r := first.run ⟨.other, k.run⟩ place (t.goTo place)
        if r.matched then r else second.run k place (r.trail.restore t.marks looping)
  | .never, _ => .ofRun fun _ _ t => ⟨false, t⟩
  | .symbol s, _ =>
    let opening := if s.isFolded then .other else .symbol s
    match s.folding with
    | .exact =>
      ⟨opening, fun k place t =>
        if text[place]?.any (s.accepts ·) then k.run (place + 1) t else ⟨false, t⟩⟩
    -- A folded test costs more, so its answers for the whole text are found once.
    | _ =>
      let accepted := text.map (s.accepts ·)
      ⟨opening, fun k place t =>
        if accepted[place]?.getD false then k.run (place + 1) t else ⟨false, t⟩⟩
  | .anchor a, _ =>
    .ofRun fun k place t => if a.holds text place then k.run place t else ⟨false, t⟩
  | .group index body, looping =>
    let inner := body.matcher text looping
    .ofRun fun k place t =>
      inner.run ⟨.other, fun stop t => k.run stop (t.mark (2 * index - 1) stop)⟩ place
        (t.mark (2 * index - 2) place)
  | .flagged body, looping => body.matcher text looping
  | .repetition mode least greatest body, looping =>
    match body.symbol? with
    | some s => (Runs.of text s).matcher mode least greatest looping
    | none =>
      (body.matcher text (looping || mode != .possessive)).repeated text.size mode least greatest
        looping
  | .atomic body, looping =>
    let inner := body.matcher text looping
    .ofRun fun k place t =>
      let r := inner.run .done place (t.goTo place)
      if r.matched then k.run r.trail.place r.trail else ⟨false, r.trail.goTo place⟩
  | .lookAhead negated body, looping => aside 0 negated looping (body.matcher text looping)
  | .lookBehind negated width body, looping =>
    aside width.least negated looping (body.matcher text looping)
  | .reference index _ folding, _ =>
    .ofRun fun k place t =>
      match t.span? index with
      | some (start, stop) =>
        if repeats folding start place (stop - start) then k.run (place + (stop - start)) t
        else ⟨false, t⟩
      | none => ⟨false, t⟩
  | .conditional index present absent, looping =>
    let whenPresent := present.matcher text looping
    let whenAbsent := absent.matcher text looping
    .ofRun fun k place t =>
      if (t.span? index).isNone then whenAbsent.run k place t
      else match absent with
        | .empty => whenPresent.run k place t
        | _ => whenPresent.run ⟨.other, k.run⟩ place t
where
  /-- A condition on the text after a place, or before it in a given width. -/
  aside (width : Nat) (negated looping : Bool) (body : Matcher) : Matcher :=
    .ofRun fun k place t =>
      if place < width then if negated then k.run place t else ⟨false, t⟩
      else
        let r := body.run .done (place - width) (t.goTo (place - width))
        match r.matched, negated with
        | true, false => k.run place r.trail
        | false, true => k.run place (r.trail.restore t.marks looping)
        | _, _ => ⟨false, r.trail⟩
  /-- Whether so many characters at one place are the same as those at another one. -/
  repeats (folding : Folding) (start place : Nat) : (count : Nat) → Bool
    | 0 => true
    | count + 1 =>
      match text[start]?, text[place]? with
      | some c, some d =>
        folding.fold c == folding.fold d && repeats folding (start + 1) (place + 1) count
      | _, _ => false

/-- The node at the start of a node, inside any groups. -/
def first : Node → Node
  | .seq a _ => a.first
  | .group _ body | .flagged body => body.first
  | node => node

/-- The characters that alternatives begin with, if each begins with a certain one. -/
def firstCodes? : Node → Option (List SetItem)
  | .never => some []
  | .alt (.symbol (.code n false .exact)) others
  | .alt (.seq (.symbol (.code n false .exact)) _) others =>
    others.firstCodes?.map (.code n :: ·)
  | _ => none

end Node

/-- Where a search tries to match: the characters that a match can begin with, if they are known,
and how many places there are. -/
structure Entry where
  set : Option CharSet
  count : Nat

end Pattern

namespace Pattern

/-- Where to try to match in a text of a given size. A pattern that begins with a set is tried where
the set holds the character, with the classes of the whole pattern, whatever the part that begins it
says. -/
def entry (p : Pattern) (size : Nat) : Entry :=
  let ascii := p.options.contains .ascii
  let last := size - (p.root.width.least - 1)
  match p.root.first with
  | .symbol (.code _ false .exact) => ⟨none, size + 1⟩
  | .symbol (.set chars) =>
    if chars.isPlain then ⟨some { chars with folding := .exact, ascii }, last⟩ else ⟨none, last + 1⟩
  | node =>
    match node.firstCodes? with
    | some (item :: items) => ⟨some ⟨item :: items, false, .exact, ascii⟩, last⟩
    | _ => ⟨none, last + 1⟩

/-- What the first match from a place on gives, if there is one; `count` places are tried. -/
def firstMatch? (text : Array Char) (entrySet : Option CharSet) (m : Matcher) :
    (count place : Nat) → Option Trail
  | 0, _ => none
  | count + 1, place =>
    let possible := match entrySet with
      | some chars => text[place]?.any (chars.contains ·)
      | none => true
    let r := if possible then m.run .done place ⟨place, #[]⟩ else ⟨false, ⟨place, #[]⟩⟩
    if r.matched then some r.trail else firstMatch? text entrySet m count (place + 1)

/-- Whether the pattern matches somewhere in a text. -/
def occursIn (p : Pattern) (text : String) : Except RecordAudit.Fault Bool :=
  let cs := text.toList.toArray
  if cs.size < p.root.width.least then .ok false
  else
    let entry := p.entry cs.size
    match firstMatch? cs entry.set (p.root.matcher cs false) entry.count 0 with
    | some t => if t.hasReversedSpan then .error .reversedSpan else .ok true
    | none => .ok false

end Pattern

end RecordAudit
