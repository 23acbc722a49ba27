import RecordAudit.Pattern.Token
import RecordAudit.Text.CharacterName

/-!
# Escapes and sets of characters

An escape stands for one character or for a class of characters. A set lists characters, ranges and
classes between brackets; inside it some escapes mean something else than outside.
-/

namespace RecordAudit.Pattern

open Text Reader

def isOctal (c : Char) : Bool := '0' ≤ c && c ≤ '7'

def isHex (c : Char) : Bool := c.isDigit || ('a' ≤ c.toLower && c.toLower ≤ 'f')

def hexValue (c : Char) : Nat :=
  if c.isDigit then c.toNat - 48 else c.toLower.toNat - 87

def valueIn (base : Nat) (digits : List Char) : Nat :=
  digits.foldl (fun n c => base * n + hexValue c) 0

/-- An escape with a fixed count of hexadecimal digits. -/
def readHex (letter : Char) (count : Nat) : Reader Nat := do
  let digits ← takeUpTo isHex count
  let text := '\\' :: letter :: digits
  if digits.length < count then failBack (.incompleteEscape (String.ofList text)) text.length
  let n := valueIn 16 digits
  if n < 0x110000 then return n
  else failBack (.badEscape (String.ofList text)) text.length

def readNamed : Reader Nat := do
  if ← accept '\x7b' then
    let name ← readName '\x7d' "character name"
    match CharacterName.find? (String.ofList name) with
    | some n => return n
    | none => failBack (.unknownCharacterName (String.ofList name)) (name.length + 4)
  else fail (.missing "\x7b")

def controlEscape? : Char → Option Nat
  | 'a' => some 7
  | 'f' => some 12
  | 'n' => some 10
  | 'r' => some 13
  | 't' => some 9
  | 'v' => some 11
  | '\\' => some 92
  | _ => none

def classEscape? : Char → Option SetItem
  | 'd' => some (.class .digit false)
  | 'D' => some (.class .digit true)
  | 's' => some (.class .blank false)
  | 'S' => some (.class .blank true)
  | 'w' => some (.class .word false)
  | 'W' => some (.class .word true)
  | _ => none

/-- An escape that means one character, wherever it stands. -/
def readCodeEscape (c : Char) : Reader Nat := do
  match controlEscape? c, c with
  | some n, _ => return n
  | none, 'x' => readHex 'x' 2
  | none, 'u' => readHex 'u' 4
  | none, 'U' => readHex 'U' 8
  | none, 'N' => readNamed
  | none, _ =>
    if c.isAlphanum then failBack (.badEscape (String.ofList ['\\', c])) 2 else return c.toNat

/-- Refuses an octal code beyond one byte. -/
def octalCode (digits : List Char) : Reader Nat := do
  let n := valueIn 8 digits
  if n ≤ 0o377 then return n
  else failBack (.octalTooLarge (String.ofList ('\\' :: digits))) (digits.length + 1)

def readSetItem : Token → Reader SetItem
  | .plain c => return .code c.toNat
  | .escaped 'b' => return .code 8
  | .escaped c => do
    match classEscape? c with
    | some item => return item
    | none =>
      if isOctal c then return .code (← octalCode (c :: (← takeUpTo isOctal 2)))
      else return .code (← readCodeEscape c)

/-- The items of a set, up to the bracket that closes it. A bracket that comes first is an item. -/
def readSetItems (start : Nat) : Nat → List SetItem → Reader (List SetItem)
  | 0, _ => failAt .unterminatedSet start
  | fuel + 1, items => do
    match ← next? with
    | none => failAt .unterminatedSet start
    | some token =>
      if token == .plain ']' && !items.isEmpty then return items
      let low ← readSetItem token
      if ← accept '-' then
        match ← next? with
        | none => failAt .unterminatedSet start
        | some (.plain ']') => return items ++ [low, .code '-'.toNat]
        | some last =>
          let high ← readSetItem last
          let refuse := failBack (.badRange (String.ofList token.text) (String.ofList last.text))
            (token.text.length + 1 + last.text.length)
          match low, high with
          | .code a, .code b =>
            if b < a then refuse else readSetItems start fuel (items ++ [.range a b])
          | _, _ => refuse
      else readSetItems start fuel (items ++ [low])

def setOf (options : Options) (items : List SetItem) (negated : Bool) : Node :=
  .symbol (.set (.ofItems items negated options.folding (options.contains .ascii)))

def literal (options : Options) (codePoint : Nat) : Node :=
  .symbol (.ofCode codePoint false options.folding)

/-- A set between brackets. A set of one character is that character, or all others. -/
def readSet (options : Options) (start : Nat) : Reader Node := do
  let negated ← accept '^'
  let items ← readSetItems start ((← get).rest.length + 1) []
  match items.eraseDups with
  | [.code n] => return .symbol (.ofCode n negated options.folding)
  | _ => return setOf options items negated

end RecordAudit.Pattern
