import RecordAudit.Value.Basic
import RecordAudit.Pattern.Fault

/-!
# Faults

The causes for which an operation gives no result, and the message of each.
-/

namespace RecordAudit

open Number Text

/-- Operators of assertion terms that two operands may not allow. -/
inductive OperandFault where
  /-- An assertion or an operand of a connective that is a plain value, and no truth value. -/
  | truthExpected (given : Value)
  /-- An arithmetic term where a truth value is expected. -/
  | notATruthValue
  /-- A literal that writes no number of the sort it is compared with. -/
  | unreadableLiteral
  /-- A number given as text with a denominator of zero. -/
  | zeroDenominator
  /-- A number given as text with both a stroke and an exponent. -/
  | mixedNotation
  /-- A literal with a fraction where an integer is expected. -/
  | integerLiteralExpected
  /-- A remainder of numbers that are not integers. -/
  | integerRemainderExpected
  /-- A conversion to real numbers of a term that is not an integer. -/
  | integerConversionExpected
  /-- An ordering between operands that have none. -/
  | notOrdered (operator left right : String)
  /-- An arithmetic operator between operands that do not allow it. -/
  | notSupported (operator left right : String)
  /-- A sign in front of an operand that allows none. -/
  | signNotSupported (operand : String)
  /-- A plain value without the attribute that a term has. -/
  | notATerm (typeName : String)
  /-- A plain value in an order of terms for texts. -/
  | noTerm (typeName : String)
  /-- A term for texts where a number is converted. -/
  | noNumber
  /-- A plain value where a term for texts is expected. -/
  | expressionExpected
  /-- A plain value that is joined to a term for texts. -/
  | sequenceExpected
  /-- A term of another sort that is joined to a term for texts. -/
  | sequenceSortExpected
  /-- A plain value that a term for texts is joined to. -/
  | bitVectorsExpected
  /-- An order between a term for texts and a term of another sort. -/
  | textsExpected (operator left right : String)
  /-- A sequence that is joined to something else. -/
  | concatenation (left right : String)
  /-- A sequence that is repeated other than an integer number of times. -/
  | repetition (count : String)
  /-- A sequence that is repeated more often than a machine word says. -/
  | repetitionTooOften
  /-- A text that would be too long when it is repeated. -/
  | repeatedTextTooLong
  /-- A plain value that stands for no term. -/
  | literalExpected
  /-- Operands whose sorts have no common sort. -/
  | sortMismatch
  /-- An operand of a connective that has the wrong sort. -/
  | connectiveMismatch (connective sort : String)
  /-- A division of literals by zero. -/
  | divisionByZero (message : String)
  deriving Repr

def OperandFault.message : OperandFault → String
  | .truthExpected v =>
    "True, False or Z3 Boolean expression expected. Received " ++ v.plain ++ " of type <class '" ++
      v.fullTypeName ++ "'>"
  | .notATruthValue => "Value cannot be converted into a Z3 Boolean value"
  | .unreadableLiteral => "b'parser error'"
  | .zeroDenominator => "b'division by zero'"
  | .mixedNotation => "b'mixing rational/scientific notation'"
  | .integerLiteralExpected => "b'invalid rational value passed as an integer'"
  | .integerRemainderExpected => "Z3 integer expression expected"
  | .integerConversionExpected => "Z3 integer expression expected."
  | .notOrdered op l r =>
    "'" ++ op ++ "' not supported between instances of '" ++ l ++ "' and '" ++ r ++ "'"
  | .notSupported op l r =>
    "unsupported operand type(s) for " ++ op ++ ": '" ++ l ++ "' and '" ++ r ++ "'"
  | .signNotSupported t => "bad operand type for unary -: '" ++ t ++ "'"
  | .notATerm t => "'" ++ t ++ "' object has no attribute 'ctx'"
  | .noTerm t => "'" ++ t ++ "' object has no attribute 'as_ast'"
  | .noNumber => "'SeqRef' object has no attribute 'is_int'"
  | .expressionExpected => "Z3 expression expected"
  | .sequenceExpected => "Non-expression passed as a sequence"
  | .sequenceSortExpected => "Non-sequence passed as a sequence"
  | .bitVectorsExpected => "All arguments must be Z3 bit-vector expressions."
  | .textsExpected op l r =>
    "b\"Sort of function 'str." ++ op ++ "' does not match the declared type. Given domain: " ++
      l ++ " " ++ r ++ " \\nExpected domain: String String \""
  | .concatenation l r => "can only concatenate " ++ l ++ " (not \"" ++ r ++ "\") to " ++ l
  | .repetition t => "can't multiply sequence by non-int of type '" ++ t ++ "'"
  | .repetitionTooOften => "cannot fit 'int' into an index-sized integer"
  | .repeatedTextTooLong => "repeated string is too long"
  | .literalExpected => "Python bool, int, long or float expected"
  | .sortMismatch => "sort mismatch"
  | .connectiveMismatch connective sort =>
    "b'Sort mismatch at argument #1 for function (declare-fun " ++ connective ++
      " (Bool Bool) Bool) supplied sort is " ++ sort ++ "'"
  | .divisionByZero m => m

/-- Why a template cannot be filled. -/
inductive TemplateFault where
  /-- A place that ends before its letter. -/
  | incomplete
  | incompleteKey
  | widthTooBig
  | precisionTooBig
  /-- A letter without a meaning, and its position. -/
  | unsupportedLetter (letter : Char) (position : Nat)
  /-- A key where nothing has entries. -/
  | mappingRequired
  | missingKey (key : String)
  /-- A key for a list. -/
  | indexByText
  | tooFewArguments
  | unusedArguments
  /-- A width or a precision that is no integer. -/
  | countExpected
  /-- A width or a precision that is too large for a machine word. -/
  | countTooLarge (word : String)
  /-- A filling that is no number where a letter takes any number. -/
  | numberRequired (letter : Char) (typeName : String)
  /-- A filling that is no integer where a letter takes integers only. -/
  | integerRequired (letter : Char) (typeName : String)
  /-- A filling that is no number where a floating-point number is written. -/
  | realRequired (typeName : String)
  | characterRequired
  | characterOutOfRange
  deriving Repr

def TemplateFault.message : TemplateFault → String
  | .incomplete => "incomplete format"
  | .incompleteKey => "incomplete format key"
  | .widthTooBig => "width too big"
  | .precisionTooBig => "precision too big"
  | .unsupportedLetter c position =>
    let shown := if 31 ≤ c.toNat && c.toNat ≤ 126 then c else '?'
    "unsupported format character '" ++ String.singleton shown ++ "' (0x" ++
      String.ofList (Nat.toDigits 16 c.toNat) ++ ") at index " ++ toString position
  | .mappingRequired => "format requires a mapping"
  | .missingKey key => quote key
  | .indexByText => "list indices must be integers or slices, not str"
  | .tooFewArguments => "not enough arguments for format string"
  | .unusedArguments => "not all arguments converted during string formatting"
  | .countExpected => "* wants int"
  | .countTooLarge word => "Python int too large to convert to " ++ word
  | .numberRequired c t =>
    "%" ++ String.singleton c ++ " format: a real number is required, not " ++ t
  | .integerRequired c t =>
    "%" ++ String.singleton c ++ " format: an integer is required, not " ++ t
  | .realRequired t => "must be real number, not " ++ t
  | .characterRequired => "%c requires int or char"
  | .characterOutOfRange => "%c arg not in range(0x110000)"

inductive Fault where
  /-- Raised by code of the caller: its kind and its message. -/
  | raised (kind message : String)
  /-- A name that is none of the choices. -/
  | unknownName (given : Value) (choice : String)
  /-- A text that writes no floating-point number. -/
  | notANumber (given : String)
  /-- A text that writes no integer. -/
  | notAnInteger (given : String)
  /-- A value of a type that cannot be a floating-point number. -/
  | noFloatFrom (given : Value)
  /-- A value of a type that cannot be an integer. -/
  | noIntegerFrom (given : Value)
  | integerTooLargeForFloat
  | infinityToInteger
  | nanToInteger
  /-- A floating-point number without a fraction of its own. -/
  | notAFraction (given : Binary64)
  /-- An integer text of too many digits. -/
  | tooManyDigits (count : Nat)
  /-- An integer whose text would have too many digits. -/
  | integerTextTooLong
  /-- A quotient beyond the finite numbers. -/
  | quotientTooLarge
  /-- A value that cannot be written with a fixed count of digits. -/
  | noFixedText (given : Value)
  | unreadableThreshold (given : Value)
  | notAFormula (given : Value)
  /-- A text that is no pattern. -/
  | pattern (fault : Pattern.Fault)
  /-- A match in which a group ended before it began. -/
  | reversedSpan
  /-- A rule without some of the parts that it needs. -/
  | incompleteRule (missing : List String)
  | unknownVariable (name : String)
  /-- A value that is no list of assertions. -/
  | notIterable (given : Value)
  | operand (fault : OperandFault)
  | template (fault : TemplateFault)
  /-- A result that does not fit into memory. -/
  | memoryExhausted
  | outsideScope
  /-- The use of a session before there is one. -/
  | noSession (operation : String)
  | noOpenFrame
  | incompleteConstraint (missing : List String)
  /-- A text that is no level of logs. -/
  | unknownLevel (given : String)
  /-- Something that is neither a level of logs nor a text, as it is shown. -/
  | noLevel (shown : String)
  /-- A value under a name that a method already has a value for. -/
  | givenTwice (method name : String)
  /-- A method that logs do not have. -/
  | unknownMethod (name : String)
  deriving Repr

namespace Fault

/-- Quoted names as a list in a sentence. -/
def enumeration (names : List String) : String :=
  match names.map quote with
  | [] => ""
  | [a] => a
  | [a, b] => a ++ " and " ++ b
  | quoted => ", ".intercalate quoted.dropLast ++ ", and " ++ quoted.getLastD ""

/-- The longest decimal text that integers are read from or written to. -/
def maxIntegerDigits : Nat := 4300

/-- Longer texts and lists do not fit into memory. -/
def maxTextLength : Nat := 4294967296

/-- The most characters of quoted text that a message about an integer shows. -/
def maxShownText : Nat := 200

def message : Fault → String
  | .raised _ m => m
  | .unknownName given choice => given.shown ++ " is not a valid " ++ choice
  | .notANumber s => "could not convert string to float: " ++ quote s
  | .notAnInteger s =>
    "invalid literal for int() with base 10: " ++
      String.ofList ((quoteChars s.toList).take maxShownText)
  | .noFloatFrom v =>
    "float() argument must be a string or a real number, not '" ++ v.fullTypeName ++ "'"
  | .noIntegerFrom v =>
    "int() argument must be a string, a bytes-like object or a real number, not '" ++
      v.fullTypeName ++ "'"
  | .integerTooLargeForFloat => "int too large to convert to float"
  | .infinityToInteger => "cannot convert float infinity to integer"
  | .nanToInteger => "cannot convert float NaN to integer"
  | .notAFraction x => "Invalid literal for Fraction: '" ++ x.text ++ "'"
  | .tooManyDigits n =>
    "Exceeds the limit (" ++ toString maxIntegerDigits ++
      " digits) for integer string conversion: value has " ++ toString n ++
      " digits; use sys.set_int_max_str_digits() to increase the limit"
  | .integerTextTooLong =>
    "Exceeds the limit (" ++ toString maxIntegerDigits ++
      " digits) for integer string conversion; use sys.set_int_max_str_digits() to increase the limit"
  | .quotientTooLarge => "integer division result too large for a float"
  | .noFixedText (.text _) => "Unknown format code 'f' for object of type 'str'"
  | .noFixedText v => "unsupported format string passed to " ++ v.fullTypeName ++ ".__format__"
  | .unreadableThreshold v => "Rule threshold is not a number: " ++ v.shown
  | .notAFormula v => "Not a logic expression: " ++ v.typeName
  | .pattern fault => fault.message
  | .reversedSpan => "The span of capturing group is wrong, please report a bug for the re module."
  | .incompleteRule missing =>
    "ValidationRule.__init__() missing " ++ toString missing.length ++
      " required positional argument" ++ (if missing.length == 1 then "" else "s") ++ ": " ++
      enumeration missing
  | .unknownVariable name => quote name
  | .notIterable v => "'" ++ v.fullTypeName ++ "' object is not iterable"
  | .operand fault => fault.message
  | .template fault => fault.message
  | .memoryExhausted => ""
  | .outsideScope => "Solver session used outside of scope()"
  | .noSession operation => "'NoneType' object has no attribute '" ++ operation ++ "'"
  | .noOpenFrame => "b'index out of bounds'"
  | .incompleteConstraint missing =>
    "SMT constraint is incomplete, missing: " ++ ", ".intercalate missing
  | .unknownLevel s => "Unknown level: " ++ quote s
  | .noLevel shown => "Level not an integer or a valid string: " ++ shown
  | .givenTwice method name =>
    "BoundLogger." ++ method ++ "() got multiple values for argument '" ++ name ++ "'"
  | .unknownMethod name => "'BoundLogger' object has no attribute '" ++ name ++ "'"

end Fault

def chooseByName {α : Type} (choice : String) (all : List α) (name : α → String) (given : Value) :
    Except Fault α :=
  match given with
  | .text s =>
    match all.find? (name · == s) with
    | some a => .ok a
    | none => .error (.unknownName given choice)
  | _ => .error (.unknownName given choice)

end RecordAudit
