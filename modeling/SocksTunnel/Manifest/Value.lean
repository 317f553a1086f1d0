import SocksTunnel.Binary64.Reader
import SocksTunnel.Text.DigitRun

/-!
The values of a manifest, and what can be wrong with its text.

A manifest is a TOML document: tables of keys and values, where a value may be an array or a
table again. A problem is reported with the place where it was found, counted from the end of
the text while reading and turned into a line and a column afterwards.
-/

namespace SocksTunnel.Manifest

open SocksTunnel.Text

/-- What a date or a time tells. -/
inductive MomentKind where
  | date
  | time
  | dateTime
  deriving DecidableEq, Repr

/-- A value. Dates and times are kept as they are written. -/
inductive Value where
  | text (s : String)
  | integer (i : Int)
  | real (x : Binary64)
  | truth (b : Bool)
  | moment (kind : MomentKind) (s : String)
  | array (items : List Value)
  | table (entries : List (String × Value))

/-- Keys and values, in the order in which they were defined. -/
abbrev Table := List (String × Value)

/-- A dotted key. -/
abbrev Key := List String

/-- What can be wrong with the text of a manifest. -/
inductive Problem where
  | invalidStatement
  | expectedEnd
  | invalidCharacter (c : Char)
  | expectedDelimiter (delimiter : String)
  | expectedEquals
  | invalidKey
  | unterminatedText
  | unescapedBackslash
  | invalidHex
  | notScalar
  | illegalCharacter (c : Char)
  | invalidValue
  | invalidMoment
  | unclosedArray
  | unclosedTable
  | duplicateKey (key : String)
  | declaredTwice (key : Key)
  | redefined (key : Key)
  | immutable (key : Key)
  | overwritten
  | expectedTableEnd
  | expectedArrayEnd
  /-- An integer has too many digits. -/
  | numeral (error : NumeralError)

/-- A problem and how many characters follow the place where it is. -/
structure Located where
  problem : Problem
  left : Nat

/-- A reader takes characters from the front of a text. -/
abbrev Reader (α : Type) := List Char → Except Located (α × List Char)

/-- Report a problem at the front of a text. -/
def problemAt {α : Type} (problem : Problem) (rest : List Char) : Except Located α :=
  .error ⟨problem, rest.length⟩

/-! ### Messages -/

/-- A dotted key in parentheses. -/
def keyText (key : Key) : String :=
  match key with
  | [part] => "(" ++ quote part ++ ",)"
  | parts => "(" ++ ", ".intercalate (parts.map quote) ++ ")"

def Problem.message : Problem → String
  | .invalidStatement => "Invalid statement"
  | .expectedEnd => "Expected newline or end of document after a statement"
  | .invalidCharacter c => "Found invalid character " ++ quote c.toString
  | .expectedDelimiter delimiter => "Expected " ++ quote delimiter
  | .expectedEquals => "Expected '=' after a key in a key/value pair"
  | .invalidKey => "Invalid initial character for a key part"
  | .unterminatedText => "Unterminated string"
  | .unescapedBackslash => "Unescaped '\\' in a string"
  | .invalidHex => "Invalid hex value"
  | .notScalar => "Escaped character is not a Unicode scalar value"
  | .illegalCharacter c => "Illegal character " ++ quote c.toString
  | .invalidValue => "Invalid value"
  | .invalidMoment => "Invalid date or datetime"
  | .unclosedArray => "Unclosed array"
  | .unclosedTable => "Unclosed inline table"
  | .duplicateKey key => "Duplicate inline table key " ++ quote key
  | .declaredTwice key => "Cannot declare " ++ keyText key ++ " twice"
  | .redefined key => "Cannot redefine namespace " ++ keyText key
  | .immutable key => "Cannot mutate immutable namespace " ++ keyText key
  | .overwritten => "Cannot overwrite a value"
  | .expectedTableEnd => "Expected ']' at the end of a table declaration"
  | .expectedArrayEnd => "Expected ']]' at the end of an array declaration"
  | .numeral e => e.message

/-- The line and the column after the first `before` characters of a text. -/
def placeText (source : List Char) (before : Nat) : String :=
  if source.length ≤ before then "end of document"
  else
    let seen := source.take before
    "line " ++ decimal (seen.count '\n' + 1) ++ ", column "
      ++ decimal ((seen.reverse.takeWhile (· ≠ '\n')).length + 1)

/-- Why a text is not read: it is malformed, which the message tells with the place, or it is
well formed and has an integer with too many digits. -/
inductive ReadError where
  | malformed (message : String)
  | numeral (error : NumeralError)
  deriving DecidableEq, Repr

def ReadError.message : ReadError → String
  | .malformed message => message
  | .numeral e => e.message

/-- A problem in a text as the reason why the text is not read. -/
def Located.toReadError (source : List Char) (p : Located) : ReadError :=
  match p.problem with
  | .numeral e => .numeral e
  | problem => .malformed <|
      problem.message ++ " (at " ++ placeText source (source.length - p.left) ++ ")"

end SocksTunnel.Manifest
