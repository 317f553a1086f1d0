import SocksTunnel.Calendar.Date
import SocksTunnel.Manifest.Value

/-!
The scalars of a manifest: keys, texts in their four spellings, numbers, dates and times.
-/

namespace SocksTunnel.Manifest

open SocksTunnel.Text

/-! ### Characters -/

def isBlank (c : Char) : Bool := c = ' ' || c = '\t'

def skipBlanks (cs : List Char) : List Char := cs.dropWhile isBlank

/-- Blanks and line ends. -/
def isSpace (c : Char) : Bool := isBlank c || c = '\n'

/-- Control characters, which stand nowhere as they are; the tab is not one of them here. -/
def isControl (c : Char) : Bool := (c.toNat < 32 && c ≠ '\t') || c.toNat = 127

def isBareKeyChar (c : Char) : Bool := c.isAlphanum || c = '-' || c = '_'

/-! ### Texts -/

/-- The character of an escape of one letter. -/
def escaped? : Char → Option Char
  | 'b' => some '\x08'
  | 't' => some '\t'
  | 'n' => some '\n'
  | 'f' => some '\x0C'
  | 'r' => some '\r'
  | '\x22' => some '\x22'
  | '\\' => some '\\'
  | _ => none

/-- Read the code point of an escape. -/
def readCode (width : Nat) : Reader Char := fun cs =>
  let digits := cs.take width
  match digits.mapM hexValue? with
  | some values =>
      if digits.length ≠ width then problemAt .invalidHex cs
      else
        let code := values.foldl (16 * · + ·) 0
        if code.isValidChar then .ok (Char.ofNat code, cs.drop width)
        else problemAt .notScalar (cs.drop width)
  | none => problemAt .invalidHex cs
where
  hexValue? (c : Char) : Option Nat :=
    if '0' ≤ c ∧ c ≤ '9' then some (c.toNat - 48)
    else if 'a' ≤ c ∧ c ≤ 'f' then some (c.toNat - 87)
    else if 'A' ≤ c ∧ c ≤ 'F' then some (c.toNat - 55)
    else none

/-- Read what follows a backslash. In a text of several lines a backslash at the end of a line
swallows the line end and the space after it. -/
def readEscape (multiline : Bool) : Reader (List Char)
  | 'u' :: rest => (readCode 4 rest).map fun (c, rest) => ([c], rest)
  | 'U' :: rest => (readCode 8 rest).map fun (c, rest) => ([c], rest)
  | c :: rest =>
      if multiline && isSpace c then
        if c = '\n' then .ok ([], rest.dropWhile isSpace)
        else match skipBlanks rest with
          | [] => .ok ([], [])
          | '\n' :: more => .ok ([], more.dropWhile isSpace)
          | other => problemAt .unescapedBackslash other
      else match escaped? c with
        | some image => .ok ([image], rest)
        | none => problemAt .unescapedBackslash rest
  | [] => problemAt .unescapedBackslash []

/-- Read a text between double quotes, after the opening ones. The number of steps is bounded by
the length of the text. -/
def readBasic (multiline : Bool) : Nat → List Char → Reader (List Char)
  | 0, _, cs => problemAt .unterminatedText cs
  | _ + 1, _, [] => problemAt .unterminatedText []
  | fuel + 1, acc, '\x22' :: rest =>
      if !multiline then .ok (acc, rest)
      else match rest with
        | '\x22' :: '\x22' :: after => .ok (acc, after)
        | _ => readBasic multiline fuel (acc ++ ['\x22']) rest
  | fuel + 1, acc, '\\' :: rest => do
      let (image, rest) ← readEscape multiline rest
      readBasic multiline fuel (acc ++ image) rest
  | fuel + 1, acc, c :: rest =>
      if isControl c && !(multiline && c = '\n') then problemAt (.illegalCharacter c) (c :: rest)
      else readBasic multiline fuel (acc ++ [c]) rest

/-- Read a text between single quotes, after the opening one. -/
def readLiteral : Reader (List Char) := fun cs =>
  let body := cs.takeWhile (· ≠ '\x27')
  match cs.dropWhile (· ≠ '\x27') with
  | [] => problemAt (.expectedDelimiter "'") []
  | _ :: rest =>
      match body.find? isControl with
      | some c => problemAt (.invalidCharacter c) (cs.dropWhile (!isControl ·))
      | none => .ok (body, rest)

/-- The text before the first three single quotes, and the text after them. -/
def cutTripled : List Char → Option (List Char × List Char)
  | '\x27' :: '\x27' :: '\x27' :: rest => some ([], rest)
  | c :: rest => (cutTripled rest).map fun (body, after) => (c :: body, after)
  | [] => none

/-- Read a text of several lines between single quotes, after the opening ones. -/
def readLiteralLines : Reader (List Char) := fun cs =>
  match cutTripled cs with
  | none => problemAt (.expectedDelimiter "'''") []
  | some (body, rest) =>
      let isIllegal (c : Char) : Bool := isControl c && c ≠ '\n'
      match body.find? isIllegal with
      | some c => problemAt (.invalidCharacter c) (cs.dropWhile (!isIllegal ·))
      | none => .ok (body, rest)

/-- The first line end of a text of several lines does not belong to it. -/
def dropLineEnd : List Char → List Char
  | '\n' :: rest => rest
  | cs => cs

/-- One or two more quotes right after the closing ones belong to the text. -/
def addQuotes (delimiter : Char) (body rest : List Char) : List Char × List Char :=
  match rest with
  | c :: d :: after =>
      if c = delimiter then
        if d = delimiter then (body ++ [delimiter, delimiter], after)
        else (body ++ [delimiter], d :: after)
      else (body, rest)
  | [c] => if c = delimiter then (body ++ [delimiter], []) else (body, rest)
  | [] => (body, [])

/-- Read a text in any spelling. The front of the text is known to be a quote. -/
def readText : Reader (List Char)
  | '\x22' :: '\x22' :: '\x22' :: rest =>
      (readBasic true (rest.length + 1) [] (dropLineEnd rest)).map fun (body, rest) =>
        addQuotes '\x22' body rest
  | '\x22' :: rest => readBasic false (rest.length + 1) [] rest
  | '\x27' :: '\x27' :: '\x27' :: rest =>
      (readLiteralLines (dropLineEnd rest)).map fun (body, rest) => addQuotes '\x27' body rest
  | '\x27' :: rest => readLiteral rest
  | cs => problemAt .invalidValue cs

/-! ### Keys -/

/-- Read one part of a key. -/
def readKeyPart : Reader String
  | '\x22' :: rest =>
      (readBasic false (rest.length + 1) [] rest).map fun (s, rest) => (String.ofList s, rest)
  | '\x27' :: rest => (readLiteral rest).map fun (s, rest) => (String.ofList s, rest)
  | c :: rest =>
      if isBareKeyChar c then
        let cs := c :: rest
        .ok (String.ofList (cs.takeWhile isBareKeyChar), cs.dropWhile isBareKeyChar)
      else problemAt .invalidKey (c :: rest)
  | [] => problemAt .invalidKey []

/-- Read the parts of a key, with points between them. -/
def readKeyParts : Nat → Reader Key
  | 0, cs => problemAt .invalidKey cs
  | fuel + 1, cs => do
      let (part, rest) ← readKeyPart cs
      match skipBlanks rest with
      | '.' :: more =>
          let (parts, rest) ← readKeyParts fuel (skipBlanks more)
          return (part :: parts, rest)
      | rest => return ([part], rest)

def readKey : Reader Key := fun cs => readKeyParts (cs.length + 1) cs

/-! ### Numbers -/

/-- Digits of a class at the front of a text, with single underscores between them. -/
def digitsOf (isDigit : Char → Bool) : List Char → List Char × List Char
  | c :: rest =>
      if isDigit c then
        let (more, left) := digitsOf isDigit rest
        (c :: more, left)
      else if c = '_' then
        match rest with
        | d :: _ =>
            if isDigit d then
              let (more, left) := digitsOf isDigit rest
              (more, left)
            else ([], c :: rest)
        | [] => ([], [c])
      else ([], c :: rest)
  | [] => ([], [])

/-- A run of digits that starts with a digit. -/
def digitRun? (isDigit : Char → Bool) (cs : List Char) : Option (List Char × List Char) :=
  match cs with
  | c :: _ => if isDigit c then some (digitsOf isDigit cs) else none
  | [] => none

/-- The number that digits write in a base. -/
def inBase (base : Nat) (cs : List Char) : Nat :=
  cs.foldl (fun n c =>
    let d := if isPlainDigit c then c.toNat - 48 else if 'a' ≤ c then c.toNat - 87 else c.toNat - 55
    base * n + d) 0

/-- An integer with a mark for its base. -/
def basedInteger? : List Char → Option (Value × List Char)
  | '0' :: mark :: rest =>
      let found (base : Nat) (isDigit : Char → Bool) : Option (Value × List Char) :=
        (digitRun? isDigit rest).map fun (ds, left) => (.integer (inBase base ds), left)
      match mark with
      | 'x' => found 16 fun c => isPlainDigit c || ('a' ≤ c && c ≤ 'f') || ('A' ≤ c && c ≤ 'F')
      | 'b' => found 2 fun c => c = '0' || c = '1'
      | 'o' => found 8 fun c => '0' ≤ c && c ≤ '7'
      | _ => none
  | _ => none

/-- The exponent of a number: its sign and digits, and the rest; nothing if there is none. -/
def exponent? (cs : List Char) : Option (Int × List Char) :=
  match cs with
  | e :: rest =>
      if e = 'e' || e = 'E' then
        let (negative, rest) := Binary64.takeSign rest
        (digitRun? isPlainDigit rest).map fun (ds, left) =>
          let n : Int := plainNumber ds
          (if negative then -n else n, left)
      else none
  | [] => none

/-- A decimal number, with or without a fraction and an exponent. The digits of an integer are
limited in number. -/
def decimalNumber? (cs : List Char) : Option (Except Located (Value × List Char)) :=
  let (negative, body) := Binary64.takeSign cs
  let whole : Option (List Char × List Char) := match body with
    | '0' :: rest => some (['0'], rest)
    | _ => digitRun? isPlainDigit body
  whole.map fun (ws, rest) =>
    let part : Option (List Char × List Char) := match rest with
      | '.' :: more => digitRun? isPlainDigit more
      | _ => none
    let (fs, rest) := part.getD ([], rest)
    let ending := exponent? rest
    let (e, rest) := ending.getD (0, rest)
    if part.isNone && ending.isNone then
      match readDigitRun ws with
      | .ok n => .ok (.integer (if negative then -(n : Int) else n), rest)
      | .error e => problemAt (.numeral e) cs
    else
      .ok (.real (Binary64.ofDecimal negative (plainNumber (ws ++ fs)) (e - (fs.length : Int))),
        rest)

/-- The words for infinity and for what is not a number. -/
def specialNumber? (cs : List Char) : Option (Value × List Char) :=
  let (negative, body) := Binary64.takeSign cs
  match body with
  | 'i' :: 'n' :: 'f' :: rest => some (.real (.infinite negative), rest)
  | 'n' :: 'a' :: 'n' :: rest => some (.real .nan, rest)
  | _ => none

/-! ### Dates and times -/

/-- Two digits that write a number between two bounds. -/
def twoDigits? (low high : Nat) (cs : List Char) : Option (Nat × List Char) :=
  (plainDigits? 2 cs).filter fun (n, _) => low ≤ n && n ≤ high

/-- A character that has to be there. -/
def expected? (c : Char) : List Char → Option (List Char)
  | d :: rest => if c = d then some rest else none
  | [] => none

/-- The rest of a text after a time of day, if one stands at its front. -/
def afterTime? (cs : List Char) : Option (List Char) := do
  let (_, rest) ← twoDigits? 0 23 cs
  let (_, rest) ← twoDigits? 0 59 (← expected? ':' rest)
  let (_, rest) ← twoDigits? 0 59 (← expected? ':' rest)
  match rest with
  | '.' :: more =>
      some (if more.head?.any isPlainDigit then more.dropWhile isPlainDigit else rest)
  | _ => some rest

/-- The rest of a text after an offset from universal time; all of it if there is none. -/
def afterOffset (cs : List Char) : List Char :=
  let offset? : Option (List Char) := match cs with
    | sign :: rest =>
        if sign = 'Z' || sign = 'z' then some rest
        else if sign = '+' || sign = '-' then do
          let (_, rest) ← twoDigits? 0 23 rest
          let (_, rest) ← twoDigits? 0 59 (← expected? ':' rest)
          return rest
        else none
    | [] => none
  offset?.getD cs

/-- A date at the front of a text: the rest, and whether there is such a day. -/
def afterDate? (cs : List Char) : Option (List Char × Bool) := do
  let (century, rest) ← twoDigits? 0 99 cs
  let (year, rest) ← twoDigits? 0 99 rest
  let (month, rest) ← twoDigits? 1 12 (← expected? '-' rest)
  let (day, rest) ← twoDigits? 1 31 (← expected? '-' rest)
  let year := 100 * century + year
  return (rest, 1 ≤ year && day ≤ Calendar.daysIn year month)

/-- A date, a date with a time, or a time. -/
def readMoment? (cs : List Char) : Option (Except Located (Value × List Char)) :=
  let written (kind : MomentKind) (rest : List Char) : Value × List Char :=
    (.moment kind (String.ofList (cs.take (cs.length - rest.length))), rest)
  match afterDate? cs with
  | some (rest, isDay) =>
      let timed := match rest with
        | mark :: more => if mark = 'T' || mark = 't' || mark = ' ' then afterTime? more else none
        | [] => none
      let found := match timed with
        | some after => written .dateTime (afterOffset after)
        | none => written .date rest
      some (if isDay then .ok found else problemAt .invalidMoment cs)
  | none => (afterTime? cs).map fun rest => .ok (written .time rest)

/-- Read a date, a time or a number. -/
def readNumeral : Reader Value := fun cs =>
  match readMoment? cs with
  | some moment => moment
  | none =>
      let based := (basedInteger? cs).map .ok
      let special := (specialNumber? cs).map .ok
      ((based.or (decimalNumber? cs)).or special).getD (problemAt .invalidValue cs)

end SocksTunnel.Manifest
