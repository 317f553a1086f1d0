/-!
Arguments: options in their long and short spelling, and the words that are no options.

A long option is written `--name`, `--name=value` or `--name value`; short options are letters
behind one hyphen, of which the last may take the rest of the word or the next word as its value.
The word `--` ends the options. Names are never abbreviated.
-/

namespace SocksTunnel.CommandLine

/-- The spellings of options: which option a long name and a letter stand for, which options take
a value, and whether options may come after a word that is none. -/
structure Spelling (α : Type) where
  long? : String → Option α
  short? : Char → Option α
  takesValue : α → Bool
  interspersed : Bool

/-- Why arguments cannot be understood. -/
inductive UsageError where
  | unknownOption (word : String)
  | missingValue (word : String)
  | unwantedValue (word : String)
  | badNumber (text : String)
  | missingOption (name : String)
  | extraWords (words : List String)
  | missingCommand
  | unknownCommand (name : String)
  deriving DecidableEq, Repr

def UsageError.message : UsageError → String
  | .unknownOption word => "No such option: " ++ word
  | .missingValue word => "Option '" ++ word ++ "' requires an argument."
  | .unwantedValue word => "Option '" ++ word ++ "' does not take a value."
  | .badNumber text => "'" ++ text ++ "' is not a valid number."
  | .missingOption name => "Missing option '" ++ name ++ "'."
  | .extraWords words => "Got unexpected extra arguments (" ++ " ".intercalate words ++ ")"
  | .missingCommand => "Missing command."
  | .unknownCommand name => "No such command '" ++ name ++ "'."

/-- Arguments that are understood: the options with their values in the order given, and the
other words. An option that takes no value has an empty one. -/
structure Arguments (α : Type) where
  options : List (α × String)
  words : List String

namespace Arguments

variable {α : Type}

def addOptions (options : List (α × String)) (a : Arguments α) : Arguments α :=
  { a with options := options ++ a.options }

def addWord (word : String) (a : Arguments α) : Arguments α := { a with words := word :: a.words }

/-- The last value of an option. -/
def last? [DecidableEq α] (option : α) (a : Arguments α) : Option String :=
  ((a.options.filter (·.1 = option)).getLast?).map (·.2)

end Arguments

/-! ### One word -/

/-- The options in one word, and the option that still waits for its value. -/
structure WordOptions (α : Type) where
  given : List (α × String)
  waiting : Option α

/-- The part of a word before its first equals sign, and the part after it if there is one. -/
def splitValue (word : String) : String × Option String :=
  let cs := word.toList
  match cs.dropWhile (· ≠ '=') with
  | [] => (word, none)
  | _ :: value => (String.ofList (cs.takeWhile (· ≠ '=')), some (String.ofList value))

namespace Spelling

variable {α : Type} (spelling : Spelling α)

/-- Read letters behind a hyphen. -/
def readLetters : List Char → Except UsageError (WordOptions α)
  | [] => .ok ⟨[], none⟩
  | c :: rest =>
      match spelling.short? c with
      | none => .error (.unknownOption ("-" ++ c.toString))
      | some option =>
          if spelling.takesValue option then
            if rest.isEmpty then .ok ⟨[], some option⟩
            else .ok ⟨[(option, String.ofList rest)], none⟩
          else do
            let more ← readLetters rest
            return { more with given := (option, "") :: more.given }

/-- Read a word that starts with a hyphen. -/
def readOptionWord (word : String) : Except UsageError (WordOptions α) :=
  let (name, value) := splitValue word
  match spelling.long? name, value with
  | some option, some text =>
      if spelling.takesValue option then .ok ⟨[(option, text)], none⟩
      else .error (.unwantedValue name)
  | some option, none =>
      .ok (if spelling.takesValue option then ⟨[], some option⟩ else ⟨[(option, "")], none⟩)
  | none, _ =>
      match word.toList with
      | '-' :: '-' :: _ => .error (.unknownOption name)
      | _ => spelling.readLetters word.toList.tail

/-- Whether a word is one of options. A hyphen alone is none. -/
def isOptionWord (word : String) : Bool :=
  match word.toList with
  | '-' :: _ :: _ => true
  | _ => false

/-! ### All words -/

/-- Read the words of a command line. -/
def read : List String → Except UsageError (Arguments α)
  | [] => .ok ⟨[], []⟩
  | word :: rest =>
      if word = "--" then .ok ⟨[], rest⟩
      else if isOptionWord word then
        match spelling.readOptionWord word with
        | .error e => .error e
        | .ok ⟨given, none⟩ => (read rest).map (Arguments.addOptions given)
        | .ok ⟨given, some option⟩ =>
            match rest with
            | [] => .error (.missingValue word)
            | value :: rest =>
                (read rest).map (Arguments.addOptions (given ++ [(option, value)]))
      else if spelling.interspersed then (read rest).map (Arguments.addWord word)
      else .ok ⟨[], word :: rest⟩

end Spelling

end SocksTunnel.CommandLine
