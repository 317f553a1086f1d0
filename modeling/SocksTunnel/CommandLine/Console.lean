import SocksTunnel.Text.Columns

/-!
Lines on the console.

The console reads markup: a word in brackets that starts with a small letter or one of `#`, `/`
and `@` is a style, and a backslash before a bracket takes its meaning away. A message is shown
with its bracketed words as they are. Outside of them the backslash before a bracket is not shown,
and a single backslash at the end is shown twice. Control characters that move the cursor are left
out, and tabs are filled up with blanks.
-/

namespace SocksTunnel.CommandLine

open SocksTunnel.Text

/-! ### Markup -/

/-- Whether a bracketed word that starts with a character is a style. -/
def startsStyle (c : Char) : Bool := c.isLower || c = '#' || c = '/' || c = '@'

def endsWord (c : Char) : Bool := c = '[' || c = ']'

/-- The bracketed word at the front of a text, after the opening bracket, if it is a style. -/
def styleWord? (cs : List Char) : Option (List Char) :=
  let word := cs.takeWhile (!endsWord ·)
  match word, cs.dropWhile (!endsWord ·) with
  | first :: _, ']' :: _ => if startsStyle first then some (word ++ [']']) else none
  | _, _ => none

/-- A text as it is shown. The first argument counts the backslashes before it, the second one the
characters that belong to a bracketed word. -/
def shownChars : Nat → Nat → List Char → List Char
  | held, _, [] => List.replicate (if held = 1 then 2 else held) '\\'
  | held, inside + 1, c :: rest => c :: shownChars held inside rest
  | held, 0, c :: rest =>
      if c = '\\' then shownChars (held + 1) 0 rest
      else if c = '[' then
        match styleWord? rest with
        | some word => List.replicate held '\\' ++ c :: shownChars 0 word.length rest
        | none => List.replicate (held - 1) '\\' ++ c :: shownChars 0 0 rest
      else List.replicate held '\\' ++ c :: shownChars 0 0 rest

/-! ### Tabs -/

def tabWidth : Nat := 8

/-- The parts of a line that stand between its tabs, with each tab filled up: it becomes a blank,
and further ones up to the next multiple of the tab width. The first argument is the column that
the first part starts in. -/
def fillParts : Nat → List (List Char) → List Char
  | _, [] => []
  | _, [last] => last
  | column, part :: rest =>
      let blanked := part ++ [' ']
      let column := column + columns blanked
      let room := (tabWidth - column % tabWidth) % tabWidth
      blanked ++ List.replicate room ' ' ++ fillParts (column + room) rest

/-- A text with the tabs of each line filled up. -/
def fillTabs (cs : List Char) : List Char :=
  ['\n'].intercalate ((cs.splitOn '\n').map fun line => fillParts 0 (line.splitOn '\t'))

/-- What the console shows for a message behind a heading. -/
def messageLine (heading message : String) : String :=
  let shown := heading.toList ++ shownChars 0 0 message.toList
  String.ofList (fillTabs (shown.filter (!isCursorControl ·))) ++ "\n"

end SocksTunnel.CommandLine
