import SocksTunnel.Binary64.Reader

/-!
A number of seconds as it is written on a command line.

The number is plain: ASCII digits with an optional point and exponent, or a word for infinity or
for what is not a number. Blanks may stand around it. Where there are no blanks, single underscores
may stand anywhere inside of it, also where they part no digits; none may be first or last.
-/

namespace SocksTunnel.CommandLine.Seconds

open SocksTunnel.Text

/-- Whether a character may stand in a plain number. -/
def isPlain (c : Char) : Bool := c.toNat < 128 && c ≠ '_'

/-- Read a plain number. -/
def plain? (cs : List Char) : Option Binary64 :=
  if cs.all isPlain then Binary64.number? cs else none

/-- Whether two underscores stand side by side. -/
def hasDoubled : List Char → Bool
  | a :: b :: rest => (a = '_' && b = '_') || hasDoubled (b :: rest)
  | _ => false

/-- Whether a text has underscores, each of them alone and inside of the text. -/
def isParted (cs : List Char) : Bool :=
  cs.contains '_' && cs.head? != some '_' && cs.getLast? != some '_' && !hasDoubled cs

/-- Read a number of seconds. -/
def read? (s : String) : Option Binary64 :=
  let cs := s.toList
  (plain? (trimNumber cs)).or
    (if isParted cs then plain? (cs.filter (· ≠ '_')) else none)

end SocksTunnel.CommandLine.Seconds
