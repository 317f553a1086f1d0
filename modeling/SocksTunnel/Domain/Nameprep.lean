import SocksTunnel.Domain.Composition
import SocksTunnel.Domain.Prohibited

/-!
Preparation of an internationalised label: folding, compatibility composition, and the checks on
characters and writing directions.
-/

namespace SocksTunnel.Domain

/-- Why a label of a domain name has no form on the wire. -/
inductive LabelError where
  /-- The prepared label holds a character that no label may hold. -/
  | prohibited (c : Char)
  /-- Characters of both writing directions stand in one label. -/
  | mixedDirections
  /-- A label with right-to-left characters begins or ends with another character. -/
  | directionAtEnds
  /-- The label already looks like an encoded one. -/
  | encodedPrefix
  /-- The written label is empty or longer than 63 bytes. -/
  | length
  deriving DecidableEq, Repr

/-- A label with right-to-left characters holds no left-to-right ones, and begins and ends with
right-to-left ones. -/
def checkDirections (label : List Char) : Except LabelError Unit :=
  if label.any rightToLeft.contains then
    if label.any leftToRight.contains then .error .mixedDirections
    else if (label.head?.any rightToLeft.contains) && (label.getLast?.any rightToLeft.contains) then
      .ok ()
    else .error .directionAtEnds
  else .ok ()

/-- The prepared form of a label. -/
def prepare (label : List Char) : Except LabelError (List Char) :=
  let normal := normalForm (fold label)
  match normal.find? prohibited.contains with
  | some c => .error (.prohibited c)
  | none => (checkDirections normal).map fun _ => normal

end SocksTunnel.Domain
