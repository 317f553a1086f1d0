import SocksTunnel.Manifest.Scalar

/-!
Documents: the statements of a manifest and the tables that they build.

A statement gives a key a value, opens a table, or opens the next table of an array. What has
been defined once is not defined again: tables opened by a header, tables made by dotted keys, and
arrays and tables that are values each have their own rule for what may still be added to them.
-/

namespace SocksTunnel.Manifest

open SocksTunnel.Text

/-! ### Tables -/

def Table.get? (t : Table) (key : String) : Option Value := t.lookup key

/-- Give a key a value, in its place if it has one. -/
def Table.set (t : Table) (key : String) (v : Value) : Table :=
  if t.any (·.1 == key) then t.map fun e => if e.1 == key then (key, v) else e
  else t ++ [(key, v)]

/-- Change the table behind a key. Tables that are missing on the way are made; an array of
tables stands for its last table. `none` if a value is in the way, or if the change fails. -/
def Table.modifyAt? (throughArrays : Bool) (change : Table → Option Table) :
    Key → Table → Option Table
  | [], t => change t
  | part :: rest, t =>
      match t.get? part with
      | none => do return t.set part (.table (← modifyAt? throughArrays change rest []))
      | some (.table inner) =>
          do return t.set part (.table (← modifyAt? throughArrays change rest inner))
      | some (.array items) =>
          match items.getLast?, throughArrays with
          | some (.table inner), true =>
              do
                let inner ← modifyAt? throughArrays change rest inner
                return t.set part (.array (items.dropLast ++ [.table inner]))
          | _, _ => none
      | some _ => none

/-- Add an empty table to the array behind a key. -/
def Table.appendTable? (key : Key) (t : Table) : Option Table :=
  match key.getLast? with
  | none => none
  | some last =>
      t.modifyAt? true (fun inner => match inner.get? last with
        | none => some (inner.set last (.array [.table []]))
        | some (.array items) => some (inner.set last (.array (items ++ [.table []])))
        | some _ => none) key.dropLast

/-- Give a key in a table a value that it does not have yet. -/
def Table.define? (throughArrays : Bool) (parent : Key) (name : String) (v : Value) (t : Table) :
    Option Table :=
  t.modifyAt? throughArrays
    (fun inner => if (inner.get? name).isSome then none else some (inner.set name v)) parent

/-! ### Values -/

/-- Skip space and comments. -/
def skipSpace : Nat → List Char → Except Located (List Char)
  | 0, cs => .ok cs
  | fuel + 1, cs =>
      match cs.dropWhile isSpace with
      | '#' :: rest => do
          let comment := rest.takeWhile (· ≠ '\n')
          match comment.find? isControl with
          | some c => problemAt (.invalidCharacter c) (rest.dropWhile (!isControl ·))
          | none => skipSpace fuel (rest.dropWhile (· ≠ '\n'))
      | rest => .ok rest

def skipAllSpace (cs : List Char) : Except Located (List Char) := skipSpace (cs.length + 1) cs

/-- Whether a value is an array or a table, to which nothing is added later. -/
def Value.isContainer : Value → Bool
  | .array _ | .table _ => true
  | _ => false

mutual

/-- Read a value. Nesting and repetition are bounded by the first argument. -/
def readValue : Nat → Reader Value
  | 0, cs => problemAt .invalidValue cs
  | fuel + 1, cs =>
      match cs with
      | '\x22' :: _ => (readText cs).map fun (s, rest) => (.text (String.ofList s), rest)
      | '\x27' :: _ => (readText cs).map fun (s, rest) => (.text (String.ofList s), rest)
      | 't' :: 'r' :: 'u' :: 'e' :: rest => .ok (.truth true, rest)
      | 'f' :: 'a' :: 'l' :: 's' :: 'e' :: rest => .ok (.truth false, rest)
      | '[' :: rest => do
          match ← skipAllSpace rest with
          | ']' :: after => return (.array [], after)
          | rest =>
              let (items, rest) ← readItems fuel rest
              return (.array items, rest)
      | '\x7b' :: rest =>
          match skipBlanks rest with
          | '\x7d' :: after => .ok (.table [], after)
          | rest => do
              let (entries, rest) ← readEntries fuel [] [] rest
              return (.table entries, rest)
      | _ => readNumeral cs

/-- Read the items of an array up to its end. -/
def readItems : Nat → Reader (List Value)
  | 0, cs => problemAt .unclosedArray cs
  | fuel + 1, cs => do
      let (item, rest) ← readValue fuel cs
      match ← skipAllSpace rest with
      | ']' :: after => return ([item], after)
      | ',' :: more =>
          match ← skipAllSpace more with
          | ']' :: after => return ([item], after)
          | more =>
              let (items, rest) ← readItems fuel more
              return (item :: items, rest)
      | rest => problemAt .unclosedArray rest

/-- Read the entries of a table that is a value, up to its end. The keys in `closed` are those to
whose values nothing may be added. -/
def readEntries : Nat → List Key → Table → Reader Table
  | 0, _, _, cs => problemAt .unclosedTable cs
  | fuel + 1, closed, table, cs => do
      let (key, rest) ← readKey cs
      match rest with
      | '=' :: rest =>
          let (v, rest) ← readValue fuel (skipBlanks rest)
          let name := key.getLastD ""
          if closed.any (·.isPrefixOf key) then problemAt (.immutable key) rest
          else match table.modifyAt? false some key.dropLast with
            | none => problemAt .overwritten rest
            | some _ =>
                match table.define? false key.dropLast name v with
                | none => problemAt (.duplicateKey name) rest
                | some table =>
                    match skipBlanks rest with
                    | '\x7d' :: after => return (table, after)
                    | ',' :: more =>
                        readEntries fuel (if v.isContainer then key :: closed else closed) table
                          (skipBlanks more)
                    | rest => problemAt .unclosedTable rest
      | rest => problemAt .expectedEquals rest

end

/-! ### Statements -/

/-- A document while it is read: its tables, the key that the last header opened, the keys of
tables that may not be opened, those that become so with the next header, and the keys of values
to which nothing may be added. -/
structure Draft where
  root : Table
  header : Key
  opened : List Key
  pending : List Key
  closed : List Key

namespace Draft

/-- Whether nothing may be added behind a key. -/
def isClosed (d : Draft) (key : Key) : Bool := d.closed.any (·.isPrefixOf key)

/-- Forget what is known about a key and the keys behind it. -/
def forget (d : Draft) (key : Key) : Draft :=
  { d with
    opened := d.opened.filter fun k => !key.isPrefixOf k
    closed := d.closed.filter fun k => !key.isPrefixOf k }

/-- Take over the keys that were pending. -/
def settle (d : Draft) : Draft := { d with opened := d.pending ++ d.opened, pending := [] }

end Draft

/-- Open a table; the text starts after the bracket. -/
def openTable (d : Draft) : Reader Draft := fun cs => do
  let (key, rest) ← readKey (skipBlanks cs)
  if d.opened.contains key || d.isClosed key then problemAt (.declaredTwice key) rest
  else match d.root.modifyAt? true some key with
    | none => problemAt .overwritten rest
    | some root =>
        match rest with
        | ']' :: after => return ({ d with root, header := key, opened := key :: d.opened }, after)
        | _ => problemAt .expectedTableEnd rest

/-- Open the next table of an array; the text starts after the brackets. -/
def openArray (d : Draft) : Reader Draft := fun cs => do
  let (key, rest) ← readKey (skipBlanks cs)
  if d.isClosed key then problemAt (.immutable key) rest
  else
    let d := d.forget key
    match d.root.appendTable? key with
    | none => problemAt .overwritten rest
    | some root =>
        match rest with
        | ']' :: ']' :: after =>
            return ({ d with root, header := key, opened := key :: d.opened }, after)
        | _ => problemAt .expectedArrayEnd rest

/-- The keys of the tables that a dotted key makes under a header. -/
def madeBy (header key : Key) : List Key :=
  (List.range (key.length - 1)).map fun i => header ++ key.take (i + 1)

/-- Give a key a value. -/
def assign (d : Draft) : Reader Draft := fun cs => do
  let (key, rest) ← readKey cs
  match rest with
  | '=' :: rest =>
      let (v, rest) ← readValue (2 * rest.length + 2) (skipBlanks rest)
      let made := madeBy d.header key
      match made.find? d.opened.contains with
      | some k => problemAt (.redefined k) rest
      | none =>
          let parent := d.header ++ key.dropLast
          if d.isClosed parent then problemAt (.immutable parent) rest
          else match d.root.define? true parent (key.getLastD "") v with
            | none => problemAt .overwritten rest
            | some root =>
                let closed := if v.isContainer then (d.header ++ key) :: d.closed else d.closed
                return ({ d with root, pending := made ++ d.pending, closed }, rest)
  | rest => problemAt .expectedEquals rest

/-- Read the end of a statement: a comment, and the line end or the end of the text. -/
def endStatement (cs : List Char) : Except Located (List Char) := do
  let rest ← match cs with
    | '#' :: rest =>
        match (rest.takeWhile (· ≠ '\n')).find? isControl with
        | some c => problemAt (.invalidCharacter c) (rest.dropWhile (!isControl ·))
        | none => .ok (rest.dropWhile (· ≠ '\n'))
    | _ => .ok cs
  match rest with
  | [] => return []
  | '\n' :: rest => return rest
  | _ => problemAt .expectedEnd rest

/-- Read statements up to the end of the text. -/
def readStatements : Nat → Draft → List Char → Except Located Draft
  | 0, d, _ => .ok d
  | fuel + 1, d, cs =>
      match skipBlanks cs with
      | [] => .ok d
      | '\n' :: rest => readStatements fuel d rest
      | '[' :: '[' :: rest => do
          let (d, rest) ← openArray d.settle rest
          readStatements fuel d (← endStatement (skipBlanks rest))
      | '[' :: rest => do
          let (d, rest) ← openTable d.settle rest
          readStatements fuel d (← endStatement (skipBlanks rest))
      | c :: rest => do
          if isBareKeyChar c || c = '\x22' || c = '\x27' then
            let (d, rest) ← assign d (c :: rest)
            readStatements fuel d (← endStatement (skipBlanks rest))
          else if c = '#' then readStatements fuel d (← endStatement (c :: rest))
          else problemAt .invalidStatement (c :: rest)

/-- Line ends of two characters count as one. -/
def unifyLineEnds : List Char → List Char
  | '\r' :: '\n' :: rest => '\n' :: unifyLineEnds rest
  | c :: rest => c :: unifyLineEnds rest
  | [] => []

/-- Read a document. -/
def read (s : String) : Except ReadError Table :=
  let source := unifyLineEnds s.toList
  match readStatements (source.length + 1) ⟨[], [], [], [], []⟩ source with
  | .ok d => .ok d.root
  | .error p => .error (p.toReadError source)

end SocksTunnel.Manifest
