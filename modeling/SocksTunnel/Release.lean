import SocksTunnel.FileTree
import SocksTunnel.Manifest.Document

/-!
The version of the program: its own, and the one that a manifest near a module gives.
-/

namespace SocksTunnel.Release

open SocksTunnel.Manifest

/-- The version of this program. -/
def version : String := "0.1.0"

/-- The version where there is no manifest. -/
def unknownVersion : String := "0.0.0"

/-- The file that a project is described in. -/
def manifestName : String := "pyproject.toml"

/-- Why a manifest gives no version. -/
inductive ReleaseError where
  /-- The manifest cannot be read. -/
  | unreadable (error : ReadError)
  /-- A table or a key is missing. -/
  | missing (key : String)
  /-- Something else stands where a table should be. -/
  | notTable (value : Value)

/-- The message of a value that is used as a table. -/
def indexMessage : Value → String
  | .text _ => "string indices must be integers, not 'str'"
  | .array _ => "list indices must be integers or slices, not str"
  | .integer _ => "'int' object is not subscriptable"
  | .real _ => "'float' object is not subscriptable"
  | .truth _ => "'bool' object is not subscriptable"
  | .moment .date _ => "'datetime.date' object is not subscriptable"
  | .moment .time _ => "'datetime.time' object is not subscriptable"
  | .moment .dateTime _ => "'datetime.datetime' object is not subscriptable"
  | .table _ => ""

def ReleaseError.message : ReleaseError → String
  | .unreadable e => e.message
  | .missing key => Text.quote key
  | .notTable value => indexMessage value

/-- The version that a manifest gives. -/
def versionIn (content : String) : Except ReleaseError Value :=
  match Manifest.read content with
  | .error e => .error (.unreadable e)
  | .ok root =>
      match Table.get? root "project" with
      | none => .error (.missing "project")
      | some (.table project) =>
          match Table.get? project "version" with
          | none => .error (.missing "version")
          | some v => .ok v
      | some other => .error (.notTable other)

/-- The version for a module in a tree of files: the one in the nearest manifest above it. -/
def versionFor (tree : FileTree) (module : String) : Except ReleaseError Value :=
  match tree.nearest? manifestName module with
  | none => .ok (.text unknownVersion)
  | some content => versionIn content

end SocksTunnel.Release
