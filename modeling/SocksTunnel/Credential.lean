import SocksTunnel.Text.Quoted
import SocksTunnel.Text.Utf8

/-!
Credentials for a proxy: a user name and a password of 1 to 255 bytes each, so that the length of
each fits into the byte in front of it.
-/

namespace SocksTunnel

open SocksTunnel.Text

/-- The two parts of a credential. -/
inductive CredentialPart where
  | username
  | password
  deriving DecidableEq, Repr

/-- A part of a credential is empty or too long. -/
structure CredentialError where
  part : CredentialPart
  length : Nat
  deriving DecidableEq, Repr

/-- The length in bytes of a text. -/
def byteLength (s : String) : Nat := (utf8 s.toList).length

/-- A user name and a password. -/
structure Credential where
  username : String
  password : String
  username_length : 1 ≤ byteLength username ∧ byteLength username ≤ 255
  password_length : 1 ≤ byteLength password ∧ byteLength password ≤ 255
  deriving DecidableEq

namespace Credential

def maxLength : Nat := 255

/-- A credential; the user name is checked first. -/
def make (username password : String) : Except CredentialError Credential :=
  if hu : 1 ≤ byteLength username ∧ byteLength username ≤ 255 then
    if hp : 1 ≤ byteLength password ∧ byteLength password ≤ 255 then
      .ok ⟨username, password, hu, hp⟩
    else .error ⟨.password, byteLength password⟩
  else .error ⟨.username, byteLength username⟩

def usernameBytes (c : Credential) : Bytes := utf8 c.username.toList

def passwordBytes (c : Credential) : Bytes := utf8 c.password.toList

/-- A description of a credential, which does not show the password. -/
def description (c : Credential) : String := "Credential(username=" ++ quote c.username ++ ")"

end Credential

namespace CredentialError

def message (e : CredentialError) : String :=
  let part := match e.part with
    | .username => "username"
    | .password => "password"
  part ++ " must be 1-" ++ decimal Credential.maxLength ++ " bytes, got " ++ decimal e.length

end CredentialError

end SocksTunnel
