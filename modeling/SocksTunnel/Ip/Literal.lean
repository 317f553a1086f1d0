import SocksTunnel.Ip.V6

/-!
Address literals: what a host text means as an IP address. An IPv6 literal may carry a zone after
a percent sign, which belongs to the text but to no address on the wire.
-/

namespace SocksTunnel

/-- A host text that is an IP address. -/
inductive IpLiteral where
  | v4 (address : Ipv4)
  | v6 (address : Ipv6) (zone : Option (List Char))
  deriving DecidableEq, Repr

namespace IpLiteral

/-- Read an IPv6 address with or without a zone; a zone is not empty and holds neither a
percent sign nor a slash. -/
def readZoned? (cs : List Char) : Option IpLiteral :=
  let address := cs.takeWhile (· != '%')
  match cs.dropWhile (· != '%') with
  | [] => (Ipv6.read? address).map (.v6 · none)
  | _ :: zone =>
      if zone.isEmpty || zone.contains '%' || zone.contains '/' then none
      else (Ipv6.read? address).map (.v6 · (some zone))

/-- Read a literal. -/
def read? (cs : List Char) : Option IpLiteral :=
  match Ipv4.read? cs with
  | some ip => some (.v4 ip)
  | none => readZoned? cs

/-- The canonical text of a literal. -/
def text : IpLiteral → List Char
  | .v4 ip => ip.text
  | .v6 ip none => ip.text
  | .v6 ip (some zone) => ip.text ++ '%' :: zone

end IpLiteral

end SocksTunnel
