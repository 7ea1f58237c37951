import DataGateway.Python.Text
import Mathlib.Algebra.Ring.Nat

/-!
# Addresses of the network

`ipaddress.ip_address` for texts and the membership of an address in a network.
-/

namespace DataGateway

/-- `IPv4Address` or `IPv6Address`, by its number. -/
inductive IpAddress
  | v4 (ip : Nat)
  | v6 (ip : Nat) (scopeId : Option (List Char))
  deriving DecidableEq, Repr

/-- `IPv4Network` or `IPv6Network`. -/
structure IpNetwork where
  isV6 : Bool
  networkAddress : Nat
  netmask : Nat
  deriving DecidableEq, Repr

namespace IpAddress

def isHexDigit (c : Char) : Bool :=
  Text.isDigit c || ('a' ≤ c && c ≤ 'f') || ('A' ≤ c && c ≤ 'F')

def hexValue (c : Char) : Nat :=
  if Text.isDigit c then c.toNat - 48 else if 'a' ≤ c then c.toNat - 87 else c.toNat - 55

/-- `_parse_octet`. -/
def parseOctet (octet : List Char) : Option Nat :=
  if octet = [] ∨ octet.all Text.isDigit = false ∨ 3 < octet.length then none
  else if octet ≠ ['0'] ∧ octet.head? = some '0' then none
  else
    let value := octet.foldl (fun value c => value * 10 + (c.toNat - 48)) 0
    if 255 < value then none else some value

/-- `IPv4Address._ip_int_from_string`. -/
def ipv4Int (text : List Char) : Option Nat :=
  match text.splitOn '.' with
  | [first, second, third, fourth] => do
      let first ← parseOctet first
      let second ← parseOctet second
      let third ← parseOctet third
      let fourth ← parseOctet fourth
      some (((first * 256 + second) * 256 + third) * 256 + fourth)
  | _ => none

/-- `_parse_hextet`. -/
def parseHextet (hextet : List Char) : Option Nat :=
  if hextet = [] ∨ hextet.all isHexDigit = false ∨ 4 < hextet.length then none
  else some (hextet.foldl (fun value c => value * 16 + hexValue c) 0)

/-- The number of a list of hextets. -/
def hextetsInt (hextets : List (List Char)) : Option Nat :=
  hextets.foldlM (fun value hextet => (parseHextet hextet).map (value * 65536 + ·)) 0

/-- The last part of an address in dotted form becomes two hextets. -/
def splitDotted (parts : List (List Char)) : Option (List (List Char)) :=
  match parts.getLast? with
  | some last =>
      if '.' ∈ last then
        (ipv4Int last).map fun ip =>
          parts.dropLast ++ [Nat.toDigits 16 (ip / 65536), Nat.toDigits 16 (ip % 65536)]
      else some parts
  | none => some parts

/-- The hextets before the double colon; `none` when the text starts with a single colon. -/
def leadingHextets : List (List Char) → Option (List (List Char))
  | [] :: rest => if rest = [] then some [] else none
  | hextets => some hextets

/-- The hextets after the double colon. -/
def trailingHextets (hextets : List (List Char)) : Option (List (List Char)) :=
  if hextets.getLast? = some [] then if hextets.length = 1 then some [] else none else some hextets

/-- `IPv6Address._ip_int_from_string`, for the text without its scope. -/
def ipv6Int (text : List Char) : Option Nat := do
  let parts := text.splitOn ':'
  if parts.length < 3 then none
  let parts ← splitDotted parts
  if 9 < parts.length then none
  match (parts.drop 1).dropLast.count [] with
  | 0 =>
      if parts.length ≠ 8 ∨ parts.head? = some [] ∨ parts.getLast? = some [] then none
      else hextetsInt parts
  | 1 =>
      let skipIndex := (parts.drop 1).dropLast.idxOf [] + 1
      let leading ← leadingHextets (parts.take skipIndex)
      let trailing ← trailingHextets (parts.drop (skipIndex + 1))
      if 8 ≤ leading.length + trailing.length then none
      let high ← hextetsInt leading
      let low ← hextetsInt trailing
      some (high * 65536 ^ (8 - leading.length) + low)
  | _ => none

/-- `_split_scope_id`. -/
def splitScopeId (text : List Char) : Option (List Char × Option (List Char)) :=
  match text.dropWhile (· ≠ '%') with
  | [] => some (text, none)
  | _ :: scopeId =>
      if scopeId = [] ∨ '%' ∈ scopeId then none
      else some (text.takeWhile (· ≠ '%'), some scopeId)

/-- `ipaddress.ip_address`; `none` is a `ValueError`. -/
def parse (text : List Char) : Option IpAddress :=
  if '/' ∈ text then none
  else
    match ipv4Int text with
    | some ip => some (.v4 ip)
    | none => do
        let (address, scopeId) ← splitScopeId text
        let ip ← ipv6Int address
        some (.v6 ip scopeId)

end IpAddress

/-- `address in network`. -/
def IpNetwork.contains (network : IpNetwork) : IpAddress → Bool
  | .v4 ip => !network.isV6 && ip &&& network.netmask == network.networkAddress
  | .v6 ip _ => network.isV6 && ip &&& network.netmask == network.networkAddress

end DataGateway
