/-!
# Endpoints

The address and the port of a server. Addresses of the two families are different even where one
is written inside the other.

## Text

An IPv4 address is four decimal numbers. An IPv6 address is eight groups of hexadecimal digits, of
which the first of the longest runs of two or more zero groups is left out; one that carries an
IPv4 address shows it in decimal. A scope other than zero stands behind the address.
-/

namespace Reconnect

/-- The address of a host. -/
inductive Host where
  | v4 (bits : BitVec 32)
  /-- An IPv6 address in the scope of a link; scope zero is none. -/
  | v6 (bits : BitVec 128) (scope : UInt32)
deriving DecidableEq, Repr

/-- The address of a server. -/
structure Endpoint where
  host : Host
  port : UInt16
deriving DecidableEq, Repr

namespace Host

/-- The address made of four decimal numbers. -/
def ofOctets (a b c d : Nat) : BitVec 32 := BitVec.ofNat 32 (((a * 256 + b) * 256 + c) * 256 + d)

def octets (bits : BitVec 32) : List Nat :=
  [24, 16, 8, 0].map fun shift => bits.toNat >>> shift % 256

/-- The address made of groups of sixteen bits. -/
def ofGroups (groups : List Nat) : BitVec 128 :=
  BitVec.ofNat 128 (groups.foldl (fun n g => n * 65536 + g) 0)

/-- The eight groups of an IPv6 address. -/
def groups (bits : BitVec 128) : List Nat :=
  [112, 96, 80, 64, 48, 32, 16, 0].map fun shift => bits.toNat >>> shift % 65536

/-- The number of zero groups in front. -/
def zeros (groups : List Nat) : Nat := (groups.takeWhile (· = 0)).length

/-- Where the longest run of zero groups starts, and how long it is; the first of several. -/
def longestZeros (groups : List Nat) : Nat × Nat :=
  (List.range groups.length).foldl
    (fun best i =>
      let length := zeros (groups.drop i)
      if best.2 < length then (i, length) else best) (0, 0)

/-- A group in hexadecimal, without zeros in front. -/
def hexGroup (n : Nat) : String := String.ofList (Nat.toDigits 16 n)

def textV4 (bits : BitVec 32) : String := ".".intercalate ((octets bits).map toString)

def textV6 (bits : BitVec 128) : String :=
  let groups := groups bits
  if groups.take 6 = [0, 0, 0, 0, 0, 0xffff] then "::ffff:" ++ textV4 (bits.setWidth 32)
  else
    let (start, length) := longestZeros groups
    let join := fun l => ":".intercalate (l.map hexGroup)
    if 1 < length then join (groups.take start) ++ "::" ++ join (groups.drop (start + length))
    else join groups

end Host

namespace Endpoint

/-- The text of an endpoint: an IPv6 address stands in brackets before the port. -/
def text (e : Endpoint) : String :=
  match e.host with
  | .v4 bits => Host.textV4 bits ++ ":" ++ toString e.port.toNat
  | .v6 bits scope =>
    let suffix := if scope = 0 then "" else "%" ++ toString scope.toNat
    "[" ++ Host.textV6 bits ++ suffix ++ "]:" ++ toString e.port.toNat

/-- The numbers by which endpoints are ordered: family, address, port, scope. -/
def key (e : Endpoint) : List Nat :=
  match e.host with
  | .v4 bits => [4, bits.toNat, e.port.toNat, 0]
  | .v6 bits scope => [6, bits.toNat, e.port.toNat, scope.toNat]

/-- Orders endpoints by family, address, port and scope. -/
def sort (l : List Endpoint) : List Endpoint :=
  l.mergeSort fun a b => !b.key.lex a.key fun m n => m < n

end Endpoint

end Reconnect
