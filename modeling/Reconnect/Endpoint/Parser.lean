import Reconnect.Endpoint

/-!
# Reading endpoints

An endpoint is written `1.2.3.4:80` or `[v6]:80`, with the scope of an IPv6 address behind a percent
sign. Decimal numbers of an IPv4 address have at most three digits and no zero in front; groups of
an IPv6 address have at most four hexadecimal digits, and its last two groups may be written as an
IPv4 address.

A reader takes what it reads off the front of the text.
-/

namespace Reconnect

/-- Takes a value off the front of a text, if there is one. -/
abbrev Reader (α : Type) := List Char → Option (α × List Char)

namespace Reader

/-- The value of a digit to the given base. -/
def digit? (base : Nat) (c : Char) : Option Nat :=
  let value :=
    if '0' ≤ c ∧ c ≤ '9' then some (c.toNat - '0'.toNat)
    else if 'a' ≤ c ∧ c ≤ 'f' then some (c.toNat - 'a'.toNat + 10)
    else if 'A' ≤ c ∧ c ≤ 'F' then some (c.toNat - 'A'.toNat + 10)
    else none
  value.filter (· < base)

def char (expected : Char) : Reader Unit
  | c :: rest => if c = expected then some ((), rest) else none
  | [] => none

/-- Reads all digits in front as a number below `bound`. -/
def number (base bound : Nat) : Reader Nat := fun text =>
  let digits := text.takeWhile fun c => (digit? base c).isSome
  let value := (digits.filterMap (digit? base)).foldl (fun n d => base * n + d) 0
  if digits.isEmpty || bound ≤ value then none else some (value, text.drop digits.length)

/-- Reads a number of at most `width` digits. -/
def short (base width bound : Nat) : Reader Nat := fun text => do
  let (value, rest) ← number base bound text
  if width < text.length - rest.length then none else some (value, rest)

/-- Reads a decimal number below 256 with no zero in front. -/
def octet : Reader Nat := fun text => do
  let (value, rest) ← short 10 3 256 text
  if text.head? = some '0' ∧ 1 < text.length - rest.length then none else some (value, rest)

def v4 : Reader (BitVec 32) := fun text => do
  let (a, text) ← octet text
  let (_, text) ← char '.' text
  let (b, text) ← octet text
  let (_, text) ← char '.' text
  let (c, text) ← octet text
  let (_, text) ← char '.' text
  let (d, text) ← octet text
  return (Host.ofOctets a b c d, text)

/-- The groups of an IPv6 address up to a gap or the end. -/
structure Groups where
  values : List Nat
  /-- The last two groups were written as an IPv4 address. -/
  embedded : Bool
  rest : List Char

/-- Reads at most `room` groups with colons between them; `first` tells that none stands in front
of the next. -/
def groups : (room : Nat) → (first : Bool) → List Char → Groups
  | 0, _, text => ⟨[], false, text⟩
  | room + 1, first, text =>
    let body := if first then some text else (char ':' text).map (·.2)
    match if room = 0 then none else body.bind v4 with
    | some (bits, rest) => ⟨[bits.toNat / 65536, bits.toNat % 65536], true, rest⟩
    | none =>
      match body.bind (short 16 4 65536) with
      | some (value, rest) =>
        let more := groups room false rest
        { more with values := value :: more.values }
      | none => ⟨[], false, text⟩

/-- Reads an IPv6 address: eight groups, or fewer around one gap. -/
def v6 : Reader (BitVec 128) := fun text =>
  let front := groups 8 true text
  if front.values.length = 8 then some (Host.ofGroups front.values, front.rest)
  else if front.embedded then none
  else do
    let (_, text) ← char ':' front.rest
    let (_, text) ← char ':' text
    let back := groups (7 - front.values.length) true text
    let gap := List.replicate (8 - front.values.length - back.values.length) 0
    return (Host.ofGroups (front.values ++ gap ++ back.values), back.rest)

/-- Reads a scope, if one follows. -/
def scope (text : List Char) : Nat × List Char :=
  match (char '%' text).bind fun (_, text) => number 10 UInt32.size text with
  | some found => found
  | none => (0, text)

def port : Reader UInt16 := fun text => do
  let (_, text) ← char ':' text
  let (value, text) ← number 10 65536 text
  return (UInt16.ofNat value, text)

def endpointV4 : Reader Endpoint := fun text => do
  let (bits, text) ← v4 text
  let (port, text) ← port text
  return ({ host := .v4 bits, port }, text)

/-- Reads an IPv6 address with its scope. -/
def hostV6 : Reader Host := fun text => do
  let (bits, text) ← v6 text
  let (scope, text) := scope text
  return (.v6 bits (UInt32.ofNat scope), text)

def endpointV6 : Reader Endpoint := fun text => do
  let (_, text) ← char '[' text
  let (host, text) ← hostV6 text
  let (_, text) ← char ']' text
  let (port, text) ← port text
  return ({ host, port }, text)

/-- The value, if the reader takes the whole text. -/
def whole {α : Type} (r : Reader α) (text : List Char) : Option α :=
  match r text with
  | some (value, []) => some value
  | _ => none

end Reader

def Endpoint.ofText? (text : List Char) : Option Endpoint :=
  Reader.whole (fun text => Reader.endpointV4 text <|> Reader.endpointV6 text) text

/-- Reads the bare text of an address. -/
def Host.ofText? (text : List Char) : Option Host :=
  (Reader.whole Reader.v4 text).map .v4 <|> Reader.whole Reader.hostV6 text

end Reconnect
