/-
# IP addresses

The text forms of IPv4 and IPv6 addresses: the strict parser (no leading
zeros in an IPv4 octet, at most four hexadecimal digits a group, `::` for at
least one group of zeros, an embedded IPv4 tail) and the canonical rendering
(the first longest run of at least two zero groups written `::`, IPv4-mapped
addresses with a dotted tail).

A reader consumes characters from the front of its input and returns what it
read with the rest, or `none` having consumed nothing.
-/
import Mathlib.Data.Nat.Notation

inductive IpAddr where
  | v4 (octets : List UInt8)
  | v6 (groups : List UInt16)
  deriving DecidableEq, Repr

namespace IpAddr

/-- A reader of `α` from the front of a text. -/
abbrev Reader (α : Type) := List Char → Option (α × List Char)

def readGivenChar (c : Char) : Reader Unit
  | d :: rest => if d = c then some ((), rest) else none
  | [] => none

/-- The value of a digit in a radix up to 16. -/
def digitValue (radix : ℕ) (c : Char) : Option ℕ :=
  let value :=
    if '0' ≤ c ∧ c ≤ '9' then some (c.toNat - '0'.toNat)
    else if 'a' ≤ c ∧ c ≤ 'f' then some (c.toNat - 'a'.toNat + 10)
    else if 'A' ≤ c ∧ c ≤ 'F' then some (c.toNat - 'A'.toNat + 10)
    else none
  value.filter (· < radix)

/-- The digits of a number, its value bounded by `limit` and its digits by
`maxDigits`. -/
def readDigits (radix limit maxDigits : ℕ) : ℕ → ℕ → Reader (ℕ × ℕ)
  | value, count, c :: rest =>
    match digitValue radix c with
    | some digit =>
      if limit ≤ value * radix + digit ∨ maxDigits < count + 1 then none
      else readDigits radix limit maxDigits (value * radix + digit) (count + 1) rest
    | none => some ((value, count), c :: rest)
  | value, count, [] => some ((value, count), [])

def readNumber (radix limit maxDigits : ℕ) (allowZeroPrefix : Bool) : Reader ℕ := fun input =>
  match readDigits radix limit maxDigits 0 0 input with
  | some ((value, count), rest) =>
    if count = 0 then none
    else if !allowZeroPrefix && input.head? = some '0' && 1 < count then none
    else some (value, rest)
  | none => none

/-- `inner`, after a separator unless it is the first of its sequence. -/
def readSeparator {α : Type} (separator : Char) (index : ℕ) (inner : Reader α) : Reader α := fun input =>
  if 0 < index then (readGivenChar separator input).bind fun r => inner r.2 else inner input

def readIpv4Addr : Reader (List UInt8) := fun input => do
  let (a, input) ← readSeparator '.' 0 (readNumber 10 256 3 false) input
  let (b, input) ← readSeparator '.' 1 (readNumber 10 256 3 false) input
  let (c, input) ← readSeparator '.' 2 (readNumber 10 256 3 false) input
  let (d, input) ← readSeparator '.' 3 (readNumber 10 256 3 false) input
  return ([a, b, c, d].map UInt8.ofNat, input)

/-- Groups of an IPv6 address from index `i` on, `remaining` of them at most:
those read, whether an IPv4 tail ended them, and the rest of the text. -/
def readGroups : (remaining i : ℕ) → List Char → List UInt16 × Bool × List Char
  | 0, _, input => ([], false, input)
  | remaining + 1, i, input =>
    let tail := if 0 < remaining then readSeparator ':' i readIpv4Addr input else none
    match tail with
    | some (octets, rest) =>
      let octet k := (octets.getD k 0).toNat
      ([UInt16.ofNat (octet 0 * 256 + octet 1), UInt16.ofNat (octet 2 * 256 + octet 3)], true, rest)
    | none =>
      match readSeparator ':' i (readNumber 16 65536 4 true) input with
      | some (group, rest) =>
        let (groups, ipv4, rest) := readGroups remaining (i + 1) rest
        (UInt16.ofNat group :: groups, ipv4, rest)
      | none => ([], false, input)

def readIpv6Addr : Reader (List UInt16) := fun input => do
  let (head, headIpv4, input) := readGroups 8 0 input
  if head.length = 8 then return (head, input)
  -- an IPv4 part ends the address, so no `::` follows it
  if headIpv4 then none
  let (_, input) ← readGivenChar ':' input
  let (_, input) ← readGivenChar ':' input
  let (tail, _, input) := readGroups (7 - head.length) 0 input
  return (head ++ List.replicate (8 - head.length - tail.length) 0 ++ tail, input)

def parse (s : String) : Option IpAddr :=
  match readIpv4Addr s.toList with
  | some (octets, rest) => if rest = [] then some (v4 octets) else none
  | none =>
    match readIpv6Addr s.toList with
    | some (groups, rest) => if rest = [] then some (v6 groups) else none
    | none => none

/-! ### Rendering -/

def ipv4ToText (octets : List UInt8) : String :=
  ".".intercalate (octets.map fun octet => Nat.repr octet.toNat)

def groupToText (group : UInt16) : String := String.ofList (Nat.toDigits 16 group.toNat)

def groupsToText (groups : List UInt16) : String := ":".intercalate (groups.map groupToText)

/-- The first longest run of zero groups, as its start and length; `current`
is the run that ends before group `i`. -/
def longestZeros : List UInt16 → (i : ℕ) → (longest current : ℕ × ℕ) → ℕ × ℕ
  | [], _, longest, _ => longest
  | group :: groups, i, longest, current =>
    if group = 0 then
      let current := (if current.2 = 0 then i else current.1, current.2 + 1)
      longestZeros groups (i + 1) (if longest.2 < current.2 then current else longest) current
    else longestZeros groups (i + 1) longest (0, 0)

def ipv6ToText (groups : List UInt16) : String :=
  match groups with
  | [0, 0, 0, 0, 0, 0xffff, high, low] =>
    "::ffff:" ++ ipv4ToText ([high.toNat / 256, high.toNat % 256, low.toNat / 256, low.toNat % 256].map UInt8.ofNat)
  | _ =>
    let zeroes := longestZeros groups 0 (0, 0) (0, 0)
    if 1 < zeroes.2 then
      groupsToText (groups.take zeroes.1) ++ "::" ++ groupsToText (groups.drop (zeroes.1 + zeroes.2))
    else groupsToText groups

def toText : IpAddr → String
  | v4 octets => ipv4ToText octets
  | v6 groups => ipv6ToText groups

example : (parse "2001:0db8::1").map toText = some "2001:db8::1" := by decide +kernel

end IpAddr
