import XanhTab.Netd.Plan

/-!
# Reading numbers and addresses

`FromStr` of the standard library for unsigned integers, IP addresses and socket
addresses.  The address parser reads from the front of a text and hands on what
it has not read.
-/

namespace XanhTab.Reader

open Numeral

/-- `char::to_digit`. -/
def isDigit (radix : Nat) (c : Char) : Bool :=
  (digitValue c).any (· < radix)

/-- The digits that the text begins with, and the rest. -/
def readDigits (radix : Nat) (text : List Char) : List Char × List Char :=
  (text.takeWhile (isDigit radix), text.dropWhile (isDigit radix))

/-- `read_number`, for numbers below a bound. -/
def readNumber (radix : Nat) (maxDigits : Option Nat) (allowZeroPrefix : Bool) (bound : Nat)
    (text : List Char) : Option (Nat × List Char) :=
  let digits := (readDigits radix text).1
  if maxDigits.any (· < digits.length) then none
  else if allowZeroPrefix = false ∧ digits.head? = some '0' ∧ 1 < digits.length then none
  else (read radix digits).bind fun value =>
    if value < bound then some (value, (readDigits radix text).2) else none

/-- `read_given_char`. -/
def readGivenChar (c : Char) : List Char → Option (List Char)
  | [] => none
  | first :: rest => if first = c then some rest else none

/-- `read_separator`: all items but the first follow a separator. -/
def readSeparator {α : Type} (separator : Char) (first : Bool)
    (inner : List Char → Option (α × List Char)) (text : List Char) : Option (α × List Char) :=
  if first then inner text else (readGivenChar separator text).bind inner

/-- The items that are left of the four of an IPv4 address. -/
def readOctets : Nat → Bool → List Char → Option (List Nat × List Char)
  | 0, _, text => some ([], text)
  | count + 1, first, text =>
      (readSeparator '.' first (readNumber 10 (some 3) false 256) text).bind fun (octet, rest) =>
        (readOctets count false rest).map fun (octets, rest) => (octet :: octets, rest)

/-- `read_ipv4_addr`. -/
def readIpv4Addr (text : List Char) : Option (BitVec 32 × List Char) :=
  (readOctets 4 true text).map fun (octets, rest) => (BitVec.ofNat 32 (compose 256 octets), rest)

/-- `read_groups`: at most so many groups, an IPv4 address standing for two, and
whether one has ended them. -/
def readGroups : Nat → Bool → List Char → List Nat × Bool × List Char
  | 0, _, text => ([], false, text)
  | count + 1, first, text =>
      match if 0 < count then readSeparator ':' first readIpv4Addr text else none with
      | some (short, rest) => (decompose 65536 2 short.toNat, true, rest)
      | none =>
          match readSeparator ':' first (readNumber 16 (some 4) true 65536) text with
          | some (group, rest) =>
              let (groups, short, rest) := readGroups count false rest
              (group :: groups, short, rest)
          | none => ([], false, text)

/-- `read_ipv6_addr`. -/
def readIpv6Addr (text : List Char) : Option (BitVec 128 × List Char) :=
  let (head, short, rest) := readGroups 8 true text
  if head.length = 8 then some (BitVec.ofNat 128 (compose 65536 head), rest)
  else if short then none
  else
    (readGivenChar ':' rest).bind fun rest =>
      (readGivenChar ':' rest).map fun rest =>
        let (tail, _, rest) := readGroups (8 - (head.length + 1)) true rest
        let zeros := List.replicate (8 - (head.length + tail.length)) 0
        (BitVec.ofNat 128 (compose 65536 (head ++ zeros ++ tail)), rest)

/-- The whole text has to be read. -/
def parseWith {α : Type} (inner : List Char → Option (α × List Char)) (text : List Char) :
    Option α :=
  (inner text).bind fun (value, rest) => if rest = [] then some value else none

/-- `read_ip_addr`. -/
def readIpAddr (text : List Char) : Option (IpAddr × List Char) :=
  match readIpv4Addr text with
  | some (bits, rest) => some (.v4 bits, rest)
  | none => (readIpv6Addr text).map fun (bits, rest) => (.v6 bits, rest)

def parseIpAddr (text : List Char) : Option IpAddr :=
  parseWith readIpAddr text

def parseIpv6Addr (text : List Char) : Option (BitVec 128) :=
  parseWith readIpv6Addr text

/-- `read_port`. -/
def readPort (text : List Char) : Option (Nat × List Char) :=
  (readGivenChar ':' text).bind (readNumber 10 none true (2 ^ 16))

/-- `read_scope_id`, or no scope. -/
def readScopeId (text : List Char) : Nat × List Char :=
  ((readGivenChar '%' text).bind (readNumber 10 none true (2 ^ 32))).getD (0, text)

/-- `read_socket_addr`.  The scope of an IPv6 address stands beside it. -/
def readSocketAddr (text : List Char) : Option ((SocketAddr × Nat) × List Char) :=
  let short := (readIpv4Addr text).bind fun (bits, rest) =>
    (readPort rest).map fun (port, rest) => ((⟨.v4 bits, port⟩, 0), rest)
  match short with
  | some found => some found
  | none =>
      (readGivenChar '[' text).bind fun rest =>
        (readIpv6Addr rest).bind fun (bits, rest) =>
          let (scope, rest) := readScopeId rest
          (readGivenChar ']' rest).bind fun rest =>
            (readPort rest).map fun (port, rest) => ((⟨.v6 bits, port⟩, scope), rest)

def parseSocketAddr (text : List Char) : Option (SocketAddr × Nat) :=
  parseWith readSocketAddr text

/-- `FromStr` of an unsigned integer, which may have a sign. -/
def parseUnsigned (bound : Nat) (text : List Char) : Option Nat :=
  (read 10 ((readGivenChar '+' text).getD text)).bind fun value =>
    if value < bound then some value else none

end XanhTab.Reader
