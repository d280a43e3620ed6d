import XanhTab.Netd.Reader
import XanhTab.Text.Basic

/-!
# The WireGuard validator

`validate_wireguard_config` of `egress.rs` and the validators of single values.
Decoding of base64 is a parameter.
-/

namespace XanhTab

open Text Reader

/-- `WireGuardPolicy`. -/
structure WireGuardPolicy where
  ipv4Default : Bool
  ipv6Default : Bool
  deriving DecidableEq, Repr

/-- The bits of an address of the family. -/
def IpAddr.width : IpAddr → Nat
  | v4 _ => 32
  | v6 _ => 128

/-- An address and the length of a prefix. -/
abbrev Cidr := IpAddr × Nat

namespace Wireguard

/-! ## Values -/

def validateWireguardKey (decode : List Char → Option (List UInt8)) (value : List Char)
    (name : String) : Except String Unit :=
  match decode value with
  | none => .error ("WireGuard " ++ name ++ " is not valid base64")
  | some decoded =>
      if decoded.length ≠ 32 then .error ("WireGuard " ++ name ++ " must decode to 32 bytes")
      else .ok ()

/-- One element of a list. -/
def readCidr (name : String) (raw : List Char) : Except String Cidr :=
  match splitOnce '/' (trim raw) with
  | none => .error ("WireGuard " ++ name ++ " must use CIDR notation")
  | some (address, length) =>
      match parseIpAddr address with
      | none => .error ("WireGuard " ++ name ++ " contains an invalid IP address")
      | some address =>
          match parseUnsigned (2 ^ 8) length with
          | none => .error ("WireGuard " ++ name ++ " contains an invalid prefix")
          | some length =>
              if length ≤ address.width then .ok (address, length)
              else .error ("WireGuard " ++ name ++
                " prefix is outside the address-family range")

/-- The elements, with what has been found before them. -/
def validateCidrs (name : String) (defaults : Bool × Bool) :
    List (List Char) → Except String (Bool × Bool)
  | [] => .ok defaults
  | raw :: rest =>
      match readCidr name raw with
      | .error error => .error error
      | .ok cidr =>
          validateCidrs name
            (defaults.1 || cidr == (.v4 0, 0), defaults.2 || cidr == (.v6 0, 0)) rest

/-- `validate_cidr_list`.  A text that is split has at least one part. -/
def validateCidrList (value : List Char) (name : String) : Except String (Bool × Bool) :=
  validateCidrs name (false, false) (value.splitOn ',')

def validateU16 (value : List Char) (name : String) : Except String Unit :=
  match parseUnsigned (2 ^ 16) value with
  | none => .error ("WireGuard " ++ name ++ " is invalid")
  | some _ => .ok ()

def validateNonzeroU16 (value : List Char) (name : String) : Except String Unit :=
  match parseUnsigned (2 ^ 16) value with
  | none => .error ("WireGuard " ++ name ++ " is invalid")
  | some number =>
      if number = 0 then .error ("WireGuard " ++ name ++ " must be greater than zero") else .ok ()

def validateMtu (value : List Char) : Except String Unit :=
  match parseUnsigned (2 ^ 16) value with
  | none => .error "WireGuard MTU is invalid"
  | some mtu =>
      if 576 ≤ mtu ∧ mtu ≤ 9000 then .ok ()
      else .error "WireGuard MTU is outside the supported range"

/-- What stands between brackets. -/
def stripBrackets (host : List Char) : Option (List Char) :=
  if host.head? = some '[' ∧ host.tail.getLast? = some ']' then some host.tail.dropLast else none

def isHostCharacter (c : Char) : Bool :=
  c.isAlphanum || c == '.' || c == '-' || c == '_'

def validateWireguardEndpoint (value : List Char) : Except String Unit :=
  if value.head? ≠ some '[' ∧ value.count ':' ≠ 1 then
    .error "WireGuard Endpoint must be host:port or [IPv6]:port"
  else
    match rsplitOnce ':' value with
    | none => .error "WireGuard Endpoint must include a port"
    | some (host, port) =>
        match stripBrackets host with
        | some ipv6 =>
            match parseIpv6Addr ipv6 with
            | none => .error "WireGuard Endpoint contains an invalid IPv6 address"
            | some _ => validateNonzeroU16 port "Endpoint port"
        | none =>
            if host = [] ∨ ¬ host.all isHostCharacter then
              .error "WireGuard Endpoint contains an invalid hostname"
            else validateNonzeroU16 port "Endpoint port"

/-! ## Lines -/

inductive Section
  | interface | peer
  deriving DecidableEq, Repr

/-- The variables of the loop. -/
structure Validation where
  current : Option Section := none
  interfaceCount : Nat := 0
  peerCount : Nat := 0
  interfacePrivateKey : Bool := false
  interfaceAddress : Bool := false
  tableOff : Bool := false
  peerPublicKey : Bool := false
  peerAllowedIps : Bool := false
  peerEndpoint : Bool := false
  ipv4Default : Bool := false
  ipv6Default : Bool := false
  deriving DecidableEq, Repr

/-- `finish_peer`. -/
def finishPeer (state : Validation) : Except String Unit :=
  if 0 < state.peerCount ∧
      ¬ (state.peerPublicKey ∧ state.peerAllowedIps ∧ state.peerEndpoint) then
    .error "every WireGuard peer requires PublicKey, AllowedIPs, and Endpoint"
  else .ok ()

/-- A line that opens a section. -/
def sectionHeader (line : List Char) (state : Validation) : Except String Validation :=
  match String.ofList (lowercase line) with
  | "[interface]" =>
      match finishPeer state with
      | .error error => .error error
      | .ok () =>
          if state.interfaceCount + 1 ≠ 1 ∨ state.peerCount ≠ 0 then
            .error "WireGuard config must contain one Interface section before peers"
          else
            .ok { state with
              interfaceCount := state.interfaceCount + 1, current := some .interface }
  | "[peer]" =>
      if state.interfaceCount ≠ 1 then .error "WireGuard Peer must follow the Interface section"
      else
        match finishPeer state with
        | .error error => .error error
        | .ok () =>
            .ok { state with
              peerCount := state.peerCount + 1
              peerPublicKey := false
              peerAllowedIps := false
              peerEndpoint := false
              current := some .peer }
  | _ => .error "WireGuard config contains an unsupported section"

variable (decode : List Char → Option (List UInt8))

def interfaceDirective (key : String) (value : List Char) (state : Validation) :
    Except String Validation :=
  match key with
  | "privatekey" =>
      match validateWireguardKey decode value "PrivateKey" with
      | .error error => .error error
      | .ok () =>
          if state.interfacePrivateKey then
            .error "WireGuard Interface contains duplicate PrivateKey"
          else .ok { state with interfacePrivateKey := true }
  | "address" =>
      (validateCidrList value "Interface Address").map fun _ =>
        { state with interfaceAddress := true }
  | "listenport" => (validateNonzeroU16 value "ListenPort").map fun _ => state
  | "mtu" => (validateMtu value).map fun _ => state
  | "table" =>
      if state.tableOff ∨ lowercase value ≠ "off".toList then
        .error "WireGuard Interface must contain exactly one Table=off"
      else .ok { state with tableOff := true }
  | "dns" | "preup" | "postup" | "predown" | "postdown" | "saveconfig" =>
      .error "WireGuard config contains a prohibited wg-quick directive"
  | _ => .error "WireGuard Interface contains an unsupported directive"

def peerDirective (key : String) (value : List Char) (state : Validation) :
    Except String Validation :=
  match key with
  | "publickey" =>
      match validateWireguardKey decode value "PublicKey" with
      | .error error => .error error
      | .ok () =>
          if state.peerPublicKey then .error "WireGuard Peer contains duplicate PublicKey"
          else .ok { state with peerPublicKey := true }
  | "presharedkey" => (validateWireguardKey decode value "PresharedKey").map fun _ => state
  | "allowedips" =>
      (validateCidrList value "AllowedIPs").map fun defaults =>
        { state with
          ipv4Default := state.ipv4Default || defaults.1
          ipv6Default := state.ipv6Default || defaults.2
          peerAllowedIps := true }
  | "endpoint" =>
      match validateWireguardEndpoint value with
      | .error error => .error error
      | .ok () =>
          if state.peerEndpoint then .error "WireGuard Peer contains duplicate Endpoint"
          else .ok { state with peerEndpoint := true }
  | "persistentkeepalive" => (validateU16 value "PersistentKeepalive").map fun _ => state
  | _ => .error "WireGuard Peer contains an unsupported directive"

/-- A directive of the section that the line is in. -/
def sectionDirective (key : String) (value : List Char) (state : Validation) :
    Except String Validation :=
  match state.current with
  | some .interface => interfaceDirective decode key value state
  | some .peer => peerDirective decode key value state
  | none => .error "WireGuard directive appears outside a section"

/-- A line that opens no section. -/
def directive (number : Nat) (line : List Char) (state : Validation) : Except String Validation :=
  match splitOnce '=' line with
  | none => .error ("invalid WireGuard line " ++ toString number)
  | some (key, value) =>
      if trim value = [] then
        .error ("WireGuard value on line " ++ toString number ++ " must not be empty")
      else sectionDirective decode (String.ofList (lowercase (trim key))) (trim value) state

/-- The line is bracketed, and so a header if anything. -/
def isHeader (line : List Char) : Bool :=
  line.head? == some '[' && line.getLast? == some ']'

/-- What is left of a line without its comment. -/
def content (rawLine : List Char) : List Char :=
  trim (before '#' rawLine)

/-- The body of the loop. -/
def validateLine (state : Validation) (numbered : List Char × Nat) : Except String Validation :=
  let line := content numbered.1
  if line = [] then .ok state
  else if isHeader line then sectionHeader line state
  else directive decode (numbered.2 + 1) line state

/-- `validate_wireguard_config`. -/
def validateWireguardConfig (raw : List Char) : Except String WireGuardPolicy :=
  ((lines raw).zipIdx.foldlM (validateLine decode) {}).bind fun state =>
    match finishPeer state with
    | .error error => .error error
    | .ok () =>
        if state.interfaceCount ≠ 1 ∨
            ¬ (state.interfacePrivateKey ∧ state.interfaceAddress ∧ state.tableOff) then
          .error "WireGuard Interface requires PrivateKey, Address, and Table=off"
        else if state.peerCount = 0 ∨ ¬ (state.ipv4Default ∨ state.ipv6Default) then
          .error "WireGuard config requires at least one full-tunnel default route"
        else .ok ⟨state.ipv4Default, state.ipv6Default⟩

end Wireguard

end XanhTab
