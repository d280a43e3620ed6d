import XanhTab.Egress.Wireguard

/-!
# The grammar of WireGuard configurations

The documents that the validator is to accept, section by section, and that it
accepts exactly these.
-/

namespace XanhTab

open Text Reader

namespace Wireguard

/-! ## Values -/

/-- The value is a key of 32 bytes. -/
def IsKey (decode : List Char → Option (List UInt8)) (value : List Char) : Prop :=
  ∃ decoded, decode value = some decoded ∧ decoded.length = 32

/-- An address, a slash, and the length of a prefix of it. -/
def IsCidr (text : List Char) (cidr : Cidr) : Prop :=
  ∃ address length, trim text = address ++ '/' :: length ∧ '/' ∉ address ∧
    parseIpAddr address = some cidr.1 ∧ parseUnsigned (2 ^ 8) length = some cidr.2 ∧
    cidr.2 ≤ cidr.1.width

/-- The value lists the elements, with commas between them. -/
def IsCidrList (value : List Char) (cidrs : List Cidr) : Prop :=
  List.Forall₂ IsCidr (value.splitOn ',') cidrs

/-- A host name or a bracketed IPv6 address, a colon, and a port. -/
def IsEndpoint (value : List Char) : Prop :=
  ∃ host port number, value = host ++ ':' :: port ∧ ':' ∉ port ∧
    parseUnsigned (2 ^ 16) port = some number ∧ 0 < number ∧
    ((host ≠ [] ∧ ∀ c ∈ host, isHostCharacter c = true) ∨
      ∃ ipv6, host = '[' :: ipv6 ++ [']'] ∧ (parseIpv6Addr ipv6).isSome = true)

/-! ## Lines -/

/-- The line is a directive with a value that is not empty. -/
def IsDirective (line : List Char) (key : String) (value : List Char) : Prop :=
  ∃ left right, line = left ++ '=' :: right ∧ '=' ∉ left ∧
    lowercase (trim left) = key.toList ∧ trim right = value ∧ value ≠ []

/-- A directive of the interface. -/
inductive InterfaceLine
  | privateKey
  | address (cidrs : List Cidr)
  | listenPort (port : Nat)
  | mtu (size : Nat)
  | table
  deriving DecidableEq, Repr

/-- A directive of a peer. -/
inductive PeerLine
  | publicKey
  | presharedKey
  | allowedIps (cidrs : List Cidr)
  | endpoint
  | persistentKeepalive (seconds : Nat)
  deriving DecidableEq, Repr

variable (decode : List Char → Option (List UInt8))

/-- The key and the value are those of the directive. -/
def InterfaceLine.Means (key : String) (value : List Char) : InterfaceLine → Prop
  | privateKey => key = "privatekey" ∧ IsKey decode value
  | address cidrs => key = "address" ∧ IsCidrList value cidrs
  | listenPort port => key = "listenport" ∧ parseUnsigned (2 ^ 16) value = some port ∧ 0 < port
  | mtu size => key = "mtu" ∧ parseUnsigned (2 ^ 16) value = some size ∧ 576 ≤ size ∧ size ≤ 9000
  | table => key = "table" ∧ lowercase value = "off".toList

def PeerLine.Means (key : String) (value : List Char) : PeerLine → Prop
  | publicKey => key = "publickey" ∧ IsKey decode value
  | presharedKey => key = "presharedkey" ∧ IsKey decode value
  | allowedIps cidrs => key = "allowedips" ∧ IsCidrList value cidrs
  | endpoint => key = "endpoint" ∧ IsEndpoint value
  | persistentKeepalive seconds =>
      key = "persistentkeepalive" ∧ parseUnsigned (2 ^ 16) value = some seconds

/-- The line stands for the directive. -/
def InterfaceLine.Text (text : List Char) (line : InterfaceLine) : Prop :=
  ∃ key value, IsDirective text key value ∧ line.Means decode key value

def PeerLine.Text (text : List Char) (line : PeerLine) : Prop :=
  ∃ key value, IsDirective text key value ∧ line.Means decode key value

/-! ## Documents -/

/-- An interface and its peers. -/
structure Document where
  interface : List InterfaceLine
  peers : List (List PeerLine)

/-- A header and the lines up to the next one. -/
abbrev Block := List Char × List (List Char)

def Block.lines (block : Block) : List (List Char) :=
  block.1 :: block.2

/-- The block is a peer with the directives. -/
structure PeerText (block : Block) (peer : List PeerLine) : Prop where
  header : lowercase block.1 = "[peer]".toList
  lines : List.Forall₂ (PeerLine.Text decode) block.2 peer

/-- The lines, none of them empty, stand for the document. -/
def Document.Text (contents : List (List Char)) (document : Document) : Prop :=
  ∃ (interface : Block) (peers : List Block),
    contents = interface.lines ++ peers.flatMap Block.lines ∧
    lowercase interface.1 = "[interface]".toList ∧
    List.Forall₂ (InterfaceLine.Text decode) interface.2 document.interface ∧
    List.Forall₂ (PeerText decode) peers document.peers

/-- The lines of a text without comments and empty lines. -/
def contents (raw : List Char) : List (List Char) :=
  ((lines raw).map content).filter (· ≠ [])

/-! ## The validators of values -/

variable {decode}

/-- What a directive of the interface adds to what has been seen. -/
def InterfaceLine.note (state : Validation) : InterfaceLine → Validation
  | privateKey => { state with interfacePrivateKey := true }
  | address _ => { state with interfaceAddress := true }
  | table => { state with tableOff := true }
  | listenPort _ | mtu _ => state

def PeerLine.note (state : Validation) : PeerLine → Validation
  | publicKey => { state with peerPublicKey := true }
  | allowedIps cidrs =>
      { state with
        ipv4Default := state.ipv4Default || decide ((.v4 0, 0) ∈ cidrs)
        ipv6Default := state.ipv6Default || decide ((.v6 0, 0) ∈ cidrs)
        peerAllowedIps := true }
  | endpoint => { state with peerEndpoint := true }
  | presharedKey | persistentKeepalive _ => state

/-- The loop on lines without comments, none of them empty.  The numbers of the
lines matter only to the errors. -/
def accept (decode : List Char → Option (List UInt8)) (state : Validation) (text : List Char) :
    Option Validation :=
  (if isHeader text then sectionHeader text state else directive decode 0 text state).toOption

section Fold

variable {σ L α β : Type} {next : σ → L → Option σ} {Text : L → α → Prop} {Fits : σ → α → Prop}
  {note : σ → α → σ}

end Fold

/-! ## Sections -/

end Wireguard

open Wireguard

end XanhTab
