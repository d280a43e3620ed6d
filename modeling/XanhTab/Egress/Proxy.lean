import XanhTab.Netd.Reader
import XanhTab.Text.Basic

/-!
# Proxy URLs

The validators for proxy URLs and secret files of `egress.rs`.  The parser and
the serialiser of the `url` crate are parameters; a parsed URL is its components.
-/

namespace XanhTab

open Text Reader

/-- What is used of the `url` crate. -/
structure UrlCrate where
  /-- `Url::parse`, which accepts absolute URLs only. -/
  parse : String → Option Url
  /-- `Display`. -/
  display : Url → String

/-- The port that a scheme is known to stand for. -/
def knownDefaultPort (scheme : String) : Option Nat :=
  match scheme with
  | "http" | "ws" => some 80
  | "https" | "wss" => some 443
  | "ftp" => some 21
  | _ => none

/-- `Url::port_or_known_default`. -/
def Url.portOrKnownDefault (url : Url) : Option Nat :=
  match url.port with
  | some port => some port
  | none => knownDefaultPort url.scheme

/-- `is_loopback`. -/
def IpAddr.isLoopback : IpAddr → Bool
  | v4 bits => bits.toNat / 2 ^ 24 == 127
  | v6 bits => bits == 1

structure ValidatedProxy where
  url : Url
  endpoint : SocketAddr
  deriving DecidableEq, Repr

namespace Egress

def maxProxyUrlBytes : Nat := 8 * 1024

/-- The address that the host of a URL is. -/
def hostAddress (url : Url) : Option IpAddr :=
  url.host.bind fun host =>
    parseIpAddr ((host.toList.dropWhile (· == '[')).rdropWhile (· == ']'))

variable (crate : UrlCrate)

/-- `validate_proxy_url`. -/
def validateProxyUrl (raw : String) (allowCredentials : Bool) : Except String ValidatedProxy :=
  let value := trim raw.toList
  if value = [] ∨ maxProxyUrlBytes < utf8Length value then
    .error "proxy URL must be non-empty and no larger than 8 KiB"
  else
    match crate.parse (String.ofList value) with
    | none => .error "proxy URL is invalid"
    | some url =>
        if url.scheme ∉ ["http", "https", "socks5", "socks5h"] then
          .error "proxy URL uses an unsupported scheme"
        else if url.path ∉ ["", "/"] ∨ url.query.isSome ∨ url.fragment.isSome then
          .error "proxy URL must not contain a path, query, or fragment"
        else if allowCredentials = false ∧ (url.username ≠ "" ∨ url.password.isSome) then
          .error "managed proxy URL must not contain credentials"
        else if url.host = none then .error "proxy URL must contain a host"
        else
          match hostAddress url with
          | none => .error "proxy host must be a literal IP address"
          | some ip =>
              match url.portOrKnownDefault with
              | none => .error "proxy URL scheme does not provide a usable port"
              | some port => .ok ⟨url, ⟨ip, port⟩⟩

/-! ## Secret files -/

/-- A file with what is inspected of it.  There is no text if it cannot be read. -/
structure SecretFile where
  symlink : Bool := false
  regular : Bool := true
  size : Nat
  uid : Nat
  mode : Nat
  text : Option String
  deriving DecidableEq, Repr

inductive SecretPermissions
  | ownerOnly | groupReadable
  deriving DecidableEq, Repr

/-- The mode bits that are forbidden. -/
def SecretPermissions.forbidden : SecretPermissions → Nat
  | ownerOnly => 0o077
  | groupReadable => 0o027

/-- `read_secret_file`. -/
def readSecretFile (path : String) (file : Option SecretFile) (maxBytes : Nat)
    (permissions : SecretPermissions) (requiredUid : Option Nat) : Except String String :=
  match file with
  | none => .error ("failed to inspect secret file " ++ path)
  | some file =>
      if file.symlink ∨ ¬ file.regular then
        .error "secret input must be a regular non-symlink file"
      else if file.size = 0 ∨ maxBytes < file.size then .error "secret input has an invalid size"
      else if requiredUid.any (· ≠ file.uid) then .error "secret input has an unexpected owner"
      else if (file.mode &&& 0o777) &&& permissions.forbidden ≠ 0 then
        .error "secret input permissions are too broad"
      else
        match file.text with
        | none => .error ("failed to read secret file " ++ path)
        | some text => .ok text

/-- `validate_proxy_url_file`.  The endpoint that is expected has a scope, and
that of a URL has none. -/
def validateProxyUrlFile (path : String) (file : Option SecretFile)
    (expectedEndpoint : Option (SocketAddr × Nat)) (requiredUid : Option Nat) :
    Except String ValidatedProxy :=
  match readSecretFile path file maxProxyUrlBytes .groupReadable requiredUid with
  | .error error => .error error
  | .ok raw =>
      match validateProxyUrl crate raw true with
      | .error error => .error error
      | .ok proxy =>
          if expectedEndpoint.any (· ≠ (proxy.endpoint, 0)) then
            .error "proxy URL endpoint does not match the configured kill-switch endpoint"
          else .ok proxy

end Egress

end XanhTab
