import TermexoRelay.Library.Addresses
import TermexoRelay.Proxy.Access

/-!
# Who the caller is behind another proxy

Forwarding headers are only believed when the relay does not terminate TLS itself and the
connection comes from a configured network.
-/

namespace TermexoRelay

/-- What of the relay's state and settings decides whom a request is from. -/
structure ForwardingSettings where
  tlsEnabled : Bool
  trustedProxies : List IpNet
  publicUrl : PublicUrl

def isTrustedProxy (networks : List IpNet) (source : IpAddr) : Bool :=
  networks.any fun network => network.contains source

def headerValue (headers : HeaderMap) (name : HeaderName) : Option Bytes :=
  (headers.get name).bind HeaderValue.toStr

def asciiChars (bytes : Bytes) : List Char := bytes.map fun b => Char.ofNat b.toNat

def OPENING_BRACKET : UInt8 := 91
def CLOSING_BRACKET : UInt8 := 93

/-- One entry of a forwarding chain. A proxy may render an IPv6 address in brackets. -/
def forwardedEntry (entry : Bytes) : Option IpAddr :=
  IpAddr.parse (asciiChars
    (((Text.trim isSpace entry).dropWhile (· = OPENING_BRACKET)).rdropWhile (· = CLOSING_BRACKET)))

/-- The client address out of a forwarding chain: its leftmost entry. -/
def firstForwardedAddress (value : Bytes) : Option IpAddr :=
  (value.splitOn COMMA).head?.bind forwardedEntry

theorem isFieldByte_print {address : IpAddr} {b : UInt8}
    (h : b ∈ utf8 (String.ofList address.print)) : isFieldByte b = true := by
  have hbounds : ∀ c ∈ address.print, 46 ≤ c.toNat ∧ c.toNat < 103 :=
    fun c hc => IpAddr.toNat_of_isTextChar (IpAddr.isTextChar_of_mem_print hc)
  obtain ⟨c, hc, rfl⟩ := mem_utf8_ofList
    (fun c hc => Nat.lt_trans (hbounds c hc).2 (by decide)) h
  obtain ⟨hlow, hhigh⟩ := hbounds c hc
  have hbyte : c.val.toUInt8.toNat = c.toNat := by
    rw [UInt32.toNat_toUInt8]
    exact Nat.mod_eq_of_lt (Nat.lt_trans hhigh (by decide))
  simp only [isFieldByte, Bool.or_eq_true, Bool.and_eq_true, decide_eq_true_eq,
    UInt8.le_iff_toNat_le, ← UInt8.toNat_inj, ne_eq, UInt8.reduceToNat, hbyte]
  omega

namespace ForwardingSettings

variable (settings : ForwardingSettings)

/-- Whether the forwarding headers of the peer's requests are believed. -/
def trusts (peer : IpAddr) : Bool :=
  !settings.tlsEnabled && isTrustedProxy settings.trustedProxies peer

/-- The address the request is from. -/
def resolveIp (headers : HeaderMap) (peer : IpAddr) : IpAddr :=
  if settings.trusts peer then
    ((headerValue headers HEADER_FORWARDED_FOR).bind firstForwardedAddress).getD peer
  else peer

def resolve (headers : HeaderMap) (peer : IpAddr) : ClientContext :=
  let ip := String.ofList (settings.resolveIp headers peer).print
  let proto := scheme settings.publicUrl.secure
  let fallbackHost :=
    ((headerValue headers .host).map asciiText).getD settings.publicUrl.host
  if settings.trusts peer then
    { ip
      proto := ((headerValue headers HEADER_FORWARDED_PROTO).map asciiText).getD proto
      host := ((headerValue headers HEADER_FORWARDED_HOST).map asciiText).getD fallbackHost }
  else { ip, proto, host := fallbackHost }

/-! ## The last address nobody vouches for -/

variable {settings} {headers : HeaderMap} {peer client : IpAddr}

end ForwardingSettings

namespace ForwardingSettings

theorem exampleOrigin_eq :
    "https://relay.example.com" = (if true then HTTPS_SCHEME else HTTP_SCHEME) ++
      "relay.example.com" := by
  decide

theorem exampleHost_plain : '/' ∉ "relay.example.com".toList := by
  decide

def behindProxy : ForwardingSettings where
  tlsEnabled := false
  trustedProxies := [.v4 0x0A000000 8]
  publicUrl := ⟨"https://relay.example.com", "relay.example.com", true, exampleOrigin_eq,
    exampleHost_plain⟩

end ForwardingSettings

end TermexoRelay
