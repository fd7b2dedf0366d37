import CodeGo.Gateway.StatusCodes

set_option autoImplicit false

open Text CodeGo.Gateway.StatusCodes

namespace CodeGo.Platform.Security

/- Which outbound URLs the fetch policy accepts. -/

-- The 16 bytes of an address; those of an IPv4 address come behind the prefix ::ffff.
structure IP where
  bits : Nat
deriving DecidableEq, Repr

def IP.to4 (ip : IP) : Option Nat := if ip.bits >>> 32 = 0xffff then some (ip.bits % 0x100000000) else none

def quad (a b c d : Nat) : Nat := ((a * 256 + b) * 256 + c) * 256 + d

def IP.v4 (a b c d : Nat) : IP := ⟨0xffff00000000 + quad a b c d⟩

inductive Network where
  | v4 (address length : Nat)
  | v6 (address length : Nat)
deriving DecidableEq, Repr

def Network.contains (network : Network) (ip : IP) : Bool :=
  match network, ip.to4 with
  | .v4 address length, some bits => bits >>> (32 - length) == address >>> (32 - length)
  | .v6 address length, none => ip.bits >>> (128 - length) == address >>> (128 - length)
  | _, _ => false

def IP.isUnspecified (ip : IP) : Bool := ip = .v4 0 0 0 0 ∨ ip.bits = 0

def IP.isLoopback (ip : IP) : Bool :=
  match ip.to4 with
  | some bits => bits >>> 24 = 127
  | none => ip.bits = 1

def IP.isLinkLocalUnicast (ip : IP) : Bool :=
  match ip.to4 with
  | some bits => bits >>> 16 = 169 * 256 + 254
  | none => ip.bits >>> 120 = 0xfe ∧ (ip.bits >>> 118) % 4 = 2

def IP.isLinkLocalMulticast (ip : IP) : Bool :=
  match ip.to4 with
  | some bits => bits >>> 8 = 224 * 256 * 256
  | none => ip.bits >>> 120 = 0xff ∧ (ip.bits >>> 112) % 16 = 2

def IP.isInterfaceLocalMulticast (ip : IP) : Bool := ip.bits >>> 120 = 0xff ∧ (ip.bits >>> 112) % 16 = 1

def IP.isPrivate (ip : IP) : Bool :=
  match ip.to4 with
  | some bits => bits >>> 24 = 10 ∨ bits >>> 20 = 172 * 16 + 1 ∨ bits >>> 16 = 192 * 256 + 168
  | none => ip.bits >>> 121 = 0x7e

def privateIPv4Nets : List Network :=
  [.v4 (quad 0 0 0 0) 8, .v4 (quad 10 0 0 0) 8, .v4 (quad 100 64 0 0) 10, .v4 (quad 127 0 0 0) 8, .v4 (quad 169 254 0 0) 16,
    .v4 (quad 172 16 0 0) 12, .v4 (quad 192 0 0 0) 24, .v4 (quad 192 0 2 0) 24, .v4 (quad 192 168 0 0) 16, .v4 (quad 198 18 0 0) 15,
    .v4 (quad 198 51 100 0) 24, .v4 (quad 203 0 113 0) 24, .v4 (quad 224 0 0 0) 4, .v4 (quad 240 0 0 0) 4, .v4 (quad 255 255 255 255) 32]

def privateIPv6Nets : List Network :=
  [.v6 0 128, .v6 1 128, .v6 (0xffff <<< 32) 96, .v6 (0x64ff9b <<< 96) 96, .v6 (0x100 <<< 112) 64, .v6 (0x2001 <<< 112) 23,
    .v6 (0x20010db8 <<< 96) 32, .v6 (0xfc00 <<< 112) 7, .v6 (0xfe80 <<< 112) 10, .v6 (0xff00 <<< 112) 8]

def isPrivateIP (ip : IP) : Bool :=
  if ip.isUnspecified then true
  else if ip.isLoopback || ip.isLinkLocalUnicast || ip.isLinkLocalMulticast then true
  else if ip.isInterfaceLocalMulticast then true
  else
    match ip.to4 with
    | some _ => privateIPv4Nets.any fun network => network.contains ip
    | none => (privateIPv6Nets.any fun network => network.contains ip) || ip.isPrivate

-- A parsed URL: the host without the brackets of an IPv6 address, and the digits behind its colon.
structure Url where
  scheme : String
  hostname : String
  port : Option String
deriving DecidableEq, Repr

-- The packages net and net/url, and the lower case of letters. A literal that a dialer accepts is
-- an address with a zone, which is empty for most, and is looked up as itself.
structure NetPackage where
  parseURL : String → Except String Url
  parseAddr : String → Option (IP × String)
  parseCIDR : String → Option Network
  lookupIP : String → Except String (List IP)
  ipString : IP → String
  lower : Char → Char
  lookup_literal : ∀ host ip zone, parseAddr host = some (ip, zone) → lookupIP host = .ok [ip]

structure SSRFProtection where
  allowPrivateIp : Bool
  domainFilterMode : Bool
  domainList : List String
  ipFilterMode : Bool
  ipList : List String
  allowedPorts : List Int
  applyIPFilterForDomain : Bool
deriving DecidableEq, Repr

section
variable (net : NetPackage)

-- No zone is accepted here.
def NetPackage.parseIP (text : String) : Option IP :=
  match net.parseAddr text with
  | some (ip, zone) => if zone = "" then some ip else none
  | none => none

def NetPackage.toLower (text : String) : String := String.ofList (text.toList.map net.lower)

-- A host without a port is an error.
def splitHostPort (url : Url) : Option (String × String) := url.port.map fun port => (url.hostname, port)

def isDomainListed (domain : String) (list : List String) : Bool :=
  list.any fun entry =>
    let item := net.toLower (trimSpace entry)
    item ≠ "" ∧ (net.toLower domain = item ∨
      (hasPrefix "*." item = true ∧
        (hasSuffix ("." ++ trimPrefix "*." item) (net.toLower domain) = true ∨ net.toLower domain = trimPrefix "*." item)))

def isIPListed (ip : IP) (list : List String) : Bool :=
  list.any fun cidr =>
    match net.parseCIDR cidr with
    | some network => network.contains ip
    | none => net.parseIP cidr = some ip

variable (p : SSRFProtection)

def isAllowedPort (port : Int) : Bool := p.allowedPorts = [] ∨ port ∈ p.allowedPorts

def isDomainAllowed (domain : String) : Bool :=
  if p.domainFilterMode then isDomainListed net domain p.domainList else !isDomainListed net domain p.domainList

def isIPAccessAllowed (ip : IP) : Bool :=
  if isPrivateIP ip && !p.allowPrivateIp then false
  else if p.ipFilterMode then isIPListed net ip p.ipList
  else !isIPListed net ip p.ipList

def validateLiteral (ip : IP) : Except String Unit :=
  if isIPAccessAllowed net p ip then .ok ()
  else if isPrivateIP ip then .error ("private IP address not allowed: " ++ net.ipString ip)
  else if p.ipFilterMode then .error ("ip not in whitelist: " ++ net.ipString ip)
  else .error ("ip in blacklist: " ++ net.ipString ip)

def validateResolved (host : String) : List IP → Except String Unit
  | [] => .ok ()
  | ip :: rest =>
      if isIPAccessAllowed net p ip then validateResolved host rest
      else if isPrivateIP ip && !p.allowPrivateIp then
        .error ("private IP address not allowed: " ++ host ++ " resolves to " ++ net.ipString ip)
      else if p.ipFilterMode then .error ("ip not in whitelist: " ++ host ++ " resolves to " ++ net.ipString ip)
      else .error ("ip in blacklist: " ++ host ++ " resolves to " ++ net.ipString ip)

def validateDomain (host : String) : Except String Unit :=
  if isDomainAllowed net p host = false then
    if p.domainFilterMode then .error ("domain not in whitelist: " ++ host) else .error ("domain in blacklist: " ++ host)
  else if p.applyIPFilterForDomain = false then .ok ()
  else
    match net.lookupIP host with
    | .error error => .error ("DNS resolution failed for " ++ host ++ ": " ++ error)
    | .ok ips => validateResolved net p host ips

def defaultPort (scheme : String) : String := if scheme = "https" then "443" else "80"

def validateURL (urlStr : String) : Except String Unit :=
  match net.parseURL urlStr with
  | .error error => .error ("invalid URL format: " ++ error)
  | .ok url =>
      if url.scheme ≠ "http" ∧ url.scheme ≠ "https" then .error ("unsupported protocol: " ++ url.scheme ++ " (only http/https allowed)")
      else
        let hostPort := (splitHostPort url).getD (url.hostname, defaultPort url.scheme)
        match atoi hostPort.2.toList with
        | none => .error ("invalid port: " ++ hostPort.2)
        | some port =>
            if isAllowedPort p port = false then .error ("port " ++ toString port ++ " is not allowed")
            else
              match net.parseIP hostPort.1 with
              | some ip => validateLiteral net p ip
              | none => validateDomain net p hostPort.1

end

/- The purpose: what an accepted URL may lead to. -/

def Blocked (ip : IP) : Prop :=
  ip.isUnspecified = true ∨ ip.isLoopback = true ∨ ip.isPrivate = true ∨ ip.isLinkLocalUnicast = true ∨ ip.isLinkLocalMulticast = true ∨
    ∃ network ∈ privateIPv4Nets ++ privateIPv6Nets, network.contains ip = true

section
variable (net : NetPackage)

-- Names are compared without regard to case and to one dot at the end.
def dnsName (text : String) : List Char :=
  let name := text.toList.map net.lower
  if name.getLast? = some '.' then name.dropLast else name

def covers (pattern name : List Char) : Bool :=
  name == pattern ||
    match pattern with
    | '*' :: '.' :: parent => name == parent || ('.' :: parent).isSuffixOf name
    | _ => false

def dnsListed (domain : String) (list : List String) : Bool :=
  list.any fun entry => trimSpace entry ≠ "" && covers (dnsName net (trimSpace entry)) (dnsName net domain)

def InList (ip : IP) (list : List String) : Prop :=
  ∃ entry ∈ list, (∃ network, net.parseCIDR entry = some network ∧ network.contains ip = true) ∨
    (net.parseCIDR entry = none ∧ net.parseIP entry = some ip)

variable (p : SSRFProtection)

def effectivePort (url : Url) : Option Int := atoi (url.port.getD (defaultPort url.scheme)).toList

structure Respects (url : Url) : Prop where
  literal : ∀ ip zone, net.parseAddr url.hostname = some (ip, zone) → ¬ Blocked ip ∧ (InList net ip p.ipList ↔ p.ipFilterMode = true)
  name : net.parseAddr url.hostname = none → dnsListed net url.hostname p.domainList = p.domainFilterMode
  port : ∃ port, effectivePort url = some port ∧ (p.allowedPorts = [] ∨ port ∈ p.allowedPorts)

-- The address behind a name is looked up and turned away.
def TurnedAway (host : String) : Prop :=
  p.applyIPFilterForDomain = true ∧ ∀ ips, net.lookupIP host = .ok ips → ∃ ip ∈ ips, isIPAccessAllowed net p ip = false

-- The checks of the scheme and the port let the URL pass.
def Reaches (url : Url) : Prop :=
  (url.scheme = "http" ∨ url.scheme = "https") ∧ ∃ port, effectivePort url = some port ∧ isAllowedPort p port = true

-- A literal with a zone is taken for a name, and names are compared as texts.
structure Sealed (url : Url) : Prop where
  zone : ∀ ip zone, net.parseAddr url.hostname = some (ip, zone) → zone ≠ "" → isDomainAllowed net p url.hostname = true →
    p.applyIPFilterForDomain = true ∨ isIPAccessAllowed net p ip = true
  name : net.parseAddr url.hostname = none → TurnedAway net p url.hostname ∨
    if p.domainFilterMode then isDomainListed net url.hostname p.domainList = true → dnsListed net url.hostname p.domainList = true
    else dnsListed net url.hostname p.domainList = true → isDomainListed net url.hostname p.domainList = true

end

/- The checks, one by one. -/

theorem family_v4 (ip : IP) (bits address length : Nat) (v4 : ip.to4 = some bits) : (Network.v6 address length).contains ip = false := by
  simp [Network.contains, v4]

theorem family_v6 (ip : IP) (address length : Nat) (v6 : ip.to4 = none) : (Network.v4 address length).contains ip = false := by
  simp [Network.contains, v6]

theorem v6_nets (network : Network) (member : network ∈ privateIPv6Nets) : ∃ address length, network = .v6 address length := by
  simp only [privateIPv6Nets, List.mem_cons, List.not_mem_nil, or_false] at member
  rcases member with rfl | rfl | rfl | rfl | rfl | rfl | rfl | rfl | rfl | rfl <;> exact ⟨_, _, rfl⟩

theorem v4_nets (network : Network) (member : network ∈ privateIPv4Nets) : ∃ address length, network = .v4 address length := by
  simp only [privateIPv4Nets, List.mem_cons, List.not_mem_nil, or_false] at member
  rcases member with rfl | rfl | rfl | rfl | rfl | rfl | rfl | rfl | rfl | rfl | rfl | rfl | rfl | rfl | rfl <;> exact ⟨_, _, rfl⟩

-- A private IPv4 address is in one of the nets, and so is a multicast address of an interface.
theorem private_in_nets (ip : IP) (bits : Nat) (v4 : ip.to4 = some bits) (own : ip.isPrivate = true) :
    ∃ network ∈ privateIPv4Nets, network.contains ip = true := by
  simp only [IP.isPrivate, v4, decide_eq_true_eq] at own
  obtain ten | sixteen | pair := own
  · exact ⟨.v4 (quad 10 0 0 0) 8, by simp [privateIPv4Nets], by simp [Network.contains, v4, ten, quad]⟩
  · exact ⟨.v4 (quad 172 16 0 0) 12, by simp [privateIPv4Nets], by simp [Network.contains, v4, sixteen, quad]⟩
  · exact ⟨.v4 (quad 192 168 0 0) 16, by simp [privateIPv4Nets], by simp [Network.contains, v4, pair, quad]⟩

theorem interface_in_nets (ip : IP) (own : ip.isInterfaceLocalMulticast = true) : ∃ network ∈ privateIPv6Nets, network.contains ip = true := by
  simp only [IP.isInterfaceLocalMulticast, decide_eq_true_eq] at own
  have v6 : ip.to4 = none := by
    rw [IP.to4, if_neg]
    intro mapped
    omega
  refine ⟨.v6 (0xff00 <<< 112) 8, by simp [privateIPv6Nets], ?_⟩
  simp [Network.contains, v6, own.1]

theorem blocked_of_net (ip : IP) (list : List Network) (sub : ∀ network ∈ list, network ∈ privateIPv4Nets ++ privateIPv6Nets)
    (inside : ∃ network ∈ list, network.contains ip = true) : Blocked ip := by
  obtain ⟨network, member, contains⟩ := inside
  exact .inr (.inr (.inr (.inr (.inr ⟨network, sub network member, contains⟩))))

theorem blocked_iff (ip : IP) : isPrivateIP ip = true ↔ Blocked ip := by
  have first : ∀ network ∈ privateIPv4Nets, network ∈ privateIPv4Nets ++ privateIPv6Nets := fun network member => List.mem_append_left _ member
  have second : ∀ network ∈ privateIPv6Nets, network ∈ privateIPv4Nets ++ privateIPv6Nets := fun network member => List.mem_append_right _ member
  rw [isPrivateIP]
  by_cases unspecified : ip.isUnspecified = true
  · rw [if_pos unspecified]
    exact ⟨fun _ => .inl unspecified, fun _ => rfl⟩
  · rw [if_neg unspecified]
    by_cases special : (ip.isLoopback || ip.isLinkLocalUnicast || ip.isLinkLocalMulticast) = true
    · rw [if_pos special]
      refine ⟨fun _ => ?_, fun _ => rfl⟩
      simp only [Bool.or_eq_true] at special
      obtain (loopback | unicast) | multicast := special
      · exact .inr (.inl loopback)
      · exact .inr (.inr (.inr (.inl unicast)))
      · exact .inr (.inr (.inr (.inr (.inl multicast))))
    · rw [if_neg special]
      simp only [Bool.or_eq_true, not_or] at special
      by_cases interface : ip.isInterfaceLocalMulticast = true
      · rw [if_pos interface]
        exact ⟨fun _ => blocked_of_net ip _ second (interface_in_nets ip interface), fun _ => rfl⟩
      · rw [if_neg interface]
        cases family : ip.to4 with
        | some bits =>
            simp only [List.any_eq_true]
            constructor
            · exact blocked_of_net ip _ first
            · intro blocked
              obtain own | own | own | own | own | ⟨network, member, inside⟩ := blocked
              · exact absurd own unspecified
              · exact absurd own special.1.1
              · exact private_in_nets ip bits family own
              · exact absurd own special.1.2
              · exact absurd own special.2
              · obtain here | there := List.mem_append.mp member
                · exact ⟨network, here, inside⟩
                · obtain ⟨address, length, rfl⟩ := v6_nets network there
                  rw [family_v4 ip bits address length family] at inside
                  cases inside
        | none =>
            simp only [Bool.or_eq_true, List.any_eq_true]
            constructor
            · intro either
              obtain inside | own := either
              · exact blocked_of_net ip _ second inside
              · exact .inr (.inr (.inl own))
            · intro blocked
              obtain own | own | own | own | own | ⟨network, member, inside⟩ := blocked
              · exact absurd own unspecified
              · exact absurd own special.1.1
              · exact .inr own
              · exact absurd own special.1.2
              · exact absurd own special.2
              · obtain here | there := List.mem_append.mp member
                · obtain ⟨address, length, rfl⟩ := v4_nets network here
                  rw [family_v6 ip address length family] at inside
                  cases inside
                · exact .inl ⟨network, there, inside⟩

section
variable (net : NetPackage) (p : SSRFProtection)

theorem in_list_iff (ip : IP) (list : List String) : isIPListed net ip list = true ↔ InList net ip list := by
  rw [isIPListed, List.any_eq_true, InList]
  have entry (cidr : String) : (match net.parseCIDR cidr with
      | some network => network.contains ip
      | none => decide (net.parseIP cidr = some ip)) = true ↔
      (∃ network, net.parseCIDR cidr = some network ∧ network.contains ip = true) ∨ (net.parseCIDR cidr = none ∧ net.parseIP cidr = some ip) := by
    cases net.parseCIDR cidr with
    | some network => simp
    | none => simp
  simp only [entry]

theorem access_iff (closed : p.allowPrivateIp = false) (ip : IP) :
    isIPAccessAllowed net p ip = true ↔ ¬ Blocked ip ∧ (InList net ip p.ipList ↔ p.ipFilterMode = true) := by
  rw [isIPAccessAllowed, closed, ← blocked_iff, ← in_list_iff]
  cases isPrivateIP ip with
  | true => simp
  | false =>
      cases p.ipFilterMode with
      | true => simp
      | false => simp

theorem resolved_ok (host : String) (ips : List IP) :
    validateResolved net p host ips = .ok () ↔ ∀ ip ∈ ips, isIPAccessAllowed net p ip = true := by
  induction ips with
  | nil => simp [validateResolved]
  | cons ip rest ih =>
      rw [validateResolved]
      cases allowed : isIPAccessAllowed net p ip with
      | true => simp [ih, allowed]
      | false =>
          have refused : ∀ error : Except String Unit, error ≠ .ok () → (error = .ok () ↔ ∀ other ∈ ip :: rest, isIPAccessAllowed net p other = true) := by
            intro error failed
            simp [failed, allowed]
          rw [if_neg Bool.false_ne_true]
          apply refused
          split_ifs <;> simp

theorem domain_ok (host : String) : validateDomain net p host = .ok () ↔ isDomainAllowed net p host = true ∧ ¬ TurnedAway net p host := by
  rw [validateDomain, TurnedAway]
  cases allowed : isDomainAllowed net p host with
  | false =>
      rw [if_pos rfl]
      split <;> simp
  | true =>
      rw [if_neg (by simp)]
      cases filter : p.applyIPFilterForDomain with
      | false => simp
      | true =>
          rw [if_neg (by simp)]
          cases found : net.lookupIP host with
          | error error => simp
          | ok ips =>
              simp only [resolved_ok, true_and, Except.ok.injEq, forall_eq', not_exists, not_and, Bool.not_eq_false]

theorem literal_ok (ip : IP) : validateLiteral net p ip = .ok () ↔ isIPAccessAllowed net p ip = true := by
  rw [validateLiteral]
  cases isIPAccessAllowed net p ip with
  | true => simp
  | false =>
      rw [if_neg Bool.false_ne_true]
      split_ifs <;> simp

theorem validate_ok (urlStr : String) (url : Url) (parsed : net.parseURL urlStr = .ok url) :
    validateURL net p urlStr = .ok () ↔ Reaches p url ∧
      match net.parseIP url.hostname with
      | some ip => isIPAccessAllowed net p ip = true
      | none => isDomainAllowed net p url.hostname = true ∧ ¬ TurnedAway net p url.hostname := by
  have split : (splitHostPort url).getD (url.hostname, defaultPort url.scheme) = (url.hostname, url.port.getD (defaultPort url.scheme)) := by
    rw [splitHostPort]
    cases url.port with
    | none => rfl
    | some port => rfl
  rw [validateURL, parsed]
  simp only [split]
  rw [Reaches, effectivePort]
  by_cases scheme : url.scheme = "http" ∨ url.scheme = "https"
  · have known : ¬ (url.scheme ≠ "http" ∧ url.scheme ≠ "https") := fun both => scheme.elim both.1 both.2
    rw [if_neg known]
    cases read : atoi (url.port.getD (defaultPort url.scheme)).toList with
    | none => simp
    | some port =>
        cases allowed : isAllowedPort p port with
        | false => simp [allowed]
        | true =>
            simp only [allowed, scheme, true_and, Option.some.injEq, exists_eq_left', Bool.true_eq_false, if_false]
            cases net.parseIP url.hostname with
            | some ip => exact literal_ok net p ip
            | none => exact domain_ok net p url.hostname
  · have unknown : url.scheme ≠ "http" ∧ url.scheme ≠ "https" := not_or.mp scheme
    rw [if_pos unknown]
    simp [scheme]

end

section
variable {net : NetPackage} {p : SSRFProtection} {urlStr : String} {url : Url}

theorem port_respected (reaches : Reaches p url) : ∃ port, effectivePort url = some port ∧ (p.allowedPorts = [] ∨ port ∈ p.allowedPorts) := by
  obtain ⟨_, port, read, allowed⟩ := reaches
  exact ⟨port, read, of_decide_eq_true allowed⟩

theorem name_respected_iff (parsed : net.parseURL urlStr = .ok url) (name : net.parseAddr url.hostname = none) :
    (validateURL net p urlStr = .ok () → Respects net p url) ↔ (Reaches p url → Sealed net p url) := by
  have noLiteral : net.parseIP url.hostname = none := by rw [NetPackage.parseIP, name]
  have unaddressed (ip : IP) (zone : String) : net.parseAddr url.hostname ≠ some (ip, zone) := by simp [name]
  have accepted := validate_ok net p urlStr url parsed
  rw [noLiteral] at accepted
  have allowed (mode : Bool) (same : p.domainFilterMode = mode) :
      isDomainAllowed net p url.hostname = true ↔ isDomainListed net url.hostname p.domainList = mode := by
    rw [isDomainAllowed, same]
    cases mode with
    | true => simp
    | false => simp
  constructor
  · intro respects reaches
    refine ⟨fun ip zone literal => absurd literal (unaddressed ip zone), fun _ => ?_⟩
    by_cases turned : TurnedAway net p url.hostname
    · exact .inl turned
    · right
      cases mode : p.domainFilterMode with
      | true =>
          intro listed
          have respected := respects (accepted.mpr ⟨reaches, (allowed true mode).mpr listed, turned⟩)
          rw [respected.name name, mode]
      | false =>
          intro listed
          cases own : isDomainListed net url.hostname p.domainList with
          | true => rfl
          | false =>
              have respected := respects (accepted.mpr ⟨reaches, (allowed false mode).mpr own, turned⟩)
              rw [respected.name name, mode] at listed
              cases listed
  · intro tight success
    obtain ⟨reaches, passed, notTurned⟩ := accepted.mp success
    refine ⟨fun ip zone literal => absurd literal (unaddressed ip zone), fun _ => ?_, port_respected reaches⟩
    have agree := ((tight reaches).name name).resolve_left notTurned
    cases mode : p.domainFilterMode with
    | true =>
        rw [mode] at agree
        exact agree ((allowed true mode).mp passed)
    | false =>
        rw [mode] at agree
        have unlisted := (allowed false mode).mp passed
        cases listed : dnsListed net url.hostname p.domainList with
        | false => rfl
        | true =>
            rw [agree listed] at unlisted
            cases unlisted

theorem literal_respected_iff (closed : p.allowPrivateIp = false) (parsed : net.parseURL urlStr = .ok url) (ip : IP) (zone : String)
    (literal : net.parseAddr url.hostname = some (ip, zone)) :
    (validateURL net p urlStr = .ok () → Respects net p url) ↔ (Reaches p url → Sealed net p url) := by
  have access := access_iff net p closed ip
  have addressed : net.parseAddr url.hostname ≠ none := by simp [literal]
  have accepted := validate_ok net p urlStr url parsed
  have respected (reaches : Reaches p url) (open_ : isIPAccessAllowed net p ip = true) : Respects net p url := by
    refine ⟨?_, fun name => absurd name addressed, port_respected reaches⟩
    intro other otherZone same
    rw [literal] at same
    cases same
    exact access.mp open_
  by_cases zoned : zone = ""
  · have plain : net.parseIP url.hostname = some ip := by simp [NetPackage.parseIP, literal, zoned]
    rw [plain] at accepted
    have vacuous : Sealed net p url := by
      refine ⟨?_, fun name => absurd name addressed⟩
      intro other otherZone same notEmpty
      rw [literal] at same
      cases same
      exact absurd zoned notEmpty
    refine ⟨fun _ _ => vacuous, fun _ success => ?_⟩
    obtain ⟨reaches, open_⟩ := accepted.mp success
    exact respected reaches open_
  · have noPlain : net.parseIP url.hostname = none := by simp [NetPackage.parseIP, literal, zoned]
    have turned : TurnedAway net p url.hostname ↔ p.applyIPFilterForDomain = true ∧ isIPAccessAllowed net p ip = false := by
      rw [TurnedAway, net.lookup_literal url.hostname ip zone literal]
      simp
    rw [noPlain] at accepted
    simp only [turned] at accepted
    constructor
    · intro respects reaches
      refine ⟨?_, fun name => absurd name addressed⟩
      intro other otherZone same _ allowed
      rw [literal] at same
      cases same
      cases filter : p.applyIPFilterForDomain with
      | true => exact .inl rfl
      | false =>
          right
          have result := respects (accepted.mpr ⟨reaches, allowed, fun both => Bool.false_ne_true (filter.symm.trans both.1)⟩)
          exact access.mpr (result.literal ip zone literal)
    · intro tight success
      obtain ⟨reaches, allowed, notTurned⟩ := accepted.mp success
      obtain filter | open_ := (tight reaches).zone ip zone literal zoned allowed
      · cases open_ : isIPAccessAllowed net p ip with
        | true => exact respected reaches open_
        | false => exact absurd ⟨filter, open_⟩ notTurned
      · exact respected reaches open_

end

-- An accepted URL respects the policy unless a zone or a way to write the name lets it through.
theorem accepted_respects_iff (net : NetPackage) (p : SSRFProtection) (urlStr : String) (url : Url) (closed : p.allowPrivateIp = false)
    (parsed : net.parseURL urlStr = .ok url) :
    (validateURL net p urlStr = .ok () → Respects net p url) ↔ (Reaches p url → Sealed net p url) := by
  cases literal : net.parseAddr url.hostname with
  | none => exact name_respected_iff parsed literal
  | some address =>
      obtain ⟨ip, zone⟩ := address
      exact literal_respected_iff closed parsed ip zone literal

section

def zoned : Url := ⟨"http", "fe80::1%eth0", none⟩

def dotted : Url := ⟨"http", "evil.com.", none⟩

def linkLocal (host : String) : Option (IP × String) := if host = "fe80::1%eth0" then some (⟨(0xfe80 <<< 112) + 1⟩, "eth0") else none

def sampleNet : NetPackage where
  parseURL text :=
    if text = "http://[fe80::1%25eth0]/" then .ok zoned
    else if text = "http://evil.com./" then .ok dotted
    else if text = "http://example.com:8080/" then .ok ⟨"http", "example.com", some "8080"⟩
    else .error "invalid"
  parseAddr := linkLocal
  parseCIDR _ := none
  lookupIP host :=
    match linkLocal host with
    | some (ip, _) => .ok [ip]
    | none => .error "no such host"
  ipString _ := "fe80::1"
  lower := Char.toLower
  lookup_literal host ip zone literal := by rw [literal]

def blacklist : SSRFProtection where
  allowPrivateIp := false
  domainFilterMode := false
  domainList := ["*.evil.com"]
  ipFilterMode := false
  ipList := []
  allowedPorts := []
  applyIPFilterForDomain := false

theorem accepted_respects_example :
    validateURL sampleNet blacklist "http://example.com:8080/" = .ok () ∧
      Respects sampleNet blacklist ⟨"http", "example.com", some "8080"⟩ := by
  have accepted : validateURL sampleNet blacklist "http://example.com:8080/" = .ok () := by decide
  refine ⟨accepted, ?_⟩
  apply (accepted_respects_iff sampleNet blacklist "http://example.com:8080/" ⟨"http", "example.com", some "8080"⟩ rfl (by decide)).mpr _ accepted
  intro _
  refine ⟨fun ip zone literal => absurd literal (by simp [sampleNet, linkLocal]), fun _ => .inr ?_⟩
  have unlisted : dnsListed sampleNet "example.com" blacklist.domainList = false := by decide
  intro listed
  rw [unlisted] at listed
  cases listed

-- A zone hides a link-local address, and a dot at the end a name of the blacklist.
theorem zone_and_dot_accepted :
    (validateURL sampleNet blacklist "http://[fe80::1%25eth0]/" = .ok () ∧ ¬ Respects sampleNet blacklist zoned) ∧
      validateURL sampleNet blacklist "http://evil.com./" = .ok () ∧ ¬ Respects sampleNet blacklist dotted := by
  refine ⟨⟨by decide, ?_⟩, by decide, ?_⟩
  · intro respects
    have free := (respects.literal ⟨(0xfe80 <<< 112) + 1⟩ "eth0" (by decide)).1
    exact free (.inr (.inr (.inr (.inl (by decide)))))
  · intro respects
    have unlisted := respects.name (by decide)
    exact absurd unlisted (by decide)

end

end CodeGo.Platform.Security
