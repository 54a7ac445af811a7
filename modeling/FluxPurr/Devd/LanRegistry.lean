import FluxPurr.Collections.FirstMatch
import FluxPurr.Lan.HttpGate
import FluxPurr.Runs.Reaches
import FluxPurr.Wire.Json

/-!
# The registry of LAN devices

The daemon keeps what it knows of the devices on the network: those that were discovered,
and those that were paired, with their token.  A record is merged by its base URL, or else
by its id.

The URL crate and the digest are parameters; an answer of the network is an argument.
-/

namespace FluxPurr.Devd

open FluxPurr.Collections FluxPurr.Runs
open FluxPurr.Wire (Json)

namespace LanRegistry

/-! ## Records -/

structure LanDeviceConfig where
  id : String
  baseUrl : String
  hostname : Option String
  lastIpv4 : Option String
  pairingToken : Option String
deriving DecidableEq

inductive LanClientError where
  | invalidUrl
  | invalidCode
  | pairingCodeRequired
  | pairingUnavailable
  | invalidPublicInfo
  | invalidPairingResponse
  | request (message : String)
deriving DecidableEq

/-- The parts of a URL that are looked at. -/
structure Url where
  scheme : String
  hostStr : Option String
  username : String
  password : Option String
  path : String
  query : Option String
  fragment : Option String

/-- What is not written here: `Url::parse`, the text of a URL after `set_path("")`, and
`Sha256::digest`. -/
structure Crates where
  parseUrl : String → Option Url
  withoutPath : Url → String
  sha256 : List UInt8 → List UInt8

def isAsciiHexDigit (c : Char) : Bool :=
  ('0' ≤ c && c ≤ '9') || ('a' ≤ c && c ≤ 'f') || ('A' ≤ c && c ≤ 'F')

def isDeviceId (value : String) : Bool := value.toUTF8.size = 12 && value.toList.all isAsciiHexDigit

def isToken (value : String) : Bool := value.toUTF8.size = 64 && value.toList.all isAsciiHexDigit

def toAsciiLowercase (value : String) : String :=
  String.ofList (value.toList.map fun c =>
    if 'A' ≤ c && c ≤ 'Z' then Char.ofNat (c.toNat + 32) else c)

/-- An octet of an IPv4 address: one to three digits without a leading zero. -/
def octet (digits : List Char) : Option ℕ :=
  if digits ≠ [] ∧ digits.length ≤ 3 ∧ digits.all Char.isDigit ∧
      (digits.length = 1 ∨ digits.head? ≠ some '0') ∧ Nat.ofDigitChars 10 digits 0 ≤ 255 then
    some (Nat.ofDigitChars 10 digits 0)
  else none

/-- `host.parse::<Ipv4Addr>()` -/
def parseIpv4 (host : String) : Option (List ℕ) :=
  let parts := host.toList.splitOn '.'
  if parts.length = 4 then parts.mapM octet else none

/-- `Ipv4Addr::is_private` -/
def isPrivate : List ℕ → Bool
  | [a, b, _, _] => a = 10 || (a = 172 && 16 ≤ b && b ≤ 31) || (a = 192 && b = 168)
  | _ => false

def trimEndMatches (c : Char) (text : String) : String :=
  String.ofList (text.toList.reverse.dropWhile (· = c)).reverse

def isPrivateLanHost (host : String) : Bool :=
  let host := trimEndMatches '.' host
  match parseIpv4 host with
  | some address => isPrivate address
  | none =>
      let name := host.toList
      let beginning := "flux-purr-".toList
      let ending := ".local".toList
      ending.isSuffixOf name && beginning.isPrefixOf (name.take (name.length - ending.length)) &&
        isDeviceId (String.ofList
          ((name.take (name.length - ending.length)).drop beginning.length))

def normalizeLanBaseUrl (crates : Crates) (raw : String) : Except LanClientError String :=
  match crates.parseUrl (String.ofList (Lan.trim raw.toList)) with
  | none => .error .invalidUrl
  | some url =>
      if url.scheme ≠ "http" || !url.hostStr.any isPrivateLanHost || url.username ≠ "" ||
          url.password.isSome || (url.path ≠ "/" && url.path ≠ "") || url.query.isSome ||
          url.fragment.isSome then
        .error .invalidUrl
      else .ok (trimEndMatches '/' (crates.withoutPath url))

/-- `{:02x}` -/
def hex2 (byte : UInt8) : String := String.ofList ((Nat.toDigits 16 byte.toNat).leftpad 2 '0')

def deviceIdForBaseUrl (crates : Crates) (baseUrl : String) : String :=
  "lan-" ++ String.join (((crates.sha256 baseUrl.toUTF8.toList).take 6).map hex2)

/-- The id under which a device is known that says this of itself. -/
def lanId (crates : Crates) (deviceId : Option String) (baseUrl : String) : String :=
  match deviceId.filter isDeviceId with
  | some deviceId => "lan-" ++ toAsciiLowercase deviceId
  | none => deviceIdForBaseUrl crates baseUrl

def lastIpv4 (crates : Crates) (baseUrl : String) : Option String :=
  ((crates.parseUrl baseUrl).bind (·.hostStr)).filter fun host => (parseIpv4 host).isSome

/-! ## Discoveries -/

inductive LanDiscoverySource where
  | mdns
  | cidrScan

structure LanDiscovery where
  baseUrl : String
  hostname : Option String
  deviceId : Option String
  source : LanDiscoverySource

def deviceFromDiscovery (crates : Crates) (discovery : LanDiscovery) : Option LanDeviceConfig :=
  match normalizeLanBaseUrl crates discovery.baseUrl with
  | .error _ => none
  | .ok baseUrl => some {
      id := lanId crates discovery.deviceId baseUrl
      baseUrl := baseUrl
      hostname := discovery.hostname
      lastIpv4 := lastIpv4 crates baseUrl
      pairingToken := none }

/-! ## Pairing -/

inductive LanPairingMode where
  | required
  | optional
  | unavailable
deriving DecidableEq

structure LanPairingMetadata where
  mode : LanPairingMode
  active : Bool
  attemptsRemaining : UInt8

structure LanPublicInfo where
  ok : Bool
  api : String
  deviceId : String
  hostname : String
  pairing : LanPairingMetadata

structure LanPairRequest where
  baseUrl : String
  code : Option String

def lanApiVersion : String := "v1"

/-- `summary` is what came of the request for the summary. -/
def publicInfo (summary : Except LanClientError LanPublicInfo) :
    Except LanClientError LanPublicInfo := do
  let summary ← summary
  if !summary.ok || summary.api ≠ lanApiVersion || !isDeviceId summary.deviceId ||
      summary.hostname = "" ||
      (summary.pairing.mode = .required && 5 < summary.pairing.attemptsRemaining) ||
      (summary.pairing.mode ≠ .required && summary.pairing.active) then
    .error .invalidPublicInfo
  else return summary

def pairingClaimBody (mode : LanPairingMode) (code : Option String) : Except LanClientError Json :=
  match mode with
  | .required =>
      match code with
      | none => .error .pairingCodeRequired
      | some code =>
          if code.toUTF8.size ≠ 4 || !code.toList.all Char.isDigit then .error .invalidCode
          else .ok (.object [("code", .string code)])
  | .optional => .ok (.object [])
  | .unavailable => .error .pairingUnavailable

/-- `Value::get`: the last of several fields of one name counts. -/
def getField (key : String) : Json → Option Json
  | .object fields => (fields.reverse.find? fun field => field.1 = key).map (·.2)
  | _ => none

def asStr : Json → Option String
  | .string text => some text
  | _ => none

/-- `summary` and `response` are what came of the two requests; the second one has the
claim as its body. -/
def pairDevice (crates : Crates) (request : LanPairRequest)
    (summary : Except LanClientError LanPublicInfo) (response : Json → Except LanClientError Json) :
    Except LanClientError LanDeviceConfig := do
  let baseUrl ← normalizeLanBaseUrl crates request.baseUrl
  let publicInfo ← publicInfo summary
  let body ← pairingClaimBody publicInfo.pairing.mode request.code
  let response ← response body
  match ((getField "token" response).bind asStr).filter isToken with
  | none => .error .invalidPairingResponse
  | some token => return {
      id := lanId crates ((getField "deviceId" response).bind asStr) baseUrl
      baseUrl := baseUrl
      hostname := ((getField "hostname" response).or (getField "deviceHostname" response)).bind
        asStr
      lastIpv4 := lastIpv4 crates baseUrl
      pairingToken := some token }

/-! ## Merging -/

/-- The record takes the place of another one, whose token it keeps if it has none. -/
def adopt (device existing : LanDeviceConfig) : LanDeviceConfig :=
  { device with pairingToken := device.pairingToken.or existing.pairingToken }

variable (devices : List LanDeviceConfig)

def mergeLanDevice (device : LanDeviceConfig) : List LanDeviceConfig :=
  match updateFirst (fun existing => existing.baseUrl = device.baseUrl) (adopt device) devices with
  | some devices => devices
  | none =>
      match devices.find? fun existing => existing.id = device.id with
      | none => devices ++ [device]
      | some existing =>
          -- a discovery has no proof that it owns the token
          if existing.pairingToken.isSome && device.pairingToken.isNone then devices
          else
            (updateFirst (fun existing => existing.id = device.id) (adopt device)
              devices).getD devices

/-! ## Runs -/

/-- One merge: of a discovery, or of what a pairing exchange returned. -/
inductive Source where
  | discovered (discovery : LanDiscovery)
  | paired (request : LanPairRequest) (summary : Except LanClientError LanPublicInfo)
      (response : Json → Except LanClientError Json)

/-- The record to merge, if there is one. -/
def Source.record (crates : Crates) : Source → Option LanDeviceConfig
  | discovered discovery => deviceFromDiscovery crates discovery
  | paired request summary response => (pairDevice crates request summary response).toOption

/-- The records of the registry, and those that pairing exchanges returned. -/
structure Registry where
  devices : List LanDeviceConfig
  exchanges : List LanDeviceConfig

open Registry

def Registry.merge (device : LanDeviceConfig) (registry : Registry) : Registry where
  devices := mergeLanDevice registry.devices device
  exchanges :=
    if device.pairingToken.isSome then registry.exchanges ++ [device] else registry.exchanges

def Next (crates : Crates) (before : Registry) (source : Source) (after : Registry) : Prop :=
  after = match source.record crates with
    | some device => before.merge device
    | none => before

/-- The token was returned for this id and this base URL. -/
def Attached (exchanges : List LanDeviceConfig) (device : LanDeviceConfig) : Prop :=
  device.pairingToken.isSome → ∃ exchange ∈ exchanges, exchange.id = device.id ∧
    exchange.baseUrl = device.baseUrl ∧ exchange.pairingToken = device.pairingToken

/-- Records are told apart, and tokens stay where they were issued. -/
structure Bound (registry : Registry) : Prop where
  ids : (registry.devices.map (·.id)).Nodup
  baseUrls : (registry.devices.map (·.baseUrl)).Nodup
  attached : ∀ device ∈ registry.devices, Attached registry.exchanges device

/-- What a merge should respect: a discovery moves no token. -/
structure RegistryLaw (crates : Crates) (before : Registry) (source : Source)
    (after : Registry) : Prop where
  bound : Bound after
  kept : ∀ discovery, source = .discovered discovery → ∀ device ∈ before.devices,
    device.pairingToken.isSome → ∃ device' ∈ after.devices, device'.id = device.id ∧
      device'.baseUrl = device.baseUrl ∧ device'.pairingToken = device.pairingToken

/-- A record with the same base URL has the same id if it has a token and the new one has
none, and the new id is not that of another record. -/
def Fits (device : LanDeviceConfig) : Prop :=
  ∀ existing ∈ devices, existing.baseUrl = device.baseUrl →
    (existing.pairingToken.isSome → device.pairingToken = none → existing.id = device.id) ∧
      ∀ other ∈ devices, other.baseUrl ≠ device.baseUrl → other.id ≠ device.id

instance (devices : List LanDeviceConfig) (device : LanDeviceConfig) :
    Decidable (Fits devices device) := by
  unfold Fits
  infer_instance

def Meets (crates : Crates) (before : Registry) (source : Source) : Prop :=
  ∀ device ∈ source.record crates, Fits before.devices device

/-! ## What a merge does -/

theorem mergeLanDevice_cases (device : LanDeviceConfig) :
    (∃ front existing back, devices = front ++ existing :: back ∧
      existing.baseUrl = device.baseUrl ∧
      mergeLanDevice devices device = front ++ adopt device existing :: back) ∨
    ((∀ existing ∈ devices, existing.baseUrl ≠ device.baseUrl) ∧
      ((∃ existing ∈ devices, existing.id = device.id ∧ existing.pairingToken.isSome ∧
          device.pairingToken = none ∧ mergeLanDevice devices device = devices) ∨
        (∃ front existing back, devices = front ++ existing :: back ∧ existing.id = device.id ∧
          (device.pairingToken = none → existing.pairingToken = none) ∧
          mergeLanDevice devices device = front ++ adopt device existing :: back) ∨
        (∀ existing ∈ devices, existing.id ≠ device.id) ∧
          mergeLanDevice devices device = devices ++ [device])) := by
  unfold mergeLanDevice
  cases hurl : updateFirst (fun existing => existing.baseUrl = device.baseUrl) (adopt device)
      devices with
  | some devices' =>
    obtain ⟨front, existing, back, hdevices, hfound, rfl⟩ := updateFirst_eq_some hurl
    have hmatch : existing.baseUrl = device.baseUrl := by simpa using List.find?_some hfound
    exact .inl ⟨front, existing, back, hdevices, hmatch, rfl⟩
  | none =>
    refine .inr ⟨fun existing h => ?_, ?_⟩
    · exact of_decide_eq_false (updateFirst_eq_none.mp hurl existing h)
    cases hfound : devices.find? fun existing => existing.id = device.id with
    | none =>
      refine .inr (.inr ⟨fun existing h => ?_, rfl⟩)
      simpa using List.find?_eq_none.mp hfound existing h
    | some existing =>
      have hid : existing.id = device.id := by simpa using List.find?_some hfound
      have hmem := List.mem_of_find?_eq_some hfound
      dsimp only
      split
      · rename_i hpaired
        rw [Bool.and_eq_true, Option.isNone_iff_eq_none] at hpaired
        exact .inl ⟨existing, hmem, hid, hpaired.1, hpaired.2, rfl⟩
      · rename_i hunpaired
        cases hupdate : updateFirst (fun existing => existing.id = device.id) (adopt device)
            devices with
        | none =>
          exact absurd hid (of_decide_eq_false (updateFirst_eq_none.mp hupdate _ hmem))
        | some devices' =>
          obtain ⟨front, first, back, hdevices, hfirst, rfl⟩ := updateFirst_eq_some hupdate
          obtain rfl : existing = first := Option.some.inj (hfound.symm.trans hfirst)
          refine .inr (.inl ⟨front, existing, back, hdevices, hid, fun hnone => ?_, rfl⟩)
          simpa [hnone] using hunpaired

theorem adopt_token (device existing : LanDeviceConfig) :
    (adopt device existing).pairingToken = device.pairingToken.or existing.pairingToken := rfl

variable {device : LanDeviceConfig}

variable {registry : Registry}

/-- A record whose token is its own is attached by the exchange that returned it. -/
theorem attached_merge :
    Attached (registry.merge device).exchanges device := by
  intro hsome
  refine ⟨device, ?_, rfl, rfl, rfl⟩
  rw [merge, if_pos hsome]
  exact List.mem_append_right _ (List.mem_singleton_self _)

theorem Attached.merge {device kept : LanDeviceConfig}
    (h : Attached registry.exchanges kept) : Attached (registry.merge device).exchanges kept := by
  intro hsome
  obtain ⟨exchange, hmem, hsame⟩ := h hsome
  refine ⟨exchange, ?_, hsame⟩
  rw [Registry.merge]
  split
  · exact List.mem_append_left _ hmem
  · exact hmem

/-- The adopting record keeps a token of its own, or the one of a record for the same id and
base URL. -/
theorem attached_adopt {device existing : LanDeviceConfig}
    (h : Attached registry.exchanges existing) (hurl : existing.baseUrl = device.baseUrl)
    (hid : existing.pairingToken.isSome → device.pairingToken = none → existing.id = device.id) :
    Attached (registry.merge device).exchanges (adopt device existing) := by
  cases htoken : device.pairingToken with
  | some token =>
    have hadopt : adopt device existing = device := by
      rw [adopt, htoken, Option.some_or, ← htoken]
    rw [hadopt]
    exact attached_merge
  | none =>
    have hkept : (adopt device existing).pairingToken = existing.pairingToken := by
      rw [adopt_token, htoken, Option.none_or]
    intro hsome
    rw [hkept] at hsome ⊢
    obtain ⟨exchange, hmem, hsameId, hsameUrl, hsameToken⟩ := h.merge hsome
    exact ⟨exchange, hmem, hsameId.trans (hid hsome htoken), hsameUrl.trans hurl, hsameToken⟩

theorem attached_replace {device existing adopted : LanDeviceConfig}
    {front back : List LanDeviceConfig}
    (hattached : ∀ kept ∈ front ++ existing :: back, Attached registry.exchanges kept)
    (hadopted : Attached (registry.merge device).exchanges adopted) :
    ∀ kept ∈ front ++ adopted :: back, Attached (registry.merge device).exchanges kept := by
  intro kept hkept
  rw [List.mem_append, List.mem_cons] at hkept
  obtain hfront | rfl | hback := hkept
  · exact (hattached kept (List.mem_append_left _ hfront)).merge
  · exact hadopted
  · exact (hattached kept (List.mem_append_right _ (List.mem_cons_of_mem _ hback))).merge

/-- A merge that fits keeps the records apart and the tokens in their places. -/
theorem bound_merge {before : Registry} (hbound : Bound before)
    (hfits : Fits before.devices device) : Bound (before.merge device) := by
  obtain ⟨front, existing, back, hdevices, hurl, hmerged⟩ | ⟨hnone, hcases⟩ :=
    mergeLanDevice_cases before.devices device
  · have hmem : existing ∈ before.devices := by rw [hdevices]; simp
    obtain ⟨hsame, hothers⟩ := hfits existing hmem hurl
    have hids := hbound.ids
    have hurls := hbound.baseUrls
    rw [hdevices] at hids hurls
    have hotherUrl : ∀ other ∈ front ++ back, other.baseUrl ≠ device.baseUrl := by
      intro other hother
      rw [← hurl]
      exact (nodup_split.mp hurls).2 other hother
    refine ⟨?_, ?_, ?_⟩
    · rw [merge, hmerged, nodup_replace_iff hids]
      intro other hother
      refine hothers other ?_ (hotherUrl other hother)
      rw [hdevices]
      exact List.perm_middle.mem_iff.mpr (List.mem_cons_of_mem _ hother)
    · rw [merge, hmerged, nodup_replace_iff hurls]
      exact hotherUrl
    · rw [show (before.merge device).devices = front ++ adopt device existing :: back from hmerged]
      refine attached_replace (hdevices ▸ hbound.attached) ?_
      exact attached_adopt (hbound.attached existing hmem) hurl hsame
  obtain ⟨existing, hmem, hid, hpaired, hunpaired, hmerged⟩ |
    ⟨front, existing, back, hdevices, hid, htoken, hmerged⟩ | ⟨hnew, hmerged⟩ := hcases
  · have hsame : before.merge device = before := by
      rw [merge, hmerged, hunpaired]
      rfl
    rw [hsame]
    exact hbound
  · have hmem : existing ∈ before.devices := by rw [hdevices]; simp
    have hids := hbound.ids
    have hurls := hbound.baseUrls
    rw [hdevices] at hids hurls
    refine ⟨?_, ?_, ?_⟩
    · rw [merge, hmerged, nodup_replace_iff hids]
      intro other hother
      change other.id ≠ device.id
      rw [← hid]
      exact (nodup_split.mp hids).2 other hother
    · rw [merge, hmerged, nodup_replace_iff hurls]
      intro other hother
      refine hnone other ?_
      rw [hdevices]
      exact List.perm_middle.mem_iff.mpr (List.mem_cons_of_mem _ hother)
    · rw [show (before.merge device).devices = front ++ adopt device existing :: back from hmerged]
      refine attached_replace (hdevices ▸ hbound.attached) ?_
      cases hown : device.pairingToken with
      | some token =>
        have hadopt : adopt device existing = device := by
          rw [adopt, hown, Option.some_or, ← hown]
        rw [hadopt]
        exact attached_merge
      | none =>
        intro hsome
        rw [adopt_token, hown, htoken hown] at hsome
        cases hsome
  · refine ⟨?_, ?_, ?_⟩
    · rw [merge, hmerged, List.map_append, List.map_singleton, ← List.concat_eq_append,
        List.nodup_concat]
      refine ⟨?_, hbound.ids⟩
      simpa using hnew
    · rw [merge, hmerged, List.map_append, List.map_singleton, ← List.concat_eq_append,
        List.nodup_concat]
      refine ⟨?_, hbound.baseUrls⟩
      simpa using hnone
    · intro kept hkept
      replace hkept : kept ∈ mergeLanDevice before.devices device := hkept
      rw [hmerged, List.mem_append, List.mem_singleton] at hkept
      obtain hold | rfl := hkept
      · exact (hbound.attached kept hold).merge
      · exact attached_merge

/-- A record without a token that fits leaves every record with a token where it is. -/
theorem kept_merge {before : Registry}
    (hfits : Fits before.devices device) (htoken : device.pairingToken = none)
    {kept : LanDeviceConfig} (hkept : kept ∈ before.devices) (hpaired : kept.pairingToken.isSome) :
    ∃ device' ∈ (before.merge device).devices, device'.id = kept.id ∧
      device'.baseUrl = kept.baseUrl ∧ device'.pairingToken = kept.pairingToken := by
  obtain ⟨front, existing, back, hdevices, hurl, hmerged⟩ | ⟨hnone, hcases⟩ :=
    mergeLanDevice_cases before.devices device
  · rw [show (before.merge device).devices = front ++ adopt device existing :: back from hmerged]
    have hmem : existing ∈ before.devices := by rw [hdevices]; simp
    rw [hdevices, List.mem_append, List.mem_cons] at hkept
    obtain hfront | rfl | hback := hkept
    · exact ⟨kept, List.mem_append_left _ hfront, rfl, rfl, rfl⟩
    · refine ⟨adopt device kept, by simp, ((hfits kept hmem hurl).1 hpaired htoken).symm,
        hurl.symm, ?_⟩
      rw [adopt_token, htoken, Option.none_or]
    · exact ⟨kept, List.mem_append_right _ (List.mem_cons_of_mem _ hback), rfl, rfl, rfl⟩
  obtain ⟨existing, hmem, hid, hpaired', hunpaired, hmerged⟩ |
    ⟨front, existing, back, hdevices, hid, hfree, hmerged⟩ | ⟨hnew, hmerged⟩ := hcases
  · exact ⟨kept, by rw [merge, hmerged]; exact hkept, rfl, rfl, rfl⟩
  · rw [show (before.merge device).devices = front ++ adopt device existing :: back from hmerged]
    rw [hdevices, List.mem_append, List.mem_cons] at hkept
    obtain hfront | rfl | hback := hkept
    · exact ⟨kept, List.mem_append_left _ hfront, rfl, rfl, rfl⟩
    · rw [hfree htoken] at hpaired
      cases hpaired
    · exact ⟨kept, List.mem_append_right _ (List.mem_cons_of_mem _ hback), rfl, rfl, rfl⟩
  · refine ⟨kept, ?_, rfl, rfl, rfl⟩
    rw [merge, hmerged]
    exact List.mem_append_left _ hkept

theorem deviceFromDiscovery_token {crates : Crates} {discovery : LanDiscovery}
    (h : deviceFromDiscovery crates discovery = some device) :
    device.pairingToken = none := by
  unfold deviceFromDiscovery at h
  split at h
  · cases h
  · rw [← Option.some.inj h]

variable {crates : Crates} {before after : Registry} {source : Source}

theorem lawful (hbound : Bound before) (hmeets : Meets crates before source)
    (hnext : Next crates before source after) : RegistryLaw crates before source after := by
  unfold Next at hnext
  cases hrecord : source.record crates with
  | none =>
    rw [hrecord] at hnext
    obtain rfl : after = before := hnext
    exact ⟨hbound, fun _ _ device hdevice _ => ⟨device, hdevice, rfl, rfl, rfl⟩⟩
  | some device =>
    rw [hrecord] at hnext
    obtain rfl : after = before.merge device := hnext
    have hfits := hmeets device hrecord
    refine ⟨bound_merge hbound hfits, ?_⟩
    rintro discovery rfl kept hkept hpaired
    exact kept_merge hfits (deviceFromDiscovery_token hrecord) hkept hpaired

theorem bound_empty : Bound ⟨[], []⟩ := by
  refine ⟨List.nodup_nil, List.nodup_nil, fun device h => ?_⟩
  cases h

/-- In a run from an empty registry in which every merge fits, ids and base URLs stay
different, tokens stay where they were issued, and a discovery moves none of them. -/
theorem tokens_never_rebound {sources : List Source} (hrun : Reaches (fun before source after =>
      Meets crates before source ∧ Next crates before source after) ⟨[], []⟩ sources before)
    (hmeets : Meets crates before source) (hnext : Next crates before source after) :
    RegistryLaw crates before source after := by
  have hbound : Bound before := hrun.invariant bound_empty fun _ _ _ hbound hstep =>
    (lawful hbound hstep.1 hstep.2).bound
  exact lawful hbound hmeets hnext

theorem pairDevice_token {request : LanPairRequest}
    {summary : Except LanClientError LanPublicInfo} {response : Json → Except LanClientError Json}
    (h : (pairDevice crates request summary response).toOption = some device) :
    device.pairingToken.isSome := by
  unfold pairDevice at h
  cases hurl : normalizeLanBaseUrl crates request.baseUrl with
  | error error =>
    rw [hurl] at h
    cases h
  | ok baseUrl =>
  cases hinfo : publicInfo summary with
  | error error =>
    rw [hurl, hinfo] at h
    cases h
  | ok info =>
  cases hbody : pairingClaimBody info.pairing.mode request.code with
  | error error =>
    simp only [hurl, hinfo, hbody, bind, Except.bind] at h
    cases h
  | ok body =>
  cases hanswer : response body with
  | error error =>
    simp only [hurl, hinfo, hbody, hanswer, bind, Except.bind] at h
    cases h
  | ok answer =>
    simp only [hurl, hinfo, hbody, hanswer, bind, Except.bind] at h
    split at h
    · cases h
    · obtain rfl := Option.some.inj h
      rfl

/-- Where the records are told apart, the condition is exactly what a merge needs. -/
theorem lawful_iff (hbound : Bound before) (hnext : Next crates before source after) :
    RegistryLaw crates before source after ↔ Meets crates before source := by
  refine ⟨fun hlaw device hrecord existing hmem hurl => ?_, fun hmeets =>
    lawful hbound hmeets hnext⟩
  have hafter : after = before.merge device := by
    unfold Next at hnext
    rwa [show source.record crates = some device from hrecord] at hnext
  obtain ⟨front, first, back, hdevices, hfirst, hmerged⟩ | ⟨hnone, -⟩ :=
    mergeLanDevice_cases before.devices device
  swap
  · exact absurd hurl (hnone existing hmem)
  have hurls := hbound.baseUrls
  have hsame : first = existing :=
    List.inj_on_of_nodup_map hurls (by rw [hdevices]; simp) hmem (hfirst.trans hurl.symm)
  subst hsame
  have hids := hbound.ids
  rw [hdevices] at hids hurls
  have hafterDevices : after.devices = front ++ adopt device first :: back := by
    rw [hafter]
    exact hmerged
  refine ⟨fun hpaired htoken => ?_, fun other hother hotherUrl => ?_⟩
  · -- a record without a token is a discovery, and its merge must leave the id alone
    cases source with
    | paired request summary response =>
      have hsome := pairDevice_token hrecord
      rw [htoken] at hsome
      cases hsome
    | discovered discovery =>
      obtain ⟨device', hdevice', hid', hurl', -⟩ := hlaw.kept discovery rfl first hmem hpaired
      rw [hafterDevices, List.mem_append, List.mem_cons] at hdevice'
      have hotherUrls := (nodup_split.mp hurls).2
      obtain hfront | rfl | hback := hdevice'
      · exact absurd hurl' (hotherUrls device' (List.mem_append_left _ hfront))
      · exact hid'.symm
      · exact absurd hurl' (hotherUrls device' (List.mem_append_right _ hback))
  · have hnodup := hlaw.bound.ids
    rw [hafterDevices, nodup_replace_iff hids] at hnodup
    refine hnodup other ?_
    rw [hdevices, List.mem_append, List.mem_cons] at hother
    obtain hfront | rfl | hback := hother
    · exact List.mem_append_left _ hfront
    · exact absurd hurl hotherUrl
    · exact List.mem_append_right _ hback

/-! ## Two devices at one address -/

/-- The crates on the one URL of the example. -/
def exampleCrates : Crates where
  parseUrl text :=
    if text = "http://192.168.1.18" then
      some { scheme := "http", hostStr := some "192.168.1.18", username := "", password := none
             path := "/", query := none, fragment := none }
    else none
  withoutPath _ := "http://192.168.1.18/"
  -- both devices say who they are
  sha256 _ := []

def exampleToken : String := String.ofList (List.replicate 64 'a')

def pairedExample : Source :=
  .paired { baseUrl := "http://192.168.1.18", code := some "4827" }
    (.ok { ok := true, api := "v1", deviceId := "001122334455"
           hostname := "flux-purr-001122334455.local"
           pairing := { mode := .required, active := true, attemptsRemaining := 5 } })
    (fun _ => .ok (.object [("token", .string exampleToken), ("deviceId", .string "001122334455")]))

def discoveredExample (deviceId : String) : Source :=
  .discovered { baseUrl := "http://192.168.1.18", hostname := none, deviceId := some deviceId
                source := .mdns }

def pairedRecord : LanDeviceConfig where
  id := "lan-001122334455"
  baseUrl := "http://192.168.1.18"
  hostname := none
  lastIpv4 := some "192.168.1.18"
  pairingToken := some exampleToken

def pairedRegistry : Registry where
  devices := [pairedRecord]
  exchanges := [pairedRecord]

theorem next_pairedExample : Next exampleCrates ⟨[], []⟩ pairedExample pairedRegistry := by
  have hrecord : pairedExample.record exampleCrates = some pairedRecord := by decide +kernel
  rw [Next, hrecord]
  rfl

theorem meets_pairedExample : Meets exampleCrates ⟨[], []⟩ pairedExample := by
  intro device _ existing h
  cases h

/-- Another device answers at the address of a paired one, and is discovered there. -/
theorem not_all_tokens_stay : ¬ ∀ (crates : Crates) (sources : List Source) (before : Registry),
        Reaches (Next crates) ⟨[], []⟩ sources before →
          ∀ (source : Source) (after : Registry), Next crates before source after →
            RegistryLaw crates before source after := by
  intro h
  have hrun : Reaches (Next exampleCrates) ⟨[], []⟩ [pairedExample] pairedRegistry :=
    .step .refl next_pairedExample
  have hlaw := h exampleCrates _ _ hrun (discoveredExample "66778899aabb") _ rfl
  have hbound : Bound pairedRegistry :=
    (lawful bound_empty meets_pairedExample next_pairedExample).bound
  have hmeets : Meets exampleCrates pairedRegistry (discoveredExample "66778899aabb") :=
    (lawful_iff hbound rfl).mp hlaw
  have hfits := hmeets { pairedRecord with id := "lan-66778899aabb", pairingToken := none }
    (by decide +kernel)
  exact absurd hfits (by decide +kernel)

theorem tokens_never_rebound_refresh :
    RegistryLaw exampleCrates pairedRegistry (discoveredExample "001122334455")
      (pairedRegistry.merge { pairedRecord with pairingToken := none }) := by
  have hrecord : (discoveredExample "001122334455").record exampleCrates =
      some { pairedRecord with pairingToken := none } := by decide +kernel
  have hmeets : Meets exampleCrates pairedRegistry (discoveredExample "001122334455") := by
    intro device hdevice
    rw [hrecord] at hdevice
    rw [← Option.some.inj hdevice]
    decide +kernel
  have hnext : Next exampleCrates pairedRegistry (discoveredExample "001122334455")
      (pairedRegistry.merge { pairedRecord with pairingToken := none }) := by
    rw [Next, hrecord]
  exact tokens_never_rebound (.step .refl ⟨meets_pairedExample, next_pairedExample⟩) hmeets hnext

end LanRegistry

end FluxPurr.Devd
