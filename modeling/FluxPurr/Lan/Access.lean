import Mathlib.Algebra.Group.Nat.Defs
import Mathlib.Data.List.Basic

/-!
# LAN access

The three pieces of state that protect the LAN control plane: the bearer token, the
pairing window with its four-digit code, and the one lease that writes need.

Times are in milliseconds.  A byte array is a list of bytes; the lengths that the source
has in its types are checked where a byte array is read from text.
-/

namespace FluxPurr.Lan

abbrev lanTokenBytes : ℕ := 32
abbrev lanTokenHexLen : ℕ := 2 * lanTokenBytes
abbrev lanPairingMaxFailures : ℕ := 5
abbrev lanLeaseTtlMs : ℕ := 30000
abbrev lanLeaseIdBytes : ℕ := 12
abbrev u64Max : ℕ := 2 ^ 64 - 1

/-- `u64::saturating_add`. -/
def saturatingAdd (left right : ℕ) : ℕ := min (left + right) u64Max

/-- The bytes of a text. -/
def asBytes (text : String) : List UInt8 := text.toUTF8.toList

inductive LanPairingMode where
  | required
  | optional
  | unavailable
deriving DecidableEq, Repr

inductive LanAccessError where
  | pairingInactive
  | pairingLocked
  | pairingCodeInvalid
  | pairingUnavailable
  | unauthorized
  | leaseBusy
  | leaseRequired
  | leaseExpired
deriving DecidableEq, Repr

/-! ## The token -/

abbrev LanToken := List UInt8

def hexNibble (byte : UInt8) : Option UInt8 :=
  if 0x30 ≤ byte ∧ byte ≤ 0x39 then some (byte - 0x30)
  else if 0x61 ≤ byte ∧ byte ≤ 0x66 then some (byte - 0x61 + 10)
  else if 0x41 ≤ byte ∧ byte ≤ 0x46 then some (byte - 0x41 + 10)
  else none

def hexNibbleOrInvalid (byte : UInt8) : UInt8 := (hexNibble byte).getD 0xff

/-- The difference that a comparison without early exits collects: both texts are read
to their end. -/
def tokenDifference : LanToken → List UInt8 → UInt8
  | expected :: token, high :: low :: bearer =>
      (expected ^^^ ((hexNibbleOrInvalid high <<< 4) ||| hexNibbleOrInvalid low)) |||
        tokenDifference token bearer
  | _, _ => 0

def matchesBearer (token : LanToken) (value : String) : Bool :=
  let bytes := asBytes value
  if bytes.length ≠ lanTokenHexLen then false else tokenDifference token bytes = 0

/-! ## The pairing window -/

structure PairingWindow where
  code : Option (List UInt8) := none
  failedAttempts : ℕ := 0
deriving DecidableEq, Repr

namespace PairingWindow

def isActive (window : PairingWindow) : Bool := window.code.isSome

def leave (_window : PairingWindow) : PairingWindow := {}

def isAsciiDigit (byte : UInt8) : Bool := 0x30 ≤ byte ∧ byte ≤ 0x39

def enter (window : PairingWindow) (code : List UInt8) : PairingWindow :=
  if code.all isAsciiDigit then { code := some code, failedAttempts := 0 } else window.leave

/-- A correct claim leaves the window open; the fifth wrong one closes it. -/
def claim (window : PairingWindow) (submitted : String) :
    PairingWindow × Except LanAccessError Unit :=
  match window.code with
  | none => (window, .error .pairingInactive)
  | some code =>
      if lanPairingMaxFailures ≤ window.failedAttempts then (window, .error .pairingLocked)
      else if asBytes submitted = code then (window, .ok ())
      else if lanPairingMaxFailures ≤ window.failedAttempts + 1 then
        ({ code := none, failedAttempts := window.failedAttempts + 1 }, .error .pairingLocked)
      else
        ({ window with failedAttempts := window.failedAttempts + 1 }, .error .pairingCodeInvalid)

end PairingWindow

/-! ## The lease -/

variable (left right : List UInt8)

/-- The bits in which two byte arrays of one length differ, over all positions. -/
def byteDifference : UInt8 :=
  (left.zip right).foldl (fun difference pair => difference ||| (pair.1 ^^^ pair.2)) 0

def constantTimeBytesEqual : Bool :=
  if left.length ≠ right.length then false else byteDifference left right = 0

theorem foldl_byteDifference_eq_zero_iff (pairs : List (UInt8 × UInt8)) (difference : UInt8) :
    pairs.foldl (fun difference pair => difference ||| (pair.1 ^^^ pair.2)) difference = 0 ↔
      difference = 0 ∧ ∀ pair ∈ pairs, pair.1 = pair.2 := by
  induction pairs generalizing difference with
  | nil => simp
  | cons pair pairs ih =>
    rw [List.foldl_cons, ih, UInt8.or_eq_zero_iff, UInt8.xor_eq_zero_iff, List.forall_mem_cons,
      and_assoc]

theorem constantTimeBytesEqual_iff : constantTimeBytesEqual left right = true ↔ left = right := by
  unfold constantTimeBytesEqual byteDifference
  by_cases hlength : left.length = right.length
  · rw [if_neg (not_not.mpr hlength), decide_eq_true_iff, foldl_byteDifference_eq_zero_iff]
    constructor
    · rintro ⟨-, hpairs⟩
      refine List.ext_getElem hlength fun i hleft hright => ?_
      have hi : i < (left.zip right).length := by
        rw [List.length_zip]
        exact Nat.lt_min.mpr ⟨hleft, hright⟩
      have hpair := hpairs (left.zip right)[i] (List.getElem_mem hi)
      rwa [List.getElem_zip] at hpair
    · rintro rfl
      refine ⟨rfl, fun pair hpair => ?_⟩
      obtain ⟨i, hi, rfl⟩ := List.mem_iff_getElem.mp hpair
      rw [List.getElem_zip]
  · rw [if_pos hlength]
    constructor
    · rintro ⟨⟩
    · exact fun h => absurd (congrArg List.length h) hlength

abbrev LeaseId := List UInt8

structure LanLease where
  id : LeaseId
  expiresAtMs : ℕ
deriving DecidableEq, Repr

/-- At most one client holds the lease. -/
structure LanLeaseState where
  lease : Option LanLease := none
deriving DecidableEq, Repr

namespace LanLeaseState

variable (state : LanLeaseState)

def expire (nowMs : ℕ) : LanLeaseState :=
  ⟨state.lease.filter fun lease => nowMs < lease.expiresAtMs⟩

def create (nowMs : ℕ) (id : LeaseId) : LanLeaseState × Except LanAccessError LanLease :=
  let state := state.expire nowMs
  if state.lease.isSome then (state, .error .leaseBusy)
  else
    let lease : LanLease := ⟨id, saturatingAdd nowMs lanLeaseTtlMs⟩
    (⟨some lease⟩, .ok lease)

def heartbeat (nowMs : ℕ) (id : LeaseId) : LanLeaseState × Except LanAccessError LanLease :=
  let state := state.expire nowMs
  match state.lease with
  | none => (state, .error .leaseExpired)
  | some lease =>
      if ¬ constantTimeBytesEqual lease.id id then (state, .error .leaseRequired)
      else
        let lease := { lease with expiresAtMs := saturatingAdd nowMs lanLeaseTtlMs }
        (⟨some lease⟩, .ok lease)

def require (nowMs : ℕ) (id : LeaseId) : LanLeaseState × Except LanAccessError Unit :=
  let state := state.expire nowMs
  match state.lease with
  | none => (state, .error .leaseRequired)
  | some lease =>
      (state, if constantTimeBytesEqual lease.id id then .ok () else .error .leaseRequired)

/-- A release does not look at the time. -/
def release (id : LeaseId) : LanLeaseState × Except LanAccessError Unit :=
  match state.lease with
  | none => (state, .error .leaseExpired)
  | some lease =>
      if ¬ constantTimeBytesEqual lease.id id then (state, .error .leaseRequired) else ({}, .ok ())

end LanLeaseState

/-! ## Endpoints -/

inductive LanEndpoint where
  | health
  | pairing
  | pairingClaim
  | lease
  | identity
  | network
  | status
  | events
  | runtime
  | calibration
  | calibrationJob
  | thermalPlantRun
  | thermalTuning
  | heaterCurve
  | heaterCurveSave
  | thermalProfile
deriving DecidableEq, Repr

inductive EndpointPermission where
  | publicAccess
  | token
  | lease
deriving DecidableEq, Repr

def LanEndpoint.permission : LanEndpoint → EndpointPermission
  | health | pairing | pairingClaim => .publicAccess
  | identity | network | status | events => .token
  | lease | runtime | calibration | calibrationJob | thermalPlantRun | thermalTuning
  | heaterCurve | heaterCurveSave | thermalProfile => .lease

end FluxPurr.Lan
