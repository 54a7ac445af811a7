import FluxPurr.Wire.BitField

/-!
# Power delivery contracts

What a source offers (`SourceCapabilities`, read from the words of its message), what
the firmware asks for (`PdContractRequest`) and what both settle on (`Contract`).
The selectors pick a contract out of the capabilities, each by a rule of its own.

Voltages are in millivolts and currents in milliamperes, as natural numbers: no sum
or product here leaves the range of the machine words.
-/

namespace FluxPurr.Pd

open FluxPurr.Wire

abbrev fusb302bFixedMaxMv : ℕ := 20000
abbrev fusb302bPdAbsoluteMinMv : ℕ := 5000
abbrev fusb302bPdAbsoluteMaxMv : ℕ := 28000
abbrev fusb302bPpsMinMv : ℕ := 5500
abbrev fusb302bPpsMaxMv : ℕ := fusb302bPdAbsoluteMaxMv
abbrev minHeaterContractMa : ℕ := 3000
abbrev maxHeaterContractMa : ℕ := 5000
abbrev standbyPowerMw : ℕ := 5000
abbrev standbyCurrentStepMa : ℕ := 10
abbrev maxSourcePdos : ℕ := 7
abbrev pdFixedVoltageStepMv : ℕ := 50
abbrev pdFixedCurrentStepMa : ℕ := 10
abbrev pdPpsVoltageStepMv : ℕ := 100
abbrev pdPpsCurrentStepMa : ℕ := 50

/-- `value.clamp(low, high)` for `low ≤ high`; the language panics otherwise. -/
def clamp (value low high : ℕ) : ℕ := min (max value low) high

inductive ContractKind where
  | fixed
  | pps
  | none
deriving DecidableEq, Repr

structure Contract where
  kind : ContractKind
  objectPosition : ℕ
  voltageMv : ℕ
  currentMa : ℕ
deriving DecidableEq, Repr

/-- `Contract::none()`. -/
def Contract.none : Contract :=
  { kind := .none, objectPosition := 0, voltageMv := 0, currentMa := 0 }

/-! ## Capabilities -/

structure FixedPdo where
  objectPosition : ℕ
  voltageMv : ℕ
  maxMa : ℕ
deriving DecidableEq, Repr

structure PpsApdo where
  objectPosition : ℕ
  minMv : ℕ
  maxMv : ℕ
  maxMa : ℕ
deriving DecidableEq, Repr

structure PpsAdjustmentRange where
  minMv : ℕ
  maxMv : ℕ
  maxCurrentMa : ℕ
deriving DecidableEq, Repr

/-- The arrays are filled from the front, so a list is the filled part. -/
structure SourceCapabilities where
  fixed : List FixedPdo := []
  pps : List PpsApdo := []
deriving DecidableEq, Repr

namespace SourceCapabilities

variable (capabilities : SourceCapabilities)

def pushFixed (pdo : FixedPdo) : SourceCapabilities :=
  if pdo.voltageMv = 0 ∨ pdo.maxMa = 0 then capabilities
  else if capabilities.fixed.length < maxSourcePdos then
    { capabilities with fixed := capabilities.fixed ++ [pdo] }
  else capabilities

def pushPps (apdo : PpsApdo) : SourceCapabilities :=
  if apdo.minMv = 0 ∨ apdo.maxMv < apdo.minMv ∨ apdo.maxMa = 0 then capabilities
  else if capabilities.pps.length < maxSourcePdos then
    { capabilities with pps := capabilities.pps ++ [apdo] }
  else capabilities

/-- One word of the message, at the position it has there. -/
def pushPdo (raw : UInt32) (objectPosition : ℕ) : SourceCapabilities :=
  if bitField raw.toNat 30 2 = 0 then
    capabilities.pushFixed
      { objectPosition := objectPosition
        voltageMv := bitField raw.toNat 10 10 * 50
        maxMa := bitField raw.toNat 0 10 * 10 }
  else if bitField raw.toNat 30 2 = 3 ∧ bitField raw.toNat 28 2 = 0 then
    capabilities.pushPps
      { objectPosition := objectPosition
        minMv := bitField raw.toNat 8 8 * 100
        maxMv := bitField raw.toNat 17 8 * 100
        maxMa := bitField raw.toNat 0 7 * 50 }
  else capabilities

def fromPdos (pdos : List UInt32) : SourceCapabilities :=
  (pdos.take maxSourcePdos).zipIdx.foldl
    (fun capabilities entry => capabilities.pushPdo entry.1 (entry.2 + 1)) {}

end SourceCapabilities

/-! ## Requests -/

inductive PdContractRequestMode where
  | fixed
  | pps
deriving DecidableEq, Repr

structure PdContractRequest where
  mode : PdContractRequestMode
  voltageMv : ℕ
  operatingCurrentMa : ℕ
  calibration : Bool
  ppsRange : Option PpsAdjustmentRange
deriving DecidableEq, Repr

inductive PdContractRequestError where
  | zeroVoltage
  | zeroCurrent
  | fixedVoltageNotAligned
  | fixedCurrentNotAligned
  | fixedVoltageOutOfRange
  | fixedCurrentOutOfRange
  | ppsVoltageNotAligned
  | ppsCurrentNotAligned
  | ppsVoltageOutOfRange
  | ppsCurrentOutOfRange
deriving DecidableEq, Repr

namespace PdContractRequest

def fixed (voltageMv operatingCurrentMa : ℕ) : Except PdContractRequestError PdContractRequest :=
  if voltageMv = 0 then .error .zeroVoltage
  else if operatingCurrentMa = 0 then .error .zeroCurrent
  else if ¬ (fusb302bPdAbsoluteMinMv ≤ voltageMv ∧ voltageMv ≤ fusb302bFixedMaxMv) then
    .error .fixedVoltageOutOfRange
  else if ¬ (minHeaterContractMa ≤ operatingCurrentMa ∧
      operatingCurrentMa ≤ maxHeaterContractMa) then
    .error .fixedCurrentOutOfRange
  else if voltageMv % pdFixedVoltageStepMv ≠ 0 then .error .fixedVoltageNotAligned
  else if operatingCurrentMa % pdFixedCurrentStepMa ≠ 0 then .error .fixedCurrentNotAligned
  else .ok ⟨.fixed, voltageMv, operatingCurrentMa, false, none⟩

def ppsWithMinimum (voltageMv operatingCurrentMa minimumMa : ℕ) :
    Except PdContractRequestError PdContractRequest :=
  if voltageMv = 0 then .error .zeroVoltage
  else if operatingCurrentMa = 0 then .error .zeroCurrent
  else if ¬ (fusb302bPpsMinMv ≤ voltageMv ∧ voltageMv ≤ fusb302bPdAbsoluteMaxMv) then
    .error .ppsVoltageOutOfRange
  else if ¬ (minimumMa ≤ operatingCurrentMa ∧ operatingCurrentMa ≤ maxHeaterContractMa) then
    .error .ppsCurrentOutOfRange
  else if voltageMv % pdPpsVoltageStepMv ≠ 0 then .error .ppsVoltageNotAligned
  else if operatingCurrentMa % pdPpsCurrentStepMa ≠ 0 then .error .ppsCurrentNotAligned
  else .ok ⟨.pps, voltageMv, operatingCurrentMa, minimumMa = 1000, none⟩

variable (voltageMv operatingCurrentMa : ℕ)

def pps : Except PdContractRequestError PdContractRequest :=
  ppsWithMinimum voltageMv operatingCurrentMa minHeaterContractMa

def automaticPps : Except PdContractRequestError PdContractRequest :=
  (ppsWithMinimum voltageMv operatingCurrentMa 1000).map fun request =>
    { request with calibration := false }

def calibrationPps : Except PdContractRequestError PdContractRequest :=
  if 21000 < voltageMv ∨ 3000 < operatingCurrentMa then .error .ppsCurrentOutOfRange
  else ppsWithMinimum voltageMv operatingCurrentMa 1000

variable (request : PdContractRequest)

/-- A request within a pinned range stays inside it. -/
def respectsRange (range : PpsAdjustmentRange) : Bool :=
  request.mode = .pps ∧ range.minMv ≤ request.voltageMv ∧ request.voltageMv ≤ range.maxMv ∧
    request.operatingCurrentMa ≤ range.maxCurrentMa

/-- The constructor the request must have come from. -/
def reconstruct : Except PdContractRequestError PdContractRequest :=
  match request.mode with
  | .fixed => fixed request.voltageMv request.operatingCurrentMa
  | .pps =>
      if request.calibration then calibrationPps request.voltageMv request.operatingCurrentMa
      else if request.operatingCurrentMa < minHeaterContractMa then
        automaticPps request.voltageMv request.operatingCurrentMa
      else pps request.voltageMv request.operatingCurrentMa

def isWellFormed : Bool := request.ppsRange.all request.respectsRange && request.reconstruct.isOk

end PdContractRequest

/-! ## Selectors -/

/-- The smallest 10 mA aligned current that provides the standby budget. -/
def standbyCurrentForVoltage (voltageMv : ℕ) : ℕ :=
  if voltageMv = 0 then maxHeaterContractMa
  else
    let requiredMa := (standbyPowerMw * 1000 + voltageMv - 1) / voltageMv
    let aligned :=
      (requiredMa + standbyCurrentStepMa - 1) / standbyCurrentStepMa * standbyCurrentStepMa
    if maxHeaterContractMa < aligned then maxHeaterContractMa else aligned

/-- A loop that keeps the candidate that is better than the one kept before. -/
def selectBest {α : Type*} (better : α → α → Bool) (candidates : List α) : Option α :=
  candidates.foldl
    (fun best candidate =>
      match best with
      | none => some candidate
      | some current => if better candidate current then some candidate else some current)
    none

def ppsCandidateIsBetter (candidate : PpsApdo) (candidateMa : ℕ) (current : PpsApdo)
    (currentMa : ℕ) : Bool :=
  if candidateMa ≠ currentMa then currentMa < candidateMa
  else if candidate.maxMv ≠ current.maxMv then current.maxMv < candidate.maxMv
  else candidate.minMv < current.minMv

namespace SourceCapabilities

variable (capabilities : SourceCapabilities)

/-- Only an exact match: no clamping, rounding or substitution. -/
def selectExactContract (request : PdContractRequest) : Option Contract :=
  if ¬ request.isWellFormed then none
  else
    match request.mode with
    | .fixed =>
        (capabilities.fixed.find? fun pdo =>
          pdo.voltageMv = request.voltageMv ∧ request.operatingCurrentMa ≤ pdo.maxMa).map
          fun pdo => ⟨.fixed, pdo.objectPosition, pdo.voltageMv, request.operatingCurrentMa⟩
    | .pps =>
        (capabilities.pps.find? fun apdo =>
          (request.ppsRange.all fun range =>
            range.minMv = apdo.minMv ∧ range.maxMv = apdo.maxMv ∧ range.maxCurrentMa = apdo.maxMa) ∧
            apdo.minMv ≤ request.voltageMv ∧ request.voltageMv ≤ apdo.maxMv ∧
            request.operatingCurrentMa ≤ apdo.maxMa).map
          fun apdo => ⟨.pps, apdo.objectPosition, request.voltageMv, request.operatingCurrentMa⟩

/-- The fixed part of `select_fusb302b_contract`. -/
def selectFixedFallback (requestedMv requestedMa : ℕ) : Option Contract :=
  selectBest
    (fun candidate current =>
      decide (current.voltageMv < candidate.voltageMv) ||
        decide (candidate.voltageMv = current.voltageMv) &&
          decide (current.currentMa < candidate.currentMa))
    ((capabilities.fixed.filter fun pdo =>
        ¬ (pdo.voltageMv < fusb302bPdAbsoluteMinMv ∨ fusb302bFixedMaxMv < pdo.voltageMv ∨
          requestedMv < pdo.voltageMv ∨ pdo.maxMa < minHeaterContractMa)).map fun pdo =>
      ⟨.fixed, pdo.objectPosition, pdo.voltageMv,
        min (min pdo.maxMa requestedMa) maxHeaterContractMa⟩)

/-- A PPS APDO that covers the voltage, or else a fixed PDO that does not exceed it. -/
def selectFusb302bContract (requestedMv preferredMa : ℕ) : Option Contract :=
  let requestedMv :=
    max (clamp requestedMv fusb302bPdAbsoluteMinMv fusb302bPdAbsoluteMaxMv) fusb302bPpsMinMv
  let requestedMa := clamp preferredMa minHeaterContractMa maxHeaterContractMa
  let bestPps := selectBest
    (fun candidate current =>
      ppsCandidateIsBetter candidate.1 candidate.2.currentMa current.1 current.2.currentMa)
    ((capabilities.pps.filter fun apdo =>
        ¬ (apdo.maxMa < minHeaterContractMa ∨ requestedMv < apdo.minMv ∨
          apdo.maxMv < requestedMv)).map fun apdo =>
      (apdo, (⟨.pps, apdo.objectPosition, requestedMv,
        min (min apdo.maxMa requestedMa) maxHeaterContractMa⟩ : Contract)))
  (bestPps.map Prod.snd).or (capabilities.selectFixedFallback requestedMv requestedMa)

/-- The fixed PDO of exactly this voltage with the most current, the first of equal
ones. -/
def selectFusb302bFixedContract (requestedMv preferredMa : ℕ) : Option Contract :=
  if ¬ (fusb302bPdAbsoluteMinMv ≤ requestedMv ∧ requestedMv ≤ fusb302bFixedMaxMv) then none
  else
    let requestedMa := clamp preferredMa minHeaterContractMa maxHeaterContractMa
    -- the key is the current and then the reversed position; of equal keys the last one stays
    selectBest
      (fun candidate current =>
        decide (current.currentMa < candidate.currentMa) ||
          decide (current.currentMa = candidate.currentMa) &&
            decide (candidate.objectPosition ≤ current.objectPosition))
      ((capabilities.fixed.filter fun pdo =>
          pdo.voltageMv = requestedMv ∧ minHeaterContractMa ≤ pdo.maxMa).map fun pdo =>
        ⟨.fixed, pdo.objectPosition, pdo.voltageMv,
          min (min pdo.maxMa requestedMa) maxHeaterContractMa⟩)

/-- The lowest adequate fixed PDO, the first of equal ones. -/
def selectFusb302bStandbyContract (requestedMv : ℕ) : Option Contract :=
  let requestedMv := clamp requestedMv fusb302bPdAbsoluteMinMv fusb302bFixedMaxMv
  selectBest
    (fun candidate current =>
      decide (candidate.voltageMv < current.voltageMv) ||
        decide (candidate.voltageMv = current.voltageMv) &&
          decide (candidate.currentMa < current.currentMa))
    ((capabilities.fixed.filter fun pdo =>
        requestedMv ≤ pdo.voltageMv ∧ pdo.voltageMv ≤ fusb302bFixedMaxMv ∧
          standbyCurrentForVoltage pdo.voltageMv ≤ pdo.maxMa).map fun pdo =>
      ⟨.fixed, pdo.objectPosition, pdo.voltageMv, standbyCurrentForVoltage pdo.voltageMv⟩)

/-- The APDO an active PPS contract is on. -/
def activeApdo (active : Contract) : Option PpsApdo :=
  capabilities.pps.find? fun apdo =>
    apdo.objectPosition = active.objectPosition ∧ apdo.minMv ≤ active.voltageMv ∧
      active.voltageMv ≤ apdo.maxMv

/-- The bounds between which a standby step is clamped. -/
def standbyStepMinMv (apdo : PpsApdo) : ℕ := max apdo.minMv fusb302bPpsMinMv

def standbyStepMaxMv (apdo : PpsApdo) : ℕ := min apdo.maxMv fusb302bPpsMaxMv

/-- A lower voltage on the APDO of the active contract, at its current. -/
def selectFusb302bStandbyPpsStep (active : Contract) (requestedMv : ℕ) : Option Contract :=
  if active.kind ≠ .pps then none
  else
    (capabilities.activeApdo active).bind fun apdo =>
      let voltageMv := clamp requestedMv (standbyStepMinMv apdo) (standbyStepMaxMv apdo)
      let currentMa := min apdo.maxMa active.currentMa / pdPpsCurrentStepMa * pdPpsCurrentStepMa
      if active.voltageMv ≤ voltageMv then none
      else if 0 < currentMa then some ⟨.pps, apdo.objectPosition, voltageMv, currentMa⟩
      else none

/-- The contract is still offered at its position. -/
def supportsContract (contract : Contract) : Bool :=
  match contract.kind with
  | .fixed => capabilities.fixed.any fun pdo =>
      pdo.objectPosition = contract.objectPosition ∧ pdo.voltageMv = contract.voltageMv ∧
        contract.currentMa ≤ pdo.maxMa
  | .pps => capabilities.pps.any fun apdo =>
      apdo.objectPosition = contract.objectPosition ∧ apdo.minMv ≤ contract.voltageMv ∧
        contract.voltageMv ≤ apdo.maxMv ∧ contract.currentMa ≤ apdo.maxMa
  | .none => false

end SourceCapabilities

end FluxPurr.Pd
