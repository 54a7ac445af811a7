import Mathlib.Algebra.BigOperators.Intervals
import FluxPurr.Thermal.Controller

/-!
# The applied-heat history

The heater output is held from one observation to the next.  An `AppliedHeatHistory` keeps the
mean of the held power over each of the newest 64 buckets, in a ring, and the energy and the
span of the bucket that is still open.  A pause longer than the ring is not walked through.

The history answers with the mean of the held power over the observed part of a bucket
(`powerAt_observeAll`).  An observation that repeats the power of the one before it thus changes
no answer (`exactPowerAt_of_repeats`), unless it is the last.

Powers are rationals, and times are milliseconds.  The held power changes at whole
milliseconds only, so that its integral is a sum over them.
-/

namespace FluxPurr.Thermal

/-! ## The history -/

/-- The observation of the plate, `transfer`, is left out: no function here reads it. -/
structure AppliedHeatHistory where
  powersMw : Fin 64 → ℚ
  widthMs : ℕ
  width_pos : 0 < widthMs
  firstBucket : ℕ
  lastAtMs : Option ℕ
  currentPowerMw : ℚ
  currentEnergyMj : ℚ
  currentSpanMs : ℕ
  response : Option HeatResponse
  receivedMw : ℚ

namespace AppliedHeatHistory

def ofWidth (widthMs : ℕ) (width_pos : 0 < widthMs) : AppliedHeatHistory where
  powersMw := fun _ => 0
  widthMs := widthMs
  width_pos := width_pos
  firstBucket := 0
  lastAtMs := none
  currentPowerMw := 0
  currentEnergyMj := 0
  currentSpanMs := 0
  response := none
  receivedMw := 0

def new : AppliedHeatHistory := ofWidth 50 (by decide)

def configuredWidthMs (delayMs : UInt32) : ℕ := max ((delayMs.toNat * 2 + 1000 + 61) / 62) 50

def configure (history : AppliedHeatHistory) (delayMs : UInt32) : AppliedHeatHistory :=
  if history.widthMs ≠ configuredWidthMs delayMs then
    ofWidth (configuredWidthMs delayMs) (lt_max_of_lt_right (by decide))
  else history

variable (step : HeatResponse → ℚ → ℚ → ℚ → ℚ) (history : AppliedHeatHistory)

def powerAt (atMs : ℕ) : Option ℚ :=
  history.lastAtMs.bind fun lastAtMs =>
    let bucket := atMs / history.widthMs
    let lastBucket := lastAtMs / history.widthMs
    if bucket < max history.firstBucket (lastBucket - 63) then none
    else if lastBucket ≤ bucket then
      some (if 0 < history.currentSpanMs ∧ atMs < lastAtMs then
        history.currentEnergyMj * 1000 / history.currentSpanMs
      else history.currentPowerMw)
    else some (history.powersMw (Fin.ofNat 64 bucket))

/-- The heat that arrives, by steps of at most 50 ms.  `step` is `HeatResponse::step`, whose
decay is an exponential. -/
def deliver (response : HeatResponse) (deliveredAtMs nowMs : ℕ) (receivedMw : ℚ) : ℚ :=
  if deliveredAtMs < nowMs then
    let endMs := min (deliveredAtMs + 50) nowMs
    let inputMw :=
      if response.delayMs ≤ deliveredAtMs then
        (history.powerAt (deliveredAtMs - response.delayMs)).getD 0
      else 0
    deliver response endMs nowMs
      (step response receivedMw inputMw ((endMs - deliveredAtMs : ℕ) / 1000))
  else receivedMw
termination_by nowMs - deliveredAtMs

/-- The output was held over a span within a bucket, which may close it. -/
def addSpan (atMs endMs : ℕ) : AppliedHeatHistory :=
  let energyMj :=
    history.currentEnergyMj + history.currentPowerMw * (endMs - atMs : ℕ) / 1000
  let spanMs := history.currentSpanMs + (endMs - atMs)
  if endMs % history.widthMs = 0 then
    { history with
      powersMw := Function.update history.powersMw (Fin.ofNat 64 (atMs / history.widthMs))
        (energyMj * 1000 / spanMs)
      currentEnergyMj := 0
      currentSpanMs := 0 }
  else { history with currentEnergyMj := energyMj, currentSpanMs := spanMs }

def bucketEnd (atMs : ℕ) : ℕ := (atMs / history.widthMs + 1) * history.widthMs

theorem lt_bucketEnd (atMs : ℕ) : atMs < history.bucketEnd atMs :=
  Nat.lt_mul_of_div_lt (Nat.lt_succ_self _) history.width_pos

def fill (history : AppliedHeatHistory) (atMs nowMs : ℕ) : AppliedHeatHistory :=
  if atMs < nowMs then
    let endMs := min (history.bucketEnd atMs) nowMs
    (history.addSpan atMs endMs).fill endMs nowMs
  else history
termination_by nowMs - atMs
decreasing_by
  have := history.lt_bucketEnd atMs
  omega

/-- The first observation. -/
def start (nowMs : ℕ) (powerMw : ℚ) : AppliedHeatHistory :=
  { history with
    firstBucket := nowMs / history.widthMs
    lastAtMs := some nowMs
    currentPowerMw := powerMw }

/-- A pause beyond the ring leaves the output that was held over all of it. -/
def hold (atMs nowMs : ℕ) : AppliedHeatHistory :=
  if history.widthMs * 64 < nowMs - atMs then
    let resumedMs := nowMs - history.widthMs * 63
    { history with
      firstBucket := resumedMs / history.widthMs
      currentEnergyMj := 0
      currentSpanMs := 0 }.fill resumedMs nowMs
  else history.fill atMs nowMs

def advance (atMs nowMs : ℕ) (powerMw : ℚ) : AppliedHeatHistory :=
  let receivedMw :=
    history.response.elim history.receivedMw fun response =>
      history.deliver step response atMs nowMs history.receivedMw
  { { history with receivedMw := receivedMw }.hold atMs nowMs with
    lastAtMs := some nowMs
    currentPowerMw := powerMw }

def observe (nowMs : ℕ) (powerMw : ℚ) : AppliedHeatHistory :=
  if powerMw < 0 then history
  else
    match history.lastAtMs with
    | none => history.start nowMs powerMw
    | some atMs =>
        if nowMs < atMs then (ofWidth history.widthMs history.width_pos).start nowMs powerMw
        else history.advance step atMs nowMs powerMw

variable {step history} {firstAtMs laterMs atMs endMs nowMs : ℕ} {powerMw : ℚ}
  {held : ℕ → ℚ}

/-! ## What a bucket holds -/

/-- The mean power over the milliseconds from `fromMs` on and before `toMs`. -/
def meanMw (held : ℕ → ℚ) (fromMs toMs : ℕ) : ℚ :=
  (∑ ms ∈ Finset.Ico fromMs toMs, held ms) / (toMs - fromMs : ℕ)

theorem sum_held (hheld : ∀ ms, atMs ≤ ms → ms < endMs → held ms = powerMw) :
    ∑ ms ∈ Finset.Ico atMs endMs, held ms = powerMw * (endMs - atMs : ℕ) := by
  rw [Finset.sum_eq_card_nsmul fun ms hms =>
    hheld ms (Finset.mem_Ico.mp hms).1 (Finset.mem_Ico.mp hms).2, Nat.card_Ico, nsmul_eq_mul,
    mul_comm]

theorem meanMw_const (hlt : atMs < endMs)
    (hheld : ∀ ms, atMs ≤ ms → ms < endMs → held ms = powerMw) :
    meanMw held atMs endMs = powerMw := by
  have hspan : ((endMs - atMs : ℕ) : ℚ) ≠ 0 := Nat.cast_ne_zero.mpr (by omega)
  rw [meanMw, sum_held hheld, mul_div_cancel_right₀ _ hspan]

/-- The observed part of a bucket begins with the bucket, or with the first observation. -/
def observedFrom (history : AppliedHeatHistory) (firstAtMs bucket : ℕ) : ℕ :=
  max firstAtMs (bucket * history.widthMs)

/-- The buckets record the power that was held from the first observation on, up to a time. -/
structure Records (history : AppliedHeatHistory) (firstAtMs atMs : ℕ) (held : ℕ → ℚ) : Prop where
  span : history.currentSpanMs = atMs - history.observedFrom firstAtMs (atMs / history.widthMs)
  energy : history.currentEnergyMj * 1000 =
    ∑ ms ∈ Finset.Ico (history.observedFrom firstAtMs (atMs / history.widthMs)) atMs, held ms
  slots : ∀ bucket, firstAtMs / history.widthMs ≤ bucket → atMs / history.widthMs - 63 ≤ bucket →
    bucket < atMs / history.widthMs →
      history.powersMw (Fin.ofNat 64 bucket) =
        meanMw held (history.observedFrom firstAtMs bucket) ((bucket + 1) * history.widthMs)

theorem Records.congr {held' : ℕ → ℚ} (h : history.Records firstAtMs atMs held)
    (heq : ∀ ms < atMs, held' ms = held ms) : history.Records firstAtMs atMs held' where
  span := h.span
  energy := by
    rw [h.energy]
    refine Finset.sum_congr rfl fun ms hms => (heq ms (Finset.mem_Ico.mp hms).2).symm
  slots := by
    intro bucket hfirst hwindow hlast
    have hend : (bucket + 1) * history.widthMs ≤ atMs :=
      (Nat.mul_le_mul_right _ hlast).trans (Nat.div_mul_le_self _ _)
    rw [h.slots bucket hfirst hwindow hlast, meanMw, meanMw]
    congr 1
    refine Finset.sum_congr rfl fun ms hms => (heq ms ?_).symm
    exact (Finset.mem_Ico.mp hms).2.trans_le hend

/-- The two buckets are closed one ring apart, or are one. -/
theorem ofNat_ne_ofNat {bucket other : ℕ} (hlt : bucket < other) (hring : other - 63 ≤ bucket) :
    Fin.ofNat 64 bucket ≠ Fin.ofNat 64 other := by
  intro heq
  have hmod : bucket % 64 = other % 64 := congrArg Fin.val heq
  omega

theorem Records.addSpan (h : history.Records firstAtMs atMs held) (hfirst : firstAtMs ≤ atMs)
    (hlt : atMs < endMs) (hle : endMs ≤ history.bucketEnd atMs)
    (hheld : ∀ ms, atMs ≤ ms → ms < endMs → held ms = history.currentPowerMw) :
    (history.addSpan atMs endMs).Records firstAtMs endMs held := by
  have hpos := history.width_pos
  have hbegin : atMs / history.widthMs * history.widthMs ≤ atMs := Nat.div_mul_le_self _ _
  have hfrom : history.observedFrom firstAtMs (atMs / history.widthMs) ≤ atMs :=
    max_le hfirst hbegin
  have hspan : history.currentSpanMs + (endMs - atMs) =
      endMs - history.observedFrom firstAtMs (atMs / history.widthMs) := by
    rw [h.span]
    omega
  have henergy : (history.currentEnergyMj +
      history.currentPowerMw * (endMs - atMs : ℕ) / 1000) * 1000 =
      ∑ ms ∈ Finset.Ico (history.observedFrom firstAtMs (atMs / history.widthMs)) endMs,
        held ms := by
    rw [← Finset.sum_Ico_consecutive _ hfrom hlt.le, sum_held hheld, ← h.energy]
    ring
  unfold AppliedHeatHistory.addSpan
  by_cases hedge : endMs % history.widthMs = 0
  · -- the span reaches the edge, and the bucket is closed
    have hend : endMs = (atMs / history.widthMs + 1) * history.widthMs := by
      refine hle.antisymm ?_
      have hnext : atMs / history.widthMs < endMs / history.widthMs := by
        rw [Nat.div_lt_iff_lt_mul hpos, Nat.div_mul_cancel (Nat.dvd_of_mod_eq_zero hedge)]
        exact hlt
      calc (atMs / history.widthMs + 1) * history.widthMs
          ≤ endMs / history.widthMs * history.widthMs := Nat.mul_le_mul_right _ hnext
        _ ≤ endMs := Nat.div_mul_le_self _ _
    have hbucket : endMs / history.widthMs = atMs / history.widthMs + 1 := by
      rw [hend, Nat.mul_div_cancel _ hpos]
    have hempty : history.observedFrom firstAtMs (endMs / history.widthMs) = endMs := by
      rw [hbucket, observedFrom, ← hend]
      omega
    rw [if_pos hedge]
    refine ⟨?_, ?_, ?_⟩
    · change 0 = endMs - history.observedFrom firstAtMs (endMs / history.widthMs)
      omega
    · change (0 : ℚ) * 1000 = ∑ ms ∈ Finset.Ico
        (history.observedFrom firstAtMs (endMs / history.widthMs)) endMs, held ms
      rw [hempty, Finset.Ico_self, Finset.sum_empty, zero_mul]
    · intro bucket hbucketFirst hwindow hlast
      change Function.update history.powersMw (Fin.ofNat 64 (atMs / history.widthMs)) _ _ =
        meanMw held (history.observedFrom firstAtMs bucket) ((bucket + 1) * history.widthMs)
      change endMs / history.widthMs - 63 ≤ bucket at hwindow
      change bucket < endMs / history.widthMs at hlast
      rw [hbucket] at hwindow hlast
      rcases Nat.lt_succ_iff_lt_or_eq.mp hlast with holder | rfl
      · rw [Function.update_of_ne (ofNat_ne_ofNat holder (by omega))]
        exact h.slots bucket hbucketFirst (by omega) holder
      · rw [Function.update_self, henergy, hspan, ← hend]
        rfl
  · have hbucket : endMs / history.widthMs = atMs / history.widthMs := by
      refine Nat.div_eq_of_lt_le (hbegin.trans hlt.le) (lt_of_le_of_ne hle fun heq => hedge ?_)
      rw [heq]
      exact Nat.mul_mod_left _ _
    rw [if_neg hedge]
    refine ⟨?_, ?_, ?_⟩
    · change history.currentSpanMs + (endMs - atMs) =
        endMs - history.observedFrom firstAtMs (endMs / history.widthMs)
      rw [hbucket, hspan]
    · change _ = ∑ ms ∈ Finset.Ico
        (history.observedFrom firstAtMs (endMs / history.widthMs)) endMs, held ms
      rw [hbucket, ← henergy]
    · intro bucket hbucketFirst hwindow hlast
      change endMs / history.widthMs - 63 ≤ bucket at hwindow
      change bucket < endMs / history.widthMs at hlast
      rw [hbucket] at hwindow hlast
      exact h.slots bucket hbucketFirst hwindow hlast

@[simp] theorem addSpan_widthMs : (history.addSpan atMs endMs).widthMs = history.widthMs := by
  unfold addSpan
  dsimp only
  split <;> rfl

@[simp] theorem addSpan_currentPowerMw :
    (history.addSpan atMs endMs).currentPowerMw = history.currentPowerMw := by
  unfold addSpan
  dsimp only
  split <;> rfl

@[simp] theorem addSpan_firstBucket :
    (history.addSpan atMs endMs).firstBucket = history.firstBucket := by
  unfold addSpan
  dsimp only
  split <;> rfl

/-- The loop keeps the record, while the present power is held. -/
theorem Records.fill (h : history.Records firstAtMs atMs held) (hfirst : firstAtMs ≤ atMs)
    (hle : atMs ≤ nowMs)
    (hheld : ∀ ms, atMs ≤ ms → ms < nowMs → held ms = history.currentPowerMw) :
    (history.fill atMs nowMs).Records firstAtMs nowMs held ∧
      (history.fill atMs nowMs).widthMs = history.widthMs ∧
      (history.fill atMs nowMs).firstBucket = history.firstBucket := by
  induction history, atMs using AppliedHeatHistory.fill.induct nowMs with
  | case1 history atMs hlt endMs ih =>
    have hnext : atMs < endMs := lt_min (history.lt_bucketEnd atMs) hlt
    have hend : endMs ≤ nowMs := min_le_right _ _
    have hstep : (history.addSpan atMs endMs).Records firstAtMs endMs held :=
      h.addSpan hfirst hnext (min_le_left _ _) fun ms hfrom hto => hheld ms hfrom (by omega)
    obtain ⟨hrecords, hwidth, hbucket⟩ := ih hstep (by omega) hend fun ms hfrom hto => by
      rw [addSpan_currentPowerMw]
      exact hheld ms (by omega) hto
    rw [AppliedHeatHistory.fill, if_pos hlt]
    exact ⟨hrecords, hwidth.trans addSpan_widthMs, hbucket.trans addSpan_firstBucket⟩
  | case2 history atMs hge =>
    obtain rfl : atMs = nowMs := by omega
    rw [AppliedHeatHistory.fill, if_neg hge]
    exact ⟨h, rfl, rfl⟩

/-! ## A pause -/

/-- A history that begins late records the same, if one power was held since before its first
bucket, and that bucket is the oldest of the ring. -/
theorem Records.of_later (h : history.Records laterMs atMs held)
    (hring : laterMs / history.widthMs = atMs / history.widthMs - 63)
    (hlong : laterMs / history.widthMs < atMs / history.widthMs) {sinceMs : ℕ}
    (hfirst : firstAtMs ≤ sinceMs) (hsince : sinceMs ≤ laterMs / history.widthMs * history.widthMs)
    (hheld : ∀ ms, sinceMs ≤ ms → ms < atMs → held ms = powerMw) :
    history.Records firstAtMs atMs held := by
  have hbegin : laterMs / history.widthMs * history.widthMs ≤ laterMs := Nat.div_mul_le_self _ _
  have hend : laterMs < history.bucketEnd laterMs := history.lt_bucketEnd laterMs
  -- past the bucket of the late beginning both observe all of a bucket
  have hsame : ∀ bucket, laterMs / history.widthMs < bucket →
      history.observedFrom laterMs bucket = history.observedFrom firstAtMs bucket := by
    intro bucket hlt
    have hle : history.bucketEnd laterMs ≤ bucket * history.widthMs := Nat.mul_le_mul_right _ hlt
    unfold observedFrom
    omega
  refine ⟨by rw [← hsame _ hlong]; exact h.span, by rw [← hsame _ hlong]; exact h.energy, ?_⟩
  intro bucket _ hwindow hlast
  rw [h.slots bucket (hring ▸ hwindow) hwindow hlast]
  have hwithin : (bucket + 1) * history.widthMs ≤ atMs :=
    (Nat.mul_le_mul_right _ hlast).trans (Nat.div_mul_le_self _ _)
  rcases (hring ▸ hwindow : laterMs / history.widthMs ≤ bucket).eq_or_lt with rfl | hlt
  · change history.bucketEnd laterMs ≤ atMs at hwithin
    change meanMw held _ (history.bucketEnd laterMs) = meanMw held _ (history.bucketEnd laterMs)
    have hlow : history.observedFrom firstAtMs (laterMs / history.widthMs) ≤ laterMs :=
      max_le (by omega) hbegin
    have hsinceLow :
        sinceMs ≤ history.observedFrom firstAtMs (laterMs / history.widthMs) :=
      hsince.trans (le_max_right _ _)
    have hlater : history.observedFrom laterMs (laterMs / history.widthMs) = laterMs :=
      max_eq_left hbegin
    rw [hlater, meanMw_const hend fun ms hfrom hto => hheld ms (by omega) (by omega),
      meanMw_const (by omega) fun ms hfrom hto => hheld ms (by omega) (by omega)]
  · rw [hsame bucket hlt]

theorem Records.hold (h : history.Records firstAtMs atMs held) (hfirst : firstAtMs ≤ atMs)
    (hle : atMs ≤ nowMs)
    (hheld : ∀ ms, atMs ≤ ms → ms < nowMs → held ms = history.currentPowerMw)
    (hwindow : max history.firstBucket (atMs / history.widthMs - 63) =
      max (firstAtMs / history.widthMs) (atMs / history.widthMs - 63)) :
    (history.hold atMs nowMs).Records firstAtMs nowMs held ∧
      (history.hold atMs nowMs).widthMs = history.widthMs ∧
      max (history.hold atMs nowMs).firstBucket (nowMs / history.widthMs - 63) =
        max (firstAtMs / history.widthMs) (nowMs / history.widthMs - 63) := by
  have hlater : atMs / history.widthMs ≤ nowMs / history.widthMs := Nat.div_le_div_right hle
  unfold AppliedHeatHistory.hold
  by_cases hlong : history.widthMs * 64 < nowMs - atMs
  · rw [if_pos hlong]
    dsimp only
    set resumedMs := nowMs - history.widthMs * 63 with hresumed
    have hbucket : resumedMs / history.widthMs = nowMs / history.widthMs - 63 :=
      Nat.sub_mul_div _ _ _
    have hbegin : resumedMs / history.widthMs * history.widthMs ≤ resumedMs :=
      Nat.div_mul_le_self _ _
    have hend : nowMs < history.bucketEnd nowMs := history.lt_bucketEnd nowMs
    have hmany : 64 ≤ nowMs / history.widthMs := by
      rw [Nat.le_div_iff_mul_le history.width_pos]
      omega
    have hsince : atMs ≤ resumedMs / history.widthMs * history.widthMs := by
      have hsplit : (resumedMs / history.widthMs + 64) * history.widthMs =
          history.bucketEnd nowMs := by
        rw [hbucket, bucketEnd]
        congr 1
        omega
      rw [add_mul] at hsplit
      omega
    set resumed : AppliedHeatHistory := { history with
      firstBucket := resumedMs / history.widthMs
      currentEnergyMj := 0
      currentSpanMs := 0 } with hdef
    have hempty : resumed.Records resumedMs resumedMs held := by
      have hfrom : resumed.observedFrom resumedMs (resumedMs / resumed.widthMs) = resumedMs :=
        max_eq_left hbegin
      refine ⟨?_, ?_, ?_⟩
      · rw [hfrom, Nat.sub_self]
      · rw [hfrom, Finset.Ico_self, Finset.sum_empty]
        exact zero_mul _
      · intro bucket hle _ hlt
        exact absurd hlt hle.not_gt
    have hresumedLe : resumedMs ≤ nowMs := Nat.sub_le _ _
    obtain ⟨hrecords, hwidth, hfirstBucket⟩ := hempty.fill le_rfl hresumedLe
      fun ms hfrom hto => hheld ms (by omega) hto
    have hsame : (resumed.fill resumedMs nowMs).widthMs = history.widthMs := hwidth
    refine ⟨hrecords.of_later ?_ ?_ hfirst ?_ hheld, hsame, ?_⟩
    · rw [hsame]
      exact hbucket
    · rw [hsame]
      omega
    · rw [hsame]
      exact hsince
    · rw [hfirstBucket]
      change max (resumedMs / history.widthMs) _ = _
      have hold : firstAtMs / history.widthMs ≤ resumedMs / history.widthMs :=
        Nat.div_le_div_right (by omega)
      omega
  · rw [if_neg hlong]
    obtain ⟨hrecords, hwidth, hfirstBucket⟩ := h.fill hfirst hle hheld
    refine ⟨hrecords, hwidth, ?_⟩
    rw [hfirstBucket]
    omega

/-! ## Runs -/

structure HeatCall where
  atMs : ℕ
  powerMw : ℚ

/-- The power of the last call up to a time. -/
def heldMw (calls : List HeatCall) (ms : ℕ) : ℚ :=
  calls.foldl (fun power call => if call.atMs ≤ ms then call.powerMw else power) 0

variable {first last call : HeatCall}
  {calls more : List HeatCall}

def observeAll (step : HeatResponse → ℚ → ℚ → ℚ → ℚ) (history : AppliedHeatHistory)
    (calls : List HeatCall) : AppliedHeatHistory :=
  calls.foldl (fun history call => history.observe step call.atMs call.powerMw) history

/-- The calls come at nondecreasing times, with powers that are not negative. -/
structure Ordered (calls : List HeatCall) : Prop where
  times : calls.Pairwise fun earlier later => earlier.atMs ≤ later.atMs
  powers : ∀ call ∈ calls, 0 ≤ call.powerMw

/-- What a history of the calls from the first to the last one should answer. -/
def exactPowerAt (widthMs : ℕ) (first last : HeatCall) (held : ℕ → ℚ) (atMs : ℕ) : Option ℚ :=
  let bucket := atMs / widthMs
  if bucket < max (first.atMs / widthMs) (last.atMs / widthMs - 63) then none
  else if last.atMs ≤ atMs ∨ last.atMs = first.atMs then some last.powerMw
  else
    some (meanMw held (max first.atMs (bucket * widthMs)) (min last.atMs ((bucket + 1) * widthMs)))

/-- The history is that of calls from the first to the last one. -/
structure Follows (history : AppliedHeatHistory) (first last : HeatCall) (held : ℕ → ℚ) :
    Prop where
  records : history.Records first.atMs last.atMs held
  window : max history.firstBucket (last.atMs / history.widthMs - 63) =
    max (first.atMs / history.widthMs) (last.atMs / history.widthMs - 63)
  lastAt : history.lastAtMs = some last.atMs
  power : history.currentPowerMw = last.powerMw
  ordered : first.atMs ≤ last.atMs

theorem Follows.powerAt (h : history.Follows first last held) (atMs : ℕ) :
    history.powerAt atMs = exactPowerAt history.widthMs first last held atMs := by
  have hbegin : last.atMs / history.widthMs * history.widthMs ≤ last.atMs := Nat.div_mul_le_self _ _
  have hend : last.atMs < history.bucketEnd last.atMs := history.lt_bucketEnd _
  have hfirst : first.atMs / history.widthMs ≤ last.atMs / history.widthMs :=
    Nat.div_le_div_right h.ordered
  have hspan := h.records.span
  have hat : atMs / history.widthMs * history.widthMs ≤ atMs := Nat.div_mul_le_self _ _
  unfold AppliedHeatHistory.powerAt exactPowerAt
  simp only [h.lastAt, Option.bind_some, h.window, h.power]
  refine ite_congr rfl (fun _ => rfl) fun hwindow => ?_
  have hwindow := max_le_iff.mp (not_lt.mp hwindow)
  rcases Nat.lt_or_ge (atMs / history.widthMs) (last.atMs / history.widthMs) with hlt | hopen
  · have hwithin : (atMs / history.widthMs + 1) * history.widthMs ≤ last.atMs :=
      (Nat.mul_le_mul_right _ hlt).trans hbegin
    have hearly : atMs < last.atMs := Nat.lt_of_div_lt_div hlt
    have hmore : ¬(last.atMs ≤ atMs ∨ last.atMs = first.atMs) := by
      rintro (hle | heq)
      · omega
      · rw [heq] at hlt
        omega
    rw [if_neg (by omega), if_neg hmore, min_eq_right hwithin,
      h.records.slots _ hwindow.1 hwindow.2 hlt]
    rfl
  · rw [if_pos hopen]
    by_cases hlate : last.atMs ≤ atMs ∨ last.atMs = first.atMs
    · rw [if_pos hlate, if_neg]
      unfold observedFrom at hspan
      omega
    · have hsame : atMs / history.widthMs = last.atMs / history.widthMs :=
        (Nat.div_le_div_right (by omega)).antisymm hopen
      rw [hsame] at hat ⊢
      have hordered := h.ordered
      have hpositive : 0 < history.currentSpanMs := by
        rw [hspan, observedFrom]
        omega
      rw [if_pos ⟨hpositive, by omega⟩, if_neg hlate, h.records.energy, hspan,
        min_eq_left (show last.atMs ≤ (last.atMs / history.widthMs + 1) * history.widthMs from
          hend.le)]
      rfl

/-! ### One call -/

theorem heldMw_concat (ms : ℕ) : heldMw (calls ++ [call]) ms =
    if call.atMs ≤ ms then call.powerMw else heldMw calls ms :=
  List.foldl_concat _ _ _ _

theorem follows_start (history : AppliedHeatHistory) (hspan : history.currentSpanMs = 0)
    (henergy : history.currentEnergyMj = 0) (held : ℕ → ℚ) :
    (history.start call.atMs call.powerMw).Follows call call held := by
  have hfrom : observedFrom (history.start call.atMs call.powerMw) call.atMs
      (call.atMs / history.widthMs) = call.atMs :=
    max_eq_left (Nat.div_mul_le_self _ _)
  refine ⟨⟨?_, ?_, ?_⟩, rfl, rfl, rfl, le_rfl⟩
  · change history.currentSpanMs = call.atMs - observedFrom _ _ (call.atMs / history.widthMs)
    rw [hfrom, hspan, Nat.sub_self]
  · change history.currentEnergyMj * 1000 =
      ∑ ms ∈ Finset.Ico (observedFrom _ _ (call.atMs / history.widthMs)) _, held ms
    rw [hfrom, henergy, Finset.Ico_self, Finset.sum_empty, zero_mul]
  · intro bucket hle _ hlt
    exact absurd hlt hle.not_gt

variable (step) in
theorem Follows.observe (h : history.Follows first last held) (hpower : 0 ≤ call.powerMw)
    (hlater : last.atMs ≤ call.atMs)
    (hheld : ∀ ms, last.atMs ≤ ms → held ms = last.powerMw) :
    (history.observe step call.atMs call.powerMw).Follows first call
        (fun ms => if call.atMs ≤ ms then call.powerMw else held ms) ∧
      (history.observe step call.atMs call.powerMw).widthMs = history.widthMs := by
  have hnext : history.observe step call.atMs call.powerMw =
      history.advance step last.atMs call.atMs call.powerMw := by
    rw [AppliedHeatHistory.observe, if_neg hpower.not_gt, h.lastAt]
    exact if_neg hlater.not_gt
  rw [hnext, advance]
  set received : AppliedHeatHistory := { history with
    receivedMw := history.response.elim history.receivedMw fun response =>
      history.deliver step response last.atMs call.atMs history.receivedMw }
  have hreceived : received.Records first.atMs last.atMs held :=
    ⟨h.records.span, h.records.energy, h.records.slots⟩
  obtain ⟨hrecords, hwidth, hwindow⟩ := hreceived.hold h.ordered hlater
    (fun ms hfrom _ => (hheld ms hfrom).trans h.power.symm) h.window
  have hnew : (received.hold last.atMs call.atMs).Records first.atMs call.atMs
      (fun ms => if call.atMs ≤ ms then call.powerMw else held ms) :=
    hrecords.congr fun ms hlt => if_neg hlt.not_ge
  rw [← hwidth] at hwindow
  exact ⟨⟨⟨hnew.span, hnew.energy, hnew.slots⟩, hwindow, rfl, rfl, h.ordered.trans hlater⟩, hwidth⟩

/-! ### All calls -/

/-- From the last call on its power is held. -/
theorem heldMw_of_getLast_le (hne : calls ≠ []) {ms : ℕ} (hle : (calls.getLast hne).atMs ≤ ms) :
    heldMw calls ms = (calls.getLast hne).powerMw := by
  have hsplit : heldMw calls ms = heldMw (calls.dropLast ++ [calls.getLast hne]) ms := by
    rw [List.dropLast_append_getLast]
  rw [hsplit, heldMw_concat, if_pos hle]

variable (step) in
theorem follows_observeAll (history : AppliedHeatHistory) (hfresh : history.lastAtMs = none)
    (hspan : history.currentSpanMs = 0) (henergy : history.currentEnergyMj = 0)
    (hordered : Ordered calls) (hne : calls ≠ []) :
    (history.observeAll step calls).Follows (calls.head hne) (calls.getLast hne) (heldMw calls) ∧
      (history.observeAll step calls).widthMs = history.widthMs := by
  induction calls using List.reverseRecOn with
  | nil => exact absurd rfl hne
  | append_singleton calls call ih =>
    have hpower : 0 ≤ call.powerMw := hordered.powers call (by simp)
    have hnext : history.observeAll step (calls ++ [call]) =
        (history.observeAll step calls).observe step call.atMs call.powerMw :=
      List.foldl_concat _ _ _ _
    have hheld : heldMw (calls ++ [call]) =
        fun ms => if call.atMs ≤ ms then call.powerMw else heldMw calls ms :=
      funext fun ms => heldMw_concat ms
    rw [hnext, hheld, List.getLast_append_singleton]
    rcases eq_or_ne calls [] with rfl | hsome
    · have hstart : history.observe step call.atMs call.powerMw =
          history.start call.atMs call.powerMw := by
        rw [AppliedHeatHistory.observe, if_neg hpower.not_gt, hfresh]
      rw [show history.observeAll step [] = history from rfl, hstart]
      exact ⟨follows_start history hspan henergy _, rfl⟩
    · obtain ⟨hearlier, -, hacross⟩ := List.pairwise_append.mp hordered.times
      obtain ⟨hfollows, hwidth⟩ := ih
        ⟨hearlier, fun other hmem => hordered.powers other (List.mem_append_left _ hmem)⟩ hsome
      have hlater := hacross _ (List.getLast_mem hsome) call (List.mem_singleton_self call)
      obtain ⟨hfollows, hwidth'⟩ := hfollows.observe step hpower hlater
        fun ms hle => heldMw_of_getLast_le hsome hle
      rw [List.head_append_of_ne_nil hsome]
      exact ⟨hfollows, hwidth'.trans hwidth⟩

/-! ## Repeated power -/

/-- Some calls are preceded by calls that repeat the power of the one before. -/
inductive Repeats : List HeatCall → List HeatCall → Prop
  | same (calls : List HeatCall) : Repeats calls calls
  | insert {calls before after : List HeatCall} {call next : HeatCall} (atMs : ℕ) :
      Repeats calls (before ++ call :: next :: after) →
      Repeats calls (before ++ call :: ⟨atMs, call.powerMw⟩ :: next :: after)

theorem heldMw_insert {before after : List HeatCall} {next : HeatCall} {atMs : ℕ}
    (hle : call.atMs ≤ atMs) :
    heldMw (before ++ call :: ⟨atMs, call.powerMw⟩ :: next :: after) =
      heldMw (before ++ call :: next :: after) := by
  funext ms
  simp only [heldMw, List.foldl_append, List.foldl_cons]
  congr 2
  by_cases hlate : atMs ≤ ms
  · rw [if_pos hlate, if_pos (hle.trans hlate)]
  · rw [if_neg hlate]

/-- Calls with repeats begin, end and hold as the calls without. -/
theorem Repeats.same_signal (h : Repeats calls more) (hordered : Ordered calls)
    (htimes : more.Pairwise fun earlier later => earlier.atMs ≤ later.atMs) (hne : calls ≠ []) :
    Ordered more ∧ heldMw more = heldMw calls ∧ ∃ hmore : more ≠ [],
      more.head hmore = calls.head hne ∧ more.getLast hmore = calls.getLast hne := by
  induction h with
  | same => exact ⟨hordered, rfl, hne, rfl, rfl⟩
  | @insert before after call next atMs h ih =>
    have hsub : (before ++ call :: next :: after).Sublist
        (before ++ call :: ⟨atMs, call.powerMw⟩ :: next :: after) :=
      (List.Sublist.refl before).append (((List.Sublist.refl _).cons _).cons_cons _)
    obtain ⟨hfewer, hheld, hmore, hhead, hlast⟩ := ih (htimes.sublist hsub)
    have hle : call.atMs ≤ atMs :=
      (List.pairwise_cons.mp (List.pairwise_append.mp htimes).2.1).1 ⟨atMs, call.powerMw⟩
        (by simp)
    refine ⟨⟨htimes, ?_⟩, (heldMw_insert hle).trans hheld, by simp, ?_, ?_⟩
    · intro other hmem
      have hcases : other ∈ before ++ call :: next :: after ∨
          other = ⟨atMs, call.powerMw⟩ := by
        simp only [List.mem_append, List.mem_cons] at hmem ⊢
        tauto
      rcases hcases with hmem | rfl
      · exact hfewer.powers other hmem
      · exact hfewer.powers call (by simp)
    · rw [← hhead]
      cases before <;> rfl
    · rw [← hlast]
      simp

/-- The history as the firmware sets it up for a plate. -/
def configured (delayMs : UInt32) (response : Option HeatResponse) : AppliedHeatHistory :=
  { new.configure delayMs with response := response }

theorem configure_new (delayMs : UInt32) : ∃ width_pos,
    new.configure delayMs = ofWidth (configuredWidthMs delayMs) width_pos := by
  refine ⟨lt_max_of_lt_right (by decide), ?_⟩
  unfold configure
  split
  · rfl
  · next hsame =>
      have hsame : new.widthMs = configuredWidthMs delayMs := not_not.mp hsame
      simp only [← hsame]
      rfl

theorem powerAt_observeAll (step : HeatResponse → ℚ → ℚ → ℚ → ℚ) (delayMs : UInt32)
    (response : Option HeatResponse) (hordered : Ordered calls) (hne : calls ≠ []) (atMs : ℕ) :
    ((configured delayMs response).observeAll step calls).powerAt atMs =
      exactPowerAt (configuredWidthMs delayMs) (calls.head hne) (calls.getLast hne) (heldMw calls)
        atMs := by
  obtain ⟨width_pos, hnew⟩ := configure_new delayMs
  unfold configured
  rw [hnew]
  obtain ⟨hfollows, hwidth⟩ := follows_observeAll step
    { ofWidth (configuredWidthMs delayMs) width_pos with response := response } rfl rfl rfl
    hordered hne
  rw [hfollows.powerAt, hwidth]
  rfl

theorem appliedHeat_exact (step : HeatResponse → ℚ → ℚ → ℚ → ℚ) (delayMs : UInt32)
    (response : Option HeatResponse) (hordered : Ordered calls) (hne : calls ≠ []) :
    (∀ atMs, ((configured delayMs response).observeAll step calls).powerAt atMs =
      exactPowerAt (configuredWidthMs delayMs) (calls.head hne) (calls.getLast hne) (heldMw calls)
        atMs) ∧
    ∀ more, Repeats calls more →
      more.Pairwise (fun earlier later => earlier.atMs ≤ later.atMs) → ∀ atMs,
        ((configured delayMs response).observeAll step more).powerAt atMs =
          ((configured delayMs response).observeAll step calls).powerAt atMs := by
  refine ⟨powerAt_observeAll step delayMs response hordered hne, ?_⟩
  intro more hrepeats htimes atMs
  obtain ⟨hmoreOrdered, hheld, hmore, hhead, hlast⟩ := hrepeats.same_signal hordered htimes hne
  rw [powerAt_observeAll step delayMs response hmoreOrdered hmore,
    powerAt_observeAll step delayMs response hordered hne, hheld, hhead, hlast]

theorem appliedHeat_exact_one_repeat :
    ((configured 0 none).observeAll (fun _ _ inputMw _ => inputMw)
        [⟨0, 100⟩, ⟨10, 100⟩, ⟨25, 0⟩]).powerAt 12 =
      ((configured 0 none).observeAll (fun _ _ inputMw _ => inputMw)
        [⟨0, 100⟩, ⟨25, 0⟩]).powerAt 12 :=
  (appliedHeat_exact _ 0 none ⟨by decide, by decide⟩ (by decide)).2 _
    (@Repeats.insert _ [] [] ⟨0, 100⟩ ⟨25, 0⟩ 10 (.same _)) (by decide) 12

/-- A repeat after the last call moves the end of what was observed. -/
theorem last_repeat_changes_mean :
    ¬∀ atMs, ((configured 0 none).observeAll (fun _ _ inputMw _ => inputMw)
        [⟨0, 100⟩, ⟨25, 0⟩, ⟨50, 0⟩]).powerAt atMs =
      ((configured 0 none).observeAll (fun _ _ inputMw _ => inputMw)
        [⟨0, 100⟩, ⟨25, 0⟩]).powerAt atMs := by
  intro h
  have h10 := h 10
  rw [powerAt_observeAll _ _ _ ⟨by decide, by decide⟩ (by decide),
    powerAt_observeAll _ _ _ ⟨by decide, by decide⟩ (by decide)] at h10
  exact absurd h10 (by decide +kernel)

end AppliedHeatHistory
end FluxPurr.Thermal
