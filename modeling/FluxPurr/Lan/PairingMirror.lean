import FluxPurr.Lan.Authorization
import FluxPurr.Lan.BearerToken

/-!
# The mirror of the pairing code

The code of the open window is kept twice: in the state behind the gate, and as a number that
USB reads (`ControlPlane`).  The operations of the firmware write both.  A claim over HTTP writes
only the first, and the fifth wrong one closes the window there; and setting the mode that is
set already clears the mirror of a window that stays open.  In a run without these two
(`Orderly`) the mirror shows the code exactly while a claim with it is accepted
(`shows_of_orderly`).
-/

namespace FluxPurr.Lan

open FluxPurr.Runs

/-! ## The number -/

abbrev u32Max : ℕ := 2 ^ 32 - 1

/-- The digits as a number, plus one: zero is for no code. -/
def encodePairingCode (code : List UInt8) : ℕ :=
  min (code.foldl
    (fun value digit => min (min (value * 10) u32Max + (digit.toNat - 0x30)) u32Max) 0 + 1) u32Max

/-- The digits of a number, the last one first to be written. -/
def pairingDigits : ℕ → ℕ → List UInt8
  | 0, _ => []
  | count + 1, value => pairingDigits count (value / 10) ++ [0x30 + UInt8.ofNat (value % 10)]

def decodePairingCode (value : ℕ) : Option (List UInt8) :=
  if value = 0 then none
  else if 9999 < value - 1 then none
  else some (pairingDigits 4 (value - 1))

/-- Four ASCII digits. -/
def IsPairingCode (code : List UInt8) : Prop :=
  code.length = 4 ∧ code.all PairingWindow.isAsciiDigit = true

/-! ## The two copies -/

/-- `CONTROL_STATE` and `PAIRING_CODE_MIRROR`. -/
structure ControlPlane where
  state : NetHttpState
  mirror : ℕ

inductive ControlOperation where
  | initializeControlState (token : Option LanToken)
  | enterPairing (random : ℕ)
  | leavePairing
  | setPairingMode (mode : LanPairingMode)
  | request (nowMs : ℕ) (request : HttpRequest)

namespace ControlPlane

def initializeControlState (token : Option LanToken) : ControlPlane := ⟨.new token, 0⟩

def enterPairing (plane : ControlPlane) (random : ℕ) : ControlPlane :=
  let (state, code) := plane.state.pairingCodeFromRandom random
  ⟨state, (code.map encodePairingCode).getD 0⟩

def leavePairing (plane : ControlPlane) : ControlPlane := ⟨plane.state.leavePairing, 0⟩

def setPairingMode (plane : ControlPlane) (mode : LanPairingMode) : ControlPlane :=
  ⟨plane.state.setPairingMode mode, 0⟩

/-- What USB reads. -/
def pairingCode (plane : ControlPlane) : Option (List UInt8) := decodePairingCode plane.mirror

variable (pairingClaimCode : String → Option String)

/-- The gate knows nothing of the mirror. -/
def perform (plane : ControlPlane) : ControlOperation → ControlPlane
  | .initializeControlState token => initializeControlState token
  | .enterPairing random => plane.enterPairing random
  | .leavePairing => plane.leavePairing
  | .setPairingMode mode => plane.setPairingMode mode
  | .request nowMs request =>
      ⟨(plane.state.gate pairingClaimCode nowMs request).1, plane.mirror⟩

/-- The mirror shows the code of the window, and exactly while it is accepted. -/
structure Shows (plane : ControlPlane) : Prop where
  code : plane.pairingCode = plane.state.pairing.code
  accepted : ∀ submitted, (plane.state.pairing.claim submitted).2 = .ok () ↔
    plane.pairingCode = some (asBytes submitted)
  granted : ∀ nowMs request submitted, request.isClaim = true →
    pairingClaimCode request.body = some submitted → plane.state.pairingMode = .required →
      ((∃ response token, (plane.state.gate pairingClaimCode nowMs request).2 =
          .respond response ∧ response.body = .token token) ↔
        plane.pairingCode = some (asBytes submitted))

/-- A wrong code is submitted for the last time. -/
def ClosesWindow (window : PairingWindow) (submitted : Option String) : Prop :=
  ∃ text code, submitted = some text ∧ window.code = some code ∧ asBytes text ≠ code ∧
    lanPairingMaxFailures ≤ window.failedAttempts + 1

/-- The operation leaves no copy behind. -/
def Orderly (plane : ControlPlane) : ControlOperation → Prop
  | .setPairingMode mode => mode = .required → plane.state.pairing.code = none
  | .request _ request =>
      ¬(request.isClaim = true ∧ ClosesWindow plane.state.pairing (pairingClaimCode request.body))
  | _ => True

def OrderlyStep (plane : ControlPlane) (operation : ControlOperation) (after : ControlPlane) :
    Prop :=
  plane.Orderly pairingClaimCode operation ∧ after = plane.perform pairingClaimCode operation

end ControlPlane

/-! ## Encoding and decoding -/

theorem value_of_isAsciiDigit {digit : UInt8} (h : PairingWindow.isAsciiDigit digit = true) :
    ∃ value, value ≤ 9 ∧ digit.toNat = 0x30 + value ∧ 0x30 + UInt8.ofNat value = digit := by
  obtain ⟨hlow, hhigh⟩ := of_decide_eq_true h
  have hlow : 0x30 ≤ digit.toNat := UInt8.le_iff_toNat_le.mp hlow
  have hhigh : digit.toNat ≤ 0x39 := UInt8.le_iff_toNat_le.mp hhigh
  refine ⟨digit.toNat - 0x30, by omega, by omega, ?_⟩
  apply UInt8.toNat_inj.mp
  rw [UInt8.toNat_add, UInt8.toNat_ofNat']
  show (0x30 + (digit.toNat - 0x30) % 2 ^ 8) % 2 ^ 8 = digit.toNat
  omega

theorem encode_step {digit : UInt8} {digitValue value : ℕ}
    (hdigit : digit.toNat = 0x30 + digitValue)
    (hvalue : value ≤ 999) (hsmall : digitValue ≤ 9) :
    min (min (value * 10) u32Max + (digit.toNat - 0x30)) u32Max = value * 10 + digitValue := by
  have hmax : 10000 ≤ u32Max := by decide
  have hproduct : value * 10 ≤ u32Max := Nat.le_trans (by omega) hmax
  have hsum : value * 10 + digitValue ≤ u32Max := Nat.le_trans (by omega) hmax
  rw [hdigit, Nat.add_sub_cancel_left, Nat.min_eq_left hproduct, Nat.min_eq_left hsum]

theorem decode_encode {code : List UInt8} (h : IsPairingCode code) :
    decodePairingCode (encodePairingCode code) = some code ∧ encodePairingCode code ≠ 0 := by
  obtain ⟨hlength, hdigits⟩ := h
  match code, hlength with
  | [a, b, c, d], _ =>
    simp only [List.all_cons, List.all_nil, Bool.and_true, Bool.and_eq_true] at hdigits
    obtain ⟨ha, hb, hc, hd⟩ := hdigits
    obtain ⟨x, hx, hax, hxa⟩ := value_of_isAsciiDigit ha
    obtain ⟨y, hy, hby, hyb⟩ := value_of_isAsciiDigit hb
    obtain ⟨z, hz, hcz, hzc⟩ := value_of_isAsciiDigit hc
    obtain ⟨w, hw, hdw, hwd⟩ := value_of_isAsciiDigit hd
    have hvalue : encodePairingCode [a, b, c, d] =
        x * 1000 + y * 100 + z * 10 + w + 1 := by
      have hmax : x * 1000 + y * 100 + z * 10 + w + 1 ≤ u32Max :=
        Nat.le_trans (show _ ≤ 10000 by omega) (by decide)
      unfold encodePairingCode
      rw [List.foldl_cons, List.foldl_cons, List.foldl_cons, List.foldl_cons, List.foldl_nil,
        encode_step hax (show 0 ≤ 999 by omega) hx, encode_step hby (by omega) hy,
        encode_step hcz (by omega) hz, encode_step hdw (by omega) hw, Nat.min_eq_left]
      · omega
      · exact Nat.le_trans (by omega) hmax
    have hw' : (x * 1000 + y * 100 + z * 10 + w) % 10 = w := by omega
    have hz' : (x * 1000 + y * 100 + z * 10 + w) / 10 % 10 = z := by omega
    have hy' : (x * 1000 + y * 100 + z * 10 + w) / 10 / 10 % 10 = y := by omega
    have hx' : (x * 1000 + y * 100 + z * 10 + w) / 10 / 10 / 10 % 10 = x := by omega
    rw [hvalue, decodePairingCode, if_neg (Nat.succ_ne_zero _), Nat.add_sub_cancel,
      if_neg (by omega)]
    simp only [pairingDigits, hw', hz', hy', hx', hxa, hyb, hzc, hwd]
    exact ⟨rfl, Nat.succ_ne_zero _⟩

theorem isPairingCode_pairingCode (random : ℕ) :
    IsPairingCode (NetHttpState.pairingCode random) := by
  have hdigit : ∀ value : Fin 10,
      PairingWindow.isAsciiDigit (0x30 + UInt8.ofNat value) = true := by decide
  refine ⟨rfl, List.all_eq_true.mpr fun digit hmem => ?_⟩
  obtain ⟨weight, -, rfl⟩ := List.mem_map.mp hmem
  exact hdigit ⟨random / weight % 10, Nat.mod_lt _ (by decide)⟩

/-! ## The window -/

/-- An open window has a code of four digits, has not failed too often, and is of the mode that
asks for codes. -/
structure NetHttpState.WindowSound (state : NetHttpState) : Prop where
  code : ∀ code, state.pairing.code = some code → IsPairingCode code
  attempts : state.pairing.code.isSome → state.pairing.failedAttempts < lanPairingMaxFailures
  mode : state.pairing.code.isSome → state.pairingMode = .required

open NetHttpState

namespace ControlPlane

variable {pairingClaimCode : String → Option String} {plane : ControlPlane}

/-- The mirror encodes the code of the window. -/
def Mirrors (plane : ControlPlane) : Prop :=
  plane.mirror = (plane.state.pairing.code.map encodePairingCode).getD 0

structure Consistent (plane : ControlPlane) : Prop where
  sound : plane.state.WindowSound
  mirrors : plane.Mirrors

theorem pairingCode_of_mirrors (hsound : plane.state.WindowSound) (h : plane.Mirrors) :
    plane.pairingCode = plane.state.pairing.code := by
  unfold pairingCode
  rw [h]
  cases hcode : plane.state.pairing.code with
  | none => rfl
  | some code => exact (decode_encode (hsound.code code hcode)).1

end ControlPlane

/-! ## The window and the gate -/

section

variable {pairingClaimCode : String → Option String} {state : NetHttpState} {nowMs : ℕ}
  {request : HttpRequest}

/-- A claim with a code other than that of an open window. -/
structure WrongClaim (pairingClaimCode : String → Option String) (state : NetHttpState)
    (request : HttpRequest) (text : String) (code : List UInt8) : Prop where
  isClaim : request.isClaim = true
  submitted : pairingClaimCode request.body = some text
  isOpen : state.pairing.code = some code
  differs : asBytes text ≠ code

/-- A call of the gate leaves the window as it is, or it counts a wrong claim. -/
inductive WindowCase (pairingClaimCode : String → Option String) (state : NetHttpState)
    (request : HttpRequest) : PairingWindow → Prop
  | same (hright : state.WindowSound → ∀ text code,
        ¬WrongClaim pairingClaimCode state request text code) :
      WindowCase pairingClaimCode state request state.pairing
  | wrong (text : String) (code : List UInt8)
      (hwrong : WrongClaim pairingClaimCode state request text code) :
      WindowCase pairingClaimCode state request
        ⟨if lanPairingMaxFailures ≤ state.pairing.failedAttempts + 1 then none else some code,
          state.pairing.failedAttempts + 1⟩

theorem claimPairing_window (hclaim : request.isClaim = true) :
    WindowCase pairingClaimCode state request
      (state.claimPairing pairingClaimCode request).1.pairing := by
  have hcase : ClaimCase pairingClaimCode state request _ _ := claimPairing_case state request
  generalize (state.claimPairing pairingClaimCode request).1 = after at hcase ⊢
  generalize (state.claimPairing pairingClaimCode request).2 = response at hcase
  cases hcase with
  | unread _ _ hunread =>
    refine .same fun hsound text code hwrong => ?_
    rcases hunread with hmode | hnone
    · exact hmode (hsound.mode (hwrong.isOpen ▸ rfl))
    · exact nomatch hnone.symm.trans hwrong.submitted
  | wrong text error pairing htext hfailed =>
    rcases state.pairing.claim_case text with
      ⟨-, -, hok⟩ | ⟨hunread, error', hsame⟩ | ⟨code, error', hcode, hwrong, hnext⟩
    · rw [hok] at hfailed
      cases hfailed
    · obtain ⟨rfl, -⟩ := Prod.mk.inj (hsame.symm.trans hfailed)
      refine .same fun hsound text code hwrong => ?_
      rcases hunread with hnone | hlocked
      · exact nomatch hnone.symm.trans hwrong.isOpen
      · exact absurd (hsound.attempts (hwrong.isOpen ▸ rfl)) (Nat.not_lt.mpr hlocked)
    · obtain ⟨rfl, -⟩ := Prod.mk.inj (hnext.symm.trans hfailed)
      exact .wrong text code ⟨hclaim, htext, hcode, hwrong⟩
  | granted hright =>
    rw [(grantToken_rest state request.entropy).1]
    refine .same fun hsound text code hwrong => ?_
    obtain ⟨submitted, htext, hcode, -⟩ := hright (hsound.mode (hwrong.isOpen ▸ rfl))
    obtain rfl := Option.some.inj (htext.symm.trans hwrong.submitted)
    exact hwrong.differs (Option.some.inj (hcode.symm.trans hwrong.isOpen))

theorem gate_of_isClaim (hclaim : request.isClaim = true) :
    state.gate pairingClaimCode nowMs request =
      ((state.claimPairing pairingClaimCode request).1,
        .respond (withCors request.origin
          (state.claimPairing pairingClaimCode request).2)) := by
  obtain ⟨hpost, hpath⟩ := of_decide_eq_true hclaim
  unfold gate dispatchGate
  simp only [hpost, hpath, reduceCtorEq, if_false, endpointAllowsMethod, not_true_eq_false,
    and_self, if_true]

theorem gate_window (pairingClaimCode : String → Option String) (state : NetHttpState)
    (nowMs : ℕ) (request : HttpRequest) :
    WindowCase pairingClaimCode state request
        (state.gate pairingClaimCode nowMs request).1.pairing ∧
      (state.gate pairingClaimCode nowMs request).1.pairingMode = state.pairingMode := by
  by_cases hclaim : request.isClaim = true
  · rw [gate_of_isClaim hclaim]
    exact ⟨claimPairing_window hclaim, (claimPairing_rest state request).1⟩
  · have hother : WindowCase pairingClaimCode state request state.pairing :=
      .same fun _ _ _ hwrong => hclaim hwrong.isClaim
    have hcase := gate_case pairingClaimCode state nowMs request
    generalize (state.gate pairingClaimCode nowMs request).1 = after at hcase ⊢
    generalize (state.gate pairingClaimCode nowMs request).2 = answer at hcase
    cases hcase with
    | plain | refused | read | write => exact ⟨hother, rfl⟩
    | claim hisClaim => exact absurd hisClaim hclaim
    | lease =>
      obtain ⟨hpairing, hmode, -⟩ := leaseRoute_rest state nowMs request
      exact ⟨hpairing ▸ hother, hmode⟩

theorem claim_ok_iff (window : PairingWindow) (submitted : String) :
    (window.claim submitted).2 = .ok () ↔
      window.code = some (asBytes submitted) ∧ window.failedAttempts < lanPairingMaxFailures := by
  rcases window.claim_case submitted with
    ⟨hcode, hfailed, hok⟩ | ⟨hunread, error, herror⟩ | ⟨code, error, hcode, hwrong, herror⟩
  · rw [hok]
    exact iff_of_true rfl ⟨hcode, hfailed⟩
  · rw [herror]
    refine iff_of_false nofun fun h => ?_
    rcases hunread with hnone | hlocked
    · rw [hnone] at h
      cases h.1
    · exact absurd h.2 (Nat.not_lt.mpr hlocked)
  · rw [herror]
    refine iff_of_false nofun fun h => hwrong ?_
    exact Option.some.inj (h.1.symm.trans hcode)

/-- While codes are asked for, a token is the answer to a claim that the window accepts. -/
theorem grants_iff (hclaim : request.isClaim = true) {submitted : String}
    (hsubmitted : pairingClaimCode request.body = some submitted)
    (hmode : state.pairingMode = .required) :
    (∃ response token, (state.gate pairingClaimCode nowMs request).2 = .respond response ∧
      response.body = .token token) ↔ (state.pairing.claim submitted).2 = .ok () := by
  rw [gate_of_isClaim hclaim]
  unfold claimPairing
  rw [hmode, hsubmitted]
  dsimp only
  rcases state.pairing.claim submitted with ⟨pairing, error | ⟨⟩⟩
  · refine iff_of_false ?_ nofun
    rintro ⟨response, token, hresponse, hbody⟩
    obtain rfl := HttpGate.respond.inj hresponse
    have hplain := isPlain_accessErrorResponse error
    have hbody : (accessErrorResponse error).body = .token token := hbody
    rw [hbody] at hplain
    cases hplain
  · obtain ⟨token, hbody, -⟩ := grantToken_body { state with pairing := pairing } request.entropy
    rw [hmode] at hbody
    exact iff_of_true ⟨_, token, rfl, hbody⟩ rfl

end

/-! ## Runs -/

namespace NetHttpState.WindowSound

variable {state : NetHttpState}

theorem of_closed (h : state.pairing.code = none) : state.WindowSound where
  code := fun code hcode => by
    rw [h] at hcode
    cases hcode
  attempts := fun hopen => by
    rw [h] at hopen
    cases hopen
  mode := fun hopen => by
    rw [h] at hopen
    cases hopen

theorem gate (h : state.WindowSound) (pairingClaimCode : String → Option String) (nowMs : ℕ)
    (request : HttpRequest) : (state.gate pairingClaimCode nowMs request).1.WindowSound := by
  obtain ⟨hwindow, hmode⟩ := gate_window pairingClaimCode state nowMs request
  generalize (state.gate pairingClaimCode nowMs request).1 = after at hwindow hmode ⊢
  obtain ⟨token, pairing, mode, leases, tokenDirty⟩ := after
  dsimp only at hwindow hmode
  cases hwindow with
  | same => exact { h with mode := fun hopen => hmode.trans (h.mode hopen) }
  | wrong text code hwrong =>
    have hcode := hwrong.isOpen
    have hopen : state.pairing.code.isSome := hcode ▸ rfl
    refine ⟨fun digits hdigits => ?_, fun hstill => ?_, fun _ => hmode.trans (h.mode hopen)⟩
    · dsimp only at hdigits
      split_ifs at hdigits
      exact h.code digits (hcode.trans hdigits)
    · dsimp only at hstill ⊢
      split_ifs at hstill with hlast
      · cases hstill
      · exact Nat.lt_of_not_le hlast

end NetHttpState.WindowSound

namespace ControlPlane

variable {pairingClaimCode : String → Option String} {plane : ControlPlane}

theorem windowSound_perform (h : plane.state.WindowSound) (operation : ControlOperation) :
    (plane.perform pairingClaimCode operation).state.WindowSound := by
  cases operation with
  | initializeControlState token => exact .of_closed rfl
  | enterPairing random =>
    unfold perform enterPairing pairingCodeFromRandom
    split_ifs with hmode
    · exact .of_closed rfl
    · have hcode := isPairingCode_pairingCode random
      show NetHttpState.WindowSound { plane.state with
        pairing := plane.state.pairing.enter (NetHttpState.pairingCode random) }
      unfold PairingWindow.enter
      rw [if_pos hcode.2]
      exact ⟨fun code h => Option.some.inj h ▸ hcode, fun _ => Nat.zero_lt_succ 4,
        fun _ => not_not.mp hmode⟩
  | leavePairing => exact .of_closed rfl
  | setPairingMode mode =>
    show (plane.state.setPairingMode mode).WindowSound
    unfold NetHttpState.setPairingMode
    by_cases hmode : mode = .required
    · rw [if_neg (not_not.mpr hmode)]
      exact { h with mode := fun _ => hmode }
    · rw [if_pos hmode]
      exact .of_closed rfl
  | request nowMs request => exact h.gate pairingClaimCode nowMs request

/-- The operations that leave no copy behind are those after which the copies agree. -/
theorem mirrors_perform_iff (h : plane.Consistent) (operation : ControlOperation) :
    (plane.perform pairingClaimCode operation).Mirrors ↔
      plane.Orderly pairingClaimCode operation := by
  have hencoded : ∀ {code}, plane.state.pairing.code = some code → encodePairingCode code ≠ 0 :=
    fun hcode => (decode_encode (h.sound.code _ hcode)).2
  cases operation with
  | initializeControlState token => exact iff_of_true rfl trivial
  | enterPairing random =>
    refine iff_of_true ?_ trivial
    unfold perform enterPairing pairingCodeFromRandom
    split_ifs with hmode
    · rfl
    · show encodePairingCode (NetHttpState.pairingCode random) = ((plane.state.pairing.enter
        (NetHttpState.pairingCode random)).code.map encodePairingCode).getD 0
      unfold PairingWindow.enter
      rw [if_pos (isPairingCode_pairingCode random).2]
      rfl
  | leavePairing => exact iff_of_true rfl trivial
  | setPairingMode mode =>
    show 0 = ((plane.state.setPairingMode mode).pairing.code.map encodePairingCode).getD 0 ↔
      (mode = .required → plane.state.pairing.code = none)
    unfold NetHttpState.setPairingMode
    by_cases hmode : mode = .required
    · rw [if_neg (not_not.mpr hmode)]
      dsimp only
      cases hcode : plane.state.pairing.code with
      | none => exact iff_of_true rfl fun _ => rfl
      | some code => exact iff_of_false (hencoded hcode).symm fun hnone => nomatch hnone hmode
    · rw [if_pos hmode]
      exact iff_of_true rfl fun hrequired => absurd hrequired hmode
  | request nowMs request =>
    have hwindow := (gate_window pairingClaimCode plane.state nowMs request).1
    show plane.mirror = ((plane.state.gate pairingClaimCode nowMs request).1.pairing.code.map
      encodePairingCode).getD 0 ↔ ¬(request.isClaim = true ∧
        ClosesWindow plane.state.pairing (pairingClaimCode request.body))
    rw [h.mirrors]
    generalize (plane.state.gate pairingClaimCode nowMs request).1.pairing = pairing at hwindow ⊢
    cases hwindow with
    | same hright =>
      refine iff_of_true rfl ?_
      rintro ⟨hclaim, text, code, htext, hcode, hwrong, -⟩
      exact hright h.sound text code ⟨hclaim, htext, hcode, hwrong⟩
    | wrong text code hwrong =>
      rw [hwrong.isOpen]
      dsimp only
      split_ifs with hlast
      · refine iff_of_false (hencoded hwrong.isOpen) (not_not.mpr ⟨hwrong.isClaim, ?_⟩)
        exact ⟨text, code, hwrong.submitted, hwrong.isOpen, hwrong.differs, hlast⟩
      · refine iff_of_true rfl ?_
        rintro ⟨-, text', code', -, -, -, hlast'⟩
        exact hlast hlast'

theorem Consistent.perform (h : plane.Consistent) {operation : ControlOperation}
    (horderly : plane.Orderly pairingClaimCode operation) :
    (plane.perform pairingClaimCode operation).Consistent where
  sound := windowSound_perform h.sound operation
  mirrors := (mirrors_perform_iff h operation).mpr horderly

theorem Consistent.shows (h : plane.Consistent) : plane.Shows pairingClaimCode := by
  have hcode := pairingCode_of_mirrors h.sound h.mirrors
  have haccepted : ∀ submitted, (plane.state.pairing.claim submitted).2 = .ok () ↔
      plane.pairingCode = some (asBytes submitted) := by
    intro submitted
    rw [claim_ok_iff, hcode, and_iff_left_of_imp]
    exact fun hsome => h.sound.attempts (hsome ▸ rfl)
  exact
    { code := hcode
      accepted := haccepted
      granted := fun _ _ submitted hclaim hsubmitted hmode =>
        (grants_iff hclaim hsubmitted hmode).trans (haccepted submitted) }

theorem consistent_initializeControlState (token : Option LanToken) :
    (initializeControlState token).Consistent :=
  ⟨.of_closed rfl, rfl⟩

end ControlPlane

open ControlPlane

/-- In an orderly run the mirror shows the code of the window in every state. -/
theorem shows_of_orderly (pairingClaimCode : String → Option String) :
    (∀ code, IsPairingCode code → decodePairingCode (encodePairingCode code) = some code) ∧
      ∀ token operations plane,
        Reaches (OrderlyStep pairingClaimCode) (initializeControlState token) operations plane →
          plane.Shows pairingClaimCode := by
  refine ⟨fun code h => (decode_encode h).1, fun token operations plane h => ?_⟩
  have hconsistent : plane.Consistent := by
    refine h.invariant (consistent_initializeControlState token) ?_
    rintro before operation after hbefore ⟨horderly, rfl⟩
    exact hbefore.perform horderly
  exact hconsistent.shows

/-- A claim with the code 0000. -/
def wrongClaim : HttpRequest where
  method := .post
  path := "/api/v1/pairing/claim"
  body := "\x7b\"code\":\"0000\"\x7d"
  entropy := []

/-- A reader of the body of that claim. -/
def readsWrongClaim (body : String) : Option String :=
  if body = wrongClaim.body then some "0000" else none

theorem shows_after_enterPairing :
    ((initializeControlState none).perform readsWrongClaim (.enterPairing 4827)).Shows
      readsWrongClaim :=
  (shows_of_orderly readsWrongClaim).2 none [.enterPairing 4827] _ (.step .refl ⟨trivial, rfl⟩)

/-- Five wrong claims leave the code in the mirror. -/
theorem not_shows_after_wrong_claims :
    ¬∀ (pairingClaimCode : String → Option String) (token : Option LanToken)
      (operations : List ControlOperation),
      (operations.foldl (perform pairingClaimCode) (initializeControlState token)).Shows
        pairingClaimCode := by
  intro h
  have hshows := (h readsWrongClaim none
    (.enterPairing 4827 :: List.replicate 5 (.request 0 wrongClaim))).code
  revert hshows
  decide +kernel

end FluxPurr.Lan
