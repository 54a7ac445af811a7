import FluxPurr.Lan.Calls

/-!
# Authorization on the LAN

`Tracks` is the invariant of a session: the pairing window, the lease and the token of
the state are what the events say they are.  It is kept part by part, for a call of the
gate by its cases (`GateCase`), and what the gate lets through is then a matter of one
call.
-/

namespace FluxPurr.Lan

open FluxPurr.Runs
open NetHttpState

variable {pairingClaimCode : String → Option String} {state after : NetHttpState}
  {nowMs clockMs : ℕ} {request : HttpRequest} {answer : HttpGate} {history : List LanEvent}

/-! ## The pairing window -/

structure WindowTracks (state : NetHttpState) (history : List LanEvent) : Prop where
  window : ∀ code, state.pairing.code = some code →
    windowOf history = some (code, state.pairing.failedAttempts) ∧
      state.pairing.failedAttempts < lanPairingMaxFailures
  closed : state.pairingMode ≠ .required → state.pairing.code = none

namespace WindowTracks

theorem of_code_none (hcode : state.pairing.code = none) (history : List LanEvent) :
    WindowTracks state history :=
  { window := fun code hsome => by
      rw [hcode] at hsome
      cases hsome
    closed := fun _ => hcode }

theorem congr {events : List LanEvent} (h : WindowTracks state history)
    (hpairing : after.pairing = state.pairing) (hmode : after.pairingMode = state.pairingMode)
    (hevents : windowOf events = windowOf history) : WindowTracks after events :=
  { window := by
      rw [hpairing, hevents]
      exact h.window
    closed := by
      rw [hpairing, hmode]
      exact h.closed }

theorem claim (h : WindowTracks state history) (hclaim : request.isClaim = true)
    {response : HttpResponse} (hcase : ClaimCase pairingClaimCode state request after response) :
    WindowTracks after
      (history ++ answerEvents pairingClaimCode nowMs request response.body) := by
  cases hcase with
  | unread _ hplain hunread =>
    rw [answerEvents_of_plain hplain, if_pos hclaim]
    rcases hunread with hmode | hmalformed
    · exact of_code_none (h.closed hmode) _
    · rw [hmalformed]
      exact h.congr rfl rfl (congrArg windowOf (List.append_nil history))
  | wrong submitted error pairing hsubmitted hfailed =>
    rw [answerEvents_of_plain (isPlain_accessErrorResponse error), if_pos hclaim, hsubmitted]
    rcases state.pairing.claim_case submitted with
      ⟨-, -, hok⟩ | ⟨hunread, error', hsame⟩ | ⟨code, error', hcode, hwrong, hnext⟩
    · rw [hok] at hfailed
      cases hfailed
    · obtain ⟨rfl, -⟩ := Prod.mk.inj (hsame.symm.trans hfailed)
      refine of_code_none ?_ _
      rcases hunread with hnone | hlocked
      · exact hnone
      · cases hcode : state.pairing.code with
        | none => rfl
        | some code => exact absurd (h.window code hcode).2 (Nat.not_lt.mpr hlocked)
    · obtain ⟨rfl, -⟩ := Prod.mk.inj (hnext.symm.trans hfailed)
      refine ⟨fun code' hcode' => ?_, fun hmode => ?_⟩
      · simp only at hcode'
        split_ifs at hcode' with hlast
        obtain rfl := Option.some.inj hcode'
        refine ⟨?_, Nat.lt_of_not_le hlast⟩
        rw [windowOf_append, (h.window _ hcode).1]
        simp [windowStep, hwrong]
      · rw [h.closed hmode] at hcode
        cases hcode
  | granted hright =>
    obtain ⟨token, hbody, -⟩ := grantToken_body state request.entropy
    obtain ⟨hpairing, hmode, -⟩ := grantToken_rest state request.entropy
    rw [hbody]
    refine h.congr hpairing hmode ?_
    rw [windowOf_append]
    rfl

theorem windowOf_answerEvents (hclaim : request.isClaim = false) (body : HttpBody) :
    windowOf (history ++ answerEvents pairingClaimCode nowMs request body) =
      windowOf history := by
  rw [windowOf_append]
  cases body with
  | token token => rfl
  | lease lease =>
    unfold answerEvents
    split_ifs <;> rfl
  | released =>
    unfold answerEvents
    cases request.leaseId.bind parseLeaseId <;> rfl
  | _ => simp [answerEvents, hclaim]

theorem gate (h : WindowTracks state history)
    (hcase : GateCase pairingClaimCode state nowMs request after answer) :
    WindowTracks after (history ++ gateEvents pairingClaimCode nowMs request answer) := by
  cases hcase with
  | plain response hplain hclaim | refused response hplain hclaim =>
    exact h.congr rfl rfl (windowOf_answerEvents hclaim _)
  | claim hclaim =>
    have hclaimed : WindowTracks _ (history ++ answerEvents pairingClaimCode nowMs request
        (state.claimPairing pairingClaimCode request).2.body) :=
      h.claim hclaim (claimPairing_case state request)
    exact hclaimed
  | lease hauthorized hclaim =>
    obtain ⟨hpairing, hmode, -⟩ := leaseRoute_rest state nowMs request
    exact h.congr hpairing hmode (windowOf_answerEvents hclaim _)
  | read | write => exact h.congr rfl rfl (congrArg windowOf (List.append_nil history))

end WindowTracks

/-! ## The lease -/

/-- The lease of the state is the one of the events, unless it has run out. -/
def LeaseTracks (leases : LanLeaseState) (history : List LanEvent) (clockMs : ℕ) : Prop :=
  (leaseOf history = none ∧ leases.lease = none) ∨
    ∃ id renewedMs, leaseOf history = some (id, renewedMs) ∧
      (leases.lease = some ⟨id, saturatingAdd renewedMs lanLeaseTtlMs⟩ ∨
        leases.lease = none ∧ saturatingAdd renewedMs lanLeaseTtlMs ≤ clockMs)

namespace LeaseTracks

variable {leases : LanLeaseState}

theorem congr {events : List LanEvent} (h : LeaseTracks leases history clockMs)
    (hclock : clockMs ≤ nowMs) (hevents : leaseOf events = leaseOf history) :
    LeaseTracks leases events nowMs := by
  unfold LeaseTracks
  rw [hevents]
  rcases h with hnone | ⟨id, renewedMs, hlease, hheld | ⟨hgone, hold⟩⟩
  · exact Or.inl hnone
  · exact Or.inr ⟨id, renewedMs, hlease, Or.inl hheld⟩
  · exact Or.inr ⟨id, renewedMs, hlease, Or.inr ⟨hgone, Nat.le_trans hold hclock⟩⟩

theorem expire (h : LeaseTracks leases history clockMs) (hclock : clockMs ≤ nowMs) :
    LeaseTracks (leases.expire nowMs) history nowMs := by
  unfold LanLeaseState.expire
  rcases h with ⟨hlease, hnone⟩ | ⟨id, renewedMs, hlease, hheld | ⟨hgone, hold⟩⟩
  · refine Or.inl ⟨hlease, ?_⟩
    rw [hnone]
    rfl
  · refine Or.inr ⟨id, renewedMs, hlease, ?_⟩
    simp only [hheld]
    by_cases hlive : nowMs < saturatingAdd renewedMs lanLeaseTtlMs
    · exact Or.inl (by simp [hlive])
    · exact Or.inr ⟨by simpa using hlive, Nat.le_of_not_lt hlive⟩
  · refine Or.inr ⟨id, renewedMs, hlease, Or.inr ⟨?_, Nat.le_trans hold hclock⟩⟩
    rw [hgone]
    rfl

/-- What `LeaseTracks` says about a lease that the state still has. -/
theorem leaseOf_eq (h : LeaseTracks leases history clockMs) {lease : LanLease}
    (hlease : leases.lease = some lease) :
    ∃ renewedMs, leaseOf history = some (lease.id, renewedMs) ∧
      lease.expiresAtMs = saturatingAdd renewedMs lanLeaseTtlMs := by
  rcases h with ⟨-, hnone⟩ | ⟨id, renewedMs, hevents, hheld | ⟨hgone, -⟩⟩
  · rw [hnone] at hlease
    cases hlease
  · obtain rfl := Option.some.inj (hheld.symm.trans hlease)
    exact ⟨renewedMs, hevents, rfl⟩
  · rw [hgone] at hlease
    cases hlease

theorem leaseRoute (h : LeaseTracks state.leases history clockMs) (hclock : clockMs ≤ nowMs)
    (hclaim : request.isClaim = false) :
    LeaseTracks (state.leaseRoute nowMs request).1.leases
      (history ++ answerEvents pairingClaimCode nowMs request
        (state.leaseRoute nowMs request).2.body) nowMs := by
  have hplain : ∀ {body : HttpBody}, body.isPlain = true →
      leaseOf (history ++ answerEvents pairingClaimCode nowMs request body) =
        leaseOf history := by
    intro body hbody
    rw [answerEvents_of_plain hbody, hclaim, if_neg Bool.false_ne_true, List.append_nil]
  unfold NetHttpState.leaseRoute
  cases hmethod : request.method with
  | post =>
    simp only
    rcases state.leases.create_case nowMs (leaseEntropy request.entropy) with
      ⟨error, hcreate⟩ | ⟨-, hcreate⟩
    · rw [hcreate]
      exact (h.expire hclock).congr (Nat.le_refl _)
        (hplain (isPlain_accessErrorResponse error))
    · rw [hcreate]
      refine Or.inr ⟨leaseEntropy request.entropy, nowMs, ?_, Or.inl rfl⟩
      rw [leaseOf_append]
      simp [leaseResponse, HttpResponse.new, answerEvents, hmethod, leaseStep]
  | put =>
    simp only
    cases hid : request.leaseId.bind parseLeaseId with
    | none => exact h.congr hclock (hplain rfl)
    | some id =>
      simp only
      rcases state.leases.heartbeat_case nowMs id with
        ⟨error, hheartbeat⟩ | ⟨lease, hlease, hsame, hheartbeat⟩
      · rw [hheartbeat]
        exact (h.expire hclock).congr (Nat.le_refl _)
          (hplain (isPlain_accessErrorResponse error))
      · obtain ⟨renewedMs, hevents, -⟩ := (h.expire hclock).leaseOf_eq hlease
        rw [hheartbeat]
        refine Or.inr ⟨id, nowMs, ?_, Or.inl rfl⟩
        rw [leaseOf_append, hevents]
        simp [leaseResponse, HttpResponse.new, answerEvents, hmethod, leaseStep, hsame]
  | delete =>
    simp only
    cases hid : request.leaseId.bind parseLeaseId with
    | none => exact h.congr hclock (hplain rfl)
    | some id =>
      simp only
      rcases state.leases.release_case id with
        ⟨error, hrelease⟩ | ⟨lease, hlease, hsame, hrelease⟩
      · rw [hrelease]
        exact h.congr hclock (hplain (isPlain_accessErrorResponse error))
      · obtain ⟨renewedMs, hevents, -⟩ := h.leaseOf_eq hlease
        rw [hrelease]
        refine Or.inl ⟨?_, rfl⟩
        rw [leaseOf_append, hevents]
        simp [HttpResponse.new, answerEvents, hid, leaseStep, hsame]
  | get | options => exact h.congr hclock (hplain rfl)

theorem leaseOf_claim {response : HttpResponse}
    (hcase : ClaimCase pairingClaimCode state request after response) :
    leaseOf (history ++ answerEvents pairingClaimCode nowMs request response.body) =
      leaseOf history := by
  have hplain : ∀ {body : HttpBody}, body.isPlain = true →
      leaseOf (history ++ answerEvents pairingClaimCode nowMs request body) =
        leaseOf history := by
    intro body hbody
    rw [answerEvents_of_plain hbody, leaseOf_append]
    split_ifs
    · cases pairingClaimCode request.body <;> rfl
    · rfl
  cases hcase with
  | unread _ hbody => exact hplain hbody
  | wrong submitted error => exact hplain (isPlain_accessErrorResponse error)
  | granted =>
    obtain ⟨token, hbody, -⟩ := grantToken_body state request.entropy
    rw [hbody, leaseOf_append]
    rfl

theorem gate (h : LeaseTracks state.leases history clockMs) (hclock : clockMs ≤ nowMs)
    (hcase : GateCase pairingClaimCode state nowMs request after answer) :
    LeaseTracks after.leases (history ++ gateEvents pairingClaimCode nowMs request answer)
      nowMs := by
  have hplain : ∀ {body : HttpBody}, body.isPlain = true → request.isClaim = false →
      leaseOf (history ++ answerEvents pairingClaimCode nowMs request body) =
        leaseOf history := by
    intro body hbody hclaim
    rw [answerEvents_of_plain hbody, hclaim, if_neg Bool.false_ne_true, List.append_nil]
  cases hcase with
  | plain response hbody hclaim => exact h.congr hclock (hplain hbody hclaim)
  | claim hclaim =>
    have hevents : leaseOf (history ++ answerEvents pairingClaimCode nowMs request
        (state.claimPairing pairingClaimCode request).2.body) = leaseOf history :=
      leaseOf_claim (claimPairing_case state request)
    rw [(claimPairing_rest state request).2]
    exact h.congr hclock hevents
  | lease hauthorized hclaim => exact h.leaseRoute hclock hclaim
  | read => exact h.congr hclock (congrArg leaseOf (List.append_nil history))
  | refused response hbody hclaim =>
    exact (h.expire hclock).congr (Nat.le_refl _) (hplain hbody hclaim)
  | write =>
    exact (h.expire hclock).congr (Nat.le_refl _) (congrArg leaseOf (List.append_nil history))

end LeaseTracks

/-! ## The token -/

theorem clearedIn_answerEvents (hclaim : request.isClaim = false) (body : HttpBody)
    (h : clearedIn (history ++ answerEvents pairingClaimCode nowMs request body) = true) :
    clearedIn history = true := by
  rw [clearedIn_append] at h
  cases body with
  | token token => cases h
  | lease lease =>
    unfold answerEvents at h
    split_ifs at h <;> exact h
  | released =>
    unfold answerEvents at h
    cases hid : request.leaseId.bind parseLeaseId with
    | none =>
      rw [hid] at h
      exact h
    | some id =>
      rw [hid] at h
      exact h
  | _ =>
    unfold answerEvents at h
    rwa [hclaim, if_neg Bool.false_ne_true] at h

/-- After the token was cleared there is none until something is claimed. -/
def TokenTracks (state : NetHttpState) (history : List LanEvent) : Prop :=
  clearedIn history = true → state.token = none

namespace TokenTracks

theorem claim (h : TokenTracks state history) {response : HttpResponse}
    (hcase : ClaimCase pairingClaimCode state request after response) :
    TokenTracks after
      (history ++ answerEvents pairingClaimCode nowMs request response.body) := by
  intro hcleared
  have hplain : ∀ {body : HttpBody}, body.isPlain = true →
      clearedIn (history ++ answerEvents pairingClaimCode nowMs request body) =
        clearedIn history := by
    intro body hbody
    rw [answerEvents_of_plain hbody, clearedIn_append]
    split_ifs
    · cases pairingClaimCode request.body <;> rfl
    · rfl
  cases hcase with
  | unread _ hbody =>
    rw [hplain hbody] at hcleared
    exact h hcleared
  | wrong submitted error =>
    rw [hplain (isPlain_accessErrorResponse error)] at hcleared
    exact h hcleared
  | granted =>
    obtain ⟨token, hbody, -⟩ := grantToken_body state request.entropy
    rw [hbody, clearedIn_append] at hcleared
    cases hcleared

theorem gate (h : TokenTracks state history)
    (hcase : GateCase pairingClaimCode state nowMs request after answer) :
    TokenTracks after (history ++ gateEvents pairingClaimCode nowMs request answer) := by
  cases hcase with
  | plain response hplain hclaim | refused response hplain hclaim =>
    exact fun hcleared => h (clearedIn_answerEvents hclaim _ hcleared)
  | claim hclaim =>
    have hclaimed : TokenTracks _ (history ++ answerEvents pairingClaimCode nowMs request
        (state.claimPairing pairingClaimCode request).2.body) :=
      h.claim (claimPairing_case state request)
    exact hclaimed
  | lease hauthorized hclaim =>
    intro hcleared
    rw [(leaseRoute_rest state nowMs request).2.2]
    exact h (clearedIn_answerEvents hclaim _ hcleared)
  | read | write =>
    intro hcleared
    have hbefore : clearedIn (history ++ []) = true := hcleared
    rw [List.append_nil] at hbefore
    exact h hbefore

end TokenTracks

/-! ## The invariant -/

structure Tracks (session : Session) : Prop where
  window : WindowTracks session.state session.history
  lease : LeaseTracks session.state.leases session.history session.clockMs
  token : TokenTracks session.state session.history

namespace Tracks

variable {session later : Session}

theorem of_starts (h : session.Starts) : Tracks session := by
  obtain ⟨hhistory, persistedToken, hstate⟩ := h
  exact
    { window := .of_code_none (by rw [hstate]; rfl) _
      lease := Or.inl ⟨by rw [hhistory]; rfl, by rw [hstate]; rfl⟩
      token := fun hcleared => by
        rw [hhistory] at hcleared
        cases hcleared }

/-- Actions without events that leave the protected parts alone. -/
theorem silent (h : Tracks session) {state : NetHttpState}
    (hpairing : state.pairing = session.state.pairing)
    (hmode : state.pairingMode = session.state.pairingMode)
    (hleases : state.leases = session.state.leases) (htoken : state.token = session.state.token) :
    Tracks ⟨state, session.history ++ [], session.clockMs⟩ := by
  rw [List.append_nil]
  exact
    { window := h.window.congr hpairing hmode rfl
      lease := by
        rw [hleases]
        exact h.lease
      token := fun hcleared => htoken.trans (h.token hcleared) }

theorem window_step (h : Tracks session) {state : NetHttpState} {event : LanEvent}
    (hwindow : WindowTracks state (session.history ++ [event]))
    (hleases : state.leases = session.state.leases) (htoken : state.token = session.state.token)
    (hlease : leaseStep (leaseOf session.history) event = leaseOf session.history)
    (hcleared : clearedStep (clearedIn session.history) event = clearedIn session.history) :
    Tracks ⟨state, session.history ++ [event], session.clockMs⟩ :=
  { window := hwindow
    lease := by
      rw [hleases]
      refine h.lease.congr (Nat.le_refl _) ?_
      rw [leaseOf_append]
      exact hlease
    token := fun htrue => by
      rw [clearedIn_append] at htrue
      exact htoken.trans (h.token (hcleared.symm.trans htrue)) }

theorem apply (h : Tracks session) {action : LanAction}
    (hclock : ∀ nowMs ∈ action.timeMs, session.clockMs ≤ nowMs) :
    Tracks (session.apply pairingClaimCode action) := by
  cases action with
  | gate nowMs request =>
    have hcase := gate_case pairingClaimCode session.state nowMs request
    exact
      { window := h.window.gate hcase
        lease := h.lease.gate (hclock nowMs rfl) hcase
        token := h.token.gate hcase }
  | gateLightRead request => exact h.silent rfl rfl rfl rfl
  | pairingCodeFromRandom random =>
    by_cases hmode : session.state.pairingMode = .required
    · simp only [Session.apply, LanAction.perform, eventsOf, pairingCodeFromRandom,
        hmode, ne_eq, not_true_eq_false, if_false]
      refine h.window_step ?_ rfl rfl rfl rfl
      unfold PairingWindow.enter
      split_ifs
      · refine ⟨fun code hcode => ?_, fun hother => absurd rfl hother⟩
        obtain rfl := Option.some.inj hcode
        exact ⟨by rw [windowOf_append]; rfl, Nat.zero_lt_succ 4⟩
      · exact .of_code_none rfl _
    · simp only [Session.apply, LanAction.perform, eventsOf, pairingCodeFromRandom,
        ne_eq, hmode, not_false_eq_true, if_true]
      exact h.window_step (.of_code_none rfl _) rfl rfl rfl rfl
  | leavePairing => exact h.window_step (.of_code_none rfl _) rfl rfl rfl rfl
  | setPairingMode mode =>
    by_cases hmode : mode = .required
    · simp only [Session.apply, LanAction.perform, eventsOf, setPairingMode, ne_eq,
        hmode, not_true_eq_false, if_false, List.append_nil]
      exact
        { window := ⟨h.window.window, fun hother => absurd rfl hother⟩
          lease := h.lease
          token := h.token }
    · simp only [Session.apply, LanAction.perform, eventsOf, setPairingMode, ne_eq,
        hmode, not_false_eq_true, if_true]
      exact h.window_step (.of_code_none rfl _) rfl rfl rfl rfl
  | clearTokenFromUsb =>
    exact
      { window := h.window.congr rfl rfl (by
          show windowOf (session.history ++ [.cleared]) = _
          rw [windowOf_append]
          rfl)
        lease := Or.inl ⟨by
          show leaseOf (session.history ++ [.cleared]) = none
          rw [leaseOf_append]
          rfl, rfl⟩
        token := fun _ => rfl }
  | takePersistedTokenChange =>
    refine h.silent ?_ ?_ ?_ ?_ <;>
    · unfold LanAction.perform takePersistedTokenChange
      split_ifs <;> rfl
  | commandLeaseIsActive nowMs leaseId =>
    have hleases : (session.state.leases.require nowMs leaseId).1 =
        session.state.leases.expire nowMs := by
      rcases session.state.leases.require_case nowMs leaseId with
        ⟨error, hrequire⟩ | ⟨lease, hrequire, -⟩ <;> rw [hrequire]
    unfold Session.apply eventsOf
    rw [List.append_nil]
    exact
      { window := h.window.congr rfl rfl rfl
        lease := by
          show LeaseTracks (session.state.leases.require nowMs leaseId).1 _ _
          rw [hleases]
          exact h.lease.expire (hclock nowMs rfl)
        token := h.token }

theorem next (h : Tracks session) {action : LanAction}
    (hnext : session.next pairingClaimCode action = some later) : Tracks later := by
  unfold Session.next at hnext
  split_ifs at hnext with hclock
  obtain rfl := Option.some.inj hnext
  refine h.apply fun nowMs hnow => ?_
  rw [Option.mem_def.mp hnow] at hclock
  exact of_decide_eq_true hclock

theorem of_reaches {start : Session} {actions : List LanAction} (hstart : Tracks start)
    (hrun : Reaches (Session.Step pairingClaimCode) start actions session) : Tracks session :=
  hrun.invariant hstart fun _ _ _ htracks hnext => htracks.next hnext

end Tracks

end FluxPurr.Lan
