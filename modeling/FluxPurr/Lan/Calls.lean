import FluxPurr.Lan.Session

/-!
# Calls of the LAN gate

`gate_case` and `claimPairing_case` say what a call of the gate and a claim can do, so
that nothing else has to look at the order of the checks; the lease operations have a
`..._case` lemma each.
-/

namespace FluxPurr.Lan

open NetHttpState

variable {pairingClaimCode : String → Option String} {state : NetHttpState} {nowMs : ℕ}
  {request : HttpRequest}

/-! ## One call -/

theorem isPlain_accessErrorResponse (error : LanAccessError) :
    (accessErrorResponse error).body.isPlain = true := by
  cases error <;> rfl

theorem isClaim_eq_false (h : ¬ (request.method = .post ∧
    endpointForPath request.path = some .pairingClaim)) : request.isClaim = false :=
  decide_eq_false h

theorem passOn_case (request : HttpRequest) (endpoint : LanEndpoint) (leaseId : Option LeaseId)
    (state : NetHttpState) :
    (∃ response : HttpResponse, response.body.isPlain = true ∧
        state.passOn endpoint request leaseId = (state, .respond response)) ∨
      ∃ command, state.passOn endpoint request leaseId = (state, .dispatch command none) ∧
        command.leaseId = leaseId ∧
        (isControlWrite request.method endpoint = true →
          ∃ revision, command.expectedRevision = some revision) := by
  unfold passOn
  split_ifs with hmissing
  · exact Or.inl ⟨_, rfl, rfl⟩
  · refine Or.inr ⟨_, rfl, rfl, fun hcontrol => ?_⟩
    cases hrevision : request.expectedRevision with
    | none => exact absurd ⟨hcontrol, hrevision⟩ hmissing
    | some revision => exact ⟨revision, rfl⟩

namespace LanLeaseState

variable (leases : LanLeaseState) (nowMs : ℕ) (id : LeaseId)

theorem require_case : (∃ error, leases.require nowMs id = (leases.expire nowMs, .error error)) ∨
      ∃ lease, leases.require nowMs id = (leases.expire nowMs, .ok ()) ∧
        (leases.expire nowMs).lease = some lease ∧ lease.id = id := by
  unfold require
  cases hlease : (leases.expire nowMs).lease with
  | none =>
    refine Or.inl ⟨.leaseRequired, ?_⟩
    simp only [hlease]
  | some lease =>
    by_cases hid : constantTimeBytesEqual lease.id id = true
    · refine Or.inr ⟨lease, ?_, rfl, (constantTimeBytesEqual_iff _ _).mp hid⟩
      simp only [hlease, hid, if_true]
    · refine Or.inl ⟨.leaseRequired, ?_⟩
      simp only [hlease, hid]
      rfl

theorem create_case : (∃ error, leases.create nowMs id = (leases.expire nowMs, .error error)) ∨
      (leases.expire nowMs).lease = none ∧
        leases.create nowMs id =
          (⟨some ⟨id, saturatingAdd nowMs lanLeaseTtlMs⟩⟩,
            .ok ⟨id, saturatingAdd nowMs lanLeaseTtlMs⟩) := by
  unfold create
  cases hlease : (leases.expire nowMs).lease with
  | none =>
    refine Or.inr ⟨rfl, ?_⟩
    simp only [hlease, Option.isSome_none, Bool.false_eq_true, if_false]
  | some lease =>
    refine Or.inl ⟨.leaseBusy, ?_⟩
    simp only [hlease, Option.isSome_some, if_true]

theorem heartbeat_case :
    (∃ error, leases.heartbeat nowMs id = (leases.expire nowMs, .error error)) ∨
      ∃ lease, (leases.expire nowMs).lease = some lease ∧ lease.id = id ∧
        leases.heartbeat nowMs id =
          (⟨some ⟨id, saturatingAdd nowMs lanLeaseTtlMs⟩⟩,
            .ok ⟨id, saturatingAdd nowMs lanLeaseTtlMs⟩) := by
  unfold heartbeat
  cases hlease : (leases.expire nowMs).lease with
  | none =>
    refine Or.inl ⟨.leaseExpired, ?_⟩
    simp only [hlease]
  | some lease =>
    by_cases hid : constantTimeBytesEqual lease.id id = true
    · have hsame : lease.id = id := (constantTimeBytesEqual_iff _ _).mp hid
      refine Or.inr ⟨lease, rfl, hsame, ?_⟩
      simp only [hlease, hid, not_true_eq_false, if_false]
      rw [hsame]
    · refine Or.inl ⟨.leaseRequired, ?_⟩
      simp only [hlease, hid]
      rfl

theorem release_case : (∃ error, leases.release id = (leases, .error error)) ∨
      ∃ lease, leases.lease = some lease ∧ lease.id = id ∧ leases.release id = ({}, .ok ()) := by
  unfold release
  cases hlease : leases.lease with
  | none => exact Or.inl ⟨.leaseExpired, rfl⟩
  | some lease =>
    by_cases hid : constantTimeBytesEqual lease.id id = true
    · refine Or.inr ⟨lease, rfl, (constantTimeBytesEqual_iff _ _).mp hid, ?_⟩
      simp only [hid, not_true_eq_false, if_false]
    · refine Or.inl ⟨.leaseRequired, ?_⟩
      simp only [hid]
      rfl

end LanLeaseState

theorem requireLease_case (state : NetHttpState) (nowMs : ℕ) (value : Option String) :
    (∃ error, state.requireLease nowMs value = (state, .error error)) ∨
      (∃ error, state.requireLease nowMs value =
        ({ state with leases := state.leases.expire nowMs }, .error error)) ∨
      ∃ id lease, state.requireLease nowMs value =
          ({ state with leases := state.leases.expire nowMs }, .ok id) ∧
        (state.leases.expire nowMs).lease = some lease ∧ lease.id = id := by
  unfold requireLease
  cases hparsed : value.bind parseLeaseId with
  | none => exact Or.inl ⟨_, rfl⟩
  | some id =>
    rcases state.leases.require_case nowMs id with ⟨error, hrequire⟩ | ⟨lease, hrequire, hheld⟩
    · refine Or.inr (Or.inl ⟨error, ?_⟩)
      simp only [hrequire]
      rfl
    · refine Or.inr (Or.inr ⟨id, lease, ?_, hheld⟩)
      simp only [hrequire]
      rfl

theorem isPlain_preflight (request : HttpRequest) : (preflight request).body.isPlain = true := by
  unfold preflight
  by_cases hpolicy :
      (privateNetworkPreflight request.origin request.requestPrivateNetwork).allowOrigin = true
  · simp only [hpolicy, not_true_eq_false, if_false]
    rfl
  · simp only [hpolicy]
    rfl

theorem isPlain_gateLightRead {state : NetHttpState} {response : HttpResponse}
    (h : state.gateLightRead request = .respond response) : response.body.isPlain = true := by
  unfold gateLightRead at h
  simp only at h
  split_ifs at h
  · obtain rfl := HttpReadGate.respond.inj h
    rfl
  · obtain rfl := HttpReadGate.respond.inj h
    rfl
  all_goals
    split at h
    · cases h
    · split_ifs at h <;>
      · obtain rfl := HttpReadGate.respond.inj h
        rfl

variable (pairingClaimCode) in
theorem gate_case (state : NetHttpState) (nowMs : ℕ) (request : HttpRequest) :
    GateCase pairingClaimCode state nowMs request
      (state.gate pairingClaimCode nowMs request).1
      (state.gate pairingClaimCode nowMs request).2 := by
  unfold gate
  by_cases hoptions : request.method = .options
  · rw [if_pos hoptions]
    refine .plain _ (isPlain_preflight request) (isClaim_eq_false fun hclaim => ?_)
    rw [hoptions] at hclaim
    cases hclaim.1
  · rw [if_neg hoptions]
    unfold dispatchGate
    cases hendpoint : endpointForPath request.path with
    | none =>
      refine .plain _ rfl (isClaim_eq_false fun hclaim => ?_)
      rw [hendpoint] at hclaim
      cases hclaim.2
    | some endpoint =>
      by_cases hclaim : endpoint = .pairingClaim ∧ request.method = .post
      · -- the claim endpoint is the only one that needs no token and changes the state
        have hisClaim : request.isClaim = true :=
          decide_eq_true ⟨hclaim.2, hendpoint.trans (congrArg some hclaim.1)⟩
        obtain ⟨rfl, hpost⟩ := hclaim
        simp only [hpost, endpointAllowsMethod, not_true_eq_false, if_false, reduceCtorEq,
          and_self, if_true]
        exact .claim hisClaim
      · have hisClaim : request.isClaim = false := by
          refine isClaim_eq_false fun h => hclaim ⟨?_, h.1⟩
          exact Option.some.inj (hendpoint.symm.trans h.2)
        by_cases hmethod : endpointAllowsMethod endpoint request.method = true
        · simp only [hmethod, not_true_eq_false, if_false]
          by_cases hhealth : endpoint = .health
          · simp only [hhealth, if_true]
            exact .plain _ rfl hisClaim
          simp only [hhealth, if_false]
          by_cases hpairing : endpoint = .pairing ∧ request.method = .get
          · simp only [hpairing, and_self, if_true]
            exact .plain _ rfl hisClaim
          simp only [hpairing, hclaim, if_false]
          by_cases hauthorized : state.authorized request.authorization = true
          · simp only [hauthorized, not_true_eq_false, if_false]
            by_cases hlease : endpoint = .lease
            · simp only [hlease, if_true]
              exact .lease hauthorized hisClaim
            simp only [hlease, if_false]
            by_cases hwrite : isWrite request.method = true
            · have hcontrol : isControlWrite request.method endpoint = true := by
                have hnotClaim : endpoint ≠ .pairingClaim := by
                  rintro rfl
                  cases hm : request.method with
                  | post => exact hclaim ⟨rfl, hm⟩
                  | get | put | delete | options =>
                    rw [hm] at hmethod
                    cases hmethod
                simp [isControlWrite, hwrite, hlease, hnotClaim]
              simp only [hwrite, if_true]
              rcases requireLease_case state nowMs request.leaseId with
                ⟨error, hrequire⟩ | ⟨error, hrequire⟩ | ⟨id, lease, hrequire, hheld, hid⟩
              · rw [hrequire]
                exact .plain _ rfl hisClaim
              · rw [hrequire]
                exact .refused _ rfl hisClaim
              · rw [hrequire]
                rcases passOn_case request endpoint (some id)
                  { state with leases := state.leases.expire nowMs } with
                  ⟨response, hplain, hpassOn⟩ | ⟨command, hpassOn, hleaseId, hrevision⟩
                · simp only [hpassOn]
                  exact .refused _ hplain hisClaim
                · obtain ⟨revision, hrevision⟩ := hrevision hcontrol
                  simp only [hpassOn]
                  exact .write command _ id revision lease hauthorized hwrite hleaseId hrevision
                    hheld hid
            · simp only [hwrite]
              rcases passOn_case request endpoint none state with
                ⟨response, hplain, hpassOn⟩ | ⟨command, hpassOn, hleaseId, hrevision⟩
              · rw [hpassOn]
                exact .plain _ hplain hisClaim
              · rw [hpassOn]
                exact .read command _ hauthorized (Bool.eq_false_iff.mpr hwrite) hleaseId
          · simp only [hauthorized]
            exact .plain _ rfl hisClaim
        · simp only [hmethod]
          exact .plain _ rfl hisClaim

/-! ## Claims -/

theorem PairingWindow.claim_case (window : PairingWindow) (submitted : String) :
    (window.code = some (asBytes submitted) ∧ window.failedAttempts < lanPairingMaxFailures ∧
        window.claim submitted = (window, .ok ())) ∨
      ((window.code = none ∨ lanPairingMaxFailures ≤ window.failedAttempts) ∧
        ∃ error, window.claim submitted = (window, .error error)) ∨
      ∃ code error, window.code = some code ∧ asBytes submitted ≠ code ∧
        window.claim submitted =
          (⟨if lanPairingMaxFailures ≤ window.failedAttempts + 1 then none else some code,
            window.failedAttempts + 1⟩, .error error) := by
  unfold claim
  cases hcode : window.code with
  | none => exact Or.inr (Or.inl ⟨Or.inl rfl, _, rfl⟩)
  | some code =>
    by_cases hlocked : lanPairingMaxFailures ≤ window.failedAttempts
    · simp only [if_pos hlocked]
      exact Or.inr (Or.inl ⟨Or.inr hlocked, _, rfl⟩)
    · simp only [if_neg hlocked]
      by_cases hright : asBytes submitted = code
      · simp only [if_pos hright]
        exact Or.inl ⟨congrArg some hright.symm, Nat.lt_of_not_le hlocked, trivial⟩
      · simp only [if_neg hright]
        refine Or.inr (Or.inr ⟨code, ?_⟩)
        split_ifs
        · exact ⟨.pairingLocked, rfl, hright, rfl⟩
        · exact ⟨.pairingCodeInvalid, rfl, hright, rfl⟩

/-- What a claim does: it fails without a look at the code, it fails by the code, or it
is granted. -/
inductive ClaimCase (pairingClaimCode : String → Option String) (state : NetHttpState)
    (request : HttpRequest) : NetHttpState → HttpResponse → Prop
  | unread (response : HttpResponse) (hplain : response.body.isPlain = true)
      (hunread : state.pairingMode ≠ .required ∨ pairingClaimCode request.body = none) :
      ClaimCase pairingClaimCode state request state response
  | wrong (submitted : String) (error : LanAccessError) (pairing : PairingWindow)
      (hsubmitted : pairingClaimCode request.body = some submitted)
      (hclaim : state.pairing.claim submitted = (pairing, .error error)) :
      ClaimCase pairingClaimCode state request { state with pairing := pairing }
        (accessErrorResponse error)
  | granted (hright : state.pairingMode = .required → ∃ submitted,
        pairingClaimCode request.body = some submitted ∧
          state.pairing.code = some (asBytes submitted) ∧
          state.pairing.failedAttempts < lanPairingMaxFailures) :
      ClaimCase pairingClaimCode state request (state.grantToken request.entropy).1
        (state.grantToken request.entropy).2

theorem claimPairing_case (state : NetHttpState) (request : HttpRequest) :
    ClaimCase pairingClaimCode state request
      (state.claimPairing pairingClaimCode request).1
      (state.claimPairing pairingClaimCode request).2 := by
  unfold claimPairing
  split
  · cases hsubmitted : pairingClaimCode request.body with
    | none => exact .unread _ rfl (Or.inr hsubmitted)
    | some submitted =>
      simp only
      rcases state.pairing.claim_case submitted with
        ⟨hcode, hfailed, hclaim⟩ | ⟨-, error, hclaim⟩ | ⟨code, error, -, -, hclaim⟩
      · rw [hclaim]
        exact .granted fun _ => ⟨submitted, hsubmitted, hcode, hfailed⟩
      · rw [hclaim]
        exact .wrong submitted error _ hsubmitted hclaim
      · rw [hclaim]
        exact .wrong submitted error _ hsubmitted hclaim
  · rename_i hmode
    refine .granted fun hrequired => ?_
    rw [hmode] at hrequired
    cases hrequired
  · rename_i hmode
    refine .unread _ rfl (Or.inl ?_)
    rw [hmode]
    nofun

theorem grantToken_body (state : NetHttpState) (entropy : List UInt8) :
    ∃ token, (state.grantToken entropy).2.body = .token token ∧
      (state.grantToken entropy).1.token = some token := by
  unfold grantToken
  cases htoken : state.token with
  | none => exact ⟨entropy, rfl, rfl⟩
  | some token => exact ⟨token, rfl, htoken⟩

theorem grantToken_rest (state : NetHttpState) (entropy : List UInt8) :
    (state.grantToken entropy).1.pairing = state.pairing ∧
      (state.grantToken entropy).1.pairingMode = state.pairingMode ∧
      (state.grantToken entropy).1.leases = state.leases := by
  unfold grantToken
  cases state.token with
  | none | some token => exact ⟨rfl, rfl, rfl⟩

theorem claimPairing_rest (state : NetHttpState) (request : HttpRequest) :
    (state.claimPairing pairingClaimCode request).1.pairingMode = state.pairingMode ∧
      (state.claimPairing pairingClaimCode request).1.leases = state.leases := by
  have hcase : ClaimCase pairingClaimCode state request _ _ := claimPairing_case state request
  rcases hclaim : state.claimPairing pairingClaimCode request with ⟨after, response⟩
  rw [hclaim] at hcase
  cases hcase with
  | unread | wrong => exact ⟨rfl, rfl⟩
  | granted => exact (grantToken_rest state request.entropy).2

theorem leaseRoute_rest (state : NetHttpState) (nowMs : ℕ) (request : HttpRequest) :
    (state.leaseRoute nowMs request).1.pairing = state.pairing ∧
      (state.leaseRoute nowMs request).1.pairingMode = state.pairingMode ∧
      (state.leaseRoute nowMs request).1.token = state.token := by
  unfold leaseRoute
  split
  · exact ⟨rfl, rfl, rfl⟩
  · split <;> exact ⟨rfl, rfl, rfl⟩
  · split
    · exact ⟨rfl, rfl, rfl⟩
    · split <;> exact ⟨rfl, rfl, rfl⟩
  · exact ⟨rfl, rfl, rfl⟩

/-! ## Events -/

theorem answerEvents_of_plain {body : HttpBody} (hplain : body.isPlain = true) :
    answerEvents pairingClaimCode nowMs request body =
      if request.isClaim then (pairingClaimCode request.body).toList.map .claimFailed else [] := by
  cases body with
  | token | lease | released => cases hplain
  | _ => rfl

variable (history events : List LanEvent)

theorem windowOf_append :
    windowOf (history ++ events) = events.foldl windowStep (windowOf history) :=
  List.foldl_append

theorem leaseOf_append : leaseOf (history ++ events) = events.foldl leaseStep (leaseOf history) :=
  List.foldl_append

theorem clearedIn_append :
    clearedIn (history ++ events) = events.foldl clearedStep (clearedIn history) :=
  List.foldl_append

end FluxPurr.Lan
