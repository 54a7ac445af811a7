import FluxPurr.Devd.LeaseSteps

/-!
# Leases over runs of the daemon

A run is a sequence of operations at times that do not decrease.  It remembers when each
lease was granted or last renewed.

`findLocalUpdateTarget` scans one port and takes every other serial device for gone
(`not_all_steps_lawful`).  In a run in which such a scan misses no device that is still
enumerated, and the sequence number is not used up, every step is lawful
(`step_lawful`).
-/

namespace FluxPurr.Devd

open FluxPurr.Collections FluxPurr.Runs
open Operation
open DevdState

/-! ## The invariant of a run -/

/-- The time of a lease is counted from its last renewal, and its number is used up. -/
structure Invariant (daemon : Daemon) : Prop where
  bounded : daemon.state.sequence ≤ sequenceMax
  keyed : Keyed daemon.state.devices
  housed : Housed daemon.state
  exclusive : Exclusive daemon.state daemon.clock
  dated : ∀ leaseId lease, daemon.state.leases.lookup leaseId = some lease →
    lease.expiresAt = daemon.renewedAt leaseId + defaultLeaseTtlMs * nanosPerMilli
  numbered : ∀ leaseId lease, daemon.state.leases.lookup leaseId = some lease →
    ∃ nowMillis number, leaseId = idText "lease" nowMillis number ∧ number ≤ daemon.state.sequence

variable {serialPort : Option String} {operation : Operation} {before after : Daemon}

variable {Excused : String → WebLease → Prop}

theorem lawful_of_shrinks (hinv : Invariant before)
    (hshrinks : Shrinks Excused before.state after.state) (hclock : before.clock ≤ after.clock)
    (hrenewed : after.renewedAt = before.renewedAt)
    (hexcused : ∀ leaseId lease, before.state.leases.lookup leaseId = some lease →
      Excused leaseId lease → operation = .deleteLease leaseId ∨
        TimedOut before operation leaseId ∨ NotEnumerated serialPort operation lease.deviceId)
    (hdevices : ∀ deviceId, (before.state.devices.lookup deviceId).isSome →
      (after.state.devices.lookup deviceId).isSome ∨ NotEnumerated serialPort operation deviceId) :
    Invariant after ∧ LeaseLaw serialPort before operation after := by
  have hexclusive := hshrinks.exclusive hclock hinv.exclusive
  have hhoused := hshrinks.housed hinv.housed
  refine ⟨⟨hshrinks.sequence ▸ hinv.bounded, hshrinks.keyed hinv.keyed, hhoused, hexclusive,
    ?_, ?_⟩, hexclusive, hhoused, ?_, hdevices⟩
  · intro leaseId lease hlease
    rw [hrenewed]
    exact hinv.dated leaseId lease (hshrinks.old leaseId lease hlease)
  · intro leaseId lease hlease
    rw [hshrinks.sequence]
    exact hinv.numbered leaseId lease (hshrinks.old leaseId lease hlease)
  · intro leaseId lease hlease
    obtain hkept | hexc := hshrinks.kept leaseId lease hlease
    · exact .inl ⟨lease, hkept, rfl⟩
    · exact .inr (hexcused leaseId lease hlease hexc)

variable {leaseId : String}

/-- The leases are first thinned out, and then one is put under its id. -/
theorem lawful_of_put {thinned : DevdState}
    {lease : WebLease} {at_ : Instant} (hinv : Invariant before)
    (hshrinks : Shrinks Excused before.state thinned) (hclock : before.clock ≤ after.clock)
    (hleases : after.state.leases = thinned.leases.insert leaseId lease)
    (hdevs : after.state.devices = thinned.devices)
    (hsequence : thinned.sequence ≤ after.state.sequence)
    (hbounded : after.state.sequence ≤ sequenceMax)
    (hrenewed : after.renewedAt = Function.update before.renewedAt leaseId at_)
    (hdevice : (thinned.devices.lookup lease.deviceId).isSome)
    (hexpires : lease.expiresAt = at_ + defaultLeaseTtlMs * nanosPerMilli)
    (hothers : ∀ other lease', thinned.leases.lookup other = some lease' →
      lease'.deviceId = lease.deviceId → after.clock < lease'.expiresAt → other = leaseId)
    (hsame : ∀ lease', before.state.leases.lookup leaseId = some lease' →
      lease.deviceId = lease'.deviceId)
    (hnumber : ∃ nowMillis number, leaseId = idText "lease" nowMillis number ∧
      number ≤ after.state.sequence)
    (hexcused : ∀ other lease', before.state.leases.lookup other = some lease' →
      Excused other lease' → operation = .deleteLease other ∨
        TimedOut before operation other ∨ NotEnumerated serialPort operation lease'.deviceId)
    (hdevices : ∀ deviceId, (before.state.devices.lookup deviceId).isSome →
      (after.state.devices.lookup deviceId).isSome ∨ NotEnumerated serialPort operation deviceId) :
    Invariant after ∧ LeaseLaw serialPort before operation after := by
  have hlookup : ∀ other, after.state.leases.lookup other =
      if other = leaseId then some lease else thinned.leases.lookup other := by
    intro other
    rw [hleases, HashMap.lookup_insert_eq]
  have hcases : ∀ other lease', after.state.leases.lookup other = some lease' →
      (other = leaseId ∧ lease' = lease) ∨
        (other ≠ leaseId ∧ thinned.leases.lookup other = some lease') := by
    intro other lease' h
    rw [hlookup] at h
    split at h
    · rename_i heq
      exact .inl ⟨heq, (Option.some.inj h).symm⟩
    · rename_i hne
      exact .inr ⟨hne, h⟩
  have hexclusive : Exclusive after.state after.clock := by
    intro first second lease₁ lease₂ h₁ h₂ heq hfresh₁ hfresh₂
    obtain ⟨rfl, rfl⟩ | ⟨hne₁, hold₁⟩ := hcases _ _ h₁
    · obtain ⟨rfl, rfl⟩ | ⟨hne₂, hold₂⟩ := hcases _ _ h₂
      · rfl
      · exact (hothers _ _ hold₂ heq.symm hfresh₂).symm
    · obtain ⟨rfl, rfl⟩ | ⟨hne₂, hold₂⟩ := hcases _ _ h₂
      · exact hothers _ _ hold₁ heq hfresh₁
      · exact hshrinks.exclusive hclock hinv.exclusive _ _ _ _ hold₁ hold₂ heq hfresh₁ hfresh₂
  have hhoused : Housed after.state := by
    intro other lease' h
    rw [hdevs]
    obtain ⟨rfl, rfl⟩ | ⟨-, hold⟩ := hcases _ _ h
    · exact hdevice
    · exact hshrinks.housed hinv.housed _ _ hold
  refine ⟨⟨hbounded, ?_, hhoused, hexclusive, ?_, ?_⟩, hexclusive, hhoused, ?_, hdevices⟩
  · rw [hdevs]
    exact hshrinks.keyed hinv.keyed
  · intro other lease' h
    rw [hrenewed]
    obtain ⟨rfl, rfl⟩ | ⟨hne, hold⟩ := hcases _ _ h
    · rw [Function.update_self, hexpires]
    · rw [Function.update_of_ne hne]
      exact hinv.dated _ _ (hshrinks.old _ _ hold)
  · intro other lease' h
    obtain ⟨rfl, rfl⟩ | ⟨-, hold⟩ := hcases _ _ h
    · exact hnumber
    · obtain ⟨nowMillis, number, hid, hle⟩ := hinv.numbered _ _ (hshrinks.old _ _ hold)
      exact ⟨nowMillis, number, hid, hle.trans (hshrinks.sequence ▸ hsequence)⟩
  · intro other lease' h
    by_cases heq : other = leaseId
    · subst heq
      exact .inl ⟨lease, by rw [hlookup, if_pos rfl], hsame _ h⟩
    · obtain hkept | hexc := hshrinks.kept _ _ h
      · exact .inl ⟨lease', by rw [hlookup, if_neg heq, hkept], rfl⟩
      · exact .inr (hexcused _ _ h hexc)

/-! ## Every operation is lawful -/

theorem timedOut_of_cleanup (hinv : Invariant before) {now : Instant}
    (hcleans : now ∈ operation.cleansAt) {lease : WebLease}
    (hlease : before.state.leases.lookup leaseId = some lease) (hnow : lease.expiresAt ≤ now) :
    TimedOut before operation leaseId :=
  ⟨now, hcleans, by rwa [← hinv.dated leaseId lease hlease]⟩

theorem lawful_of_cleanup (hinv : Invariant before) {now : Instant}
    (hcleans : now ∈ operation.cleansAt) (hclock : before.clock ≤ after.clock)
    (hstate : after.state = (before.state.cleanupLeases now).1)
    (hrenewed : after.renewedAt = before.renewedAt) :
    Invariant after ∧ LeaseLaw serialPort before operation after := by
  refine lawful_of_shrinks hinv (hstate ▸ shrinks_cleanup before.state now) hclock hrenewed ?_ ?_
  · intro leaseId lease hlease hnow
    exact .inr (.inl (timedOut_of_cleanup hinv hcleans hlease hnow))
  · intro deviceId hdevice
    rw [hstate]
    exact .inl hdevice

theorem lawful_of_devices (hinv : Invariant before) (hclock : before.clock ≤ after.clock)
    (hleases : after.state.leases = before.state.leases)
    (hsequence : before.state.sequence ≤ after.state.sequence)
    (hbounded : after.state.sequence ≤ sequenceMax)
    (hrenewed : after.renewedAt = before.renewedAt)
    (hkeyed : Keyed before.state.devices → Keyed after.state.devices)
    (hdevices : ∀ deviceId, (before.state.devices.lookup deviceId).isSome →
      (after.state.devices.lookup deviceId).isSome) :
    Invariant after ∧ LeaseLaw serialPort before operation after := by
  have hhoused : Housed after.state := by
    intro leaseId lease h
    exact hdevices _ (hinv.housed leaseId lease (by rw [← hleases, h]))
  have hexclusive : Exclusive after.state after.clock := by
    intro leaseId leaseId' lease lease' h h' hsame hfresh hfresh'
    rw [hleases] at h h'
    exact hinv.exclusive _ _ _ _ h h' hsame (hclock.trans_lt hfresh) (hclock.trans_lt hfresh')
  refine ⟨⟨hbounded, hkeyed hinv.keyed, hhoused, hexclusive, ?_, ?_⟩, hexclusive, hhoused, ?_, ?_⟩
  · intro leaseId lease h
    rw [hrenewed]
    exact hinv.dated leaseId lease (by rw [← hleases, h])
  · intro leaseId lease h
    obtain ⟨nowMillis, number, hid, hle⟩ := hinv.numbered leaseId lease (by rw [← hleases, h])
    exact ⟨nowMillis, number, hid, hle.trans hsequence⟩
  · intro leaseId lease h
    exact .inl ⟨lease, by rw [hleases, h], rfl⟩
  · intro deviceId hdevice
    exact .inl (hdevices deviceId hdevice)

theorem lawful_of_refresh (hinv : Invariant before) {serialDevices : List DeviceRecord}
    (hclock : before.clock ≤ after.clock)
    (hstate : after.state = (before.state.refreshSerialDevices serialDevices).1)
    (hrenewed : after.renewedAt = before.renewedAt)
    (hscan : ∀ deviceId device, before.state.devices.lookup deviceId = some device →
      device.transport = .nativeSerial → deviceId ∉ serialDevices.map (·.id) →
        NotEnumerated serialPort operation deviceId) :
    Invariant after ∧ LeaseLaw serialPort before operation after := by
  have hgone : ∀ deviceId, (before.state.devices.lookup deviceId).isSome →
      ¬ (after.state.devices.lookup deviceId).isSome →
        NotEnumerated serialPort operation deviceId := by
    intro deviceId hdevice hnot
    obtain ⟨device, hdevice⟩ := Option.isSome_iff_exists.mp hdevice
    rw [hstate] at hnot
    obtain ⟨hserial, hmissed⟩ := not_found_of_refresh hdevice hnot
    exact hscan deviceId device hdevice hserial hmissed
  refine lawful_of_shrinks hinv
    (hstate ▸ shrinks_refresh hinv.keyed hinv.housed serialDevices) hclock hrenewed ?_ ?_
  · intro leaseId lease hlease hnot
    exact .inr (.inr (hgone _ (hinv.housed leaseId lease hlease) (hstate ▸ hnot)))
  · intro deviceId hdevice
    exact or_iff_not_imp_left.mpr (hgone deviceId hdevice)

variable {deviceId : String} {host : Host}

theorem notEnumerated_of_missed (hhost : host ∈ operation.host?)
    (hmissed : deviceId ∉ (scanSerialDevices host serialPort).map (·.id)) :
    NotEnumerated serialPort operation deviceId := ⟨host, hhost, hmissed⟩

variable {devices : HashMap String DeviceRecord}

theorem keyed_mapValues (hkeyed : Keyed devices)
    {f : DeviceRecord → DeviceRecord} (hid : ∀ device, (f device).id = device.id) :
    Keyed (devices.mapValues f) := by
  intro deviceId device h
  rw [HashMap.lookup_mapValues, Option.map_eq_some_iff] at h
  obtain ⟨device', hdevice', rfl⟩ := h
  rw [hid]
  exact hkeyed _ _ hdevice'

theorem isSome_lookup_insert (inserted : DeviceRecord) (h : (devices.lookup deviceId).isSome) :
    ((devices.insert inserted.id inserted).lookup deviceId).isSome := by
  rw [HashMap.lookup_insert_eq]
  split
  · rfl
  · exact h

theorem keyed_insert (hkeyed : Keyed devices)
    (inserted : DeviceRecord) : Keyed (devices.insert inserted.id inserted) := by
  intro deviceId device h
  rw [HashMap.lookup_insert_eq] at h
  split at h
  · rename_i heq
    rw [← Option.some.inj h, heq]
  · exact hkeyed _ _ h

theorem lawful_heartbeatLease {cleanup renewed : Instant} (hinv : Invariant before)
    (hnext : Next serialPort before (.heartbeatLease leaseId cleanup renewed) after) :
    Invariant after ∧ LeaseLaw serialPort before (.heartbeatLease leaseId cleanup renewed)
      after := by
  obtain ⟨⟨hclean, hrenew, hend⟩, hafter⟩ := hnext
  have hclock : before.clock ≤ after.clock := hclean.trans (hrenew.trans hend)
  obtain ⟨refusal, hrefused⟩ | ⟨lease, lease', hlease, hsame, hexpires, hbeat⟩ :=
    heartbeatLease_cases leaseId cleanup renewed before.state
  · refine lawful_of_cleanup hinv rfl hclock ?_ ?_
    · rw [hafter, Daemon.after, perform, hrefused]
    · rw [hafter, Daemon.after, perform, hrefused]
      rfl
  · have hold := (shrinks_cleanup before.state cleanup).old _ _ hlease
    have hleases : after.state.leases =
        (before.state.cleanupLeases cleanup).1.leases.insert leaseId lease' := by
      rw [hafter, Daemon.after, perform, hbeat]
    refine lawful_of_put hinv (shrinks_cleanup before.state cleanup) hclock hleases
      ?_ ?_ ?_ ?_ ?_ hexpires ?_ ?_ ?_ ?_ ?_
    · rw [hafter, Daemon.after, perform, hbeat]
      rfl
    · rw [hafter, Daemon.after, perform, hbeat]
      exact le_rfl
    · rw [hafter, Daemon.after, perform, hbeat]
      exact hinv.bounded
    · rw [hafter, Daemon.after, perform, hbeat]
      rfl
    · rw [hsame]
      exact hinv.housed _ _ hold
    · intro other lease'' hother hdevice hfresh
      -- both were still fresh before the renewal
      have hfreshLease : before.clock < lease.expiresAt := hclean.trans_lt (fresh_of_cleanup hlease)
      exact hinv.exclusive _ _ _ _ ((shrinks_cleanup before.state cleanup).old _ _ hother) hold
        (hdevice.trans hsame) (hclock.trans_lt hfresh) hfreshLease
    · intro lease'' h
      rw [hold] at h
      rw [hsame, Option.some.inj h]
    · obtain ⟨nowMillis, number, hid, hle⟩ := hinv.numbered _ _ hold
      refine ⟨nowMillis, number, hid, ?_⟩
      rw [hafter, Daemon.after, perform, hbeat]
      exact hle
    · intro other lease'' h hexpired
      exact .inr (.inl (timedOut_of_cleanup hinv rfl h hexpired))
    · intro deviceId hdevice
      rw [hafter, Daemon.after, perform, hbeat]
      exact .inl hdevice

/-- The number of the next lease is not that of a lease there is. -/
theorem lookup_nextId_eq_none (hinv : Invariant before)
    (hnumber : before.state.sequence < sequenceMax) (nowMillis : ℕ) :
    before.state.leases.lookup
      (idText "lease" nowMillis (min (before.state.sequence + 1) sequenceMax)) = none := by
  rw [Option.eq_none_iff_forall_ne_some]
  intro lease hlease
  obtain ⟨nowMillis', number, hid, hle⟩ := hinv.numbered _ _ hlease
  have heq := idText_inj hid
  omega

theorem lawful_createLease {clock : DevdState.LeaseClock}
    (hinv : Invariant before) (hnumber : before.state.sequence < sequenceMax)
    (hnext : Next serialPort before (.createLease host deviceId clock) after) :
    Invariant after ∧ LeaseLaw serialPort before (.createLease host deviceId clock) after := by
  obtain ⟨⟨hclean, hcompared, hend⟩, hafter⟩ := hnext
  have hclock : before.clock ≤ after.clock :=
    hclean.trans ((hcompared "").1.trans ((hcompared "").2.trans hend))
  obtain ⟨scanned, hscanned⟩ : ∃ scanned, scanned =
    (before.state.refreshSerialDevices (scanSerialDevices host serialPort)).1 := ⟨_, rfl⟩
  have hrefresh : Shrinks (fun _ lease => ¬ (scanned.devices.lookup lease.deviceId).isSome)
      before.state scanned :=
    hscanned ▸ shrinks_refresh hinv.keyed hinv.housed (scanSerialDevices host serialPort)
  have hsequence : scanned.sequence = before.state.sequence := hrefresh.sequence
  have hthin := hrefresh.trans (shrinks_cleanup scanned clock.cleanup)
  have hgone : ∀ deviceId', (before.state.devices.lookup deviceId').isSome →
      ¬ (scanned.devices.lookup deviceId').isSome →
        NotEnumerated serialPort (.createLease host deviceId clock) deviceId' := by
    intro deviceId' hdevice hnot
    obtain ⟨device, hdevice⟩ := Option.isSome_iff_exists.mp hdevice
    rw [hscanned] at hnot
    exact notEnumerated_of_missed rfl (not_found_of_refresh hdevice hnot).2
  have hexcused : ∀ leaseId lease, before.state.leases.lookup leaseId = some lease →
      (¬ (scanned.devices.lookup lease.deviceId).isSome ∨ lease.expiresAt ≤ clock.cleanup) →
      createLease host deviceId clock = .deleteLease leaseId ∨
        TimedOut before (.createLease host deviceId clock) leaseId ∨
        NotEnumerated serialPort (.createLease host deviceId clock) lease.deviceId := by
    intro leaseId lease hlease hexc
    obtain hmissed | hexpired := hexc
    · exact .inr (.inr (hgone _ (hinv.housed _ _ hlease) hmissed))
    · exact .inr (.inl (timedOut_of_cleanup hinv rfl hlease hexpired))
  obtain ⟨refusal, hrefused⟩ | ⟨leaseId, hid, hdevice, hothers, hgranted⟩ :=
    createLease_cases deviceId clock scanned
  · have hperform : (createLease host deviceId clock).perform serialPort before.state =
        ((scanned.cleanupLeases clock.cleanup).1, none) := by
      rw [perform, createLeaseHandler, ← hscanned, hrefused]
      rfl
    have hstate : after.state = (scanned.cleanupLeases clock.cleanup).1 := by
      rw [hafter, Daemon.after, hperform]
    refine lawful_of_shrinks hinv (hstate ▸ hthin) hclock ?_ hexcused ?_
    · rw [hafter, Daemon.after, hperform]
    · intro deviceId' hdevice
      rw [hstate]
      exact or_iff_not_imp_left.mpr (hgone deviceId' hdevice)
  · have hperform : (createLease host deviceId clock).perform serialPort before.state =
        ({ scanned with
            sequence := min (scanned.sequence + 1) sequenceMax
            leases := (scanned.cleanupLeases clock.cleanup).1.leases.insert leaseId
              (grantedLease leaseId deviceId clock.granted) },
          some (leaseId, clock.granted)) := by
      rw [perform, createLeaseHandler, ← hscanned, hgranted]
      rfl
    have hnone : before.state.leases.lookup leaseId = none := by
      rw [hid, hsequence]
      exact lookup_nextId_eq_none hinv hnumber _
    have hleases : after.state.leases =
        (scanned.cleanupLeases clock.cleanup).1.leases.insert leaseId
          (grantedLease leaseId deviceId clock.granted) := by
      rw [hafter, Daemon.after, hperform]
    have hbounded : scanned.sequence ≤ sequenceMax := hsequence ▸ hinv.bounded
    refine lawful_of_put hinv hthin hclock hleases ?_ ?_ ?_ ?_ hdevice rfl ?_ ?_ ?_ hexcused ?_
    · rw [hafter, Daemon.after, hperform]
      rfl
    · rw [hafter, Daemon.after, hperform]
      exact le_min (Nat.le_succ _) hbounded
    · rw [hafter, Daemon.after, hperform]
      exact min_le_right _ _
    · rw [hafter, Daemon.after, hperform]
    · intro other lease' hother hsame hfresh
      have hstale := hothers other lease' hother hsame
      have htime := (hcompared other).2.trans hend
      exact absurd hfresh (Nat.not_lt.mpr (hstale.trans htime))
    · intro lease' h
      rw [hnone] at h
      cases h
    · refine ⟨clock.nowMillis, _, hid, ?_⟩
      rw [hafter, Daemon.after, hperform]
    · intro deviceId' hdevice
      rw [hafter, Daemon.after, hperform]
      exact or_iff_not_imp_left.mpr (hgone deviceId' hdevice)

/-- A step that meets the condition keeps the invariant and the law. -/
theorem lawful (hinv : Invariant before) (hmeets : Meets serialPort before operation)
    (hnext : Next serialPort before operation after) :
    Invariant after ∧ LeaseLaw serialPort before operation after := by
  cases operation with
  | listDevices host =>
    obtain ⟨hclock, hafter⟩ := hnext
    refine lawful_of_refresh hinv hclock (by rw [hafter]; rfl) (by rw [hafter]; rfl) ?_
    intro deviceId device hdevice hserial hmissed
    exact notEnumerated_of_missed rfl hmissed
  | createLease host deviceId clock => exact lawful_createLease hinv hmeets hnext
  | heartbeatLease leaseId cleanup renewed => exact lawful_heartbeatLease hinv hnext
  | deleteLease leaseId =>
    obtain ⟨hclock, hafter⟩ := hnext
    have hstate : after.state = (before.state.deleteLease leaseId).1 := by
      rw [hafter]
      rfl
    refine lawful_of_shrinks hinv (hstate ▸ shrinks_delete before.state leaseId) hclock
      (by rw [hafter]; rfl) ?_ ?_
    · intro other lease hlease heq
      exact .inl (by rw [heq])
    · intro deviceId hdevice
      rw [hstate]
      exact .inl hdevice
  | reapExpiredLeases now =>
    obtain ⟨⟨hstart, hend⟩, hafter⟩ := hnext
    exact lawful_of_cleanup hinv rfl (hstart.trans hend) (by rw [hafter]; rfl)
      (by rw [hafter]; rfl)
  | requireLease deviceId leaseId now =>
    obtain ⟨⟨hstart, hend⟩, hafter⟩ := hnext
    refine lawful_of_cleanup hinv rfl (hstart.trans hend) ?_ (by rw [hafter]; rfl)
    rw [← requireLease_state deviceId leaseId, hafter]
    rfl
  | findLocalUpdateTarget host port =>
    obtain ⟨hclock, hafter⟩ := hnext
    refine lawful_of_refresh hinv hclock (by rw [hafter]; rfl) (by rw [hafter]; rfl) ?_
    intro deviceId device hdevice hserial hmissed
    refine ⟨host, rfl, fun henumerated => ?_⟩
    exact hmissed (hmeets deviceId device hdevice hserial henumerated)
  | connectLanDevice device =>
    obtain ⟨hclock, hafter⟩ := hnext
    refine lawful_of_devices hinv hclock (by rw [hafter]; rfl) (by rw [hafter]; exact le_rfl)
      (by rw [hafter]; exact hinv.bounded) (by rw [hafter]; rfl) ?_ ?_
    · intro hkeyed
      rw [hafter]
      exact keyed_insert hkeyed device
    · intro deviceId hdevice
      rw [hafter]
      exact isSome_lookup_insert device hdevice
  | pushEvent event =>
    obtain ⟨hclock, hafter⟩ := hnext
    refine lawful_of_devices hinv hclock (by rw [hafter]; rfl) (by rw [hafter]; exact le_rfl)
      (by rw [hafter]; exact hinv.bounded) (by rw [hafter]; rfl) ?_ ?_
    · intro hkeyed
      rw [hafter]
      refine keyed_mapValues hkeyed fun device => ?_
      split <;> rfl
    · intro deviceId hdevice
      rw [hafter]
      change ((before.state.devices.mapValues _).lookup deviceId).isSome
      rw [HashMap.lookup_mapValues, Option.isSome_map]
      exact hdevice
  | nextId label nowMillis =>
    obtain ⟨hclock, hafter⟩ := hnext
    refine lawful_of_devices hinv hclock (by rw [hafter]; rfl) ?_ ?_ (by rw [hafter]; rfl) ?_ ?_
    · rw [hafter]
      exact le_min (Nat.le_succ _) hinv.bounded
    · rw [hafter]
      exact min_le_right _ _
    · intro hkeyed
      rw [hafter]
      exact hkeyed
    · intro deviceId hdevice
      rw [hafter]
      exact hdevice

/-! ## Runs -/

/-- No lease has been granted yet. -/
structure Started (daemon : Daemon) : Prop where
  bounded : daemon.state.sequence ≤ sequenceMax
  keyed : Keyed daemon.state.devices
  leases : daemon.state.leases = ∅

theorem Started.invariant {start : Daemon} (hstart : Started start) : Invariant start := by
  have hnone : ∀ leaseId, start.state.leases.lookup leaseId = none := by
    intro leaseId
    rw [hstart.leases, AList.lookup_empty]
  refine ⟨hstart.bounded, hstart.keyed, ?_, ?_, ?_, ?_⟩
  · intro leaseId lease h
    cases (hnone leaseId).symm.trans h
  · intro leaseId leaseId' lease lease' h
    cases (hnone leaseId).symm.trans h
  · intro leaseId lease h
    cases (hnone leaseId).symm.trans h
  · intro leaseId lease h
    cases (hnone leaseId).symm.trans h

theorem Started.invariant_of_reaches {start daemon : Daemon} (hstart : Started start)
    {operations : List Operation}
    (hrun : Reaches (fun before operation after =>
      Meets serialPort before operation ∧ Next serialPort before operation after)
      start operations daemon) : Invariant daemon :=
  hrun.invariant hstart.invariant fun _ _ _ hinv hstep => (lawful hinv hstep.1 hstep.2).1

/-- In a run in which the scan of one port misses no device that is still enumerated, and
in which ids do not run out, every step respects the law. -/
theorem step_lawful {start : Daemon} (hstart : Started start) {operations : List Operation}
    (hrun : Reaches (fun before operation after =>
      Meets serialPort before operation ∧ Next serialPort before operation after)
      start operations before)
    (hmeets : Meets serialPort before operation) (hnext : Next serialPort before operation after) :
    LeaseLaw serialPort before operation after :=
  (lawful (hstart.invariant_of_reaches hrun) hmeets hnext).2

/-- A scan of one port keeps the other devices exactly if it finds those that are there. -/
theorem findLocalUpdateTarget_keeps_iff (hinv : Invariant before) {port : String}
    (hnext : Next serialPort before (.findLocalUpdateTarget host port) after) :
    LeaseLaw serialPort before (.findLocalUpdateTarget host port) after ↔
      Meets serialPort before (.findLocalUpdateTarget host port) := by
  refine ⟨fun hlaw => ?_, fun hmeets => (lawful hinv hmeets hnext).2⟩
  intro deviceId device hdevice hserial henumerated
  have hkept := (hlaw.devices deviceId (by rw [hdevice]; rfl)).resolve_right
    fun ⟨_, hhost, hnot⟩ => hnot (Option.some.inj hhost ▸ henumerated)
  rw [hnext.2] at hkept
  obtain hfound | ⟨device', hdevice', hstill⟩ := (isSome_devices_refresh _ _ _).mp hkept
  · exact hfound
  · rw [hdevice] at hdevice'
    obtain rfl := Option.some.inj hdevice'
    have hid : device.id = deviceId := hinv.keyed _ _ hdevice
    simpa [Enumerated, stillThere, hserial, hid] using hstill

/-! ## Two ports -/

def twoPorts : Host where
  targetOs := .linux
  availablePorts := some [
    ⟨"/dev/ttyACM0", .usbPort ⟨0x303a, 0x1001, some "A0", none⟩⟩,
    ⟨"/dev/ttyACM1", .usbPort ⟨0x303a, 0x1001, some "A1", none⟩⟩]
  pathExists path := path = "/dev/ttyACM0" || path = "/dev/ttyACM1"
  canonicalize path := some path
  eventId := "event-0-0"
  timestamp := "0"

def idleDaemon : Daemon where
  state := { devices := ∅, leases := ∅, firmwareApprovals := ∅, sequence := 0 }
  clock := 0
  renewedAt := fun _ => 0

theorem idleDaemon_started : Started idleDaemon := by
  refine ⟨Nat.zero_le _, ?_, rfl⟩
  intro deviceId device h
  cases (AList.lookup_empty deviceId).symm.trans h

/-- A client takes the lease of the device on the second port. -/
def leaseSecond : Operation := .createLease twoPorts "serial-303a-1001-A1" ⟨0, fun _ => 0, 0, 0⟩

theorem next_leaseSecond : Next none idleDaemon leaseSecond (idleDaemon.after none leaseSecond 0) :=
  ⟨⟨le_rfl, fun _ => ⟨le_rfl, le_rfl⟩, le_rfl⟩, rfl⟩

/-- An update of the device on the first port takes the lease away. -/
theorem not_all_steps_lawful : ¬ ∀ (serialPort : Option String) (start : Daemon), Started start →
      ∀ (operations : List Operation) (before : Daemon),
        Reaches (Next serialPort) start operations before →
          ∀ (operation : Operation) (after : Daemon), Next serialPort before operation after →
            LeaseLaw serialPort before operation after := by
  intro h
  have hlaw := h none idleDaemon idleDaemon_started [leaseSecond] _ (.step .refl next_leaseSecond)
    (.findLocalUpdateTarget twoPorts "/dev/ttyACM0")
    ((idleDaemon.after none leaseSecond 0).after none
      (.findLocalUpdateTarget twoPorts "/dev/ttyACM0") 0) ⟨le_rfl, rfl⟩
  have hstable := hlaw.stable "lease-0-1"
    (grantedLease "lease-0-1" "serial-303a-1001-A1" 0) (by decide +kernel)
  obtain ⟨lease, hlease, -⟩ | heq | ⟨now, hnow, -⟩ | ⟨host, hhost, hnot⟩ := hstable
  · have hgone : (((idleDaemon.after none leaseSecond 0).after none
        (.findLocalUpdateTarget twoPorts "/dev/ttyACM0") 0).state.leases.lookup
          "lease-0-1").isNone = true := by decide +kernel
    rw [hlease] at hgone
    cases hgone
  · cases heq
  · cases hnow
  · cases hhost
    exact hnot (by unfold Enumerated; decide +kernel)

theorem step_lawful_heartbeat :
    LeaseLaw none (idleDaemon.after none leaseSecond 0) (.heartbeatLease "lease-0-1" 1 1)
      ((idleDaemon.after none leaseSecond 0).after none (.heartbeatLease "lease-0-1" 1 1) 1) :=
  have hmeets : Meets none idleDaemon leaseSecond := show (0 : ℕ) < 2 ^ 64 - 1 by decide
  step_lawful idleDaemon_started (.step .refl ⟨hmeets, next_leaseSecond⟩) trivial
    ⟨⟨Nat.zero_le _, le_rfl, le_rfl⟩, rfl⟩

end FluxPurr.Devd
