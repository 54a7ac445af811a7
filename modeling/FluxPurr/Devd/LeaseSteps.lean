import FluxPurr.Devd.Leases
import FluxPurr.Wire.Serde

/-!
# What an operation does to the leases

The operations of the daemon under the lock of its state, and the law that each of them
should respect: no device has two leases that have not expired, every lease has a device,
and a lease or a device is gone only with a reason of its own (`LeaseLaw`).

Most of what an operation does is to take leases away (`Shrinks`): a cleanup those that have
expired, a rescan those of the devices that it did not find.  A lease is put under its id by
a grant (`createLease_cases`) and by a renewal (`heartbeatLease_cases`).
-/

namespace FluxPurr.Devd

open FluxPurr.Collections FluxPurr.Runs
open FluxPurr.Wire (Json)

/-! ## Ids -/

theorem not_minus_mem_repr (n : ℕ) : '-' ∉ n.repr.toList := by
  intro h
  have hdigit := List.all_eq_true.mp (Json.all_isDigit_repr n) '-' h
  exact absurd hdigit (by decide)

theorem append_minus_cancel {front front' back back' : List Char} (hback : '-' ∉ back)
    (hback' : '-' ∉ back') (h : front ++ '-' :: back = front' ++ '-' :: back') :
    back = back' := by
  have hlast : ∀ front back : List Char, '-' ∉ back →
      ((front ++ '-' :: back).reverse.takeWhile (· ≠ '-')).reverse = back := by
    intro front back hback
    have hrest : (back.reverse ++ '-' :: front.reverse).takeWhile (· ≠ '-') = back.reverse := by
      rw [List.takeWhile_append_of_pos]
      · simp
      · intro c hc
        have hc' : c ∈ back := List.mem_reverse.mp hc
        simp only [decide_eq_true_eq]
        rintro rfl
        exact hback hc'
    rw [List.reverse_append, List.reverse_cons, List.append_assoc, List.singleton_append, hrest,
      List.reverse_reverse]
  rw [← hlast front back hback, h, hlast front' back' hback']

theorem idText_inj {label label' : String} {nowMillis nowMillis' sequence sequence' : ℕ}
    (h : idText label nowMillis sequence = idText label' nowMillis' sequence') :
    sequence = sequence' := by
  have hchars := congrArg String.toList h
  simp only [idText, String.toList_append, List.append_assoc] at hchars
  have hfront : (label.toList ++ '-' :: nowMillis.repr.toList) ++ '-' :: sequence.repr.toList =
      (label'.toList ++ '-' :: nowMillis'.repr.toList) ++ '-' :: sequence'.repr.toList := by
    simpa using hchars
  have hrepr := append_minus_cancel (not_minus_mem_repr sequence) (not_minus_mem_repr sequence')
    hfront
  have hread := Json.digitsToNat?_repr sequence
  rw [hrepr, Json.digitsToNat?_repr] at hread
  exact (Option.some.inj hread).symm

/-! ## Operations and what they leave -/

inductive Operation where
  | listDevices (host : Host)
  | createLease (host : Host) (deviceId : String) (clock : DevdState.LeaseClock)
  | heartbeatLease (leaseId : String) (cleanup renewed : Instant)
  | deleteLease (leaseId : String)
  | reapExpiredLeases (now : Instant)
  | requireLease (deviceId : String) (leaseId : Option String) (now : Instant)
  | findLocalUpdateTarget (host : Host) (port : String)
  /-- `connect_lan_device`, once the identity is verified. -/
  | connectLanDevice (device : DeviceRecord)
  /-- The locked half of an emission. -/
  | pushEvent (event : DevdEvent)
  /-- An id for something else than a lease. -/
  | nextId (label : String) (nowMillis : ℕ)

namespace Operation

/-- The state after the operation, and the lease that it granted or renewed, with the time. -/
def perform (serialPort : Option String) :
    Operation → DevdState → DevdState × Option (String × Instant)
  | listDevices host, state => ((state.listDevices serialPort host).1, none)
  | createLease host deviceId clock, state =>
      let created := state.createLeaseHandler serialPort host deviceId clock
      (created.1, created.2.toOption.map fun lease => (lease.leaseId, clock.granted))
  | heartbeatLease leaseId cleanup renewed, state =>
      let beat := state.heartbeatLease leaseId cleanup renewed
      (beat.1, beat.2.toOption.map fun _ => (leaseId, renewed))
  | deleteLease leaseId, state => ((state.deleteLease leaseId).1, none)
  | reapExpiredLeases now, state => ((state.cleanupLeases now).1, none)
  | requireLease deviceId leaseId now, state => ((state.requireLease deviceId leaseId now).1, none)
  | findLocalUpdateTarget host port, state => ((state.findLocalUpdateTarget host port).1, none)
  | connectLanDevice device, state =>
      ({ state with devices := state.devices.insert device.id device }, none)
  | pushEvent event, state => (state.pushEvent event, none)
  | nextId label nowMillis, state => ((state.nextId label nowMillis).1, none)

/-- The operation reads the clock in this interval, at times that do not decrease. -/
def Within (clock clock' : Instant) : Operation → Prop
  | createLease _ _ readings =>
      clock ≤ readings.cleanup ∧
        (∀ leaseId, readings.cleanup ≤ readings.compared leaseId ∧
          readings.compared leaseId ≤ readings.granted) ∧ readings.granted ≤ clock'
  | heartbeatLease _ cleanup renewed => clock ≤ cleanup ∧ cleanup ≤ renewed ∧ renewed ≤ clock'
  | reapExpiredLeases now | requireLease _ _ now => clock ≤ now ∧ now ≤ clock'
  | _ => clock ≤ clock'

/-- The time of its cleanup. -/
def cleansAt : Operation → Option Instant
  | createLease _ _ readings => some readings.cleanup
  | heartbeatLease _ cleanup _ => some cleanup
  | reapExpiredLeases now | requireLease _ _ now => some now
  | _ => none

/-- What it sees of the serial ports. -/
def host? : Operation → Option Host
  | listDevices host | createLease host _ _ | findLocalUpdateTarget host _ => some host
  | _ => none

end Operation

variable (serialPort : Option String) (state : DevdState)

/-- The configured scan finds the device. -/
def Enumerated (host : Host) (deviceId : String) : Prop :=
  deviceId ∈ (scanSerialDevices host serialPort).map (·.id)

structure Daemon where
  state : DevdState
  clock : Instant
  /-- When a lease was granted or last renewed. -/
  renewedAt : String → Instant

def Daemon.after (operation : Operation) (clock : Instant) (before : Daemon) : Daemon where
  state := (operation.perform serialPort before.state).1
  clock := clock
  renewedAt := match (operation.perform serialPort before.state).2 with
    | some (leaseId, at_) => Function.update before.renewedAt leaseId at_
    | none => before.renewedAt

/-- One operation. -/
def Next (before : Daemon) (operation : Operation) (after : Daemon) : Prop :=
  operation.Within before.clock after.clock ∧ after = before.after serialPort operation after.clock

/-! ## The law -/

/-- A device has at most one lease that has not expired. -/
def Exclusive (clock : Instant) : Prop :=
  ∀ leaseId leaseId' lease lease', state.leases.lookup leaseId = some lease →
    state.leases.lookup leaseId' = some lease' → lease.deviceId = lease'.deviceId →
      clock < lease.expiresAt → clock < lease'.expiresAt → leaseId = leaseId'

/-- Every lease names an existing device. -/
def Housed : Prop :=
  ∀ leaseId lease, state.leases.lookup leaseId = some lease →
    (state.devices.lookup lease.deviceId).isSome

/-- Nothing was heard of the lease for its whole time to live, up to the cleanup. -/
def TimedOut (before : Daemon) (operation : Operation) (leaseId : String) : Prop :=
  ∃ now ∈ operation.cleansAt, before.renewedAt leaseId + defaultLeaseTtlMs * nanosPerMilli ≤ now

/-- The operation looked at the ports while the device was not enumerated. -/
def NotEnumerated (operation : Operation) (deviceId : String) : Prop :=
  ∃ host ∈ operation.host?, ¬ Enumerated serialPort host deviceId

/-- What a step of the daemon should respect. -/
structure LeaseLaw (serialPort : Option String) (before : Daemon) (operation : Operation)
    (after : Daemon) : Prop where
  exclusive : Exclusive after.state after.clock
  housed : Housed after.state
  stable : ∀ leaseId lease, before.state.leases.lookup leaseId = some lease →
    (∃ lease', after.state.leases.lookup leaseId = some lease' ∧ lease'.deviceId = lease.deviceId) ∨
    operation = .deleteLease leaseId ∨ TimedOut before operation leaseId ∨
      NotEnumerated serialPort operation lease.deviceId
  devices : ∀ deviceId, (before.state.devices.lookup deviceId).isSome →
    (after.state.devices.lookup deviceId).isSome ∨ NotEnumerated serialPort operation deviceId

/-- The scan of one port misses no serial device that is still enumerated, and there is a
sequence number left for a lease. -/
def Meets (before : Daemon) : Operation → Prop
  | .findLocalUpdateTarget host port =>
      ∀ deviceId device, before.state.devices.lookup deviceId = some device →
        device.transport = .nativeSerial → Enumerated serialPort host deviceId →
          Enumerated (some port) host deviceId
  | .createLease .. => before.state.sequence < sequenceMax
  | _ => True

/-! ## Operations that only take leases away -/

/-- Devices are kept under their own ids. -/
def Keyed (devices : HashMap String DeviceRecord) : Prop :=
  ∀ deviceId device, devices.lookup deviceId = some device → device.id = deviceId

/-- No lease is new or changed, and one that is gone is excused. -/
structure Shrinks (Excused : String → WebLease → Prop) (before after : DevdState) : Prop where
  kept : ∀ leaseId lease, before.leases.lookup leaseId = some lease →
    after.leases.lookup leaseId = some lease ∨ Excused leaseId lease
  old : ∀ leaseId lease, after.leases.lookup leaseId = some lease →
    before.leases.lookup leaseId = some lease
  keyed : Keyed before.devices → Keyed after.devices
  housed : Housed before → Housed after
  sequence : after.sequence = before.sequence

namespace Shrinks

variable {Excused Excused' : String → WebLease → Prop} {before middle after : DevdState}

protected theorem trans (h : Shrinks Excused before middle) (h' : Shrinks Excused' middle after) :
    Shrinks (fun leaseId lease => Excused leaseId lease ∨ Excused' leaseId lease)
      before after where
  kept leaseId lease hlease := by
    obtain hkept | hexcused := h.kept leaseId lease hlease
    · exact (h'.kept leaseId lease hkept).imp_right .inr
    · exact .inr (.inl hexcused)
  old leaseId lease hlease := h.old leaseId lease (h'.old leaseId lease hlease)
  keyed hkeyed := h'.keyed (h.keyed hkeyed)
  housed hhoused := h'.housed (h.housed hhoused)
  sequence := h'.sequence.trans h.sequence

theorem exclusive (h : Shrinks Excused before after) {clock clock' : Instant}
    (hclock : clock ≤ clock') (hexclusive : Exclusive before clock) :
    Exclusive after clock' := by
  intro leaseId leaseId' lease lease' hlease hlease' hsame hfresh hfresh'
  exact hexclusive leaseId leaseId' lease lease' (h.old _ _ hlease) (h.old _ _ hlease') hsame
    (hclock.trans_lt hfresh) (hclock.trans_lt hfresh')

end Shrinks

theorem lookup_leases_cleanup (now : Instant) (leaseId : String) :
    (state.cleanupLeases now).1.leases.lookup leaseId =
      (state.leases.lookup leaseId).filter fun lease => now < lease.expiresAt :=
  HashMap.lookup_retain _ _ _

theorem shrinks_cleanup (now : Instant) :
    Shrinks (fun _ lease => lease.expiresAt ≤ now) state (state.cleanupLeases now).1 where
  kept leaseId lease h := by
    rw [lookup_leases_cleanup, h]
    by_cases hnow : now < lease.expiresAt
    · simp [hnow]
    · exact .inr (Nat.le_of_not_lt hnow)
  old leaseId lease h := by
    rw [lookup_leases_cleanup, Option.filter_eq_some_iff] at h
    exact h.1
  keyed := id
  housed hhoused leaseId lease h := by
    rw [lookup_leases_cleanup, Option.filter_eq_some_iff] at h
    exact hhoused leaseId lease h.1
  sequence := rfl

theorem fresh_of_cleanup {state : DevdState} {now : Instant} {leaseId : String} {lease : WebLease}
    (h : (state.cleanupLeases now).1.leases.lookup leaseId = some lease) :
    now < lease.expiresAt := by
  rw [lookup_leases_cleanup, Option.filter_eq_some_iff] at h
  exact of_decide_eq_true h.2

theorem shrinks_delete (leaseId : String) :
    Shrinks (fun gone _ => gone = leaseId) state (state.deleteLease leaseId).1 where
  kept other lease h := by
    by_cases heq : other = leaseId
    · exact .inr heq
    · refine .inl ?_
      rw [show (state.deleteLease leaseId).1.leases = state.leases.erase leaseId from rfl,
        HashMap.lookup_erase_eq, if_neg heq, h]
  old other lease h := by
    replace h : (state.leases.erase leaseId).lookup other = some lease := h
    rw [HashMap.lookup_erase_eq] at h
    split at h
    · cases h
    · exact h
  keyed := id
  housed hhoused other lease h := by
    replace h : (state.leases.erase leaseId).lookup other = some lease := h
    rw [HashMap.lookup_erase_eq] at h
    split at h
    · cases h
    · exact hhoused other lease h
  sequence := rfl

/-! ### Rescans -/

namespace DevdState

variable (found : HashMap String DeviceRecord × List String)

theorem lookup_refreshSerialDevice (device : DeviceRecord) (deviceId : String) :
    ((refreshSerialDevice found device).1.lookup deviceId).isSome ↔
      deviceId = device.id ∨ (found.1.lookup deviceId).isSome := by
  unfold refreshSerialDevice
  split <;> rw [HashMap.lookup_insert_eq] <;> split <;> simp_all

theorem keyed_refreshSerialDevice {found : HashMap String DeviceRecord × List String}
    (device : DeviceRecord) (hkeyed : Keyed found.1) :
    Keyed (refreshSerialDevice found device).1 := by
  intro deviceId kept h
  unfold refreshSerialDevice at h
  split at h
  · rename_i existing hexisting
    rw [HashMap.lookup_insert_eq] at h
    split at h
    · rename_i heq
      have hid : existing.id = device.id := hkeyed _ _ hexisting
      rw [← Option.some.inj h, heq]
      exact hid
    · exact hkeyed _ _ h
  · rw [HashMap.lookup_insert_eq] at h
    split at h
    · rename_i heq
      rw [← Option.some.inj h, heq]
    · exact hkeyed _ _ h

variable (serialDevices : List DeviceRecord)

theorem isSome_foldl_refresh (deviceId : String) :
    ((serialDevices.foldl refreshSerialDevice found).1.lookup deviceId).isSome ↔
      deviceId ∈ serialDevices.map (·.id) ∨ (found.1.lookup deviceId).isSome := by
  induction serialDevices generalizing found with
  | nil => simp
  | cons device rest ih =>
    rw [List.foldl_cons, ih, lookup_refreshSerialDevice, List.map_cons, List.mem_cons]
    tauto

theorem keyed_foldl_refresh
    {found : HashMap String DeviceRecord × List String} (hkeyed : Keyed found.1) :
    Keyed (serialDevices.foldl refreshSerialDevice found).1 := by
  induction serialDevices generalizing found with
  | nil => exact hkeyed
  | cons device rest ih => exact ih (keyed_refreshSerialDevice device hkeyed)

/-- The devices after a rescan: those that it found, and those that it did not have to
find. -/
theorem isSome_devices_refresh (state : DevdState) (deviceId : String) :
    ((state.refreshSerialDevices serialDevices).1.devices.lookup deviceId).isSome ↔
      deviceId ∈ serialDevices.map (·.id) ∨
        ∃ device, state.devices.lookup deviceId = some device ∧
          stillThere serialDevices device := by
  rw [refreshSerialDevices, isSome_foldl_refresh, HashMap.lookup_retain, Option.isSome_iff_exists]
  simp only [Option.filter_eq_some_iff]

/-- A device that a rescan takes away is a serial one that it did not find. -/
theorem not_found_of_refresh {serialDevices : List DeviceRecord} {state : DevdState}
    {deviceId : String} {device : DeviceRecord}
    (hdevice : state.devices.lookup deviceId = some device)
    (hgone : ¬ ((state.refreshSerialDevices serialDevices).1.devices.lookup deviceId).isSome) :
    device.transport = .nativeSerial ∧ deviceId ∉ serialDevices.map (·.id) := by
  rw [isSome_devices_refresh, not_or] at hgone
  refine ⟨?_, hgone.1⟩
  by_contra htransport
  exact hgone.2 ⟨device, hdevice, by simp [stillThere, htransport]⟩

theorem lookup_leases_refresh (state : DevdState) (leaseId : String) :
    (state.refreshSerialDevices serialDevices).1.leases.lookup leaseId =
      (state.leases.lookup leaseId).filter fun lease =>
        ((state.devices.retain fun _ device => stillThere serialDevices device).lookup
          lease.deviceId).isSome := by
  rw [refreshSerialDevices, HashMap.lookup_retain]

theorem lookup_leases_refresh_of_isSome {serialDevices : List DeviceRecord} {state : DevdState}
    (hkeyed : Keyed state.devices) (hhoused : Housed state) {leaseId : String} {lease : WebLease}
    (hlease : state.leases.lookup leaseId = some lease)
    (hthere : ((state.refreshSerialDevices serialDevices).1.devices.lookup
      lease.deviceId).isSome) :
    (state.refreshSerialDevices serialDevices).1.leases.lookup leaseId = some lease := by
  obtain ⟨device, hdevice⟩ := Option.isSome_iff_exists.mp (hhoused leaseId lease hlease)
  have hstill : stillThere serialDevices device = true := by
    rw [isSome_devices_refresh] at hthere
    obtain hfound | ⟨device', hdevice', hstill⟩ := hthere
    · have hid : device.id ∈ serialDevices.map (·.id) := by
        rw [hkeyed _ _ hdevice]
        exact hfound
      simp only [stillThere, List.contains_eq_mem, decide_eq_true hid, Bool.or_true]
    · rw [hdevice] at hdevice'
      rw [Option.some.inj hdevice']
      exact hstill
  rw [lookup_leases_refresh, hlease, Option.filter_some, HashMap.lookup_retain, hdevice,
    Option.filter_some, if_pos hstill]
  rfl

end DevdState

theorem shrinks_refresh {state : DevdState} (hkeyed : Keyed state.devices)
    (hhoused : Housed state) (serialDevices : List DeviceRecord) :
    Shrinks
      (fun _ lease => ¬ ((state.refreshSerialDevices serialDevices).1.devices.lookup
        lease.deviceId).isSome)
      state (state.refreshSerialDevices serialDevices).1 where
  kept leaseId lease h := by
    by_cases hthere :
        ((state.refreshSerialDevices serialDevices).1.devices.lookup lease.deviceId).isSome
    · exact .inl (DevdState.lookup_leases_refresh_of_isSome hkeyed hhoused h hthere)
    · exact .inr hthere
  old leaseId lease h := by
    rw [DevdState.lookup_leases_refresh, Option.filter_eq_some_iff] at h
    exact h.1
  keyed _ := by
    refine DevdState.keyed_foldl_refresh serialDevices ?_
    intro deviceId device h
    rw [HashMap.lookup_retain, Option.filter_eq_some_iff] at h
    exact hkeyed _ _ h.1
  housed _ leaseId lease h := by
    rw [DevdState.lookup_leases_refresh, Option.filter_eq_some_iff] at h
    exact (DevdState.isSome_foldl_refresh _ _ _).mpr (.inr h.2)
  sequence := rfl

/-! ## Grants and renewals -/

namespace DevdState

/-- A lease is refused, or granted to a device none of whose leases is still fresh. -/
theorem createLease_cases (deviceId : String) (clock : LeaseClock) (state : DevdState) :
    (∃ refusal, state.createLease deviceId clock =
      ((state.cleanupLeases clock.cleanup).1, .error refusal)) ∨
    ∃ leaseId,
      leaseId = idText "lease" clock.nowMillis (min (state.sequence + 1) sequenceMax) ∧
      (state.devices.lookup deviceId).isSome ∧
      (∀ other lease, (state.cleanupLeases clock.cleanup).1.leases.lookup other = some lease →
        lease.deviceId = deviceId → lease.expiresAt ≤ clock.compared other) ∧
      state.createLease deviceId clock =
        ({ state with
            sequence := min (state.sequence + 1) sequenceMax
            leases := (state.cleanupLeases clock.cleanup).1.leases.insert leaseId
              (grantedLease leaseId deviceId clock.granted) },
          .ok (grantedLease leaseId deviceId clock.granted)) := by
  unfold createLease
  dsimp only
  by_cases hdevice : ((state.cleanupLeases clock.cleanup).1.devices.lookup deviceId).isNone
  · exact .inl ⟨_, if_pos hdevice⟩
  rw [if_neg hdevice]
  cases hfound : (state.cleanupLeases clock.cleanup).1.leases.entries.find? fun entry =>
      entry.2.deviceId = deviceId && clock.compared entry.1 < entry.2.expiresAt with
  | some existing => exact .inl ⟨_, rfl⟩
  | none =>
    refine .inr ⟨_, rfl, ?_, ?_, rfl⟩
    · exact Option.isSome_iff_ne_none.mpr fun hnone =>
        hdevice (Option.isNone_iff_eq_none.mpr hnone)
    · intro other lease hlease hsame
      have hentry := List.find?_eq_none.mp hfound ⟨other, lease⟩
        (AList.mem_lookup_iff.mp hlease)
      simpa [hsame] using hentry

theorem heartbeatLease_cases (leaseId : String) (cleanup renewed : Instant) (state : DevdState) :
    (∃ refusal, state.heartbeatLease leaseId cleanup renewed =
      ((state.cleanupLeases cleanup).1, .error refusal)) ∨
    ∃ lease lease', (state.cleanupLeases cleanup).1.leases.lookup leaseId = some lease ∧
      lease'.deviceId = lease.deviceId ∧
      lease'.expiresAt = renewed + defaultLeaseTtlMs * nanosPerMilli ∧
      state.heartbeatLease leaseId cleanup renewed =
        ({ state with leases := (state.cleanupLeases cleanup).1.leases.insert leaseId lease' },
          .ok lease') := by
  unfold heartbeatLease
  dsimp only
  cases hlease : (state.cleanupLeases cleanup).1.leases.lookup leaseId with
  | none => exact .inl ⟨_, rfl⟩
  | some lease =>
    exact .inr ⟨lease, { lease with
      expiresAt := renewed + defaultLeaseTtlMs * nanosPerMilli
      ttlMs := defaultLeaseTtlMs }, rfl, rfl, rfl, rfl⟩

theorem requireLease_state (deviceId : String) (leaseId : Option String) (now : Instant)
    (state : DevdState) :
    (state.requireLease deviceId leaseId now).1 = (state.cleanupLeases now).1 := by
  unfold requireLease
  dsimp only
  cases leaseId with
  | none => rfl
  | some leaseId =>
    dsimp only
    split
    · rfl
    · split <;> rfl

end DevdState

end FluxPurr.Devd
