import FluxPurr.Devd.LeaseRuns
import FluxPurr.Runs.RecentHistory

/-!
# The event stream of a device

An emission pushes its event into the backlog of the device and then broadcasts it.  A
client takes the backlog and then subscribes to the broadcast.  These are four atomic steps,
and each emission and the client take theirs in any order.

An event that is pushed before the client takes the backlog and broadcast after it has
subscribed reaches the client twice (`not_all_streams_exact`); one that is pushed and
broadcast in between reaches it never.  Where the client subscribes while exactly the
events are on their way that were pushed since it took the backlog, and the events of the
device are broadcast in the order of their pushes, the stream is the backlog followed by
every later event (`stream_exact`).
-/

namespace FluxPurr.Devd

open FluxPurr.Collections FluxPurr.Runs
open FluxPurr.Wire (Json)

def deviceEventReplayLimit : ℕ := 120

/-- The last events of the device, as many as are replayed. -/
def deviceEventBacklog (deviceId : String) (state : DevdState) : Except Refusal (List DevdEvent) :=
  match state.devices.lookup deviceId with
  | none => .error (.notFound "device_not_found" "Device not found.")
  | some device => .ok (device.events.reverse.take deviceEventReplayLimit).reverse

namespace EventStream

/-- The capacity of a channel is rounded up to a power of two. -/
def broadcastCapacity : ℕ := 1024

/-- Where the client is: it has not asked yet, it has the backlog, or it listens and has not
received these events yet. -/
inductive Client where
  | waiting
  | opened (backlog : List DevdEvent)
  | refused (refusal : Refusal)
  | listening (queue : List DevdEvent)

structure Stream where
  state : DevdState
  /-- The events that are pushed and not yet broadcast. -/
  emitting : List DevdEvent
  client : Client
  delivered : List DevdEvent
  /-- The events of the device that were pushed since the start. -/
  pushed : List DevdEvent
  /-- How many of them were pushed when the client took the backlog. -/
  openedAt : ℕ

inductive Action where
  /-- The first half of `emit`. -/
  | push (event : DevdEvent)
  /-- The second half of one of the emissions. -/
  | broadcast (index : ℕ)
  /-- `device_events` takes the backlog. -/
  | takeBacklog
  /-- `device_events` subscribes, and replays the backlog. -/
  | subscribe
  /-- The client receives the next event. -/
  | receive

/-- The event is one of the device. -/
def isOf (deviceId : String) (event : DevdEvent) : Bool := event.deviceId = some deviceId

namespace Stream

/-- A receiver that lags behind loses its oldest event. -/
def send (event : DevdEvent) : Client → Client
  | .listening queue => .listening (DevdState.pushBounded queue event broadcastCapacity)
  | client => client

def step (deviceId : String) (before : Stream) : Action → Option Stream
  | .push event => some { before with
      state := before.state.pushEvent event
      emitting := before.emitting ++ [event]
      pushed := if isOf deviceId event then before.pushed ++ [event] else before.pushed }
  | .broadcast index =>
      match before.emitting[index]? with
      | none => none
      | some event => some { before with
          emitting := before.emitting.eraseIdx index
          client := send event before.client }
  | .takeBacklog =>
      match before.client with
      | .waiting => some { before with
          client := match deviceEventBacklog deviceId before.state with
            | .ok backlog => .opened backlog
            | .error refusal => .refused refusal
          openedAt := before.pushed.length }
      | _ => none
  | .subscribe =>
      match before.client with
      | .opened backlog => some { before with
          client := .listening []
          delivered := backlog }
      | _ => none
  | .receive =>
      match before.client with
      | .listening (event :: queue) => some { before with
          client := .listening queue
          delivered := if isOf deviceId event then before.delivered ++ [event]
            else before.delivered }
      | _ => none

end Stream

/-- Fewer events are outstanding than the replay and the channel have room for. -/
def BelowLimits (deviceId : String) (before : Stream) : Action → Prop
  | .takeBacklog => ∀ device, before.state.devices.lookup deviceId = some device →
      device.events.length < deviceEventReplayLimit
  | .broadcast _ => ∀ queue, before.client = .listening queue → queue.length < defaultEventLimit
  | _ => True

/-- One step below the limits. -/
def Next (deviceId : String) (before : Stream) (action : Action) (after : Stream) : Prop :=
  BelowLimits deviceId before action ∧ before.step deviceId action = some after

/-- The device has these events in its backlog, and nobody emits or listens. -/
structure Started (deviceId : String) (events : List DevdEvent) (start : Stream) : Prop where
  device : ∃ device, start.state.devices.lookup deviceId = some device ∧ device.events = events
  keyed : Keyed start.state.devices
  room : events.length ≤ defaultEventLimit
  emitting : start.emitting = []
  client : start.client = .waiting
  delivered : start.delivered = []
  pushed : start.pushed = []

/-- The backlog that is replayed after the first pushes. -/
def backlogAt (events pushed : List DevdEvent) (instant : ℕ) : List DevdEvent :=
  (events ++ pushed.take instant).rtake deviceEventReplayLimit

/-- Every event of the device has been broadcast and received. -/
def Settled (deviceId : String) (stream : Stream) : Prop :=
  stream.emitting.filter (isOf deviceId) = [] ∧ stream.client = .listening []

/-- The client has received the beginning of the backlog of some instant and every later
event, and all of it as soon as nothing is on its way. -/
def Exact (deviceId : String) (events : List DevdEvent) (stream : Stream) : Prop :=
  ∀ queue, stream.client = .listening queue →
    ∃ instant, stream.delivered <+: backlogAt events stream.pushed instant ++
        stream.pushed.drop instant ∧
      (Settled deviceId stream → stream.delivered =
        backlogAt events stream.pushed instant ++ stream.pushed.drop instant)

/-- At the subscription exactly the events are on their way that were pushed since the
backlog was taken, and from then on they are broadcast in the order of their pushes. -/
def Meets (deviceId : String) (before : Stream) : Action → Prop
  | .subscribe => before.emitting.filter (isOf deviceId) = before.pushed.drop before.openedAt
  | .broadcast index => ∀ queue, before.client = .listening queue →
      ∀ event ∈ before.emitting[index]?, isOf deviceId event →
        (before.emitting.take index).filter (isOf deviceId) = []
  | _ => True

/-! ## The backlog -/

theorem pushBounded_rtake {α : Type} (items : List α) (a : α) {limit : ℕ} (hlimit : 0 < limit) :
    DevdState.pushBounded (items.rtake limit) a limit = (items ++ [a]).rtake limit := by
  rw [← remember_rtake hlimit, DevdState.pushBounded, remember]
  have hle : (items.rtake limit).length ≤ limit := by
    rw [List.rtake, List.length_drop]
    omega
  by_cases hfull : (items.rtake limit).length = limit
  · rw [if_pos hfull.ge, if_pos hfull]
  · rw [if_neg (fun h => hfull (le_antisymm hle h)), if_neg hfull]

theorem rtake_rtake {α : Type} (items : List α) {m n : ℕ} (h : m ≤ n) :
    (items.rtake n).rtake m = items.rtake m := by
  rw [List.rtake, List.rtake, List.rtake, List.drop_drop, List.length_drop]
  congr 1
  omega

theorem rtake_of_length_le {α : Type} {items : List α} {n : ℕ} (h : items.length ≤ n) :
    items.rtake n = items := by
  rw [List.rtake, show items.length - n = 0 by omega, List.drop_zero]

/-- What is known of a stream: the events of the device, and what is still to come for the
client. -/
structure Invariant (deviceId : String) (events : List DevdEvent) (stream : Stream) : Prop where
  keyed : Keyed stream.state.devices
  device : ∃ device, stream.state.devices.lookup deviceId = some device ∧
    device.events = (events ++ stream.pushed).rtake defaultEventLimit
  opened : ∀ backlog, stream.client = .opened backlog →
    stream.openedAt ≤ stream.pushed.length ∧
      backlog = backlogAt events stream.pushed stream.openedAt
  listening : ∀ queue, stream.client = .listening queue →
    stream.openedAt ≤ stream.pushed.length ∧
      stream.delivered ++ queue.filter (isOf deviceId) ++
        stream.emitting.filter (isOf deviceId) =
      backlogAt events stream.pushed stream.openedAt ++ stream.pushed.drop stream.openedAt

variable {deviceId : String} {events : List DevdEvent} {before after : Stream}

theorem backlogAt_append {pushed : List DevdEvent} {instant : ℕ} (h : instant ≤ pushed.length)
    (event : DevdEvent) :
    backlogAt events (pushed ++ [event]) instant = backlogAt events pushed instant := by
  rw [backlogAt, backlogAt, List.take_append_of_le_length h]

theorem keyed_pushEvent {state : DevdState} (hkeyed : Keyed state.devices) (event : DevdEvent) :
    Keyed (state.pushEvent event).devices := by
  refine keyed_mapValues hkeyed fun device => ?_
  split <;> rfl

theorem lookup_pushEvent {state : DevdState} (hkeyed : Keyed state.devices) (event : DevdEvent)
    {device : DeviceRecord} (hdevice : state.devices.lookup deviceId = some device) :
    ∃ device', (state.pushEvent event).devices.lookup deviceId = some device' ∧
      device'.events = if isOf deviceId event then
        DevdState.pushBounded device.events event defaultEventLimit else device.events := by
  refine ⟨if event.deviceId = some device.id then
    { device with events := DevdState.pushBounded device.events event defaultEventLimit }
    else device, ?_, ?_⟩
  · change (state.devices.mapValues _).lookup deviceId = _
    rw [HashMap.lookup_mapValues, hdevice]
    rfl
  · rw [hkeyed _ _ hdevice, isOf]
    by_cases h : event.deviceId = some deviceId
    · rw [if_pos h, if_pos (decide_eq_true h)]
    · rw [if_neg h, if_neg (by simpa using h)]

theorem invariant_push {event : DevdEvent} (hinv : Invariant deviceId events before)
    (hstep : before.step deviceId (.push event) = some after) :
    Invariant deviceId events after := by
  rw [Stream.step] at hstep
  obtain rfl := Option.some.inj hstep
  obtain ⟨device, hdevice, hevents⟩ := hinv.device
  obtain ⟨device', hdevice', hevents'⟩ := lookup_pushEvent hinv.keyed event hdevice
  cases hof : isOf deviceId event with
  | false =>
    rw [hof] at hevents'
    refine ⟨keyed_pushEvent hinv.keyed event, ⟨device', hdevice', ?_⟩, ?_, ?_⟩
    · exact hevents'.trans hevents
    · exact hinv.opened
    · intro queue hqueue
      rw [List.filter_append, List.filter_cons_of_neg (by simp [hof]), List.filter_nil,
        List.append_nil]
      exact hinv.listening queue hqueue
  | true =>
    rw [hof] at hevents'
    refine ⟨keyed_pushEvent hinv.keyed event, ⟨device', hdevice', ?_⟩, ?_, ?_⟩
    · refine hevents'.trans ?_
      rw [if_pos rfl, hevents, pushBounded_rtake _ _ (by decide), if_pos rfl, List.append_assoc]
    · intro backlog hbacklog
      obtain ⟨hle, htaken⟩ := hinv.opened backlog hbacklog
      refine ⟨hle.trans (by simp), ?_⟩
      rw [if_pos rfl, backlogAt_append hle]
      exact htaken
    · intro queue hqueue
      obtain ⟨hle, hrest⟩ := hinv.listening queue hqueue
      refine ⟨hle.trans (by simp), ?_⟩
      rw [if_pos rfl, backlogAt_append hle, List.drop_append_of_le_length hle,
        List.filter_append, List.filter_cons_of_pos hof, List.filter_nil,
        ← List.append_assoc, hrest, List.append_assoc]

/-- The event that is broadcast is the next one of the device, or none of it. -/
theorem filter_eraseIdx {emitting : List DevdEvent} {index : ℕ} {event : DevdEvent}
    (hevent : emitting[index]? = some event)
    (hfirst : isOf deviceId event → (emitting.take index).filter (isOf deviceId) = []) :
    emitting.filter (isOf deviceId) =
      [event].filter (isOf deviceId) ++ (emitting.eraseIdx index).filter (isOf deviceId) := by
  obtain ⟨hlt, rfl⟩ := List.getElem?_eq_some_iff.mp hevent
  have hsplit : emitting = emitting.take index ++ emitting[index] :: emitting.drop (index + 1) := by
    rw [← List.drop_eq_getElem_cons hlt, List.take_append_drop]
  rw [List.eraseIdx_eq_take_drop_succ]
  conv_lhs => rw [hsplit]
  rw [List.filter_append, List.filter_append, List.filter_cons]
  cases hof : isOf deviceId emitting[index] with
  | false => simp [hof]
  | true => simp [hof, hfirst hof]

theorem invariant_broadcast {index : ℕ} (hinv : Invariant deviceId events before)
    (hbelow : BelowLimits deviceId before (.broadcast index))
    (hmeets : Meets deviceId before (.broadcast index))
    (hstep : before.step deviceId (.broadcast index) = some after) :
    Invariant deviceId events after := by
  rw [Stream.step] at hstep
  split at hstep
  · cases hstep
  rename_i event hevent
  obtain rfl := Option.some.inj hstep
  refine ⟨hinv.keyed, hinv.device, ?_, ?_⟩
  · intro backlog hbacklog
    refine hinv.opened backlog ?_
    cases hclient : before.client with
    | opened backlog' =>
      simp only [hclient, Stream.send] at hbacklog
      exact hbacklog
    | waiting | refused refusal | listening queue => simp [hclient, Stream.send] at hbacklog
  · intro queue' hqueue'
    cases hclient : before.client with
    | opened backlog | waiting | refused refusal => simp [hclient, Stream.send] at hqueue'
    | listening queue =>
      obtain ⟨hle, hrest⟩ := hinv.listening queue hclient
      have hroom : queue.length < broadcastCapacity := (hbelow queue hclient).trans (by decide)
      have hqueue : queue' = queue ++ [event] := by
        simp only [hclient, Stream.send, DevdState.pushBounded, Client.listening.injEq] at hqueue'
        rw [← hqueue', if_neg (by omega)]
      refine ⟨hle, ?_⟩
      rw [filter_eraseIdx hevent (hmeets queue hclient event hevent)] at hrest
      rw [hqueue, List.filter_append, ← hrest]
      simp only [List.append_assoc]

theorem invariant_takeBacklog (hinv : Invariant deviceId events before)
    (hstep : before.step deviceId .takeBacklog = some after) :
    Invariant deviceId events after := by
  rw [Stream.step] at hstep
  split at hstep
  · obtain rfl := Option.some.inj hstep
    obtain ⟨device, hdevice, hevents⟩ := hinv.device
    have htaken : deviceEventBacklog deviceId before.state =
        .ok (backlogAt events before.pushed before.pushed.length) := by
      rw [deviceEventBacklog, hdevice]
      dsimp only
      rw [← List.rtake_eq_reverse_take_reverse, hevents, rtake_rtake _ (by decide), backlogAt,
        List.take_length]
    refine ⟨hinv.keyed, hinv.device, ?_, ?_⟩
    · intro backlog hbacklog
      simp only [htaken, Client.opened.injEq] at hbacklog
      exact ⟨le_rfl, hbacklog.symm⟩
    · intro queue hqueue
      simp [htaken] at hqueue
  · cases hstep

theorem invariant_subscribe (hinv : Invariant deviceId events before)
    (hmeets : Meets deviceId before .subscribe)
    (hstep : before.step deviceId .subscribe = some after) :
    Invariant deviceId events after := by
  rw [Stream.step] at hstep
  split at hstep
  · rename_i backlog hclient
    obtain rfl := Option.some.inj hstep
    obtain ⟨hle, hbacklog⟩ := hinv.opened backlog hclient
    refine ⟨hinv.keyed, hinv.device, fun _ h => (nomatch h), fun queue hqueue => ?_⟩
    obtain rfl : [] = queue := Client.listening.inj hqueue
    refine ⟨hle, ?_⟩
    rw [List.filter_nil, List.append_nil, ← hbacklog]
    exact congrArg _ hmeets
  · cases hstep

theorem invariant_receive (hinv : Invariant deviceId events before)
    (hstep : before.step deviceId .receive = some after) :
    Invariant deviceId events after := by
  rw [Stream.step] at hstep
  split at hstep
  · rename_i event queue hclient
    obtain rfl := Option.some.inj hstep
    obtain ⟨hle, hrest⟩ := hinv.listening (event :: queue) hclient
    refine ⟨hinv.keyed, hinv.device, fun _ h => (nomatch h), fun queue' hqueue' => ?_⟩
    obtain rfl : queue = queue' := Client.listening.inj hqueue'
    refine ⟨hle, ?_⟩
    rw [← hrest, List.filter_cons]
    cases isOf deviceId event with
    | false => rfl
    | true => simp
  · cases hstep

theorem invariant_step {action : Action} (hinv : Invariant deviceId events before)
    (hmeets : Meets deviceId before action) (hnext : Next deviceId before action after) :
    Invariant deviceId events after := by
  cases action with
  | push event => exact invariant_push hinv hnext.2
  | broadcast index => exact invariant_broadcast hinv hnext.1 hmeets hnext.2
  | takeBacklog => exact invariant_takeBacklog hinv hnext.2
  | subscribe => exact invariant_subscribe hinv hmeets hnext.2
  | receive => exact invariant_receive hinv hnext.2

theorem Started.invariant {start : Stream} (hstart : Started deviceId events start) :
    Invariant deviceId events start := by
  obtain ⟨device, hdevice, hevents⟩ := hstart.device
  refine ⟨hstart.keyed, ⟨device, hdevice, ?_⟩, fun backlog h => ?_, fun queue h => ?_⟩
  · rw [hstart.pushed, List.append_nil, rtake_of_length_le hstart.room, hevents]
  · rw [hstart.client] at h
    cases h
  · rw [hstart.client] at h
    cases h

theorem exact_of_invariant (hinv : Invariant deviceId events before) :
    Exact deviceId events before := by
  intro queue hqueue
  obtain ⟨-, hrest⟩ := hinv.listening queue hqueue
  refine ⟨before.openedAt, ⟨queue.filter (isOf deviceId) ++ before.emitting.filter (isOf deviceId),
    by rw [← hrest, List.append_assoc]⟩, ?_⟩
  rintro ⟨hemitted, hreceived⟩
  obtain rfl : [] = queue := Client.listening.inj (hreceived.symm.trans hqueue)
  rw [← hrest, hemitted, List.filter_nil, List.append_nil, List.append_nil]

/-- In a run that meets the condition the client receives the backlog of an instant and
every later event, each once and in order. -/
theorem stream_exact {start : Stream} {actions : List Action}
    (hstart : Started deviceId events start)
    (hrun : Reaches (fun before action after =>
      Meets deviceId before action ∧ Next deviceId before action after) start actions before) :
    Exact deviceId events before :=
  exact_of_invariant (hrun.invariant hstart.invariant fun _ _ _ hinv hstep =>
    invariant_step hinv hstep.1 hstep.2)

/-! ## One event -/

def exampleEvent : DevdEvent where
  id := "event-1700000000000-0"
  timestamp := "1700000000000"
  deviceId := some "mock-fp-lab-01"
  kind := "lease"
  message := "lease created"
  payload := .object [("leaseId", .string "lease-1700000000000-1")]

def exampleDevice : DeviceRecord where
  id := "mock-fp-lab-01"
  displayName := "Flux Purr mock target"
  portPath := none
  transport := .mock
  connection := .connected
  identity := ⟨some .product, "mock-fp-lab-01", "fw/v0.4.0-dev"⟩
  status := ⟨⟨0x4337999a⟩, false⟩
  events := []

def exampleStream : Stream where
  state :=
    { devices := AList.singleton "mock-fp-lab-01" exampleDevice
      leases := ∅
      firmwareApprovals := ∅
      sequence := 0 }
  emitting := []
  client := .waiting
  delivered := []
  pushed := []
  openedAt := 0

theorem exampleStream_started : Started "mock-fp-lab-01" [] exampleStream where
  device := ⟨exampleDevice, rfl, rfl⟩
  keyed id device h := by
    by_cases hid : id = "mock-fp-lab-01"
    · subst hid
      rw [← Option.some.inj ((show exampleStream.state.devices.lookup "mock-fp-lab-01" =
        some exampleDevice from rfl).symm.trans h)]
      rfl
    · have hnone : exampleStream.state.devices.lookup id = none := by
        rw [AList.lookup_eq_none]
        exact fun hmem => hid (List.mem_singleton.mp hmem)
      rw [hnone] at h
      cases h
  room := Nat.zero_le _
  emitting := rfl
  client := rfl
  delivered := rfl
  pushed := rfl

/-- The event is pushed. -/
def pushedStream : Stream := { exampleStream with
  state := exampleStream.state.pushEvent exampleEvent
  emitting := [exampleEvent]
  pushed := [exampleEvent] }

theorem next_push : Next "mock-fp-lab-01" exampleStream (.push exampleEvent) pushedStream :=
  ⟨trivial, rfl⟩

/-- The client takes the backlog with the event and subscribes. -/
def openedStream : Stream := { pushedStream with
  client := .opened [exampleEvent]
  openedAt := 1 }

theorem next_takeBacklog : Next "mock-fp-lab-01" pushedStream .takeBacklog openedStream := by
  refine ⟨fun device hdevice => ?_, rfl⟩
  have hlookup : pushedStream.state.devices.lookup "mock-fp-lab-01" =
    some { exampleDevice with events := [exampleEvent] } := rfl
  rw [← Option.some.inj (hlookup.symm.trans hdevice)]
  exact (by decide : 1 < 120)

def listeningStream (queue delivered emitting : List DevdEvent) : Stream := { openedStream with
  client := .listening queue
  delivered := delivered
  emitting := emitting }

/-- The event is in the backlog, and it is broadcast after the subscription. -/
theorem not_all_streams_exact :
    ¬ ∀ (deviceId : String) (events : List DevdEvent) (start : Stream),
        Started deviceId events start →
          ∀ (actions : List Action) (stream : Stream),
            Reaches (Next deviceId) start actions stream → Exact deviceId events stream := by
  intro h
  have hopened : Reaches (Next "mock-fp-lab-01") exampleStream
      ([] ++ [.push exampleEvent] ++ [.takeBacklog]) openedStream :=
    .step (.step .refl next_push) next_takeBacklog
  have hsubscribe : Next "mock-fp-lab-01" openedStream .subscribe
    (listeningStream [] [exampleEvent] [exampleEvent]) := ⟨trivial, rfl⟩
  have hbroadcast : Next "mock-fp-lab-01" (listeningStream [] [exampleEvent] [exampleEvent])
      (.broadcast 0) (listeningStream [exampleEvent] [exampleEvent] []) := by
    refine ⟨fun queue hqueue => ?_, rfl⟩
    obtain rfl : [] = queue := Client.listening.inj hqueue
    exact (by decide : 0 < 1000)
  have hreceive : Next "mock-fp-lab-01" (listeningStream [exampleEvent] [exampleEvent] [])
    .receive (listeningStream [] [exampleEvent, exampleEvent] []) := ⟨trivial, rfl⟩
  obtain ⟨instant, -, hsettled⟩ := h _ _ _ exampleStream_started _ _
    (((hopened.step hsubscribe).step hbroadcast).step hreceive) [] rfl
  have hlength := congrArg List.length (hsettled ⟨rfl, rfl⟩)
  have hone : (backlogAt [] [exampleEvent] instant ++ [exampleEvent].drop instant).length ≤ 1 := by
    rw [List.length_append, backlogAt, List.rtake, List.length_drop, List.length_drop,
      List.nil_append, List.length_take, List.length_singleton]
    omega
  exact absurd (hlength.le.trans hone) (by decide)

/-- The event is broadcast before the client takes the backlog. -/
theorem stream_exact_example : Exact "mock-fp-lab-01" []
    (listeningStream [] [exampleEvent] []) := by
  have hbroadcast : Next "mock-fp-lab-01" pushedStream (.broadcast 0)
      { pushedStream with emitting := [] } :=
    ⟨fun queue hqueue => (nomatch hqueue), rfl⟩
  have htake : Next "mock-fp-lab-01" { pushedStream with emitting := [] } .takeBacklog
      { openedStream with emitting := [] } :=
    ⟨next_takeBacklog.1, rfl⟩
  have hsubscribe : Next "mock-fp-lab-01" { openedStream with emitting := [] } .subscribe
    (listeningStream [] [exampleEvent] []) := ⟨trivial, rfl⟩
  have hunheard : Meets "mock-fp-lab-01" pushedStream (.broadcast 0) :=
    fun queue hqueue => (nomatch hqueue)
  have hmeets : Meets "mock-fp-lab-01" { openedStream with emitting := [] } .subscribe := rfl
  have hrun : Reaches (fun before action after =>
      Meets "mock-fp-lab-01" before action ∧ Next "mock-fp-lab-01" before action after)
      exampleStream ([] ++ [.push exampleEvent] ++ [.broadcast 0] ++ [.takeBacklog] ++
        [.subscribe]) (listeningStream [] [exampleEvent] []) := by
    refine .step (.step (.step (.step .refl ⟨?_, next_push⟩) ⟨hunheard, hbroadcast⟩)
      ⟨?_, htake⟩) ⟨hmeets, hsubscribe⟩
    · trivial
    · trivial
  exact stream_exact exampleStream_started hrun

end EventStream

end FluxPurr.Devd
