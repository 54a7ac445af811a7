import FluxPurr.FrontPanel.Keys

/-!
# The gesture recogniser

`FrontPanelInputController.sampleWithCapabilities` debounces the keys and tells short, double, long
and repeated presses apart.  A sample handles each key in five stages, from the raw edge to the
repetitions.  Every stage but the first may push an event, and an event is kept with the place that
pushed it, so that one can say later which press it is the event of.
-/

namespace FluxPurr.FrontPanel

abbrev frontpanelDebounceMs : ℕ := 5
abbrev frontpanelLongPressMs : ℕ := 500
abbrev frontpanelDoubleClickMs : ℕ := 250
abbrev frontpanelRepeatInitialIntervalMs : ℕ := 120
abbrev frontpanelRepeatFastAfterMs : ℕ := 1500
abbrev frontpanelRepeatFastIntervalMs : ℕ := 60

structure FrontPanelInputTimings where
  debounceMs : ℕ
  longPressMs : ℕ
  doubleClickMs : ℕ
deriving DecidableEq, Repr

/-- `FrontPanelInputTimings::default()`. -/
def FrontPanelInputTimings.standard : FrontPanelInputTimings :=
  ⟨frontpanelDebounceMs, frontpanelLongPressMs, frontpanelDoubleClickMs⟩

structure KeyTracker where
  rawPressed : Bool
  stablePressed : Bool
  lastRawChangeMs : ℕ
  pressStartedMs : Option ℕ
  longFired : Bool
  nextRepeatMs : Option ℕ
  pendingShortReleaseMs : Option ℕ
deriving DecidableEq, Repr

/-- The calls of `push_key_event`, in the order of the source. -/
inductive PushSite where
  | pendingShort
  | releaseShort
  | releaseDouble
  | long
  | repetition
deriving DecidableEq, Repr

def PushSite.gesture : PushSite → KeyGesture
  | pendingShort => .shortPress
  | releaseShort => .shortPress
  | releaseDouble => .doublePress
  | long => .longPress
  | repetition => .repeatPress

namespace KeyTracker

def new : KeyTracker := ⟨false, false, 0, none, false, none, none⟩

/-- What one key's part of a sample reads beside the tracker. -/
structure Reading where
  nowMs : ℕ
  pressed : Bool
  timings : FrontPanelInputTimings
  logicalKey : FrontPanelKey
  gestures : KeyGestureSet

/-- `push_key_event`, for one key. -/
def push (reading : Reading) (site : PushSite) : List PushSite :=
  if reading.gestures.supports site.gesture then [site] else []

variable (tracker : KeyTracker)

def updateRawTracker (reading : Reading) : KeyTracker :=
  if reading.pressed = tracker.rawPressed then tracker
  else
    let tracker := { tracker with
      rawPressed := reading.pressed
      lastRawChangeMs := reading.nowMs
      nextRepeatMs := none }
    if reading.pressed then
      { tracker with
        pressStartedMs := some reading.nowMs
        longFired := false }
    else tracker

def emitPendingShortPress (reading : Reading) : KeyTracker × List PushSite :=
  match tracker.pendingShortReleaseMs with
  | none => (tracker, [])
  | some released =>
      if reading.gestures.supports .doublePress ∧
          reading.nowMs - released ≤ reading.timings.doubleClickMs then (tracker, [])
      else ({ tracker with pendingShortReleaseMs := none }, push reading .pendingShort)

def emitReleaseGesture (reading : Reading) : KeyTracker × List PushSite :=
  if reading.gestures.supports .doublePress = false then (tracker, push reading .releaseShort)
  else
    match tracker.pendingShortReleaseMs with
    | none => ({ tracker with pendingShortReleaseMs := some reading.nowMs }, [])
    | some previousReleaseMs =>
        if reading.nowMs - previousReleaseMs ≤ reading.timings.doubleClickMs then
          ({ tracker with pendingShortReleaseMs := none }, push reading .releaseDouble)
        else ({ tracker with pendingShortReleaseMs := some reading.nowMs }, [])

def updateStableTracker (reading : Reading) : KeyTracker × List PushSite :=
  if tracker.rawPressed = false ∧ tracker.stablePressed = false ∧
      tracker.pressStartedMs.isSome ∧
      reading.timings.debounceMs ≤ reading.nowMs - tracker.lastRawChangeMs then
    emitReleaseGesture { tracker with pressStartedMs := none } reading
  else if tracker.rawPressed = tracker.stablePressed ∨
      reading.nowMs - tracker.lastRawChangeMs < reading.timings.debounceMs then (tracker, [])
  else
    let tracker := { tracker with
      stablePressed := tracker.rawPressed
      nextRepeatMs := none }
    if tracker.stablePressed then ({ tracker with longFired := false }, [])
    else
      -- The press is taken here whether or not its long press has fired already.
      let taken := { tracker with pressStartedMs := none }
      if tracker.pressStartedMs.isSome ∧ tracker.longFired = false then
        emitReleaseGesture taken reading
      else (taken, [])

def emitLongPress (reading : Reading) : KeyTracker × List PushSite :=
  if tracker.stablePressed ∧ tracker.longFired = false ∧
      reading.gestures.supports .longPress ∧
      (∃ started ∈ tracker.pressStartedMs,
        reading.timings.longPressMs ≤ reading.nowMs - started) then
    ({ tracker with
        longFired := true
        pendingShortReleaseMs := none
        nextRepeatMs := some (reading.nowMs + frontpanelRepeatInitialIntervalMs) },
      push reading .long)
  else (tracker, [])

/-- Only two of the keys repeat. -/
def repeats : FrontPanelKey → Bool
  | .up | .down => true
  | _ => false

def repeatIntervalMs (reading : Reading) : ℕ :=
  match tracker.pressStartedMs with
  | some started =>
      if reading.timings.longPressMs + frontpanelRepeatFastAfterMs ≤ reading.nowMs - started then
        frontpanelRepeatFastIntervalMs
      else frontpanelRepeatInitialIntervalMs
  | none => frontpanelRepeatInitialIntervalMs

def emitRepeatPress (reading : Reading) : KeyTracker × List PushSite :=
  if tracker.stablePressed ∧ tracker.rawPressed ∧ tracker.longFired ∧
      repeats reading.logicalKey ∧
      (∃ repeatMs ∈ tracker.nextRepeatMs, repeatMs ≤ reading.nowMs) then
    ({ tracker with
        nextRepeatMs := some (reading.nowMs + tracker.repeatIntervalMs reading) },
      push reading .repetition)
  else (tracker, [])

def sampleKey (reading : Reading) : KeyTracker × List PushSite :=
  let tracker := tracker.updateRawTracker reading
  let (tracker, pending) := tracker.emitPendingShortPress reading
  let (tracker, release) := tracker.updateStableTracker reading
  let (tracker, long) := tracker.emitLongPress reading
  let (tracker, repetition) := tracker.emitRepeatPress reading
  (tracker, pending ++ release ++ long ++ repetition)

end KeyTracker

/-! ## All keys -/

/-- An event, and where it was pushed. -/
structure SampledEvent where
  site : PushSite
  event : KeyEvent
deriving DecidableEq, Repr

/-- The capacity of the vector of events. -/
abbrev sampleEventCapacity : ℕ := 10

structure FrontPanelInputController where
  timings : FrontPanelInputTimings
  trackers : RawFrontPanelKey → KeyTracker

namespace FrontPanelInputController

/-- `FrontPanelInputController::default()`. -/
def standard : FrontPanelInputController := ⟨.standard, fun _ => .new⟩

variable (controller : FrontPanelInputController)

def reading (nowMs : ℕ) (rawState : FrontPanelRawState)
    (capabilities : FrontPanelGestureCapabilities) (rawKey : RawFrontPanelKey) :
    KeyTracker.Reading where
  nowMs := nowMs
  pressed := rawState.isPressed rawKey
  timings := controller.timings
  logicalKey := logicalFromRaw rawKey
  gestures := capabilities.gesturesFor (logicalFromRaw rawKey)

/-- The events of one key. -/
def keyEvents (nowMs : ℕ) (rawState : FrontPanelRawState)
    (capabilities : FrontPanelGestureCapabilities) (rawKey : RawFrontPanelKey) :
    List SampledEvent :=
  let sampled := (controller.trackers rawKey).sampleKey
    (controller.reading nowMs rawState capabilities rawKey)
  sampled.2.map fun site =>
    { site
      event :=
        { rawKey
          key := logicalFromRaw rawKey
          gesture := site.gesture
          atMs := nowMs } }

/-- The keys are sampled one after another, and events beyond the capacity are dropped. -/
def sampleWithCapabilities (nowMs : ℕ)
    (rawState : FrontPanelRawState) (capabilities : FrontPanelGestureCapabilities) :
    FrontPanelInputController × List SampledEvent :=
  ({ controller with
      trackers := fun rawKey =>
        ((controller.trackers rawKey).sampleKey
          (controller.reading nowMs rawState capabilities rawKey)).1 },
    (RawFrontPanelKey.all.flatMap
      (controller.keyEvents nowMs rawState capabilities)).take sampleEventCapacity)

end FrontPanelInputController

end FluxPurr.FrontPanel
