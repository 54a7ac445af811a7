import Mathlib.Data.List.Nodup

/-!
# The keys of the front panel

The five keys, the gestures that the recogniser tells apart, and which of them a page of the
panel takes for each key.
-/

namespace FluxPurr.FrontPanel

inductive RawFrontPanelKey where
  | centerBoot
  | right
  | down
  | left
  | up
deriving DecidableEq, Repr

namespace RawFrontPanelKey

/-- `ALL`. -/
def all : List RawFrontPanelKey := [centerBoot, right, down, left, up]

theorem nodup_all : all.Nodup := by decide

/-- The discriminant. -/
def index : RawFrontPanelKey → ℕ
  | centerBoot => 0
  | right => 1
  | down => 2
  | left => 3
  | up => 4

end RawFrontPanelKey

inductive FrontPanelKey where
  | center
  | right
  | down
  | left
  | up
deriving DecidableEq, Repr

inductive KeyGesture where
  | shortPress
  | doublePress
  | longPress
  | repeatPress
deriving DecidableEq, Repr

/-- `FrontPanelKeyMap::default().logical_from_raw`.  Two of the keys are wired crosswise. -/
def logicalFromRaw : RawFrontPanelKey → FrontPanelKey
  | .centerBoot => .center
  | .right => .right
  | .down => .left
  | .left => .down
  | .up => .up

structure KeyEvent where
  rawKey : RawFrontPanelKey
  key : FrontPanelKey
  gesture : KeyGesture
  atMs : ℕ
deriving DecidableEq, Repr

structure KeyGestureSet where
  shortPress : Bool
  doublePress : Bool
  longPress : Bool
deriving DecidableEq, Repr

namespace KeyGestureSet

def none : KeyGestureSet := ⟨false, false, false⟩

def all : KeyGestureSet := ⟨true, true, true⟩

def short : KeyGestureSet := ⟨true, false, false⟩

def shortLong : KeyGestureSet := ⟨true, false, true⟩

def shortDoubleLong : KeyGestureSet := all

/-- A key repeats where it has a long press. -/
def supports (gestures : KeyGestureSet) : KeyGesture → Bool
  | .shortPress => gestures.shortPress
  | .doublePress => gestures.doublePress
  | .longPress => gestures.longPress
  | .repeatPress => gestures.longPress

end KeyGestureSet

/-- The gestures taken for each key, in the order of `FrontPanelKey::ALL`. -/
structure FrontPanelGestureCapabilities where
  center : KeyGestureSet
  right : KeyGestureSet
  down : KeyGestureSet
  left : KeyGestureSet
  up : KeyGestureSet
deriving DecidableEq, Repr

namespace FrontPanelGestureCapabilities

/-- `ALL`. -/
def all : FrontPanelGestureCapabilities := ⟨.all, .all, .all, .all, .all⟩

def gesturesFor (capabilities : FrontPanelGestureCapabilities) :
    FrontPanelKey → KeyGestureSet
  | .center => capabilities.center
  | .right => capabilities.right
  | .down => capabilities.down
  | .left => capabilities.left
  | .up => capabilities.up

end FrontPanelGestureCapabilities

/-! ## The raw state -/

/-- One bit for each key. -/
structure FrontPanelRawState where
  pressedMask : BitVec 8
deriving DecidableEq, Repr

namespace FrontPanelRawState

def idle : FrontPanelRawState := ⟨0⟩

def isPressed (state : FrontPanelRawState) (key : RawFrontPanelKey) : Bool :=
  state.pressedMask.getLsbD key.index

def firstPressed (state : FrontPanelRawState) : Option RawFrontPanelKey :=
  RawFrontPanelKey.all.find? state.isPressed

theorem isPressed_eq_false {state : FrontPanelRawState} (h : state.pressedMask = 0)
    (key : RawFrontPanelKey) : state.isPressed key = false := by
  simp [isPressed, h]

end FrontPanelRawState

end FluxPurr.FrontPanel
