import FluxPurr.Devd.SerialExchange

/-!
# How often a request is sent

`Transmissions` counts what an observer at the port sees: the bytes of the present attempt,
whether the whole line was handed over before, and what the device has sent in reply since.
A line that is handed over again without cause leaves a mark there.  `Permitted` keeps to
ports that give a single-shot exchange no wrong reason to write again; `Sent` and `MayWrite`
say where the exchange stands between two calls.
-/

namespace FluxPurr.Devd

open FluxPurr.Runs

/-- What the device has said about a restart since the request was handed over. -/
inductive Reply where
  | nothing
  | starting
  | ready
deriving DecidableEq

structure Transmissions where
  attempt : List UInt8 := []
  sent : Bool := false
  reply : Reply := .nothing
  /-- The line was handed over a second time without cause. -/
  unjustified : Bool := false
  stalls : ℕ := 0
deriving DecidableEq

namespace SerialExchangeContext

variable (context : SerialExchangeContext)

def line : List UInt8 := context.request ++ [0x0A]

/-- A line that says that the runtime has just been reset, or is not ready for the request. -/
def isStarting (line : List PortByte) : Bool :=
  serialLineIsUsbResetMarker (line.map PortByte.byte) ||
    match decodeUsbResponseLine context.firstFrame context.requestId (line.map PortByte.byte) with
    | .error error => isRetryableStartupBusy error
    | .ok _ => false

end SerialExchangeContext

/-- The whole line was sent after the request was handed over. -/
def isReply (line : List PortByte) : Bool := line.all PortByte.reply

namespace Transmissions

variable (context : SerialExchangeContext)

def hand (seen : Transmissions) (bytes : List UInt8) : Transmissions :=
  if bytes ≠ [] ∧ seen.attempt ++ bytes = context.line then
    { seen with
      attempt := context.line
      sent := true
      reply := .nothing
      unjustified := seen.unjustified || (seen.sent && seen.reply ≠ .ready) }
  else { seen with attempt := seen.attempt ++ bytes }

def hear (seen : Transmissions) (line : List PortByte) : Transmissions :=
  if isReply line = false then seen
  else
    match seen.reply with
    | .nothing => if context.isStarting line = true then { seen with reply := .starting } else seen
    | .starting =>
        if serialLineIsRuntimeReady (line.map PortByte.byte) = true then
          { seen with reply := .ready }
        else seen
    | .ready => seen

def after (seen : Transmissions) : (effect : SerialEffect) → effect.Answer → Transmissions
  | .beginWrite cause, _ =>
      { seen with
        attempt := []
        stalls := if cause = .stalled then seen.stalls + 1 else seen.stalls }
  | .write bytes, .ok count => seen.hand context (bytes.take count)
  | .emitLogLine line, _ => seen.hear context line
  | _, _ => seen

end Transmissions

open Transmissions

/-- The port gives no wrong reason to write again: a read does not fail in a way that makes
the daemon open the port again, the port does not fail in such a way after it has taken the
whole line, and what is said about a restart is not left over from before. -/
def Permitted (context : SerialExchangeContext) (seen : Transmissions) :
    (effect : SerialEffect) → effect.Answer → Prop
  | .read, .error error => seen.sent = true → isRecoverableSerialIoError error = false
  | .flush, .error error =>
      seen.attempt = context.line → isRecoverableSerialErrorMessage error.message = false
  | .emitLogLine line, _ =>
      (context.isStarting line = true → isReply line = true) ∧
        (serialLineIsRuntimeReady (line.map PortByte.byte) = true → seen.reply = .starting →
          isReply line = true)
  | _, _ => True

instance (context : SerialExchangeContext) (seen : Transmissions) (effect : SerialEffect)
    (answer : effect.Answer) : Decidable (Permitted context seen effect answer) :=
  match effect, answer with
  | .read, .error error =>
      inferInstanceAs (Decidable (seen.sent = true → isRecoverableSerialIoError error = false))
  | .flush, .error error =>
      inferInstanceAs (Decidable (seen.attempt = context.line →
        isRecoverableSerialErrorMessage error.message = false))
  | .emitLogLine line, _ =>
      inferInstanceAs (Decidable ((context.isStarting line = true → isReply line = true) ∧
        (serialLineIsRuntimeReady (line.map PortByte.byte) = true → seen.reply = .starting →
          isReply line = true)))
  | .read, .ok _ | .flush, .ok _ | .now, _ | .takeCachedSession, _ | .portPathIsPresent, _
  | .requireIdentity, _ | .openSession, _ | .beginWrite _, _ | .write _, _ | .finishWrite, _ =>
      inferInstanceAs (Decidable True)

/-- The observer, and the answers of the port if they matter. -/
def observer (context : SerialExchangeContext) (strict : Prop) :
    Discipline SerialEffect SerialEffect.Answer Transmissions where
  Allows _ _ := True
  Answers seen effect answer := strict → Permitted context seen effect answer
  after := after context

/-! ## Where the exchange stands -/

/-- The line was handed over, and never without cause. -/
def Sent (seen : Transmissions) : Prop := seen.unjustified = false ∧ seen.sent = true

/-- The line may be handed over. -/
def MayWrite (seen : Transmissions) : Prop :=
  seen.unjustified = false ∧ (seen.sent = true → seen.reply = .ready)

/-- Nothing was handed over without cause. -/
def Justified (seen : Transmissions) : Prop := seen.unjustified = false

/-- The line was handed over, and if the daemon is to write again once the runtime is ready,
the device has spoken of a restart. -/
def Awaits (retryAfterRuntimeReady : Bool) (seen : Transmissions) : Prop :=
  Sent seen ∧ (retryAfterRuntimeReady = true → seen.reply ≠ .nothing)

def Stop.isRecoverableWrite : Stop → Bool
  | .cut => false
  | .io error => isRecoverableSerialErrorMessage error.message
  | .http error => isRecoverableWriteHttpError error

/-- What holds of a port that must be strictly observed, and at most so many stalls. -/
def Stands (strict : Prop) (stalls : ℕ) (holds : Transmissions → Prop) (seen : Transmissions) :
    Prop :=
  seen.stalls ≤ stalls ∧ (strict → holds seen)

/-- A write has failed: nothing was handed over without cause, and if it is worth another try,
there may be one. -/
def MayRetry (stop : Stop) (seen : Transmissions) : Prop :=
  seen.unjustified = false ∧ (stop.isRecoverableWrite = true → MayWrite seen)

theorem isRecoverableWriteHttpError_serialIo (error : IoError) :
    isRecoverableWriteHttpError (serialIoHttpError error) =
      isRecoverableSerialErrorMessage error.message := by
  have htext : (serialIoPrefix ++ error.message).toList =
      serialIoPrefix.toList ++ error.message.toList := String.toList_append
  have hprefix : serialIoPrefix.toList.isPrefixOf
      (serialIoPrefix.toList ++ error.message.toList) = true :=
    List.isPrefixOf_iff_prefix.mpr (List.prefix_append _ _)
  simp only [isRecoverableWriteHttpError, serialIoHttpError, htext, hprefix, List.drop_left,
    String.ofList_toList, Bool.and_true, Bool.true_and, decide_true]

theorem not_recoverable_serialTimeoutConfig (message : String) :
    isRecoverableWriteHttpError (serialTimeoutConfigHttpError message) = false := by
  simp [isRecoverableWriteHttpError, serialTimeoutConfigHttpError]

section

variable {context : SerialExchangeContext} {strict : Prop} {seen : Transmissions}

variable {fail : Stop → Transmissions → Prop}

theorem keeps_ask {effect : SerialEffect} {post : effect.Answer → Transmissions → Prop} :
    Keeps (observer context strict) (ask effect) seen post fail ↔
      ∀ answer, (strict → Permitted context seen effect answer) →
        post answer (seen.after context effect answer) := by
  rw [ask, keeps_perform]
  exact ⟨fun h => h.2, fun h => ⟨trivial, h⟩⟩

theorem keeps_orHttp {answer : Except HttpError Unit} {post : Unit → Transmissions → Prop} :
    Keeps (observer context strict) (orHttp answer) seen post fail ↔
      match answer with
      | .ok () => post () seen
      | .error error => fail (.http error) seen := by
  cases answer <;> exact Iff.rfl

/-! ## Writing -/

variable {bytes : List UInt8}

theorem hand_of_unfinished (h : seen.attempt ++ bytes ≠ context.line) :
    seen.hand context bytes = { seen with attempt := seen.attempt ++ bytes } := by
  rw [hand, if_neg (fun hand => h hand.2)]

theorem hand_nil : seen.hand context [] = seen := by
  simp [hand]

variable {first second : List UInt8}

theorem ne_line_of_rest
    (hline : seen.attempt ++ (first ++ second) <+: context.line) (hsecond : second ≠ []) :
    seen.attempt ++ first ≠ context.line := by
  intro heq
  have hlength := hline.length_le
  rw [← heq] at hlength
  have hpos := List.length_pos_of_ne_nil hsecond
  simp only [List.length_append] at hlength
  omega

theorem hand_append (hline : seen.attempt ++ (first ++ second) <+: context.line) :
    (seen.hand context first).hand context second = seen.hand context (first ++ second) := by
  by_cases hsecond : second = []
  · rw [hsecond, hand_nil, List.append_nil]
  · rw [hand_of_unfinished (ne_line_of_rest hline hsecond)]
    simp [hand, hsecond, List.append_assoc]

variable {deadline fuel : ℕ}

/-- Bytes are handed over piece by piece; the line is complete with the last one at the
earliest. -/
theorem keeps_writeSerialBytes (hline : seen.attempt ++ bytes <+: context.line) :
    Keeps (observer context strict) (writeSerialBytes deadline fuel bytes) seen
      (fun _ after => after = seen.hand context bytes)
      (fun _ after => ∃ attempt, after = { seen with attempt := attempt }) := by
  induction fuel generalizing seen bytes with
  | zero =>
    cases bytes with
    | nil => exact hand_nil.symm
    | cons byte bytes => exact ⟨_, rfl⟩
  | succ fuel ih =>
    cases bytes with
    | nil => exact hand_nil.symm
    | cons byte bytes =>
      rw [writeSerialBytes, keeps_bind, keeps_ask]
      · intro now _
        split
        case isTrue => exact ⟨_, rfl⟩
        case isFalse =>
          rw [keeps_bind, keeps_ask]
          intro answer _
          split
          case h_1 => exact ⟨seen.attempt, hand_nil⟩
          case h_2 count _ =>
            have hsplit := List.take_append_drop (count + 1) (byte :: bytes)
            rw [← hsplit] at hline
            change Keeps _ _ (seen.hand context ((byte :: bytes).take (count + 1))) _ _
            by_cases hrest : (byte :: bytes).drop (count + 1) = []
            · rw [hrest, List.append_nil] at hsplit
              rw [hrest, hsplit]
              cases fuel <;> exact rfl
            · have hunfinished := hand_of_unfinished (ne_line_of_rest hline hrest)
              have hall := hand_append hline
              rw [hunfinished, hsplit] at hall
              rw [hunfinished]
              refine (ih (by simpa using hline)).mono ?_ ?_
              · intro _ after hafter
                exact hafter.trans hall
              · rintro _ after ⟨attempt, rfl⟩
                exact ⟨attempt, rfl⟩
          case h_3 error _ =>
            split
            case isTrue => exact ih hline
            case isFalse => exact ⟨_, rfl⟩
      · exact nofun

theorem line_ne_nil : context.line ≠ [] := by
  simp [SerialExchangeContext.line]

theorem keeps_flushSerialWrite (hattempt : seen.attempt = context.line) :
    Keeps (observer context strict) (flushSerialWrite deadline fuel) seen
      (fun _ after => after = seen)
      (fun stop after => after = seen ∧ (strict → stop.isRecoverableWrite = false)) := by
  induction fuel with
  | zero => exact ⟨rfl, fun _ => rfl⟩
  | succ fuel ih =>
    rw [flushSerialWrite, keeps_bind, keeps_ask]
    intro now _
    split
    case isTrue => exact ⟨rfl, fun _ => by decide +kernel⟩
    case isFalse =>
      rw [keeps_bind, keeps_ask]
      intro answer hpermitted
      split
      case h_1 => exact rfl
      case h_2 error _ =>
        split
        case isTrue => exact ih
        case isFalse => exact ⟨rfl, fun hstrict => hpermitted hstrict hattempt⟩

/-- The line is handed over, or it is not and the write fails. -/
theorem keeps_writeSerialLine (hattempt : seen.attempt = []) :
    Keeps (observer context strict) (writeSerialLine fuel context.request deadline) seen
      (fun _ after => after = seen.hand context context.line)
      (fun stop after => (∃ attempt, after = { seen with attempt := attempt }) ∨
        (after = seen.hand context context.line ∧
          (strict → stop.isRecoverableWrite = false))) := by
  have hline : seen.attempt ++ (context.request ++ [0x0A]) <+: context.line := by
    rw [hattempt]
    exact List.prefix_rfl
  have hrequest := hand_of_unfinished (ne_line_of_rest hline (List.cons_ne_nil _ _))
  have hall : _ = seen.hand context context.line := hand_append hline
  rw [hrequest] at hall
  rw [writeSerialLine]
  refine Keeps.bind ((keeps_writeSerialBytes ?_).mono (fun _ _ h => h) fun _ _ h => .inl h) ?_
  · rw [hattempt]
    exact List.prefix_append _ _
  · rintro _ _ rfl
    rw [hrequest]
    refine Keeps.bind ((keeps_writeSerialBytes ?_).mono (fun _ _ h => h.trans hall) ?_) ?_
    · rw [hattempt]
      exact List.prefix_rfl
    · rintro _ _ ⟨attempt, rfl⟩
      exact .inl ⟨attempt, rfl⟩
    · rintro _ _ rfl
      refine (keeps_flushSerialWrite ?_).mono (fun _ _ h => h) fun _ _ h => .inr h
      simp [hand, hattempt, line_ne_nil]

/-- Handing the line over when there may be a write leaves nothing without cause. -/
theorem sent_hand (hwrite : MayWrite seen) (hattempt : seen.attempt = []) :
    Sent (seen.hand context context.line) := by
  obtain ⟨hjustified, hready⟩ := hwrite
  unfold Sent
  cases hsent : seen.sent with
  | false => simp [hand, hattempt, line_ne_nil, hjustified, hsent]
  | true => simp [hand, hattempt, line_ne_nil, hjustified, hready hsent]

/-- Whether the line was handed over or not, the count of stalls stays. -/
theorem hand_stalls : (seen.hand context bytes).stalls = seen.stalls := by
  unfold hand
  split <;> rfl

def WriteCause.stalls : WriteCause → ℕ
  | .stalled => 1
  | _ => 0

theorem keeps_writeSerialRequest {stalls deadline fuel : ℕ} {cause : WriteCause}
    (h : Stands strict stalls MayWrite seen) :
    Keeps (observer context strict) (writeSerialRequest fuel context.request deadline cause) seen
      (fun _ => Stands strict (stalls + cause.stalls) Sent)
      (fun stop => Stands strict (stalls + cause.stalls) (MayRetry stop)) := by
  obtain ⟨hstalls, hwrite⟩ := h
  have hfailed {begun : Transmissions} {stop : Stop} (hbegun : begun.stalls ≤ stalls + cause.stalls)
      (hmay : strict → MayWrite begun) :
      Stands strict (stalls + cause.stalls) (MayRetry stop) begun :=
    ⟨hbegun, fun hstrict => ⟨(hmay hstrict).1, fun _ => hmay hstrict⟩⟩
  rw [writeSerialRequest, keeps_bind, validateSerialRequestLen]
  split
  case isTrue => exact hfailed (by omega) hwrite
  case isFalse =>
    rw [keeps_pure, keeps_bind, keeps_ask]
    intro begun _
    generalize hghost : seen.after context (.beginWrite cause) begun = ghost
    -- The attempt starts empty, and what was sent before it is what it was.
    have hattempt : ghost.attempt = [] := by rw [← hghost]; rfl
    have hbegun : ghost.stalls ≤ stalls + cause.stalls := by
      rw [← hghost]
      cases cause <;> simp [after, WriteCause.stalls, hstalls]
    have hmay : strict → MayWrite ghost := by rw [← hghost]; exact hwrite
    rw [keeps_bind, keeps_orHttp]
    cases begun with
    | error message => exact hfailed hbegun hmay
    | ok _ =>
      rw [keeps_bind, keeps_ask]
      intro now _
      have hhanded : (ghost.hand context context.line).stalls ≤ stalls + cause.stalls :=
        hand_stalls.trans_le hbegun
      rw [keeps_bind, keeps_catch]
      refine (keeps_writeSerialLine hattempt).mono ?_ ?_
      · rintro _ _ rfl
        rw [keeps_bind, keeps_ask]
        intro finished _
        rw [keeps_orHttp]
        have hsent (hstrict : strict) : Sent (ghost.hand context context.line) :=
          sent_hand (hmay hstrict) hattempt
        cases finished with
        | ok _ => exact ⟨hhanded, hsent⟩
        | error message =>
          refine ⟨hhanded, fun hstrict => ⟨(hsent hstrict).1, ?_⟩⟩
          intro hrecoverable
          rw [Stop.isRecoverableWrite, not_recoverable_serialTimeoutConfig] at hrecoverable
          cases hrecoverable
      · intro stop after hafter
        have hstop : Stands strict (stalls + cause.stalls) (MayRetry stop) after := by
          rcases hafter with ⟨attempt, rfl⟩ | ⟨rfl, hfatal⟩
          · exact hfailed hbegun hmay
          · refine ⟨hhanded, fun hstrict => ⟨(sent_hand (hmay hstrict) hattempt).1, ?_⟩⟩
            intro hrecoverable
            rw [hfatal hstrict] at hrecoverable
            cases hrecoverable
        cases stop with
        | cut => exact hstop
        | http error => exact hstop
        | io error =>
          rw [keeps_bind, keeps_ask]
          intro finished _
          refine ⟨hstop.1, fun hstrict => ⟨(hstop.2 hstrict).1, fun hrecoverable => ?_⟩⟩
          rw [Stop.isRecoverableWrite, isRecoverableWriteHttpError_serialIo] at hrecoverable
          exact (hstop.2 hstrict).2 hrecoverable

/-! ## Opening the port again -/

theorem keeps_reopenSerialSession :
    Keeps (observer context strict) (reopenSerialSession deadline fuel) seen
      (fun _ after => after = seen) (fun _ after => after = seen) := by
  induction fuel with
  | zero => exact rfl
  | succ fuel ih =>
    rw [reopenSerialSession, keeps_bind, keeps_ask]
    intro now _
    split
    case isTrue => exact rfl
    case isFalse =>
      rw [keeps_bind, keeps_ask]
      intro present _
      split
      case isTrue =>
        rw [keeps_bind, keeps_ask]
        intro opened _
        split
        case h_1 => exact rfl
        case h_2 error _ =>
          split
          case isTrue => exact ih
          case isFalse => exact rfl
      case isFalse => exact ih

theorem keeps_takeOrOpenSerialSession :
    Keeps (observer context strict) (takeOrOpenSerialSession fuel deadline) seen
      (fun _ after => after = seen) (fun _ after => after = seen) := by
  rw [takeOrOpenSerialSession, keeps_bind, keeps_ask]
  intro cached _
  split
  case isTrue =>
    rw [keeps_bind, keeps_ask]
    intro present _
    split
    case isTrue =>
      rw [keeps_bind, keeps_ask]
      intro identity _
      rw [keeps_orHttp]
      cases identity <;> exact rfl
    case isFalse => exact keeps_reopenSerialSession
  case isFalse => exact keeps_reopenSerialSession

/-- A second attempt follows a write that failed before the whole line was handed over. -/
theorem keeps_writeSerialRequestWithReopen {stalls deadline fuel : ℕ} {cause : WriteCause}
    (hcause : cause.stalls = 0) (h : Stands strict stalls MayWrite seen) :
    Keeps (observer context strict)
      (writeSerialRequestWithReopen fuel context.request deadline cause) seen
      (fun _ => Stands strict stalls Sent) (fun _ => Stands strict stalls Justified) := by
  have hjustified {stop : Stop} {after : Transmissions}
      (hstop : Stands strict stalls (MayRetry stop) after) : Stands strict stalls Justified after :=
    ⟨hstop.1, fun hstrict => (hstop.2 hstrict).1⟩
  rw [writeSerialRequestWithReopen, keeps_bind, keeps_catch]
  refine (keeps_writeSerialRequest h).mono ?_ ?_
  · rw [hcause]
    exact fun _ _ hsent => hsent
  · rw [hcause]
    intro stop after hstop
    cases stop with
    | cut | io error => exact hjustified hstop
    | http error =>
      change Keeps _ (if isRecoverableWriteHttpError error = true then _ else _) _ _ _
      split
      case isTrue hrecoverable =>
        rw [keeps_bind]
        refine keeps_reopenSerialSession.mono ?_ ?_
        · intro _ reopened hreopened
          have hmay : Stands strict stalls MayWrite reopened := by
            rw [hreopened]
            exact ⟨hstop.1, fun hstrict => (hstop.2 hstrict).2 hrecoverable⟩
          exact (keeps_writeSerialRequest hmay).mono (fun _ _ hsent => hsent)
            fun _ _ hfailed => hjustified hfailed
        · rintro _ _ rfl
          exact hjustified hstop
      case isFalse => exact hjustified hstop

/-! ## Listening -/

variable (context seen) in
theorem hear_eq (line : List PortByte) :
    ∃ reply, seen.hear context line = { seen with reply := reply } ∧
      (seen.reply ≠ .nothing → reply ≠ .nothing) := by
  unfold hear
  split
  case isTrue => exact ⟨seen.reply, rfl, id⟩
  case isFalse =>
    split
    case h_1 hnothing =>
      split
      case isTrue => exact ⟨.starting, rfl, fun _ => nofun⟩
      case isFalse => exact ⟨seen.reply, rfl, id⟩
    case h_2 =>
      split
      case isTrue => exact ⟨.ready, rfl, fun _ => nofun⟩
      case isFalse => exact ⟨seen.reply, rfl, id⟩
    case h_3 => exact ⟨seen.reply, rfl, id⟩

variable {line : List PortByte}

theorem hear_of_starting (hreply : isReply line = true)
    (hstarting : context.isStarting line = true) :
    (seen.hear context line).reply ≠ .nothing := by
  cases h : seen.reply with
  | nothing => simp [hear, hreply, h, hstarting]
  | starting =>
    obtain ⟨reply, heq, hspoken⟩ := hear_eq context seen line
    rw [heq]
    exact hspoken (by rw [h]; exact nofun)
  | ready => simp [hear, hreply, h]

theorem hear_of_ready (hspoken : seen.reply ≠ .nothing)
    (hreply : seen.reply = .starting → isReply line = true)
    (hready : serialLineIsRuntimeReady (line.map PortByte.byte) = true) :
    (seen.hear context line).reply = .ready := by
  cases h : seen.reply with
  | nothing => exact absurd h hspoken
  | starting => simp [hear, hreply h, h, hready]
  | ready => unfold hear; simp [h]

/-- What holds while the answer to the request is awaited, and when it has come. -/
def SerialLineAction.Stands : SerialLineAction → Transmissions → Prop
  | .proceed retryAfterRuntimeReady => Awaits retryAfterRuntimeReady
  | .response _ => Justified

theorem keeps_processSerialResponseLine {stalls deadline fuel : ℕ} {retry : Bool}
    (h : Stands strict stalls (Awaits retry) seen) :
    Keeps (observer context strict)
      (processSerialResponseLine context fuel deadline retry line) seen
      (fun action => Stands strict stalls action.Stands)
      (fun _ => Stands strict stalls Justified) := by
  obtain ⟨hstalls, hawaits⟩ := h
  obtain ⟨reply, hheard, hspoken⟩ := hear_eq context seen line
  rw [processSerialResponseLine, keeps_bind, keeps_ask]
  intro _ hpermitted
  change Keeps _ _ (seen.hear context line) _ _
  have hstalled : (seen.hear context line).stalls ≤ stalls := by rw [hheard]; exact hstalls
  have hsent (hstrict : strict) : Sent (seen.hear context line) := by
    rw [hheard]
    exact (hawaits hstrict).1
  have hawaited : Stands strict stalls (Awaits retry) (seen.hear context line) := by
    refine ⟨hstalled, fun hstrict => ⟨hsent hstrict, fun hretry => ?_⟩⟩
    rw [hheard]
    exact hspoken ((hawaits hstrict).2 hretry)
  have hstarting (hline : context.isStarting line = true) :
      Stands strict stalls (Awaits true) (seen.hear context line) := by
    refine ⟨hstalled, fun hstrict => ⟨hsent hstrict, fun _ => ?_⟩⟩
    exact hear_of_starting ((hpermitted hstrict).1 hline) hline
  have hjustified : Stands strict stalls Justified (seen.hear context line) :=
    ⟨hstalled, fun hstrict => (hsent hstrict).1⟩
  split
  case isTrue hmarker =>
    exact hstarting (by rw [SerialExchangeContext.isStarting, hmarker, Bool.true_or])
  case isFalse =>
    rw [keeps_bind, keeps_ask]
    intro now _
    split
    case isTrue hwrite =>
      simp only [shouldRetryRequestAfterRuntimeReady, Bool.and_eq_true] at hwrite
      obtain ⟨⟨hretry, -⟩, hready⟩ := hwrite
      have hmay : Stands strict stalls MayWrite (seen.hear context line) := by
        refine ⟨hstalled, fun hstrict => ⟨(hsent hstrict).1, fun _ => ?_⟩⟩
        exact hear_of_ready ((hawaits hstrict).2 hretry) ((hpermitted hstrict).2 hready) hready
      refine Keeps.bind (keeps_writeSerialRequestWithReopen rfl hmay) ?_
      rintro _ after ⟨hafter, hsent⟩
      exact ⟨hafter, fun hstrict => ⟨hsent hstrict, nofun⟩⟩
    case isFalse =>
      split
      case h_1 => exact hjustified
      case h_2 => exact hawaited
      case h_3 error hdecoded =>
        split
        case isTrue hbusy =>
          rw [keeps_bind, keeps_ask]
          intro later _
          split
          case isTrue =>
            refine hstarting ?_
            simp [SerialExchangeContext.isStarting, hdecoded, hbusy]
          case isFalse => exact hjustified
        case isFalse => exact hjustified

def SerialChunkResult.Stands : SerialChunkResult → Transmissions → Prop
  | .proceed retryAfterRuntimeReady _ => Awaits retryAfterRuntimeReady
  | .response _ => Justified

theorem keeps_processSerialReadChunk {stalls deadline fuel : ℕ} {retry : Bool}
    {buffer : LineBuffer} {bytes : List PortByte}
    (h : Stands strict stalls (Awaits retry) seen) :
    Keeps (observer context strict)
      (processSerialReadChunk context fuel deadline retry buffer bytes) seen
      (fun result => Stands strict stalls result.Stands)
      (fun _ => Stands strict stalls Justified) := by
  induction bytes generalizing retry buffer seen with
  | nil => exact h
  | cons byte bytes ih =>
    rw [processSerialReadChunk]
    split
    case h_1 => exact ih h
    case h_2 =>
      refine Keeps.bind (keeps_processSerialResponseLine h) ?_
      intro action after haction
      cases action with
      | proceed retry => exact ih haction
      | response payload => exact haction

/-! ## Stalls -/

/-- Only a read-only request is written again for a stall, and as often as there are tries
left. -/
def Stalls (strict : Prop) (holds : Transmissions → Prop) (retry : ReadOnlyResponseRetry)
    (seen : Transmissions) : Prop :=
  (strict → retry.enabled = false) ∧ ∃ stalls, stalls + retry.remaining ≤ 2 ∧
    Stands strict stalls holds seen

theorem keeps_resendIfStalled {retry : ReadOnlyResponseRetry} {now deadline fuel : ℕ}
    {startupPending : Bool} (h : Stalls strict (Awaits startupPending) retry seen) :
    Keeps (observer context strict)
      (resendIfStalled context fuel deadline retry now startupPending) seen
      (fun retry => Stalls strict (Awaits startupPending) retry)
      (fun _ => Stands strict 2 Justified) := by
  obtain ⟨hdisabled, stalls, hremaining, hstands⟩ := h
  rw [resendIfStalled]
  split
  case isTrue hready =>
    simp only [ReadOnlyResponseRetry.readyToRetry, Bool.and_eq_true, decide_eq_true_eq] at hready
    obtain ⟨⟨⟨⟨henabled, hpositive⟩, -⟩, -⟩, -⟩ := hready
    -- A single-shot request is not written again for a stall.
    have hloose : ¬strict := fun hstrict => by simp [hdisabled hstrict] at henabled
    have hwrite : Stands strict stalls MayWrite seen :=
      ⟨hstands.1, fun hstrict => absurd hstrict hloose⟩
    have htwo : stalls + WriteCause.stalled.stalls ≤ 2 := by
      change stalls + 1 ≤ 2
      omega
    rw [keeps_bind, keeps_ask]
    intro identity _
    rw [keeps_bind, keeps_orHttp]
    cases identity with
    | error error =>
      exact ⟨hstands.1.trans (by omega), fun hstrict => absurd hstrict hloose⟩
    | ok _ =>
      rw [keeps_bind]
      refine (keeps_writeSerialRequest hwrite).mono ?_ ?_
      · rintro _ after ⟨hafter, -⟩
        refine ⟨hdisabled, stalls + 1, ?_, hafter, fun hstrict => absurd hstrict hloose⟩
        change stalls + 1 + (retry.remaining - 1) ≤ 2
        omega
      · rintro _ after ⟨hafter, -⟩
        exact ⟨hafter.trans htwo, fun hstrict => absurd hstrict hloose⟩
  case isFalse => exact ⟨hdisabled, stalls, hremaining, hstands⟩

/-! ## The exchange -/

theorem Stands.relax {stalls stalls' : ℕ} {holds holds' : Transmissions → Prop}
    (h : Stands strict stalls holds seen) (hstalls : stalls ≤ stalls')
    (hholds : holds seen → holds' seen) : Stands strict stalls' holds' seen :=
  ⟨h.1.trans hstalls, fun hstrict => hholds (h.2 hstrict)⟩

/-- Between two reads the line was handed over, and never without cause. -/
theorem keeps_awaitResponse {deadline fuel rounds : ℕ} {state : ExchangeState}
    (h : Stalls strict (Awaits state.retryAfterRuntimeReady) state.readRetry seen) :
    Keeps (observer context strict) (awaitResponse context fuel deadline rounds state) seen
      (fun _ => Stands strict 2 Justified) (fun _ => Stands strict 2 Justified) := by
  induction rounds generalizing state seen with
  | zero =>
    obtain ⟨-, stalls, hremaining, hstands⟩ := h
    exact hstands.relax (by omega) fun hawaits => hawaits.1.1
  | succ rounds ih =>
    have hended {retry : ReadOnlyResponseRetry} {after : Transmissions}
        (h : Stalls strict (Awaits state.retryAfterRuntimeReady) retry after) :
        Stands strict 2 Justified after := by
      obtain ⟨-, stalls, hremaining, hstands⟩ := h
      exact hstands.relax (by omega) fun hawaits => hawaits.1.1
    rw [awaitResponse, keeps_bind, keeps_ask]
    intro now _
    split
    case isTrue => exact hended h
    case isFalse =>
      rw [keeps_bind, keeps_ask]
      intro retryNow _
      refine Keeps.bind (keeps_resendIfStalled h) ?_
      intro retry after hafter
      rw [keeps_bind, keeps_ask]
      intro answer hpermitted
      split
      case h_1 => exact ih hafter
      case h_2 byte bytes =>
        rw [keeps_bind, keeps_ask]
        intro progress _
        obtain ⟨hdisabled, stalls, hremaining, hstands⟩ := hafter
        rw [keeps_bind]
        refine (keeps_processSerialReadChunk hstands).mono ?_ ?_
        · intro result last hlast
          cases result with
          | response payload => exact hlast.relax (by omega) id
          | proceed retry buffer => exact ih ⟨hdisabled, stalls, hremaining, hlast⟩
        · intro _ last hlast
          exact hlast.relax (by omega) id
      case h_3 error =>
        split
        case isTrue => exact ih hafter
        case isFalse =>
          split
          case isTrue hrecoverable =>
            -- No such error comes once the line was handed over.
            have hloose : ¬strict := by
              intro hstrict
              obtain ⟨-, _, -, -, hawaits⟩ := hafter
              rw [hpermitted hstrict (hawaits hstrict).1.2] at hrecoverable
              cases hrecoverable
            obtain ⟨hdisabled, stalls, hremaining, hstands⟩ := hafter
            rw [keeps_bind]
            refine keeps_reopenSerialSession.mono ?_ ?_
            · intro _ reopened hreopened
              have hwrite : Stands strict stalls MayWrite reopened := by
                rw [hreopened]
                exact ⟨hstands.1, fun hstrict => absurd hstrict hloose⟩
              rw [keeps_bind]
              refine (keeps_writeSerialRequestWithReopen rfl hwrite).mono ?_ ?_
              · intro _ last hlast
                exact ih ⟨hdisabled, stalls, hremaining,
                  hlast.1, fun hstrict => absurd hstrict hloose⟩
              · intro _ last hlast
                exact hlast.relax (by omega) id
            · rintro _ _ rfl
              exact hstands.relax (by omega) fun hawaits => hawaits.1.1
          case isFalse => exact hended hafter

theorem keeps_serialExchangeBlocking {fuel : ℕ}
    (hstrict : strict → context.retryPolicy = .singleShot) :
    Keeps (observer context strict) (serialExchangeBlocking context fuel) {}
      (fun _ => Stands strict 2 Justified) (fun _ => Stands strict 2 Justified) := by
  have hstart {seen : Transmissions} (hseen : seen = {}) : Stands strict 0 MayWrite seen := by
    rw [hseen]
    exact ⟨le_rfl, fun _ => ⟨rfl, nofun⟩⟩
  rw [serialExchangeBlocking, keeps_bind, keeps_ask]
  intro start _
  rw [keeps_bind]
  refine keeps_takeOrOpenSerialSession.mono ?_ ?_
  · intro _ opened hopened
    rw [keeps_bind]
    refine (keeps_writeSerialRequestWithReopen rfl (hstart hopened)).mono ?_ ?_
    · intro _ sent hsent
      rw [keeps_bind, keeps_ask]
      intro now _
      refine keeps_awaitResponse ⟨?_, 0, le_rfl, hsent.relax le_rfl fun hsent => ⟨hsent, nofun⟩⟩
      intro h
      rw [ReadOnlyResponseRetry.new, hstrict h]
      rfl
    · intro _ failed hfailed
      exact hfailed.relax (by omega) id
  · intro _ failed hfailed
    exact (hstart hfailed).relax (by omega) fun hmay => hmay.1

end

/-! ## What an execution shows -/

abbrev SerialLog : Type := List (Σ effect : SerialEffect, effect.Answer)

/-- What is seen at the port after an execution. -/
def observed (context : SerialExchangeContext) (seen : Transmissions) (log : SerialLog) :
    Transmissions :=
  log.foldl (fun seen event => seen.after context event.1 event.2) seen

theorem afterAll_observer (context : SerialExchangeContext) (strict : Prop) (seen : Transmissions)
    (log : SerialLog) :
    (observer context strict).afterAll seen log = observed context seen log := by
  induction log generalizing seen with
  | nil => rfl
  | cons event log ih => exact ih _

/-- Every answer of the port is permitted, each after what was seen before it. -/
def AllPermitted (context : SerialExchangeContext) : Transmissions → SerialLog → Prop
  | _, [] => True
  | seen, ⟨effect, answer⟩ :: log =>
      Permitted context seen effect answer ∧
        AllPermitted context (seen.after context effect answer) log

def decideAllPermitted (context : SerialExchangeContext) :
    (seen : Transmissions) → (log : SerialLog) → Decidable (AllPermitted context seen log)
  | _, [] => inferInstanceAs (Decidable True)
  | seen, ⟨effect, answer⟩ :: log =>
      have := decideAllPermitted context (seen.after context effect answer) log
      inferInstanceAs (Decidable (Permitted context seen effect answer ∧
        AllPermitted context (seen.after context effect answer) log))

instance (context : SerialExchangeContext) (seen : Transmissions) (log : SerialLog) :
    Decidable (AllPermitted context seen log) := decideAllPermitted context seen log

theorem permits_observer {context : SerialExchangeContext} {strict : Prop} {seen : Transmissions}
    {log : SerialLog} (h : strict → AllPermitted context seen log) :
    (observer context strict).Permits seen log := by
  induction log generalizing seen with
  | nil => trivial
  | cons event log ih =>
    exact ⟨fun hstrict => (h hstrict).1, ih fun hstrict => (h hstrict).2⟩

/-- If the port gives a single-shot exchange no wrong reason to write again, its line is
handed over again only after the device has reported, in reply, a restart and that it is
ready.  No request is written more than twice for stalls. -/
theorem handed_over_with_cause {context : SerialExchangeContext} {fuel : ℕ} {log : SerialLog}
    {outcome : Except Stop Wire.Json}
    (h : (serialExchangeBlocking context fuel).run.Performs log outcome) :
    (context.retryPolicy = .singleShot → AllPermitted context {} log →
      (observed context {} log).unjustified = false) ∧
      (observed context {} log).stalls ≤ 2 := by
  let strict := context.retryPolicy = .singleShot ∧ AllPermitted context {} log
  have hkeeps : Keeps (observer context strict) (serialExchangeBlocking context fuel) {}
      (fun _ => Stands strict 2 Justified) (fun _ => Stands strict 2 Justified) :=
    keeps_serialExchangeBlocking And.left
  have hpermits : (observer context strict).Permits {} log := permits_observer And.right
  obtain ⟨-, hlast⟩ := Program.Follows.of_performs hkeeps h hpermits
  rw [afterAll_observer] at hlast
  have hstands : Stands strict 2 Justified (observed context {} log) := by
    cases outcome <;> exact hlast
  exact ⟨fun hpolicy hall => hstands.2 ⟨hpolicy, hall⟩, hstands.1⟩

/-! A mutation, on a port that takes what it is given. -/

def targetRequest : SerialExchangeContext where
  requestId := "1"
  request := "\x7b\"requestId\":\"1\"\x7d".toUTF8.toList
  retryPolicy := .singleShot
  firstFrame _ := none

def portAnswers (read : ℕ → Except IoError (List PortByte)) (index : ℕ) :
    (effect : SerialEffect) → effect.Answer
  | .now => index
  | .takeCachedSession | .portPathIsPresent => true
  | .requireIdentity | .openSession => .ok ()
  | .beginWrite _ | .finishWrite => .ok ()
  | .write bytes => .ok bytes.length
  | .flush => .ok ()
  | .read => read index
  | .emitLogLine _ => ()

def targetRun (read : ℕ → Except IoError (List PortByte)) : SerialLog × Except Stop Wire.Json :=
  (serialExchangeBlocking targetRequest 20).run.execute (portAnswers read) 0

/-- The runtime is reset while the request is on its way, and says so. -/
def resetThenReady (index : ℕ) : Except IoError (List PortByte) :=
  if index < 20 then
    .ok ("reset_reason=core_usb_uart\nboot_stage=runtime_ready\n".toUTF8.toList.map
      fun byte => ⟨byte, true⟩)
  else .error ⟨.other, "Input/output error"⟩

theorem handed_over_with_cause_reset : AllPermitted targetRequest {} (targetRun resetThenReady).1 ∧
      (observed targetRequest {} (targetRun resetThenReady).1).unjustified = false ∧
      (observed targetRequest {} (targetRun resetThenReady).1).stalls ≤ 2 := by
  have hpermitted : AllPermitted targetRequest {} (targetRun resetThenReady).1 := by
    decide +kernel
  have hcause := handed_over_with_cause
    (Program.performs_execute (portAnswers resetThenReady) 0
      (serialExchangeBlocking targetRequest 20).run)
  exact ⟨hpermitted, hcause.1 rfl hpermitted, hcause.2⟩

/-- The cable is pulled once after the whole line was handed over. -/
def pipeBreaksOnce (index : ℕ) : Except IoError (List PortByte) :=
  if index < 20 then .error ⟨.brokenPipe, "Broken pipe (os error 32)"⟩
  else .error ⟨.other, "Input/output error"⟩

/-- Nothing has come from the device, and the mutation is written a second time. -/
theorem not_all_handed_over_with_cause :
    ¬∀ (context : SerialExchangeContext) (fuel : ℕ) (log : SerialLog)
      (outcome : Except Stop Wire.Json),
      (serialExchangeBlocking context fuel).run.Performs log outcome →
        context.retryPolicy = .singleShot → (observed context {} log).unjustified = false := by
  intro h
  have hnone := h targetRequest 20 _ _
    (Program.performs_execute (portAnswers pipeBreaksOnce) 0
      (serialExchangeBlocking targetRequest 20).run) rfl
  have htwice : (observed targetRequest {} (targetRun pipeBreaksOnce).1).unjustified = true := by
    decide +kernel
  exact absurd (hnone.symm.trans htwice) nofun

end FluxPurr.Devd
