import FluxPurr.WebSerial.Matching

/-!
# Orderly runs of the client

In an orderly run what is pending was sent on the connection that reads (`Answered`), so a
response settles the request it belongs to.  Together with `Rounds` and `Bookkeeping` this gives
what the client does in orderly runs (`matchedAndSettled_of_orderly`).

In other runs a request may be settled on a connection it was not sent on, and a line may be
decoded that the device has not sent.  In every run a write that stays blocked keeps its promise
from being settled, whatever becomes of the response (`not_matchedAndSettled`).
-/

namespace FluxPurr.WebSerial.Session

open Runs

/-! ## Responses -/

/-- Every response that was settled by a line was settled by its own. -/
structure Answered (jsonParse : List Char → Option JsValue) (session : Session) : Prop where
  pendingPort : ∀ requestId ∈ session.pending,
    ∃ connection, session.port = some connection ∧ (requestId, connection) ∈ session.sent
  answers : ∀ requestId connection line frame,
    (requestId, .answered connection line frame) ∈ session.settled →
      session.Answers jsonParse requestId connection line frame
  okTrue : ∀ requestId connection line frame,
    (requestId, .answered connection line frame) ∈ session.settled →
      Settlement.isOk frame = true → frame.field? "ok" = some (.boolean true)

variable {jsonParse : List Char → Option JsValue}

theorem Answers.mono {session session' : Session}
    {requestId : String} {connection line : ℕ} {frame : JsValue}
    (h : session.Answers jsonParse requestId connection line frame)
    (hsent : session.sent ⊆ session'.sent)
    (hlines : session.lines connection <+: session'.lines connection) :
    session'.Answers jsonParse requestId connection line frame where
  sent := hsent h.sent
  decoded := by
    obtain ⟨text, hline, hparse⟩ := h.decoded
    obtain ⟨more, hmore⟩ := hlines
    refine ⟨text, ?_, hparse⟩
    rw [← hmore, List.getElem?_append_left (List.getElem?_eq_some_iff.mp hline).1]
    exact hline
  response := h.response

namespace Answered

variable {jsonParse : List Char → Option JsValue} {session session' : Session}

theorem start : Answered jsonParse {} where
  pendingPort _ h := absurd h List.not_mem_nil
  answers _ _ _ _ h := absurd h List.not_mem_nil
  okTrue _ _ _ _ h := absurd h List.not_mem_nil

theorem pending_eq_nil (h : session.Answered jsonParse) (hport : session.port = none) :
    session.pending = [] := by
  apply List.eq_nil_iff_forall_not_mem.mpr
  intro requestId hmem
  obtain ⟨connection, hsome, _⟩ := h.pendingPort requestId hmem
  rw [hport] at hsome
  cases hsome

theorem of_subset (h : session.Answered jsonParse) (hport : session'.port = session.port)
    (hpending : session'.pending ⊆ session.pending) (hsent : session'.sent = session.sent)
    (hsettled : session'.settled = session.settled) (hlines : session'.lines = session.lines) :
    session'.Answered jsonParse where
  pendingPort := by
    intro requestId hmem
    rw [hport, hsent]
    exact h.pendingPort requestId (hpending hmem)
  answers := by
    intro requestId connection line frame hmem
    rw [hsettled] at hmem
    refine (h.answers requestId connection line frame hmem).mono (fun _ hmem => hsent ▸ hmem) ?_
    exact hlines ▸ List.prefix_refl _
  okTrue := by
    rw [hsettled]
    exact h.okTrue

theorem settle_failed (h : session.Answered jsonParse) (requestId : String)
    (error : ControlPlaneClientError) :
    (session.settle requestId (.failed error)).Answered jsonParse where
  pendingPort := fun other hmem => h.pendingPort other (List.mem_of_mem_erase hmem)
  answers := by
    intro other connection line frame hmem
    rcases List.mem_append.mp hmem with hold | hnew
    · obtain ⟨hsent, hdecoded, hresponse⟩ := h.answers other connection line frame hold
      exact ⟨hsent, hdecoded, hresponse⟩
    · cases List.mem_singleton.mp hnew
  okTrue := by
    intro other connection line frame hmem
    rcases List.mem_append.mp hmem with hold | hnew
    · exact h.okTrue other connection line frame hold
    · cases List.mem_singleton.mp hnew

theorem rejectAll (h : session.Answered jsonParse) (error : ControlPlaneClientError) :
    (session.rejectAll error).Answered jsonParse where
  pendingPort := fun _ hmem => absurd hmem List.not_mem_nil
  answers := by
    intro other connection line frame hmem
    rcases List.mem_append.mp hmem with hold | hnew
    · obtain ⟨hsent, hdecoded, hresponse⟩ := h.answers other connection line frame hold
      exact ⟨hsent, hdecoded, hresponse⟩
    · obtain ⟨_, _, hfailed⟩ := List.mem_map.mp hnew
      cases hfailed
  okTrue := by
    intro other connection line frame hmem
    rcases List.mem_append.mp hmem with hold | hnew
    · exact h.okTrue other connection line frame hold
    · obtain ⟨_, _, hfailed⟩ := List.mem_map.mp hnew
      cases hfailed

theorem disconnect (h : session.Answered jsonParse) : session.disconnect.Answered jsonParse where
  pendingPort := fun _ hmem => absurd hmem List.not_mem_nil
  answers := by
    intro requestId connection line frame hmem
    obtain ⟨hsent, hdecoded, hresponse⟩ :=
      (h.rejectAll .closed).answers requestId connection line frame hmem
    exact ⟨hsent, hdecoded, hresponse⟩
  okTrue := (h.rejectAll .closed).okTrue

theorem takePort (h : session.Answered jsonParse) (hport : session.port = none)
    (readable : Bool) : (session.takePort readable).Answered jsonParse := by
  have hpending := h.pending_eq_nil hport
  have hanswers : ∀ requestId connection line frame,
      (requestId, .answered connection line frame) ∈ session.settled →
        (session.takePort readable).Answers jsonParse requestId connection line frame := by
    intro requestId connection line frame hmem
    obtain ⟨hsent, hdecoded, hresponse⟩ := h.answers requestId connection line frame hmem
    unfold Session.takePort
    cases readable <;> exact ⟨hsent, hdecoded, hresponse⟩
  have hsettled : (session.takePort readable).settled = session.settled := by
    unfold Session.takePort
    cases readable with
    | true => rfl
    | false =>
      show session.settled ++ session.pending.map _ = session.settled
      rw [hpending, List.map_nil, List.append_nil]
  refine ⟨?_, ?_, ?_⟩
  · intro requestId hmem
    have hnone : (session.takePort readable).pending = [] := by
      unfold Session.takePort
      cases readable with
      | true => exact hpending
      | false => rfl
    rw [hnone] at hmem
    cases hmem
  · rw [hsettled]
    exact hanswers
  · rw [hsettled]
    exact h.okTrue

variable {connection : ℕ}

theorem send (h : session.Answered jsonParse)
    (hport : session.port = some connection) (requestId : String) :
    (session.send requestId connection).Answered jsonParse where
  pendingPort := by
    intro other hmem
    rcases List.mem_append.mp hmem with hold | hnew
    · obtain ⟨used, hused, hsent⟩ := h.pendingPort other hold
      exact ⟨used, hused, List.mem_append_left _ hsent⟩
    · rw [List.mem_singleton.mp hnew]
      exact ⟨connection, hport, List.mem_append_right _ (List.mem_singleton_self _)⟩
  answers := fun other used line frame hmem =>
    (h.answers other used line frame hmem).mono (List.subset_append_left _ _)
      (List.prefix_refl _)
  okTrue := h.okTrue

theorem endWrite (h : session.Answered jsonParse) (requestId : String) (rest : List String)
    (error : Option ControlPlaneClientError) :
    (session.endWrite requestId rest error).Answered jsonParse := by
  unfold Session.endWrite
  dsimp only
  cases error with
  | none => exact h.of_subset rfl (List.Subset.refl _) rfl rfl rfl
  | some error =>
    dsimp only
    split
    · exact (h.settle_failed requestId error).of_subset rfl (List.Subset.refl _) rfl rfl rfl
    · exact h.of_subset rfl (List.Subset.refl _) rfl rfl rfl

/-! ## A line is decoded -/

theorem record (h : session.Answered jsonParse) (connection : ℕ) (line : List Char) :
    (session.record connection line).Answered jsonParse where
  __ := h
  answers := by
    intro requestId other number frame hmem
    refine (h.answers requestId other number frame hmem).mono (List.Subset.refl _) ?_
    unfold Session.record
    dsimp only
    by_cases hne : other = connection
    · rw [hne, Function.update_self]
      exact List.prefix_append _ _
    · exact (Function.update_of_ne hne _ session.lines).symm ▸ List.prefix_refl _

theorem okTrue_of_hasBooleanOk {line : List Char} {frame : JsValue}
    (hboolean : hasBooleanOk jsonParse line = true)
    (hparse : parseUsbResponseWire jsonParse line = some frame)
    (hok : Settlement.isOk frame = true) : frame.field? "ok" = some (.boolean true) := by
  unfold hasBooleanOk at hboolean
  rw [hparse] at hboolean
  unfold Settlement.isOk at hok
  dsimp only at hboolean
  cases hfield : frame.field? "ok" with
  | none =>
    rw [hfield] at hok
    cases hok
  | some value =>
    rw [hfield] at hok hboolean
    cases value with
    | boolean value =>
      cases value with
      | true => rfl
      | false => cases hok
    | null => cases hok
    | number literal isZero =>
      have hnot := of_decide_eq_true hboolean
      exact absurd hok hnot
    | string text =>
      have hnot := of_decide_eq_true hboolean
      exact absurd hok hnot
    | array items =>
      have hnot := of_decide_eq_true hboolean
      exact absurd hok hnot
    | object fields =>
      have hnot := of_decide_eq_true hboolean
      exact absurd hok hnot

/-- The connection that reads is the one whose port is in use, so what is pending was sent on
it. -/
theorem decodeResponseLine (h : session.Answered jsonParse) (hports : ∀ connection,
      session.port = some connection → connection + 1 = session.connections)
    (hlast : connection + 1 = session.connections) {line : List Char}
    (hboolean : hasBooleanOk jsonParse line = true) :
    (session.decodeResponseLine jsonParse connection line).Answered jsonParse := by
  have hrecord := h.record connection line
  unfold Session.decodeResponseLine
  split
  · rename_i requestId frame hresponse
    obtain ⟨found, hparse, hid⟩ := Option.bind_eq_some_iff.mp hresponse
    obtain ⟨same, hsame, hpair⟩ := Option.map_eq_some_iff.mp hid
    obtain ⟨rfl, rfl⟩ := Prod.mk.inj hpair
    split
    · rename_i hpending
      obtain ⟨used, hport, hsent⟩ := h.pendingPort same hpending
      have hused := hports used hport
      obtain rfl : used = connection := by omega
      have hnew : ((session.record used line).lines used)[(session.lines used).length]? =
          some line := by
        unfold Session.record
        dsimp only
        rw [Function.update_self, List.getElem?_concat_length]
      refine ⟨?_, ?_, ?_⟩
      · intro other hmem
        exact h.pendingPort other (List.mem_of_mem_erase hmem)
      · intro other number place frame hmem
        rcases List.mem_append.mp hmem with hold | hadded
        · obtain ⟨hold, hdecoded, hthis⟩ := hrecord.answers other number place frame hold
          exact ⟨hold, hdecoded, hthis⟩
        · cases List.mem_singleton.mp hadded
          exact ⟨hsent, ⟨line, hnew, hparse⟩, hsame⟩
      · intro other number place frame hmem
        rcases List.mem_append.mp hmem with hold | hadded
        · exact h.okTrue other number place frame hold
        · cases List.mem_singleton.mp hadded
          exact okTrue_of_hasBooleanOk hboolean hparse
    · exact hrecord
  · exact hrecord

theorem decodeLines (lines : List (List Char)) (h : session.Answered jsonParse)
    (hports : ∀ connection, session.port = some connection → connection + 1 = session.connections)
    (hlast : connection + 1 = session.connections)
    (hboolean : ∀ line ∈ lines, hasBooleanOk jsonParse line = true) :
    (lines.foldl (fun session line => session.decodeResponseLine jsonParse connection line)
      session).Answered jsonParse := by
  induction lines generalizing session with
  | nil => exact h
  | cons line lines ih =>
    rw [List.foldl_cons]
    have hsame := SameConnections.decodeResponseLine jsonParse session connection line
    apply ih (h.decodeResponseLine hports hlast (hboolean line List.mem_cons_self))
    · rw [hsame.port, hsame.connections]
      exact hports
    · rw [hsame.connections]
      exact hlast
    · exact fun other hmem => hboolean other (List.mem_cons_of_mem _ hmem)

/-- The lines of a chunk are lines of the text of the connection. -/
theorem hasBooleanOk_of_chunkLines (hrounds : session.Rounds)
    (hreads : connection ∈ session.readLoops) {bytes : List UInt8}
    (horderly : session.Orderly jsonParse (.chunk connection bytes)) :
    ∀ line ∈ session.chunkLines bytes, hasBooleanOk jsonParse line = true := by
  have hlast := hrounds.loopLast connection hreads
  have hall := hrounds.chunkLines_eq hreads (by omega) bytes
  rw [(consumeSerialText_spec _).1] at hall
  intro line hmem
  have hline := List.mem_append_right (session.lines connection) hmem
  rw [hall] at hline
  obtain ⟨whole, hwhole, rfl⟩ := List.mem_map.mp hline
  obtain ⟨hterminated, hfits⟩ := List.mem_filter.mp hwhole
  unfold Session.text Session.consumeChunk at hterminated
  dsimp only at hterminated
  rw [Function.update_self] at hterminated
  exact (horderly whole hterminated (of_decide_eq_true hfits)).2

theorem readChunk (h : session.Answered jsonParse) (hrounds : session.Rounds)
    (hreads : connection ∈ session.readLoops) {bytes : List UInt8}
    (horderly : session.Orderly jsonParse (.chunk connection bytes)) :
    (session.readChunk jsonParse connection bytes).Answered jsonParse := by
  have hchunk : (session.consumeChunk connection bytes).Answered jsonParse :=
    h.of_subset rfl (List.Subset.refl _) rfl rfl rfl
  have hdecoded := decodeLines (session.chunkLines bytes) hchunk hrounds.portLast
    (hrounds.loopLast connection hreads)
    (hasBooleanOk_of_chunkLines hrounds hreads horderly)
  unfold Session.readChunk
  dsimp only
  split
  · exact hdecoded
  · exact hdecoded.of_subset rfl (List.Subset.refl _) rfl rfl rfl

end Answered

/-! ## Orderly runs -/

/-- A turn of an orderly run. -/
def OrderlyStep (jsonParse : List Char → Option JsValue) (session : Session) (event : Event)
    (session' : Session) : Prop :=
  session.Orderly jsonParse event ∧ session.Step jsonParse event session'

/-- What an orderly run keeps. -/
structure Ordered (jsonParse : List Char → Option JsValue) (session : Session) : Prop where
  books : session.Bookkeeping
  rounds : session.Rounds
  answered : session.Answered jsonParse

variable {session : Session}

theorem not_mem_endAttempt (h : session.Rounds) :
    (session.endAttempt session.connectionAttempt).connectionAttempt ∉
      (session.endAttempt session.connectionAttempt).connecting :=
  h.attemptsNodup.not_mem_erase

theorem Ordered.opened
    (h : session.Ordered jsonParse) (hwaits : session.connectionAttempt ∈ session.connecting)
    (hidle : session.decoder.utf8 = {}) (readable : Bool) :
    ((session.endAttempt session.connectionAttempt).takePort readable).Rounds ∧
      ((session.endAttempt session.connectionAttempt).takePort readable).Answered jsonParse := by
  obtain ⟨hport, hloops, hbuffer⟩ := h.rounds.waiting hwaits
  have hanswered : (session.endAttempt session.connectionAttempt).Answered jsonParse :=
    h.answered.of_subset rfl (List.Subset.refl _) rfl rfl rfl
  exact ⟨(h.rounds.endAttempt _).takePort (h.books.endAttempt _) (not_mem_endAttempt h.rounds)
    hloops hbuffer hidle readable, hanswered.takePort hport readable⟩

/-- Every orderly turn keeps the connections and the responses in order. -/
theorem Ordered.turn {session session' : Session} {event : Event} (h : session.Ordered jsonParse)
    (hstep : session.OrderlyStep jsonParse event session') :
    session'.Rounds ∧ session'.Answered jsonParse := by
  obtain ⟨horderly, hstep⟩ := hstep
  obtain ⟨hbooks, hrounds, hanswered⟩ := h
  unfold Step Session.step at hstep
  cases event with
  | connect =>
    obtain rfl := Option.some.inj hstep
    exact ⟨hrounds.beginConnect horderly.1 horderly.2,
      hanswered.of_subset rfl (List.Subset.refl _) rfl rfl rfl⟩
  | opened attempt readable =>
    dsimp only at hstep
    split at hstep
    · cases hstep
    · rename_i hwaits
      split at hstep
      · obtain rfl := Option.some.inj hstep
        exact ⟨hrounds.endAttempt attempt,
          hanswered.of_subset rfl (List.Subset.refl _) rfl rfl rfl⟩
      · rename_i hcurrent
        obtain rfl := Option.some.inj hstep
        obtain rfl : attempt = session.connectionAttempt := not_not.mp hcurrent
        exact Ordered.opened ⟨hbooks, hrounds, hanswered⟩ (not_not.mp hwaits) (horderly rfl)
          readable
  | connectFails attempt =>
    dsimp only at hstep
    split at hstep
    · cases hstep
    · obtain rfl := Option.some.inj hstep
      exact ⟨hrounds.endAttempt attempt, hanswered.of_subset rfl (List.Subset.refl _) rfl rfl rfl⟩
  | disconnect =>
    obtain rfl := Option.some.inj hstep
    exact ⟨hrounds.disconnect, hanswered.disconnect⟩
  | exchange requestId writable =>
    dsimp only at hstep
    split at hstep
    · cases hstep
    · split at hstep
      · obtain rfl := Option.some.inj hstep
        exact ⟨hrounds, hanswered⟩
      · rename_i hport
        split at hstep
        · obtain rfl := Option.some.inj hstep
          exact ⟨hrounds.of_same (SameConnections.send _ _ _) rfl, hanswered.send hport requestId⟩
        · obtain rfl := Option.some.inj hstep
          exact ⟨hrounds, hanswered⟩
  | writeEnds error =>
    dsimp only at hstep
    split at hstep
    · cases hstep
    · obtain rfl := Option.some.inj hstep
      exact ⟨hrounds.of_same (SameConnections.endWrite _ _ _ _) (lines_endWrite _ _ _ _),
        hanswered.endWrite _ _ _⟩
  | timeout requestId =>
    dsimp only at hstep
    split at hstep
    · cases hstep
    · obtain rfl := Option.some.inj hstep
      exact ⟨hrounds.of_same (SameConnections.settle _ _ _) rfl,
        hanswered.settle_failed requestId _⟩
  | chunk connection bytes =>
    dsimp only at hstep
    split at hstep
    · cases hstep
    · rename_i hreads
      obtain rfl := Option.some.inj hstep
      exact ⟨hrounds.readChunk (not_not.mp hreads) bytes horderly,
        hanswered.readChunk hrounds (not_not.mp hreads) horderly⟩
  | streamEnds connection | readFails connection error =>
    dsimp only at hstep
    split at hstep
    · cases hstep
    · obtain rfl := Option.some.inj hstep
      exact ⟨(hrounds.of_same (SameConnections.rejectAll _ _) rfl).endLoop connection,
        (hanswered.rejectAll _).of_subset rfl (List.Subset.refl _) rfl rfl rfl⟩

theorem Ordered.step {session session' : Session} {event : Event} (h : session.Ordered jsonParse)
    (hstep : session.OrderlyStep jsonParse event session') : session'.Ordered jsonParse :=
  ⟨h.books.step hstep.2, (h.turn hstep).1, (h.turn hstep).2⟩

theorem Ordered.of_reaches {events : List Event}
    (h : Reaches (OrderlyStep jsonParse) {} events session) :
    session.Ordered jsonParse :=
  h.invariant ⟨Bookkeeping.start, Rounds.start, Answered.start⟩
    fun _ _ _ hordered hstep => hordered.step hstep

theorem Ordered.matched (h : session.Ordered jsonParse) : session.Matched jsonParse where
  answers := h.answered.answers
  resolved := by
    intro requestId settlement payload hmem houtcome
    cases settlement with
    | failed error => cases houtcome
    | answered connection line frame =>
      have hok : Settlement.isOk frame = true := by
        unfold Settlement.outcome at houtcome
        dsimp only at houtcome
        split at houtcome
        · rename_i hok
          exact hok
        · cases houtcome
      exact ⟨connection, line, frame, rfl,
        h.answered.okTrue requestId connection line frame hmem hok⟩
  once := h.books.settledNodup
  lineOnce := h.books.sourcesNodup

theorem Rounds.linesExact (h : session.Rounds) : session.LinesExact := by
  intro connection hlt text c rest tail hreceived hrest htail hmark
  have htext : session.text connection = text := by
    unfold Session.text
    rw [hreceived]
    exact TextDecoder.decode_utf8 (h.idle connection hlt) hmark hrest htail
  have hnarrow := h.narrow connection hlt
  rw [htext] at hnarrow
  rw [h.decoded connection hlt, htext]
  exact (lines_eq_iff text).mpr hnarrow

/-- In an orderly run, requests are matched exactly, the lines of every connection are exact,
and a request that is no longer pending is settled with the end of its write. -/
theorem matchedAndSettled_of_orderly (jsonParse : List Char → Option JsValue)
    (events : List Event) (session : Session)
    (h : Reaches (OrderlyStep jsonParse) {} events session) :
    session.Matched jsonParse ∧ session.LinesExact ∧ session.SettlesWithWrite := by
  have hordered := Ordered.of_reaches h
  exact ⟨hordered.matched, hordered.rounds.linesExact,
    fun _ hsent hpending => hordered.books.promiseSettled_iff hsent hpending⟩

/-! ## An orderly run -/

instance decidableOrderly (jsonParse : List Char → Option JsValue) (session : Session) :
    (event : Event) → Decidable (session.Orderly jsonParse event)
  | .connect => inferInstanceAs (Decidable (_ ∧ _))
  | .opened _ _ => inferInstanceAs (Decidable (_ → _))
  | .chunk _ _ => inferInstanceAs (Decidable (∀ _ ∈ _, _))
  | .connectFails _ | .disconnect | .exchange _ _ | .writeEnds _ | .timeout _ | .streamEnds _
  | .readFails _ _ => inferInstanceAs (Decidable True)

/-- The turn, if it is orderly. -/
def orderlyStep (jsonParse : List Char → Option JsValue) (session : Session) (event : Event) :
    Option Session :=
  if session.Orderly jsonParse event then session.step jsonParse event else none

theorem reaches_orderlyStep {events : List Event}
    (h : events.foldlM (orderlyStep jsonParse) {} = some session) :
    Reaches (OrderlyStep jsonParse) {} events session := by
  apply (Reaches.of_foldlM h).mono
  intro before event after hstep
  unfold orderlyStep at hstep
  split at hstep
  · rename_i horderly
    exact ⟨horderly, hstep⟩
  · cases hstep

def answeredLine : List Char :=
  "\x7b\"type\":\"response\",\"requestId\":\"web-1\",\"ok\":true\x7d".toList

def answeredParse (text : List Char) : Option JsValue :=
  if text = answeredLine then
    some (.object [("type", .string "response"), ("requestId", .string "web-1"),
      ("ok", .boolean true)])
  else none

/-- A request whose response comes in two chunks. -/
def answeredEvents : List Event :=
  [.connect, .opened 1 true, .exchange "web-1" true, .writeEnds none,
    .chunk 0 (utf8 (answeredLine.take 20)), .chunk 0 (utf8 (answeredLine.drop 20 ++ ['\n']))]

theorem matchedAndSettled_answered :
    ∃ session : Session, session.settled.map Prod.fst = ["web-1"] ∧
      session.Matched answeredParse ∧ session.LinesExact ∧ session.SettlesWithWrite := by
  have hrun : (answeredEvents.foldlM (orderlyStep answeredParse) {}).map
      (fun session => session.settled.map Prod.fst) = some ["web-1"] := by
    decide +kernel
  obtain ⟨session, hsession, hsettled⟩ := Option.map_eq_some_iff.mp hrun
  exact ⟨session, hsettled, matchedAndSettled_of_orderly answeredParse answeredEvents session
    (reaches_orderlyStep hsession)⟩

/-! ## Runs that are not orderly -/

/-- A request is sent on the first connection, and its response comes on the second one. -/
def sharedEvents : List Event :=
  [.connect, .opened 1 true, .exchange "web-1" true, .connect, .opened 2 true,
    .chunk 1 (utf8 (answeredLine ++ ['\n']))]

/-- The first connection ends within a character, and the second one reads a line. -/
def cutEvents : List Event :=
  [.connect, .opened 1 true, .chunk 0 [0xC3], .streamEnds 0, .disconnect, .connect,
    .opened 3 true, .chunk 1 (utf8 ['o', 'k', '\n'])]

/-- The timer of a request fires while its write is blocked. -/
def blockedEvents : List Event :=
  [.connect, .opened 1 true, .exchange "web-1" true, .timeout "web-1"]

theorem not_matched_of_shared :
    ∃ session, Reaches (Step answeredParse) {} sharedEvents session ∧
      ¬session.Matched answeredParse := by
  have hrun : (sharedEvents.foldlM (fun session event => step answeredParse session event)
      {}).map (fun session => (session.sources, session.sent)) =
        some ([(1, 0)], [("web-1", 0)]) := by
    decide +kernel
  obtain ⟨session, hsession, hends⟩ := Option.map_eq_some_iff.mp hrun
  obtain ⟨hsources, hsent⟩ := Prod.mk.inj hends
  refine ⟨session, Reaches.of_foldlM hsession, fun hmatched => ?_⟩
  have hsource : (1, 0) ∈ session.sources := hsources ▸ List.mem_cons_self
  obtain ⟨⟨requestId, settlement⟩, hmem, hsettlement⟩ := List.mem_filterMap.mp hsource
  cases settlement with
  | failed error => cases hsettlement
  | answered connection line frame =>
    obtain ⟨rfl, rfl⟩ := Prod.mk.inj (Option.some.inj hsettlement)
    have hsame := (hmatched.answers requestId _ _ frame hmem).sent
    rw [hsent] at hsame
    cases List.mem_singleton.mp hsame

theorem not_linesExact_of_cut :
    ∃ session, Reaches (Step answeredParse) {} cutEvents session ∧ ¬session.LinesExact := by
  have hrun : (cutEvents.foldlM (fun session event => step answeredParse session event)
      {}).map (fun session => (session.connections, session.received 1, session.lines 1)) =
        some (2, utf8 ['o', 'k', '\n'], [[replacementCharacter, 'o', 'k']]) := by
    decide +kernel
  obtain ⟨session, hsession, hends⟩ := Option.map_eq_some_iff.mp hrun
  obtain ⟨hconnections, hends⟩ := Prod.mk.inj hends
  obtain ⟨hreceived, hlines⟩ := Prod.mk.inj hends
  refine ⟨session, Reaches.of_foldlM hsession, fun hexact => ?_⟩
  have hexpected := hexact 1 (by omega) ['o', 'k', '\n'] 'a' [] [97]
    (by rw [hreceived, List.append_nil]) (by decide +kernel) (List.cons_ne_nil _ _)
    (by decide +kernel)
  rw [hlines] at hexpected
  exact absurd hexpected (by decide +kernel)

theorem not_promiseSettled_of_blocked :
    ∃ session, Reaches (Step answeredParse) {} blockedEvents session ∧
      session.sent.map Prod.fst = ["web-1"] ∧ session.pending = [] ∧
        ¬session.PromiseSettled "web-1" := by
  have hrun : (blockedEvents.foldlM (fun session event => step answeredParse session event)
      {}).map (fun session =>
        (session.sent.map Prod.fst, session.pending, session.writes.map Prod.fst)) =
          some (["web-1"], [], []) := by
    decide +kernel
  obtain ⟨session, hsession, hends⟩ := Option.map_eq_some_iff.mp hrun
  obtain ⟨hsent, hends⟩ := Prod.mk.inj hends
  obtain ⟨hpending, hwrites⟩ := Prod.mk.inj hends
  refine ⟨session, Reaches.of_foldlM hsession, hsent, hpending, ?_⟩
  have hnone : session.writes = [] := List.map_eq_nil_iff.mp hwrites
  rintro (⟨error, hwrite⟩ | ⟨hwrite, _⟩)
  · rw [hnone] at hwrite
    cases hwrite
  · rw [hnone] at hwrite
    cases hwrite

/-- Other runs keep none of the three. -/
theorem not_matchedAndSettled :
    (¬∀ events session, Reaches (Step answeredParse) {} events session →
      session.Matched answeredParse) ∧
    (¬∀ events session, Reaches (Step answeredParse) {} events session → session.LinesExact) ∧
    ¬∀ events session, Reaches (Step answeredParse) {} events session →
      ∀ requestId ∈ session.sent.map Prod.fst, requestId ∉ session.pending →
        session.PromiseSettled requestId := by
  refine ⟨fun hall => ?_, fun hall => ?_, fun hall => ?_⟩
  · obtain ⟨session, hreaches, hnot⟩ := not_matched_of_shared
    exact hnot (hall _ session hreaches)
  · obtain ⟨session, hreaches, hnot⟩ := not_linesExact_of_cut
    exact hnot (hall _ session hreaches)
  · obtain ⟨session, hreaches, hsent, hpending, hnot⟩ := not_promiseSettled_of_blocked
    apply hnot
    apply hall _ session hreaches
    · rw [hsent]
      exact List.mem_cons_self
    · rw [hpending]
      exact List.not_mem_nil

end FluxPurr.WebSerial.Session
