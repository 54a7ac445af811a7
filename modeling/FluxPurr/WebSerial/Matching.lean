import FluxPurr.WebSerial.Bookkeeping

/-!
# Responses and lines of the connections

All connections share one decoder and one line buffer, and every read loop may answer every
pending request.  A run is orderly (`Orderly`) when a connection begins after the one before it
is closed, finds no incomplete character in the decoder, and gets no line that is longer than
the limit in bytes and not in code units.  In an orderly run a request is resolved by a response
on its own connection, and the lines of a connection are those of its own bytes
(`matchedAndSettled_of_orderly`).
-/

namespace FluxPurr.WebSerial.Session

/-! ## The statement -/

/-- The text that a connection has received. -/
def text (session : Session) (connection : ℕ) : List Char :=
  ((session.openedWith connection).decode (session.received connection)).1

/-- Of the frames of a line, `ok` is true or false, or is missing. -/
def hasBooleanOk (jsonParse : List Char → Option JsValue) (line : List Char) : Bool :=
  match parseUsbResponseWire jsonParse line with
  | none => true
  | some frame =>
      match frame.field? "ok" with
      | some (.boolean _) => true
      | some value => ¬ value.isTruthy
      | none => true

/-- The condition on one turn. -/
def Orderly (jsonParse : List Char → Option JsValue) (session : Session) : Event → Prop
  | .connect => session.port = none ∧ session.readLoops = []
  | .opened attempt _ => attempt = session.connectionAttempt → session.decoder.utf8 = {}
  | .chunk connection bytes =>
      ∀ line ∈ (textLines ((session.openedWith connection).decode
          (session.received connection ++ bytes)).1).terminated,
        Fits line →
          byteLength line ≤ webSerialContentLimit ∧ hasBooleanOk jsonParse (trim line) = true
  | _ => True

/-- The line is a response to the request, on the connection the request was sent on. -/
structure Answers (jsonParse : List Char → Option JsValue) (session : Session)
    (requestId : String) (connection line : ℕ) (frame : JsValue) : Prop where
  sent : (requestId, connection) ∈ session.sent
  decoded : ∃ text, (session.lines connection)[line]? = some text ∧
    parseUsbResponseWire jsonParse text = some frame
  response : responseId frame = some requestId

/-- A response resolves a request only if its `ok` is true, and settles one request at most. -/
structure Matched (jsonParse : List Char → Option JsValue) (session : Session) : Prop where
  answers : ∀ requestId connection line frame,
    (requestId, .answered connection line frame) ∈ session.settled →
      session.Answers jsonParse requestId connection line frame
  resolved : ∀ requestId settlement payload, (requestId, settlement) ∈ session.settled →
    settlement.outcome = .ok payload →
      ∃ connection line frame, settlement = .answered connection line frame ∧
        frame.field? "ok" = some (.boolean true)
  once : (session.settled.map Prod.fst).Nodup
  lineOnce : session.sources.Nodup

/-- The lines of a connection whose bytes are UTF-8, up to a character that is incomplete, are
those within the limit. -/
def LinesExact (session : Session) : Prop :=
  ∀ connection < session.connections, ∀ text c rest tail,
    session.received connection = utf8 text ++ rest → String.utf8EncodeChar c = rest ++ tail →
      tail ≠ [] → text.head? ≠ some byteOrderMark → session.lines connection = expectedLines text

/-- A request that is no longer pending is settled when its write has ended. -/
def SettlesWithWrite (session : Session) : Prop :=
  ∀ requestId ∈ session.sent.map Prod.fst, requestId ∉ session.pending →
    (session.PromiseSettled requestId ↔ requestId ∉ session.writeChain)

/-! ## One connection after the other -/

structure Rounds (session : Session) : Prop where
  attempts : ∀ attempt ∈ session.connecting, attempt ≤ session.connectionAttempt
  attemptsNodup : session.connecting.Nodup
  waiting : session.connectionAttempt ∈ session.connecting →
    session.port = none ∧ session.readLoops = [] ∧ session.buffer = {}
  portLast : ∀ connection, session.port = some connection →
    connection + 1 = session.connections
  loopLast : ∀ connection ∈ session.readLoops, connection + 1 = session.connections
  reading : ∀ connection ∈ session.readLoops,
    session.decoder =
        ((session.openedWith connection).decode (session.received connection)).2 ∧
      session.buffer = (LineBuffer.consumeSerialText {} (session.text connection)).2
  decoded : ∀ connection < session.connections,
    session.lines connection = (LineBuffer.consumeSerialText {} (session.text connection)).1
  idle : ∀ connection < session.connections, (session.openedWith connection).utf8 = {}
  narrow : ∀ connection < session.connections,
    ∀ line ∈ (textLines (session.text connection)).terminated, Fits line →
      byteLength line ≤ webSerialContentLimit

/-- What only concerns requests leaves the connections as they are. -/
structure SameConnections (before after : Session) : Prop where
  port : after.port = before.port
  readLoops : after.readLoops = before.readLoops
  decoder : after.decoder = before.decoder
  buffer : after.buffer = before.buffer
  connectionAttempt : after.connectionAttempt = before.connectionAttempt
  connecting : after.connecting = before.connecting
  connections : after.connections = before.connections
  openedWith : after.openedWith = before.openedWith
  received : after.received = before.received

namespace SameConnections

variable {before after last : Session}

theorem refl (session : Session) : SameConnections session session :=
  ⟨rfl, rfl, rfl, rfl, rfl, rfl, rfl, rfl, rfl⟩

theorem trans (hfirst : SameConnections before after) (hrest : SameConnections after last) :
    SameConnections before last where
  port := hrest.port.trans hfirst.port
  readLoops := hrest.readLoops.trans hfirst.readLoops
  decoder := hrest.decoder.trans hfirst.decoder
  buffer := hrest.buffer.trans hfirst.buffer
  connectionAttempt := hrest.connectionAttempt.trans hfirst.connectionAttempt
  connecting := hrest.connecting.trans hfirst.connecting
  connections := hrest.connections.trans hfirst.connections
  openedWith := hrest.openedWith.trans hfirst.openedWith
  received := hrest.received.trans hfirst.received

theorem settle (session : Session) (requestId : String) (settlement : Settlement) :
    SameConnections session (session.settle requestId settlement) :=
  ⟨rfl, rfl, rfl, rfl, rfl, rfl, rfl, rfl, rfl⟩

theorem rejectAll (session : Session) (error : ControlPlaneClientError) :
    SameConnections session (session.rejectAll error) :=
  ⟨rfl, rfl, rfl, rfl, rfl, rfl, rfl, rfl, rfl⟩

theorem send (session : Session) (requestId : String) (connection : ℕ) :
    SameConnections session (session.send requestId connection) :=
  ⟨rfl, rfl, rfl, rfl, rfl, rfl, rfl, rfl, rfl⟩

theorem endWrite (session : Session) (requestId : String) (rest : List String)
    (error : Option ControlPlaneClientError) :
    SameConnections session (session.endWrite requestId rest error) := by
  unfold Session.endWrite
  cases error with
  | none => exact ⟨rfl, rfl, rfl, rfl, rfl, rfl, rfl, rfl, rfl⟩
  | some error =>
    dsimp only
    split <;> exact ⟨rfl, rfl, rfl, rfl, rfl, rfl, rfl, rfl, rfl⟩

theorem decodeResponseLine (jsonParse : List Char → Option JsValue) (session : Session)
    (connection : ℕ) (line : List Char) :
    SameConnections session (session.decodeResponseLine jsonParse connection line) := by
  unfold Session.decodeResponseLine
  split
  · split <;> exact ⟨rfl, rfl, rfl, rfl, rfl, rfl, rfl, rfl, rfl⟩
  · exact ⟨rfl, rfl, rfl, rfl, rfl, rfl, rfl, rfl, rfl⟩

theorem decodeLines (jsonParse : List Char → Option JsValue) (connection : ℕ)
    (lines : List (List Char)) (session : Session) :
    SameConnections session
      (lines.foldl (fun session line => session.decodeResponseLine jsonParse connection line)
        session) := by
  induction lines generalizing session with
  | nil => exact refl session
  | cons line lines ih =>
    rw [List.foldl_cons]
    exact (decodeResponseLine jsonParse session connection line).trans (ih _)

theorem text (h : SameConnections before after) (connection : ℕ) :
    after.text connection = before.text connection := by
  unfold Session.text
  rw [h.openedWith, h.received]

end SameConnections

theorem lines_endWrite (session : Session) (requestId : String) (rest : List String)
    (error : Option ControlPlaneClientError) :
    (session.endWrite requestId rest error).lines = session.lines := by
  unfold Session.endWrite
  cases error with
  | none => rfl
  | some error =>
    dsimp only
    split <;> rfl

namespace Rounds

variable {jsonParse : List Char → Option JsValue} {session session' : Session}

theorem start : Rounds {} where
  attempts _ h := absurd h List.not_mem_nil
  attemptsNodup := List.nodup_nil
  waiting h := absurd h List.not_mem_nil
  portLast _ h := by cases h
  loopLast _ h := absurd h List.not_mem_nil
  reading _ h := absurd h List.not_mem_nil
  decoded _ h := absurd h (Nat.not_lt_zero _)
  idle _ h := absurd h (Nat.not_lt_zero _)
  narrow _ h := absurd h (Nat.not_lt_zero _)

theorem of_same (h : session.Rounds) (hsame : SameConnections session session')
    (hlines : session'.lines = session.lines) : session'.Rounds where
  attempts := by
    rw [hsame.connecting, hsame.connectionAttempt]
    exact h.attempts
  attemptsNodup := hsame.connecting ▸ h.attemptsNodup
  waiting := by
    rw [hsame.connecting, hsame.connectionAttempt, hsame.port, hsame.readLoops, hsame.buffer]
    exact h.waiting
  portLast := by
    rw [hsame.port, hsame.connections]
    exact h.portLast
  loopLast := by
    rw [hsame.readLoops, hsame.connections]
    exact h.loopLast
  reading := by
    intro connection hmem
    rw [hsame.readLoops] at hmem
    rw [hsame.decoder, hsame.buffer, hsame.openedWith, hsame.received, hsame.text]
    exact h.reading connection hmem
  decoded := by
    intro connection hlt
    rw [hsame.connections] at hlt
    rw [hlines, hsame.text]
    exact h.decoded connection hlt
  idle := by
    rw [hsame.connections, hsame.openedWith]
    exact h.idle
  narrow := by
    intro connection hlt
    rw [hsame.connections] at hlt
    rw [hsame.text]
    exact h.narrow connection hlt

theorem endLoop (h : session.Rounds) (connection : ℕ) : (session.endLoop connection).Rounds where
  __ := h
  waiting := by
    intro hwaits
    obtain ⟨hport, hloops, hbuffer⟩ := h.waiting hwaits
    refine ⟨hport, ?_, hbuffer⟩
    show session.readLoops.erase connection = []
    rw [hloops]
    rfl
  loopLast := fun other hmem => h.loopLast other (List.mem_of_mem_erase hmem)
  reading := fun other hmem => h.reading other (List.mem_of_mem_erase hmem)

theorem beginConnect (h : session.Rounds) (hport : session.port = none)
    (hloops : session.readLoops = []) : session.beginConnect.Rounds where
  attempts := by
    intro attempt hmem
    rcases List.mem_append.mp hmem with hold | hnew
    · exact Nat.le_succ_of_le (h.attempts attempt hold)
    · rw [List.mem_singleton.mp hnew]
      exact Nat.le_refl _
  attemptsNodup := by
    show (session.connecting ++ [session.connectionAttempt + 1]).Nodup
    rw [← List.concat_eq_append]
    apply h.attemptsNodup.concat
    intro hmem
    exact Nat.lt_irrefl _ (h.attempts _ hmem)
  waiting := fun _ => ⟨hport, hloops, rfl⟩
  __ := h
  reading := by
    intro connection hmem
    have hmem : connection ∈ session.readLoops := hmem
    rw [hloops] at hmem
    cases hmem

theorem endAttempt (h : session.Rounds) (attempt : ℕ) : (session.endAttempt attempt).Rounds where
  attempts := fun other hmem => h.attempts other (List.mem_of_mem_erase hmem)
  attemptsNodup := h.attemptsNodup.erase _
  waiting := fun hwaits => h.waiting (List.mem_of_mem_erase hwaits)
  __ := h

theorem disconnect (h : session.Rounds) : session.disconnect.Rounds where
  attempts := fun attempt hmem => Nat.le_succ_of_le (h.attempts attempt hmem)
  __ := h
  waiting := fun hwaits => absurd (h.attempts _ hwaits) (Nat.not_succ_le_self _)
  portLast := fun _ hport => by cases hport

/-! ## A port is opened -/

theorem text_takePort_self (hreceived : session.received session.connections = [])
    (readable : Bool) : (session.takePort readable).text session.connections = [] := by
  have hopened : (session.takePort readable).openedWith session.connections =
      session.decoder := by
    unfold Session.takePort
    cases readable <;> exact Function.update_self _ _ _
  have hsame : (session.takePort readable).received = session.received := by
    unfold Session.takePort
    cases readable <;> rfl
  unfold Session.text
  rw [hopened, hsame, hreceived, TextDecoder.decode_nil]

variable {connection : ℕ}

theorem openedWith_takePort_of_ne (hne : connection ≠ session.connections) (readable : Bool) :
    (session.takePort readable).openedWith connection = session.openedWith connection := by
  unfold Session.takePort
  cases readable <;> exact Function.update_of_ne hne _ _

theorem text_takePort_of_ne (hne : connection ≠ session.connections)
    (readable : Bool) : (session.takePort readable).text connection = session.text connection := by
  unfold Session.text
  rw [openedWith_takePort_of_ne hne]
  unfold Session.takePort
  cases readable <;> rfl

theorem takePort_true (h : session.Rounds) (hbooks : session.Bookkeeping)
    (hwaits : session.connectionAttempt ∉ session.connecting)
    (hloops : session.readLoops = []) (hbuffer : session.buffer = {})
    (hidle : session.decoder.utf8 = {}) : (session.takePort true).Rounds where
  __ := h
  waiting := fun hmem => absurd hmem hwaits
  portLast := by
    intro connection hport
    obtain rfl := Option.some.inj hport
    rfl
  loopLast := by
    intro connection hmem
    have hmem : connection ∈ session.readLoops ++ [session.connections] := hmem
    rw [hloops] at hmem
    rw [List.mem_singleton.mp hmem]
    rfl
  reading := by
    intro connection hmem
    have hmem : connection ∈ session.readLoops ++ [session.connections] := hmem
    rw [hloops] at hmem
    obtain rfl := List.mem_singleton.mp hmem
    have hreceived := (hbooks.fresh session.connections (Nat.le_refl _)).1
    rw [text_takePort_self hreceived]
    refine ⟨?_, hbuffer⟩
    have hopened : (session.takePort true).openedWith session.connections = session.decoder :=
      Function.update_self _ _ _
    have hsame : (session.takePort true).received session.connections = [] := hreceived
    rw [hopened, hsame, TextDecoder.decode_nil]
    rfl
  decoded := by
    intro connection hlt
    by_cases hne : connection = session.connections
    · subst hne
      have hfresh := hbooks.fresh session.connections (Nat.le_refl _)
      rw [text_takePort_self hfresh.1]
      exact hfresh.2
    · rw [text_takePort_of_ne hne]
      exact h.decoded connection (Nat.lt_of_le_of_ne (Nat.lt_succ_iff.mp hlt) hne)
  idle := by
    intro connection hlt
    by_cases hne : connection = session.connections
    · subst hne
      have hopened : (session.takePort true).openedWith session.connections =
          session.decoder := Function.update_self _ _ _
      rw [hopened]
      exact hidle
    · rw [openedWith_takePort_of_ne hne]
      exact h.idle connection (Nat.lt_of_le_of_ne (Nat.lt_succ_iff.mp hlt) hne)
  narrow := by
    intro connection hlt
    by_cases hne : connection = session.connections
    · subst hne
      rw [text_takePort_self (hbooks.fresh session.connections (Nat.le_refl _)).1]
      exact fun line hline => absurd hline List.not_mem_nil
    · rw [text_takePort_of_ne hne]
      exact h.narrow connection (Nat.lt_of_le_of_ne (Nat.lt_succ_iff.mp hlt) hne)

theorem takePort (h : session.Rounds) (hbooks : session.Bookkeeping)
    (hwaits : session.connectionAttempt ∉ session.connecting)
    (hloops : session.readLoops = []) (hbuffer : session.buffer = {})
    (hidle : session.decoder.utf8 = {}) (readable : Bool) :
    (session.takePort readable).Rounds := by
  have hopen := h.takePort_true hbooks hwaits hloops hbuffer hidle
  cases readable with
  | true => exact hopen
  | false =>
    have hended := hopen.endLoop session.connections
    refine hended.of_same ?_ rfl
    refine ⟨rfl, ?_, rfl, rfl, rfl, rfl, rfl, rfl, rfl⟩
    show session.readLoops = (session.readLoops ++ [session.connections]).erase _
    rw [hloops]
    simp

/-! ## A chunk arrives -/

theorem lines_decodeResponseLine (session : Session) (connection : ℕ) (line : List Char) :
    (session.decodeResponseLine jsonParse connection line).lines =
      Function.update session.lines connection (session.lines connection ++ [line]) := by
  unfold Session.decodeResponseLine
  split
  · split <;> rfl
  · rfl

theorem lines_decodeLines (connection : ℕ) (lines : List (List Char)) (session : Session) :
    (lines.foldl (fun session line => session.decodeResponseLine jsonParse connection line)
        session).lines =
      Function.update session.lines connection (session.lines connection ++ lines) := by
  induction lines generalizing session with
  | nil => rw [List.foldl_nil, List.append_nil, Function.update_eq_self]
  | cons line lines ih =>
    rw [List.foldl_cons, ih, lines_decodeResponseLine, Function.update_self,
      Function.update_idem, List.append_assoc]
    rfl

/-- The text of the connection that reads grows by what the decoder makes of the chunk. -/
theorem text_consumeChunk (h : session.Rounds)
    (hreads : connection ∈ session.readLoops) (bytes : List UInt8) :
    (session.consumeChunk connection bytes).text connection =
      session.text connection ++ (session.decoder.decode bytes).1 := by
  unfold Session.consumeChunk Session.text
  dsimp only
  rw [Function.update_self, TextDecoder.decode_append, ← (h.reading connection hreads).1]

theorem text_consumeChunk_of_ne {connection other : ℕ} (hne : other ≠ connection)
    (bytes : List UInt8) :
    (session.consumeChunk connection bytes).text other = session.text other := by
  unfold Session.consumeChunk Session.text
  dsimp only
  rw [Function.update_of_ne hne]

theorem chunkLines_eq (h : session.Rounds)
    (hreads : connection ∈ session.readLoops) (hlt : connection < session.connections)
    (bytes : List UInt8) :
    session.lines connection ++ session.chunkLines bytes =
      (LineBuffer.consumeSerialText {}
        ((session.consumeChunk connection bytes).text connection)).1 := by
  rw [text_consumeChunk h hreads, consumeSerialText_append, h.decoded connection hlt]
  unfold Session.chunkLines
  rw [(h.reading connection hreads).2]

theorem decodeChunk (h : session.Rounds)
    (hreads : connection ∈ session.readLoops) (bytes : List UInt8)
    (horderly : session.Orderly jsonParse (.chunk connection bytes)) :
    ((session.chunkLines bytes).foldl
      (fun session line => session.decodeResponseLine jsonParse connection line)
      (session.consumeChunk connection bytes)).Rounds := by
  have hlast := h.loopLast connection hreads
  have hlt : connection < session.connections := by omega
  have hsame := SameConnections.decodeLines jsonParse connection (session.chunkLines bytes)
    (session.consumeChunk connection bytes)
  have hlines := @lines_decodeLines jsonParse connection
    (session.chunkLines bytes) (session.consumeChunk connection bytes)
  refine Rounds.mk ?_ ?_ ?_ ?_ ?_ ?_ ?_ ?_ ?_
  · rw [hsame.connecting, hsame.connectionAttempt]
    exact h.attempts
  · rw [hsame.connecting]
    exact h.attemptsNodup
  · rw [hsame.connecting, hsame.connectionAttempt]
    intro hwaits
    have hloops := (h.waiting hwaits).2.1
    rw [hloops] at hreads
    cases hreads
  · rw [hsame.port, hsame.connections]
    exact h.portLast
  · rw [hsame.readLoops, hsame.connections]
    exact h.loopLast
  · -- the connection that reads is the last one, so no other loop runs
    rw [hsame.readLoops]
    intro other hmem
    have hother := h.loopLast other hmem
    obtain rfl : other = connection := by omega
    rw [hsame.decoder, hsame.buffer, hsame.openedWith, hsame.received, hsame.text,
      text_consumeChunk h hreads, consumeSerialText_append, ← (h.reading other hreads).2]
    refine ⟨?_, rfl⟩
    unfold Session.consumeChunk
    dsimp only
    rw [Function.update_self, TextDecoder.decode_append, ← (h.reading other hreads).1]
  · rw [hsame.connections]
    intro other hother
    rw [hlines, hsame.text]
    by_cases hne : other = connection
    · subst hne
      rw [Function.update_self]
      exact h.chunkLines_eq hreads hlt bytes
    · rw [Function.update_of_ne hne, text_consumeChunk_of_ne hne]
      exact h.decoded other hother
  · rw [hsame.connections, hsame.openedWith]
    exact h.idle
  · rw [hsame.connections]
    intro other hother
    rw [hsame.text]
    by_cases hne : other = connection
    · subst hne
      intro line hline hfits
      unfold Session.text Session.consumeChunk at hline
      dsimp only at hline
      rw [Function.update_self] at hline
      exact (horderly line hline hfits).1
    · rw [text_consumeChunk_of_ne hne]
      exact h.narrow other hother

theorem readChunk (h : session.Rounds) {connection : ℕ}
    (hreads : connection ∈ session.readLoops) (bytes : List UInt8)
    (horderly : session.Orderly jsonParse (.chunk connection bytes)) :
    (session.readChunk jsonParse connection bytes).Rounds := by
  have hdecoded := h.decodeChunk hreads bytes horderly
  unfold Session.readChunk
  dsimp only
  split
  · exact hdecoded
  · exact hdecoded.endLoop connection

end Rounds

end FluxPurr.WebSerial.Session
