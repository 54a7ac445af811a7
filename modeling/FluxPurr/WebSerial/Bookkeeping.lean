import FluxPurr.WebSerial.Client
import Mathlib.Data.List.Nodup

/-!
# What every run of the client keeps

Whatever the order of the events, a request that was sent is pending or its response is settled,
and not both (`Bookkeeping.accounted`); the writes end in the order of the requests; a line
settles one request at most.  So the promise of a request that is no longer pending is settled
exactly when its write has ended (`promiseSettled_iff`).
-/

namespace FluxPurr.WebSerial.Session

/-- The lines that settled a response. -/
def sources (session : Session) : List (ℕ × ℕ) :=
  session.settled.filterMap fun entry => entry.2.source

structure Bookkeeping (session : Session) : Prop where
  sentNodup : (session.sent.map Prod.fst).Nodup
  accounted : (session.settled.map Prod.fst ++ session.pending).Perm (session.sent.map Prod.fst)
  writesInOrder : session.writes.map Prod.fst ++ session.writeChain = session.sent.map Prod.fst
  failedWrite : ∀ requestId error, (requestId, some error) ∈ session.writes →
    requestId ∉ session.pending
  sourcesNodup : session.sources.Nodup
  sourceLt : ∀ connection line, (connection, line) ∈ session.sources →
    line < (session.lines connection).length
  loopLt : ∀ connection ∈ session.readLoops, connection < session.connections
  fresh : ∀ connection, session.connections ≤ connection →
    session.received connection = [] ∧ session.lines connection = []

namespace Bookkeeping

variable {jsonParse : List Char → Option JsValue} {session : Session}

theorem pendingNodup (h : session.Bookkeeping) : session.pending.Nodup :=
  List.Nodup.of_append_right (h.accounted.nodup_iff.mpr h.sentNodup)

theorem settledNodup (h : session.Bookkeeping) : (session.settled.map Prod.fst).Nodup :=
  List.Nodup.of_append_left (h.accounted.nodup_iff.mpr h.sentNodup)

/-! ## Settling -/

variable {requestId : String}

theorem accounted_settle {pending : List String} {settled : List (String × Settlement)}
    {sent : List String} (h : (settled.map Prod.fst ++ pending).Perm sent)
    (hpending : requestId ∈ pending) (settlement : Settlement) :
    ((settled ++ [(requestId, settlement)]).map Prod.fst ++ pending.erase requestId).Perm sent := by
  rw [List.map_append, List.append_assoc]
  exact (List.Perm.append_left _ (List.perm_cons_erase hpending).symm).trans h

theorem sources_settle (requestId : String) (settlement : Settlement) :
    (session.settle requestId settlement).sources =
      session.sources ++ settlement.source.toList := by
  unfold sources settle
  dsimp only
  rw [List.filterMap_append]
  cases hsource : settlement.source with
  | none | some source => simp [hsource]

theorem sources_rejectAll (error : ControlPlaneClientError) :
    (session.rejectAll error).sources = session.sources := by
  unfold sources rejectAll
  dsimp only
  rw [List.filterMap_append, List.filterMap_map]
  have hnone : session.pending.filterMap
      ((fun entry : String × Settlement => entry.2.source) ∘ fun requestId =>
        (requestId, .failed error)) = [] :=
    List.filterMap_eq_nil_iff.mpr fun _ _ => rfl
  rw [hnone, List.append_nil]

theorem settle_failed (h : session.Bookkeeping)
    (hpending : requestId ∈ session.pending) (error : ControlPlaneClientError) :
    (session.settle requestId (.failed error)).Bookkeeping where
  __ := h
  accounted := accounted_settle h.accounted hpending _
  failedWrite := fun other failure hfailed hmem =>
    h.failedWrite other failure hfailed (List.mem_of_mem_erase hmem)
  sourcesNodup := by
    rw [sources_settle]
    exact (List.append_nil _).symm ▸ h.sourcesNodup
  sourceLt := by
    intro connection line hmem
    rw [sources_settle] at hmem
    exact h.sourceLt connection line (List.append_nil session.sources ▸ hmem)

theorem rejectAll (h : session.Bookkeeping) (error : ControlPlaneClientError) :
    (session.rejectAll error).Bookkeeping where
  __ := h
  accounted := by
    have hsame : ((session.rejectAll error).settled.map Prod.fst) ++ [] =
        session.settled.map Prod.fst ++ session.pending := by
      unfold Session.rejectAll
      dsimp only
      rw [List.append_nil, List.map_append, List.map_map]
      congr 1
      exact List.map_id _
    exact hsame ▸ h.accounted
  failedWrite := fun _ _ _ hmem => absurd hmem List.not_mem_nil
  sourcesNodup := by
    rw [sources_rejectAll]
    exact h.sourcesNodup
  sourceLt := by
    intro connection line hmem
    rw [sources_rejectAll] at hmem
    exact h.sourceLt connection line hmem

/-! ## Lines -/

theorem length_record (connection : ℕ) (line : List Char) :
    ((session.record connection line).lines connection).length =
      (session.lines connection).length + 1 := by
  unfold record
  dsimp only
  rw [Function.update_self, List.length_append]
  rfl

theorem lines_record_of_ne {connection other : ℕ} (hne : other ≠ connection) (line : List Char) :
    (session.record connection line).lines other = session.lines other := by
  unfold record
  dsimp only
  rw [Function.update_of_ne hne]

theorem length_le_record (connection other : ℕ) (line : List Char) :
    (session.lines other).length ≤ ((session.record connection line).lines other).length := by
  by_cases hne : other = connection
  · rw [hne, length_record]
    exact Nat.le_succ _
  · rw [lines_record_of_ne hne]

variable {connection : ℕ}

theorem record (h : session.Bookkeeping)
    (hlt : connection < session.connections) (line : List Char) :
    (session.record connection line).Bookkeeping where
  __ := h
  sourceLt := fun other number hmem =>
    Nat.lt_of_lt_of_le (h.sourceLt other number hmem) (length_le_record connection other line)
  fresh := by
    intro other hge
    have hge : session.connections ≤ other := hge
    rw [lines_record_of_ne (by omega)]
    exact h.fresh other hge

theorem settle_answered (h : session.Bookkeeping)
    (hlt : connection < session.connections) (line : List Char)
    (hpending : requestId ∈ session.pending) (frame : JsValue) :
    ((session.record connection line).settle requestId
      (.answered connection (session.lines connection).length frame)).Bookkeeping where
  __ := h
  accounted := accounted_settle h.accounted hpending _
  failedWrite := fun other failure hfailed hmem =>
    h.failedWrite other failure hfailed (List.mem_of_mem_erase hmem)
  sourcesNodup := by
    rw [sources_settle]
    apply List.Nodup.append h.sourcesNodup (List.nodup_singleton _)
    intro source hsource hnew
    rw [List.mem_singleton.mp hnew] at hsource
    exact Nat.lt_irrefl _ (h.sourceLt _ _ hsource)
  sourceLt := by
    intro other number hmem
    rw [sources_settle] at hmem
    rcases List.mem_append.mp hmem with hold | hnew
    · exact (h.record hlt line).sourceLt other number hold
    · obtain ⟨rfl, rfl⟩ := Prod.mk.inj (List.mem_singleton.mp hnew)
      have hlength := @length_record session other line
      have hlines : (((session.record other line).settle requestId
          (.answered other (session.lines other).length frame)).lines other).length =
          ((session.record other line).lines other).length := rfl
      omega
  fresh := (h.record hlt line).fresh

theorem decodeResponseLine (h : session.Bookkeeping)
    (hlt : connection < session.connections) (line : List Char) :
    (session.decodeResponseLine jsonParse connection line).Bookkeeping := by
  unfold Session.decodeResponseLine
  split
  · split
    · rename_i hpending
      exact h.settle_answered hlt line hpending _
    · exact h.record hlt line
  · exact h.record hlt line

/-! ## Chunks -/

theorem connections_decodeResponseLine (session : Session) (connection : ℕ) (line : List Char) :
    (session.decodeResponseLine jsonParse connection line).connections = session.connections := by
  unfold Session.decodeResponseLine
  split
  · split <;> rfl
  · rfl

theorem consumeChunk (h : session.Bookkeeping)
    (hlt : connection < session.connections) (bytes : List UInt8) :
    (session.consumeChunk connection bytes).Bookkeeping where
  __ := h
  fresh := by
    intro other hge
    have hge : session.connections ≤ other := hge
    refine ⟨?_, (h.fresh other hge).2⟩
    unfold Session.consumeChunk
    dsimp only
    rw [Function.update_of_ne (by omega)]
    exact (h.fresh other hge).1

theorem decodeLines (lines : List (List Char)) (h : session.Bookkeeping)
    (hlt : connection < session.connections) :
    (lines.foldl (fun session line => session.decodeResponseLine jsonParse connection line)
      session).Bookkeeping := by
  induction lines generalizing session with
  | nil => exact h
  | cons line lines ih =>
    rw [List.foldl_cons]
    apply ih (h.decodeResponseLine hlt line)
    rw [connections_decodeResponseLine]
    exact hlt

theorem endLoop (h : session.Bookkeeping) (connection : ℕ) :
    (session.endLoop connection).Bookkeeping where
  __ := h
  loopLt := fun other hmem => h.loopLt other (List.mem_of_mem_erase hmem)

theorem readChunk (h : session.Bookkeeping)
    (hreads : connection ∈ session.readLoops) (bytes : List UInt8) :
    (session.readChunk jsonParse connection bytes).Bookkeeping := by
  have hlt := h.loopLt connection hreads
  have hdecoded := @decodeLines jsonParse _ connection (session.chunkLines bytes)
    (h.consumeChunk hlt bytes) hlt
  unfold Session.readChunk
  dsimp only
  split
  · exact hdecoded
  · exact hdecoded.endLoop connection

/-! ## The other turns -/

theorem beginConnect (h : session.Bookkeeping) : session.beginConnect.Bookkeeping := { h with }

theorem endAttempt (h : session.Bookkeeping) (attempt : ℕ) :
    (session.endAttempt attempt).Bookkeeping :=
  { h with }

theorem disconnect (h : session.Bookkeeping) : session.disconnect.Bookkeeping := by
  have hrejected := h.rejectAll .closed
  exact { hrejected with }

theorem takePort (h : session.Bookkeeping) (readable : Bool) :
    (session.takePort readable).Bookkeeping := by
  have hfresh : ∀ connection, session.connections + 1 ≤ connection →
      session.received connection = [] ∧ session.lines connection = [] :=
    fun connection hge => h.fresh connection (by omega)
  cases readable with
  | true =>
    refine { h with loopLt := ?_, fresh := hfresh }
    intro connection hmem
    rcases List.mem_append.mp hmem with hold | hnew
    · exact Nat.lt_succ_of_lt (h.loopLt connection hold)
    · rw [List.mem_singleton.mp hnew]
      exact Nat.lt_succ_self _
  | false =>
    unfold Session.takePort
    apply Bookkeeping.rejectAll
    refine { h with loopLt := ?_, fresh := hfresh }
    intro connection hmem
    exact Nat.lt_succ_of_lt (h.loopLt connection hmem)

theorem send (h : session.Bookkeeping) {requestId : String}
    (hnew : requestId ∉ session.sent.map Prod.fst) (connection : ℕ) :
    (session.send requestId connection).Bookkeeping where
  sentNodup := by
    have hsent : (session.send requestId connection).sent.map Prod.fst =
        session.sent.map Prod.fst ++ [requestId] := List.map_append
    rw [hsent]
    rw [← List.concat_eq_append]
    exact h.sentNodup.concat hnew
  accounted := by
    have hsent : (session.send requestId connection).sent.map Prod.fst =
        session.sent.map Prod.fst ++ [requestId] := List.map_append
    have hpending : (session.send requestId connection).settled.map Prod.fst ++
        (session.send requestId connection).pending =
        session.settled.map Prod.fst ++ session.pending ++ [requestId] :=
      (List.append_assoc _ _ _).symm
    rw [hsent, hpending]
    exact h.accounted.append_right _
  writesInOrder := by
    have hsent : (session.send requestId connection).sent.map Prod.fst =
        session.sent.map Prod.fst ++ [requestId] := List.map_append
    have hchain : (session.send requestId connection).writes.map Prod.fst ++
        (session.send requestId connection).writeChain =
        session.writes.map Prod.fst ++ session.writeChain ++ [requestId] :=
      (List.append_assoc _ _ _).symm
    rw [hsent, hchain, h.writesInOrder]
  failedWrite := by
    intro other error hfailed hmem
    rcases List.mem_append.mp hmem with hold | hadded
    · exact h.failedWrite other error hfailed hold
    · rw [List.mem_singleton.mp hadded] at hfailed
      apply hnew
      rw [← h.writesInOrder]
      exact List.mem_append_left _ (List.mem_map_of_mem (f := Prod.fst) hfailed)
  __ := h

theorem writesInOrder_end {rest : List String} (h : session.Bookkeeping)
    (hchain : session.writeChain = requestId :: rest)
    (error : Option ControlPlaneClientError) :
    (session.writes ++ [(requestId, error)]).map Prod.fst ++ rest =
      session.sent.map Prod.fst := by
  rw [List.map_append, List.append_assoc, ← h.writesInOrder, hchain]
  rfl

theorem endWrite (h : session.Bookkeeping) {requestId : String} {rest : List String}
    (hchain : session.writeChain = requestId :: rest)
    (error : Option ControlPlaneClientError) :
    (session.endWrite requestId rest error).Bookkeeping := by
  have horder := h.writesInOrder_end hchain error
  unfold Session.endWrite
  dsimp only
  cases error with
  | none =>
    refine { h with writesInOrder := horder, failedWrite := ?_ }
    intro other error hfailed
    rcases List.mem_append.mp hfailed with hold | hadded
    · exact h.failedWrite other error hold
    · cases List.mem_singleton.mp hadded
  | some error =>
    dsimp only
    split
    · rename_i hpending
      have hsettled := h.settle_failed hpending error
      refine ⟨h.sentNodup, hsettled.accounted, horder, ?_, hsettled.sourcesNodup,
        hsettled.sourceLt, h.loopLt, h.fresh⟩
      intro other failure hfailed hmem
      rcases List.mem_append.mp hfailed with hold | hadded
      · exact hsettled.failedWrite other failure hold hmem
      · obtain ⟨rfl, _⟩ := Prod.mk.inj (List.mem_singleton.mp hadded)
        exact (h.pendingNodup.not_mem_erase) hmem
    · rename_i hsettled
      refine { h with writesInOrder := horder, failedWrite := ?_ }
      intro other failure hfailed
      rcases List.mem_append.mp hfailed with hold | hadded
      · exact h.failedWrite other failure hold
      · obtain ⟨rfl, _⟩ := Prod.mk.inj (List.mem_singleton.mp hadded)
        exact hsettled

theorem step (h : session.Bookkeeping) {event : Event} {session' : Session}
    (hstep : session.Step jsonParse event session') : session'.Bookkeeping := by
  unfold Step Session.step at hstep
  cases event with
  | connect =>
    obtain rfl := Option.some.inj hstep
    exact h.beginConnect
  | opened attempt readable =>
    dsimp only at hstep
    split_ifs at hstep
    · obtain rfl := Option.some.inj hstep
      exact h.endAttempt attempt
    · obtain rfl := Option.some.inj hstep
      exact (h.endAttempt attempt).takePort readable
  | connectFails attempt =>
    dsimp only at hstep
    split_ifs at hstep
    obtain rfl := Option.some.inj hstep
    exact h.endAttempt attempt
  | disconnect =>
    obtain rfl := Option.some.inj hstep
    exact h.disconnect
  | exchange requestId writable =>
    dsimp only at hstep
    split at hstep
    · cases hstep
    · rename_i hnew
      split at hstep
      · obtain rfl := Option.some.inj hstep
        exact h
      · split at hstep
        · obtain rfl := Option.some.inj hstep
          exact h.send hnew _
        · obtain rfl := Option.some.inj hstep
          exact h
  | writeEnds error =>
    dsimp only at hstep
    split at hstep
    · cases hstep
    · rename_i hchain
      obtain rfl := Option.some.inj hstep
      exact h.endWrite hchain error
  | timeout requestId =>
    dsimp only at hstep
    split at hstep
    · cases hstep
    · rename_i hpending
      obtain rfl := Option.some.inj hstep
      exact h.settle_failed (not_not.mp hpending) _
  | chunk connection bytes =>
    dsimp only at hstep
    split at hstep
    · cases hstep
    · rename_i hreads
      obtain rfl := Option.some.inj hstep
      exact h.readChunk (not_not.mp hreads) bytes
  | streamEnds connection =>
    dsimp only at hstep
    split at hstep
    · cases hstep
    · obtain rfl := Option.some.inj hstep
      exact (h.rejectAll _).endLoop connection
  | readFails connection error =>
    dsimp only at hstep
    split at hstep
    · cases hstep
    · obtain rfl := Option.some.inj hstep
      exact (h.rejectAll error).endLoop connection

theorem start : Bookkeeping {} where
  sentNodup := List.nodup_nil
  accounted := List.Perm.refl _
  writesInOrder := rfl
  failedWrite _ _ h := absurd h List.not_mem_nil
  sourcesNodup := List.nodup_nil
  sourceLt _ _ h := absurd h List.not_mem_nil
  loopLt _ h := absurd h List.not_mem_nil
  fresh _ _ := ⟨rfl, rfl⟩

end Bookkeeping

/-! ## The promise of a request -/

/-- `write.then(() => response)` has settled. -/
def PromiseSettled (session : Session) (requestId : String) : Prop :=
  (∃ error, (requestId, some error) ∈ session.writes) ∨
    (requestId, none) ∈ session.writes ∧ ∃ settlement, (requestId, settlement) ∈ session.settled

/-- The promise of a request that is no longer pending waits for its write, and for nothing
else. -/
theorem Bookkeeping.promiseSettled_iff {session : Session} (h : session.Bookkeeping)
    {requestId : String} (hsent : requestId ∈ session.sent.map Prod.fst)
    (hpending : requestId ∉ session.pending) :
    session.PromiseSettled requestId ↔ requestId ∉ session.writeChain := by
  have hnodup := h.sentNodup
  rw [← h.writesInOrder] at hnodup hsent
  have hdisjoint := List.disjoint_of_nodup_append hnodup
  constructor
  · rintro (⟨error, hwrite⟩ | ⟨hwrite, _⟩) hchain
    · exact hdisjoint (List.mem_map_of_mem (f := Prod.fst) hwrite) hchain
    · exact hdisjoint (List.mem_map_of_mem (f := Prod.fst) hwrite) hchain
  · intro hchain
    rcases List.mem_append.mp hsent with hended | hwaits
    · obtain ⟨⟨other, error⟩, hwrite, rfl⟩ := List.mem_map.mp hended
      cases error with
      | some error => exact .inl ⟨error, hwrite⟩
      | none =>
        have hall : other ∈ session.settled.map Prod.fst ++ session.pending :=
          h.accounted.mem_iff.mpr (h.writesInOrder ▸ hsent)
        rcases List.mem_append.mp hall with hsettled | hstill
        · obtain ⟨⟨same, settlement⟩, hmem, rfl⟩ := List.mem_map.mp hsettled
          exact .inr ⟨hwrite, settlement, hmem⟩
        · exact absurd hstill hpending
    · exact absurd hwaits hchain

end FluxPurr.WebSerial.Session
