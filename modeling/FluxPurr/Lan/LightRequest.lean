import FluxPurr.Lan.HttpHeader

/-!
# The light path of the HTTP server

A small read is answered from the buffer as it stands, which `parseHttpHeader` is given as a whole;
every other request is parsed up to the end of its header.  The two agree unless what follows
the header is read as a further header line (`lightHeader_eq_iff`).
-/

namespace FluxPurr.Lan

open FluxPurr.Wire

/-! ## The last line of a name -/

variable (name : String) (value : Option (List Char)) (parsed : ParsedHttpHeader)
  (line : List Char) (lines : List (List Char))

def headerValue : Option (List Char) :=
  (splitOnce ':' (line.rdropWhile (· = '\r'))).bind fun (key, value) =>
    if eqIgnoreAsciiCase key name.toList then some (trim value) else none

/-- The value of the last line with the name. -/
def lastValue : Option (List Char) :=
  lines.foldl (fun value line => (headerValue name line).or value) none

theorem foldl_headerValue (start : Option (List Char)) :
    lines.foldl (fun value line => (headerValue name line).or value) start =
      (lastValue name lines).or start := by
  induction lines using List.reverseRecOn with
  | nil => rfl
  | append_singleton lines line ih =>
    rw [lastValue, List.foldl_append, List.foldl_append, ih, ← lastValue]
    exact Option.or_assoc.symm

theorem lastValue_append (lines others : List (List Char)) :
    lastValue name (lines ++ others) = (lastValue name others).or (lastValue name lines) := by
  rw [lastValue, List.foldl_append, ← lastValue]
  exact foldl_headerValue name others (lastValue name lines)

/-! ## What the values are read as -/

def originOf : Option (List Char) := value.map (pushed 128)

def authorizationOf : Option (List Char) := value.map (pushed 96)

def leaseIdOf : Option (List Char) := value.map (pushed 32)

def expectedRevisionOf : Option ℕ := value.bind (parseUnsigned (2 ^ 32 - 1))

def privateNetworkOf : Bool := value.any fun value => eqIgnoreAsciiCase value "true".toList

def contentLengthOf : ℕ := (value.bind (parseUnsigned (2 ^ 32 - 1))).getD 0

/-- The header with the values of these lines. -/
def ParsedHttpHeader.withLines : ParsedHttpHeader :=
  { parsed with
    origin := originOf (lastValue "Origin" lines)
    authorization := authorizationOf (lastValue "Authorization" lines)
    leaseId := leaseIdOf (lastValue "X-Flux-Purr-Lease" lines)
    expectedRevision := expectedRevisionOf (lastValue "X-Flux-Purr-Revision" lines)
    privateNetwork := privateNetworkOf (lastValue "Access-Control-Request-Private-Network" lines)
    contentLength := contentLengthOf (lastValue "Content-Length" lines) }

open ParsedHttpHeader

theorem lastValue_concat (line : List Char) :
    lastValue name (lines ++ [line]) = (headerValue name line).or (lastValue name lines) := by
  rw [lastValue_append]
  show ((headerValue name line).or none).or (lastValue name lines) = _
  rw [Option.or_none]

theorem lastValue_concat_of_none {line : List Char}
    (h : splitOnce ':' (line.rdropWhile (· = '\r')) = none) (name : String)
    (lines : List (List Char)) : lastValue name (lines ++ [line]) = lastValue name lines := by
  rw [lastValue_concat, headerValue, h]
  rfl

theorem lastValue_concat_of_some {line key value : List Char}
    (h : splitOnce ':' (line.rdropWhile (· = '\r')) = some (key, value)) (name : String)
    (lines : List (List Char)) :
    lastValue name (lines ++ [line]) =
      if eqIgnoreAsciiCase key name.toList then some (trim value) else lastValue name lines := by
  rw [lastValue_concat, headerValue, h]
  show (if eqIgnoreAsciiCase key name.toList then some (trim value) else none).or _ = _
  split
  · exact Option.some_or
  · exact Option.none_or

theorem parseHeaderLine_withLines (line : List Char) :
    parseHeaderLine (parsed.withLines lines) line = parsed.withLines (lines ++ [line]) := by
  cases hsplit : splitOnce ':' (line.rdropWhile (· = '\r')) with
  | none =>
    simp only [parseHeaderLine, hsplit, withLines, lastValue_concat_of_none hsplit]
  | some pair =>
    simp only [parseHeaderLine, hsplit, withLines, lastValue_concat_of_some hsplit]
    congr 1 <;> split <;> rfl

theorem foldl_parseHeaderLine (lines others : List (List Char)) :
    others.foldl parseHeaderLine (parsed.withLines lines) = parsed.withLines (lines ++ others) := by
  induction others generalizing lines with
  | nil => rw [List.foldl_nil, List.append_nil]
  | cons line others ih =>
    rw [List.foldl_cons, parseHeaderLine_withLines, ih, List.append_assoc, List.singleton_append]

/-- The header of these lines: of several with one name the last one counts. -/
def headerOf : ParsedHttpHeader := (parseRequestLine (lines.head?.getD [])).withLines lines.tail

theorem parseHttpHeader_eq_headerOf (bytes : List UInt8) :
    parseHttpHeader bytes = headerOf (textLines ((fromUtf8 bytes).getD [])) := by
  have hrun (line : List Char) (lines : List (List Char)) :
      lines.foldl parseHeaderLine (parseRequestLine line) =
        (parseRequestLine line).withLines lines :=
    foldl_parseHeaderLine (parseRequestLine line) [] lines
  rw [parseHttpHeader, hrun]
  rfl

/-! ## Lines of a text cut at a line feed -/

theorem splitInclusive_lineFeed_ne_nil (text rest : List Char) :
    splitInclusive (text ++ '\n' :: rest) ≠ [] := by
  intro h
  cases text with
  | nil => simp [splitInclusive] at h
  | cons c text =>
    rw [List.cons_append, splitInclusive] at h
    split at h
    · cases h
    · split at h <;> cases h

theorem splitInclusive_lineFeed (text rest : List Char) :
    splitInclusive (text ++ '\n' :: rest) =
      splitInclusive (text ++ ['\n']) ++ splitInclusive rest := by
  induction text with
  | nil => simp [splitInclusive]
  | cons c text ih =>
    rw [List.cons_append, List.cons_append, splitInclusive, splitInclusive, ih]
    by_cases hc : c = '\n'
    · rw [if_pos hc, if_pos hc, List.cons_append]
    · rw [if_neg hc, if_neg hc]
      cases hlines : splitInclusive (text ++ ['\n']) with
      | nil => exact absurd hlines (splitInclusive_lineFeed_ne_nil text [])
      | cons line lines => rfl

theorem textLines_lineFeed (text rest : List Char) :
    textLines (text ++ '\n' :: rest) = textLines (text ++ ['\n']) ++ textLines rest := by
  rw [textLines, splitInclusive_lineFeed, List.map_append]
  rfl

theorem textLines_lineFeed_ne_nil (text : List Char) : textLines (text ++ ['\n']) ≠ [] := by
  intro h
  exact splitInclusive_lineFeed_ne_nil text [] (List.map_eq_nil_iff.mp h)

/-! ## The end of the header -/

theorem exists_of_completeHttpHeader {request : List UInt8} {headerEnd : ℕ}
    (h : completeHttpHeader request = some headerEnd) :
    ∃ before rest, request = before ++ headerTerminator ++ rest ∧
      headerEnd = (before ++ headerTerminator).length := by
  induction request generalizing headerEnd with
  | nil => cases h
  | cons byte request ih =>
    rw [completeHttpHeader] at h
    split at h
    · next hstart =>
        obtain ⟨rest, hrest⟩ := List.isPrefixOf_iff_prefix.mp hstart
        exact ⟨[], rest, hrest.symm, (Option.some.inj h).symm⟩
    · obtain ⟨e, he, rfl⟩ := Option.map_eq_some_iff.mp h
      obtain ⟨before, rest, rfl, rfl⟩ := ih he
      exact ⟨byte :: before, rest, rfl, rfl⟩

theorem exists_lineFeed_of_completeHttpHeader {request : List UInt8} {headerEnd : ℕ}
    (h : completeHttpHeader request = some headerEnd) :
    ∃ before, request.take headerEnd = before ++ [10] ∧
      request = before ++ 10 :: request.drop headerEnd := by
  obtain ⟨before, rest, rfl, rfl⟩ := exists_of_completeHttpHeader h
  refine ⟨before ++ [13, 10, 13], ?_, ?_⟩
  · rw [List.take_left, headerTerminator, List.append_assoc]
    rfl
  · rw [List.drop_left, headerTerminator, List.append_assoc, List.append_assoc]
    rfl

/-! ## What follows the header -/

section Rest

variable {α : Type}

/-- The lines behind the header do not name a value, or one that is read like the header's. -/
def Repeats (read : Option (List Char) → α) (name : String)
    (headLines restLines : List (List Char)) : Prop :=
  ∀ value, lastValue name restLines = some value →
    read (some value) = read (lastValue name headLines)

theorem read_lastValue_append_iff (read : Option (List Char) → α) (name : String)
    (headLines restLines : List (List Char)) :
    read (lastValue name (headLines ++ restLines)) = read (lastValue name headLines) ↔
      Repeats read name headLines restLines := by
  rw [lastValue_append, Repeats]
  cases lastValue name restLines with
  | none | some value => simp

end Rest

/-- None of the six headers is changed by the lines behind the header. -/
structure RepeatsHeader (headLines restLines : List (List Char)) : Prop where
  origin : Repeats originOf "Origin" headLines restLines
  authorization : Repeats authorizationOf "Authorization" headLines restLines
  leaseId : Repeats leaseIdOf "X-Flux-Purr-Lease" headLines restLines
  expectedRevision : Repeats expectedRevisionOf "X-Flux-Purr-Revision" headLines restLines
  privateNetwork :
    Repeats privateNetworkOf "Access-Control-Request-Private-Network" headLines restLines
  contentLength : Repeats contentLengthOf "Content-Length" headLines restLines

theorem withLines_append_eq_iff (headLines restLines : List (List Char)) :
    parsed.withLines (headLines ++ restLines) = parsed.withLines headLines ↔
      RepeatsHeader headLines restLines := by
  constructor
  · intro h
    simp only [withLines, ParsedHttpHeader.mk.injEq, true_and, read_lastValue_append_iff] at h
    obtain ⟨horigin, hauthorization, hlease, hrevision, hprivate, hlength⟩ := h
    exact ⟨horigin, hauthorization, hlease, hrevision, hprivate, hlength⟩
  · rintro ⟨horigin, hauthorization, hlease, hrevision, hprivate, hlength⟩
    simp only [withLines, ParsedHttpHeader.mk.injEq, true_and, read_lastValue_append_iff]
    exact ⟨horigin, hauthorization, hlease, hrevision, hprivate, hlength⟩

def methodWord : List Char := ((splitWhitespace line)[0]?).getD []

def targetPath : List Char := (((splitWhitespace line)[1]?).getD []).takeWhile (· ≠ '?')

def targetQuery : List Char := ((((splitWhitespace line)[1]?).getD []).dropWhile (· ≠ '?')).tail

/-- The first line names no method, no path and no cursor, and no further line names a value. -/
structure SaysNothing (lines : List (List Char)) : Prop where
  method :
    methodWord (lines.head?.getD []) ∉
      ["GET".toList, "POST".toList, "PUT".toList, "DELETE".toList, "OPTIONS".toList]
  path :
    targetPath (lines.head?.getD []) = [] ∨
      128 < (bytesOf (targetPath (lines.head?.getD []))).length
  afterSample : queryNumber 255 ["after_sample"] (targetQuery (lines.head?.getD [])) = none
  afterSequence :
    queryNumber (2 ^ 32 - 1) ["after_sequence", "afterSequence"]
      (targetQuery (lines.head?.getD [])) = none
  origin : lastValue "Origin" lines.tail = none
  authorization : lastValue "Authorization" lines.tail = none
  leaseId : lastValue "X-Flux-Purr-Lease" lines.tail = none
  expectedRevision : expectedRevisionOf (lastValue "X-Flux-Purr-Revision" lines.tail) = none
  privateNetwork :
    privateNetworkOf (lastValue "Access-Control-Request-Private-Network" lines.tail) = false
  contentLength : contentLengthOf (lastValue "Content-Length" lines.tail) = 0

theorem httpMethod_eq_none_iff (name : List Char) :
    httpMethod name = none ↔
      name ∉ ["GET".toList, "POST".toList, "PUT".toList, "DELETE".toList, "OPTIONS".toList] := by
  rw [httpMethod, List.mem_cons, List.mem_cons, List.mem_cons, List.mem_cons, List.mem_singleton]
  generalize "GET".toList = get, "POST".toList = post, "PUT".toList = put,
    "DELETE".toList = delete, "OPTIONS".toList = options
  split_ifs with hget hpost hput hdelete hoptions <;> simp [*]

theorem pushed_eq_nil_iff (capacity : ℕ) (text : List Char) :
    pushed capacity text = [] ↔ text = [] ∨ capacity < (bytesOf text).length := by
  rw [pushed]
  split <;> grind

theorem headerOf_eq_nothing_iff : headerOf [] = headerOf lines ↔ SaysNothing lines := by
  have hnothing : headerOf [] = {} := by decide
  rw [hnothing, headerOf, eq_comm]
  simp only [withLines, parseRequestLine, ParsedHttpHeader.mk.injEq,
    originOf, authorizationOf, leaseIdOf, Option.map_eq_none_iff]
  constructor
  · rintro ⟨hmethod, hpath, horigin, hauthorization, hlease, hrevision, hsample, hsequence,
      hprivate, hlength⟩
    exact ⟨(httpMethod_eq_none_iff _).mp hmethod, (pushed_eq_nil_iff 128 _).mp hpath, hsample,
      hsequence, horigin, hauthorization, hlease, hrevision, hprivate, hlength⟩
  · rintro ⟨hmethod, hpath, hsample, hsequence, horigin, hauthorization, hlease, hrevision,
      hprivate, hlength⟩
    exact ⟨(httpMethod_eq_none_iff _).mpr hmethod, (pushed_eq_nil_iff 128 _).mpr hpath, horigin,
      hauthorization, hlease, hrevision, hsample, hsequence, hprivate, hlength⟩

/-- When what follows the header leaves the parsed header as it is. -/
def RestHarmless (header rest : List UInt8) : Prop :=
  match fromUtf8 header, fromUtf8 rest with
  | none, _ => True
  | some text, none => SaysNothing (textLines text)
  | some text, some back => RepeatsHeader (textLines text).tail (textLines back)

/-- The light path takes the header of the full path exactly if what follows it is harmless. -/
theorem lightHeader_eq_iff (request : List UInt8) (headerEnd : ℕ)
    (h : completeHttpHeader request = some headerEnd) :
    parseHttpHeader request = parseHttpHeader (request.take headerEnd) ↔
      RestHarmless (request.take headerEnd) (request.drop headerEnd) := by
  obtain ⟨before, htake, hrequest⟩ := exists_lineFeed_of_completeHttpHeader h
  generalize request.drop headerEnd = rest at hrequest
  rw [parseHttpHeader_eq_headerOf, parseHttpHeader_eq_headerOf, RestHarmless, htake, hrequest,
    fromUtf8_append_lineFeed, fromUtf8_append_lineFeed]
  cases hfront : fromUtf8 before with
  | none => simp
  | some front =>
      have hempty : fromUtf8 [] = some [] := fromUtf8_bytesOf []
      cases hback : fromUtf8 rest with
      | none =>
          rw [hempty]
          exact headerOf_eq_nothing_iff (textLines (front ++ ['\n']))
      | some back =>
          rw [hempty]
          show headerOf (textLines (front ++ '\n' :: back)) =
              headerOf (textLines (front ++ ['\n'])) ↔
            RepeatsHeader (textLines (front ++ ['\n'])).tail (textLines back)
          rw [textLines_lineFeed]
          have hne := textLines_lineFeed_ne_nil front
          rw [headerOf, headerOf, List.tail_append_of_ne_nil hne, List.head?_append_of_ne_nil _ hne]
          exact withLines_append_eq_iff _ _ _

def identityHeader : List Char := "GET /api/v1/identity HTTP/1.1\r\n\r\n".toList

def pipelinedHeader : List Char :=
  "GET /api/v1/status HTTP/1.1\r\nOrigin: http://localhost\r\n\r\n".toList

theorem lightHeader_eq_iff_identity : completeHttpHeader (bytesOf identityHeader) = some 33 ∧
      (parseHttpHeader (bytesOf identityHeader) =
          parseHttpHeader ((bytesOf identityHeader).take 33) ↔
        RestHarmless ((bytesOf identityHeader).take 33) ((bytesOf identityHeader).drop 33)) :=
  ⟨by decide +kernel, lightHeader_eq_iff _ 33 (by decide +kernel)⟩

/-- The origin of a second request in the buffer becomes that of the first one. -/
theorem lightHeader_takes_pipelined_origin :
    ¬ ∀ request headerEnd, completeHttpHeader request = some headerEnd →
      parseHttpHeader request = parseHttpHeader (request.take headerEnd) := by
  intro h
  have hend : completeHttpHeader (bytesOf (identityHeader ++ pipelinedHeader)) = some 33 := by
    decide +kernel
  have htake : (bytesOf (identityHeader ++ pipelinedHeader)).take 33 = bytesOf identityHeader := by
    decide +kernel
  have hparsed := h _ 33 hend
  rw [htake, parseHttpHeader_eq_headerOf, parseHttpHeader_eq_headerOf, fromUtf8_bytesOf,
    fromUtf8_bytesOf] at hparsed
  have horigin := congrArg origin hparsed
  revert horigin
  decide +kernel

end FluxPurr.Lan
