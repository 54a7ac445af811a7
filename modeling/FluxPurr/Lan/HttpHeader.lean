import FluxPurr.Lan.HttpGate
import FluxPurr.Wire.Utf8
import Mathlib.Data.List.DropRight

/-!
# The header of an HTTP request

`parseHttpHeader` reads the request line and then every further line that names one of six
headers; of several lines with one name the last one counts.
-/

namespace FluxPurr.Lan

open FluxPurr.Wire

/-! ## Text -/

/-- `str::split_inclusive` at the line feeds. -/
def splitInclusive : List Char → List (List Char)
  | [] => []
  | c :: text =>
      if c = '\n' then ['\n'] :: splitInclusive text
      else
        match splitInclusive text with
        | [] => [[c]]
        | line :: lines => (c :: line) :: lines

/-- A line without its line feed, and without a carriage return before it. -/
def withoutLineEnd (line : List Char) : List Char :=
  if line.getLast? = some '\n' then
    if line.dropLast.getLast? = some '\r' then line.dropLast.dropLast else line.dropLast
  else line

/-- `str::lines`. -/
def textLines (text : List Char) : List (List Char) := (splitInclusive text).map withoutLineEnd

def splitWhitespace (text : List Char) : List (List Char) :=
  (text.splitOnP isWhitespace).filter (· ≠ [])

def splitOnce (c : Char) (text : List Char) : Option (List Char × List Char) :=
  if c ∈ text then some (text.takeWhile (· ≠ c), (text.dropWhile (· ≠ c)).tail) else none

def eqIgnoreAsciiCase (text other : List Char) : Bool :=
  text.map Char.toLower = other.map Char.toLower

/-- `str::parse` of an unsigned integer. -/
def parseUnsigned (most : ℕ) (text : List Char) : Option ℕ :=
  let digits := if text.head? = some '+' then text.tail else text
  if digits ≠ [] ∧ digits.all Char.isDigit ∧ Nat.ofDigitChars 10 digits 0 ≤ most then
    some (Nat.ofDigitChars 10 digits 0)
  else none

/-- `push_str` into an empty string of fixed capacity: what does not fit is left out. -/
def pushed (capacity : ℕ) (text : List Char) : List Char :=
  if (bytesOf text).length ≤ capacity then text else []

/-! ## The header -/

structure ParsedHttpHeader where
  method : Option HttpMethod := none
  path : List Char := []
  origin : Option (List Char) := none
  authorization : Option (List Char) := none
  leaseId : Option (List Char) := none
  expectedRevision : Option ℕ := none
  afterSample : Option ℕ := none
  afterSequence : Option ℕ := none
  privateNetwork : Bool := false
  contentLength : ℕ := 0
deriving DecidableEq

def httpMethod (name : List Char) : Option HttpMethod :=
  if name = "GET".toList then some .get
  else if name = "POST".toList then some .post
  else if name = "PUT".toList then some .put
  else if name = "DELETE".toList then some .delete
  else if name = "OPTIONS".toList then some .options
  else none

/-- The first pair of the query with one of the keys whose value is a number. -/
def queryNumber (most : ℕ) (keys : List String) (query : List Char) : Option ℕ :=
  (query.splitOn '&').findSome? fun pair =>
    (splitOnce '=' pair).bind fun (key, value) =>
      if key ∈ keys.map String.toList then parseUnsigned most value else none

def parseRequestLine (line : List Char) : ParsedHttpHeader :=
  let words := splitWhitespace line
  let target := (words[1]?).getD []
  let query := (target.dropWhile (· ≠ '?')).tail
  { method := httpMethod ((words[0]?).getD [])
    path := pushed 128 (target.takeWhile (· ≠ '?'))
    afterSample := queryNumber 255 ["after_sample"] query
    afterSequence := queryNumber (2 ^ 32 - 1) ["after_sequence", "afterSequence"] query }

def parseHeaderLine (parsed : ParsedHttpHeader) (line : List Char) : ParsedHttpHeader :=
  match splitOnce ':' (line.rdropWhile (· = '\r')) with
  | none => parsed
  | some (key, value) =>
      let value := trim value
      let named (name : String) : Bool := eqIgnoreAsciiCase key name.toList
      { parsed with
        origin := if named "Origin" then some (pushed 128 value) else parsed.origin
        authorization :=
          if named "Authorization" then some (pushed 96 value) else parsed.authorization
        leaseId := if named "X-Flux-Purr-Lease" then some (pushed 32 value) else parsed.leaseId
        expectedRevision :=
          if named "X-Flux-Purr-Revision" then parseUnsigned (2 ^ 32 - 1) value
          else parsed.expectedRevision
        privateNetwork :=
          if named "Access-Control-Request-Private-Network" then
            eqIgnoreAsciiCase value "true".toList
          else parsed.privateNetwork
        contentLength :=
          if named "Content-Length" then (parseUnsigned (2 ^ 32 - 1) value).getD 0
          else parsed.contentLength }

/-- Bytes that are no text count as none. -/
def parseHttpHeader (bytes : List UInt8) : ParsedHttpHeader :=
  let lines := textLines ((fromUtf8 bytes).getD [])
  lines.tail.foldl parseHeaderLine (parseRequestLine (lines.head?.getD []))

/-! ## The end of the header -/

def headerTerminator : List UInt8 := [13, 10, 13, 10]

/-- The position behind the first empty line. -/
def completeHttpHeader : List UInt8 → Option ℕ
  | [] => none
  | byte :: request =>
      if headerTerminator.isPrefixOf (byte :: request) then some 4
      else (completeHttpHeader request).map (· + 1)

end FluxPurr.Lan
