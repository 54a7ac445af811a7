import Mathlib.Data.List.TakeWhile

/-!
# JSON text

`Json.parse` reads one JSON value that makes up the whole text: white space around it is
skipped, anything else after it is refused.  Strings are read as they stand between the
quotes, escape sequences included, as a parser without an unescape buffer does.

The parser runs on fuel.  `parseValue_spec` says that it reads a prefix of the text, that
what it makes of this prefix does not depend on the text behind it, and that one unit of
fuel for each character of the prefix is enough.
-/

namespace FluxPurr.Wire

inductive Json where
  | null
  | bool (value : Bool)
  /-- A number, as it is written. -/
  | number (literal : String)
  | string (text : String)
  | array (items : List Json)
  | object (fields : List (String × Json))

namespace Json

/-! ## Tokens -/

def isWhitespace (c : Char) : Bool := c = ' ' || c = '\t' || c = '\n' || c = '\r'

def skipWhitespace (text : List Char) : List Char := text.dropWhile isWhitespace

/-- The rest of a string behind its opening quote, and what follows the closing one.  A
backslash protects the character behind it. -/
def scanString : List Char → Option (List Char × List Char)
  | [] => none
  | '"' :: rest => some ([], rest)
  | '\\' :: c :: rest => (scanString rest).map fun (text, rest) => ('\\' :: c :: text, rest)
  | c :: rest => (scanString rest).map fun (text, rest) => (c :: text, rest)

def isNumberChar (c : Char) : Bool :=
  c.isDigit || c = '-' || c = '+' || c = '.' || c = 'e' || c = 'E'

def isExponent : List Char → Bool
  | [] => true
  | e :: '+' :: digits => (e = 'e' || e = 'E') && digits ≠ [] && digits.all Char.isDigit
  | e :: '-' :: digits => (e = 'e' || e = 'E') && digits ≠ [] && digits.all Char.isDigit
  | e :: digits => (e = 'e' || e = 'E') && digits ≠ [] && digits.all Char.isDigit

def isFraction : List Char → Bool
  | '.' :: c :: rest => c.isDigit && isExponent (rest.dropWhile Char.isDigit)
  | rest => isExponent rest

def isMagnitude : List Char → Bool
  | '0' :: rest => isFraction rest
  | c :: rest => c.isDigit && isFraction (rest.dropWhile Char.isDigit)
  | [] => false

/-- The characters are a JSON number. -/
def isNumber : List Char → Bool
  | '-' :: rest => isMagnitude rest
  | rest => isMagnitude rest

/-- A value that is neither an object nor an array. -/
def scanScalar : List Char → Option (Json × List Char)
  | '"' :: rest => (scanString rest).map fun (text, rest) => (string (.ofList text), rest)
  | 't' :: 'r' :: 'u' :: 'e' :: rest => some (bool true, rest)
  | 'f' :: 'a' :: 'l' :: 's' :: 'e' :: rest => some (bool false, rest)
  | 'n' :: 'u' :: 'l' :: 'l' :: rest => some (null, rest)
  | text =>
      if isNumber (text.takeWhile isNumberChar) then
        some (number (.ofList (text.takeWhile isNumberChar)), text.dropWhile isNumberChar)
      else none

/-- A key and the colon behind it. -/
def scanKey (text : List Char) : Option (String × List Char) :=
  match skipWhitespace text with
  | '"' :: rest =>
      match scanString rest with
      | some (key, rest) =>
          match skipWhitespace rest with
          | ':' :: rest => some (.ofList key, rest)
          | _ => none
      | none => none
  | _ => none

/-! ## Values -/

mutual

def parseValue : ℕ → List Char → Option (Json × List Char)
  | 0, _ => none
  | fuel + 1, text =>
      match skipWhitespace text with
      | '{' :: rest =>
          match skipWhitespace rest with
          | '}' :: rest => some (object [], rest)
          | _ => (parseFields fuel rest).map fun (fields, rest) => (object fields, rest)
      | '[' :: rest =>
          match skipWhitespace rest with
          | ']' :: rest => some (array [], rest)
          | _ => (parseItems fuel rest).map fun (items, rest) => (array items, rest)
      | rest => scanScalar rest

/-- The fields of an object that has some, and its closing brace. -/
def parseFields : ℕ → List Char → Option (List (String × Json) × List Char)
  | 0, _ => none
  | fuel + 1, text =>
      match scanKey text with
      | none => none
      | some (key, rest) =>
          match parseValue fuel rest with
          | none => none
          | some (value, rest) =>
              match skipWhitespace rest with
              | ',' :: rest =>
                  (parseFields fuel rest).map fun (fields, rest) => ((key, value) :: fields, rest)
              | '}' :: rest => some ([(key, value)], rest)
              | _ => none

/-- The items of an array that has some, and its closing bracket. -/
def parseItems : ℕ → List Char → Option (List Json × List Char)
  | 0, _ => none
  | fuel + 1, text =>
      match parseValue fuel text with
      | none => none
      | some (value, rest) =>
          match skipWhitespace rest with
          | ',' :: rest => (parseItems fuel rest).map fun (items, rest) => (value :: items, rest)
          | ']' :: rest => some ([value], rest)
          | _ => none

end

/-- The value that makes up the whole text. -/
def parse (text : List Char) : Option Json :=
  match parseValue text.length text with
  | some (value, rest) => if skipWhitespace rest = [] then some value else none
  | none => none

/-! ## What a reader consumes -/

/-- Nothing that could continue a number. -/
def Stops (rest : List Char) : Prop := ∀ c ∈ rest.head?, isNumberChar c = false

/-- `read` takes `consumed` for `value`, whatever follows it. -/
def Reads {α : Type*} (read : List Char → Option (α × List Char)) (consumed : List Char)
    (value : α) : Prop :=
  ∀ rest, Stops rest → read (consumed ++ rest) = some (value, rest)

theorem stops_cons {c : Char} (rest : List Char) (hc : isNumberChar c = false) :
    Stops (c :: rest) := by
  simpa [Stops] using hc

theorem stops_comma (rest : List Char) : Stops (',' :: rest) := stops_cons rest (by decide)

theorem stops_brace (rest : List Char) : Stops ('}' :: rest) := stops_cons rest (by decide)

theorem stops_bracket (rest : List Char) : Stops (']' :: rest) := stops_cons rest (by decide)

theorem isNumberChar_of_isWhitespace {c : Char} (h : isWhitespace c = true) :
    isNumberChar c = false := by
  simp only [isWhitespace, Bool.or_eq_true, decide_eq_true_eq] at h
  rcases h with ((rfl | rfl) | rfl) | rfl <;> decide

theorem stops_append {blanks rest : List Char} (hblanks : ∀ c ∈ blanks, isWhitespace c = true)
    (hrest : Stops rest) : Stops (blanks ++ rest) := by
  cases blanks with
  | nil => exact hrest
  | cons c blanks =>
    exact stops_cons _ (isNumberChar_of_isWhitespace (hblanks c List.mem_cons_self))

variable {text rest : List Char} {fuel : ℕ}

/-- The white space in front of `c`, and that it is skipped with anything behind `c`. -/
theorem skipWhitespace_eq_cons {c : Char} (h : skipWhitespace text = c :: rest) :
    ∃ blanks, text = blanks ++ c :: rest ∧ (∀ b ∈ blanks, isWhitespace b = true) ∧
      ∀ tail, skipWhitespace (blanks ++ c :: tail) = c :: tail := by
  have hc : isWhitespace c = false := by
    have := List.head?_dropWhile_not isWhitespace text
    rw [← skipWhitespace, h] at this
    simpa using this
  refine ⟨text.takeWhile isWhitespace, ?_, fun b hb => List.mem_takeWhile_imp hb, fun tail => ?_⟩
  · rw [← h]
    exact List.takeWhile_append_dropWhile.symm
  · rw [skipWhitespace, List.dropWhile_append_of_pos fun b hb => List.mem_takeWhile_imp hb,
      List.dropWhile_cons_of_neg (by simp [hc])]

theorem scanString_spec {text value rest : List Char} (h : scanString text = some (value, rest)) :
    ∃ consumed, text = consumed ++ rest ∧
      ∀ tail, scanString (consumed ++ tail) = some (value, tail) := by
  fun_induction scanString text generalizing value with
  | case1 => cases h
  | case2 text =>
    cases h
    exact ⟨['"'], rfl, fun tail => rfl⟩
  | case3 c text ih =>
    obtain ⟨⟨value', rest'⟩, hscan, hpair⟩ := Option.map_eq_some_iff.mp h
    cases hpair
    obtain ⟨consumed, rfl, hread⟩ := ih hscan
    exact ⟨'\\' :: c :: consumed, rfl, fun tail => by simp [scanString, hread]⟩
  | case4 c text hquote hescape ih =>
    obtain ⟨⟨value', rest'⟩, hscan, hpair⟩ := Option.map_eq_some_iff.mp h
    cases hpair
    obtain ⟨consumed, rfl, hread⟩ := ih hscan
    have hbackslash : c ≠ '\\' := by
      rintro rfl
      cases htext : consumed ++ rest with
      | nil => simp [htext, scanString] at hscan
      | cons next text => exact hescape next text rfl htext
    exact ⟨c :: consumed, rfl, fun tail => by simp [scanString, hread, hbackslash]⟩

theorem isNumber_cons {c : Char} {rest : List Char} (h : isNumber (c :: rest) = true) :
    c = '-' ∨ c.isDigit = true := by
  by_cases hminus : c = '-'
  · exact .inl hminus
  · right
    rw [isNumber.eq_2 _ (by rintro _ ⟨⟩; exact hminus rfl)] at h
    by_cases hzero : c = '0'
    · rw [hzero]
      rfl
    · rw [isMagnitude.eq_2 _ _ hzero, Bool.and_eq_true] at h
      exact h.1

theorem Stops.takeWhile {rest : List Char} (h : Stops rest) : rest.takeWhile isNumberChar = [] := by
  cases rest with
  | nil => rfl
  | cons c rest => exact List.takeWhile_cons_of_neg (by simp [h c rfl])

theorem Stops.dropWhile {rest : List Char} (h : Stops rest) :
    rest.dropWhile isNumberChar = rest := by
  cases rest with
  | nil => rfl
  | cons c rest => exact List.dropWhile_cons_of_neg (by simp [h c rfl])

theorem scanScalar_number {c : Char} {digits rest : List Char}
    (hnumber : isNumber (c :: digits) = true)
    (hchars : ∀ d ∈ c :: digits, isNumberChar d = true) (hrest : Stops rest) :
    scanScalar (c :: digits ++ rest) = some (number (.ofList (c :: digits)), rest) := by
  have hnot : ∀ d, d ≠ '-' → d.isDigit = false → c ≠ d := by
    rintro d hd hdigit rfl
    rcases isNumber_cons hnumber with h | h
    · exact hd h
    · simp [hdigit] at h
  have htake : (c :: digits ++ rest).takeWhile isNumberChar = c :: digits := by
    rw [List.takeWhile_append_of_pos hchars, hrest.takeWhile, List.append_nil]
  have hdrop : (c :: digits ++ rest).dropWhile isNumberChar = rest := by
    rw [List.dropWhile_append_of_pos hchars, hrest.dropWhile]
  rw [scanScalar.eq_5, htake, hdrop, if_pos hnumber]
  all_goals
    rintro tail heq
    refine hnot _ ?_ ?_ (List.cons.inj heq).1 <;> decide

variable {value : Json}

theorem scanScalar_spec (h : scanScalar text = some (value, rest)) :
    ∃ c consumed, text = c :: consumed ++ rest ∧ Reads scanScalar (c :: consumed) value := by
  unfold scanScalar at h
  split at h
  case h_1 text =>
      obtain ⟨⟨_, _⟩, hscan, hpair⟩ := Option.map_eq_some_iff.mp h
      cases hpair
      obtain ⟨consumed, rfl, hread⟩ := scanString_spec hscan
      exact ⟨'"', consumed, rfl, fun tail _ => by simp [scanScalar, hread]⟩
  case h_2 text =>
      cases h
      exact ⟨'t', ['r', 'u', 'e'], rfl, fun _ _ => rfl⟩
  case h_3 text =>
      cases h
      exact ⟨'f', ['a', 'l', 's', 'e'], rfl, fun _ _ => rfl⟩
  case h_4 text =>
      cases h
      exact ⟨'n', ['u', 'l', 'l'], rfl, fun _ _ => rfl⟩
  case h_5 =>
      split at h
      case isFalse => cases h
      case isTrue hnumber =>
        cases h
        have hrest : Stops (text.dropWhile isNumberChar) := by
          intro d hd
          have := List.head?_dropWhile_not isNumberChar text
          rw [Option.mem_def.mp hd] at this
          simpa using this
        obtain ⟨c, digits, htoken⟩ : ∃ c digits, text.takeWhile isNumberChar = c :: digits := by
          cases htoken : text.takeWhile isNumberChar with
          | nil => simp [htoken, isNumber, isMagnitude] at hnumber
          | cons c digits => exact ⟨c, digits, rfl⟩
        have hchars : ∀ d ∈ c :: digits, isNumberChar d = true := fun d hd =>
          List.mem_takeWhile_imp (htoken ▸ hd)
        rw [htoken] at hnumber ⊢
        refine ⟨c, digits, ?_, fun tail htail => scanScalar_number hnumber hchars htail⟩
        rw [← htoken]
        exact List.takeWhile_append_dropWhile.symm

theorem scanKey_spec {key : String} (h : scanKey text = some (key, rest)) :
    ∃ consumed, text = consumed ++ rest ∧
      ∀ tail, scanKey (consumed ++ tail) = some (key, tail) := by
  unfold scanKey at h
  split at h
  case h_2 => cases h
  case h_1 afterQuote hquote =>
    split at h
    case h_2 => cases h
    case h_1 name afterKey hname =>
      split at h
      case h_2 => cases h
      case h_1 afterColon hcolon =>
        cases h
        obtain ⟨blanks, rfl, -, hskip⟩ := skipWhitespace_eq_cons hquote
        obtain ⟨body, rfl, hbody⟩ := scanString_spec hname
        obtain ⟨gap, rfl, -, hgap⟩ := skipWhitespace_eq_cons hcolon
        refine ⟨blanks ++ '"' :: (body ++ (gap ++ [':'])), by simp, fun tail => ?_⟩
        have htext : blanks ++ '"' :: (body ++ (gap ++ [':'])) ++ tail
            = blanks ++ '"' :: (body ++ (gap ++ ':' :: tail)) := by simp
        simp only [scanKey, htext, hskip, hbody, hgap]

/-! ## Fuel -/

/-- What `read` takes off the front of `text` for `value`: with a unit of fuel for each
character of it, it takes the same for the same value in front of any other text. -/
def Consumes {α : Type*} (read : ℕ → List Char → Option (α × List Char)) (text : List Char)
    (value : α) (rest : List Char) : Prop :=
  ∃ consumed, text = consumed ++ rest ∧ ∀ n, consumed.length ≤ n → Reads (read n) consumed value

theorem skipWhitespace_of_parseFields
    {fields : List (String × Json)} (h : parseFields fuel text = some (fields, rest)) :
    ∃ tail, skipWhitespace text = '"' :: tail := by
  cases fuel with
  | zero => cases h
  | succ fuel =>
    cases hkey : scanKey text with
    | none => simp [parseFields, hkey] at h
    | some key =>
      unfold scanKey at hkey
      split at hkey
      · exact ⟨_, ‹_›⟩
      · cases hkey

theorem skipWhitespace_of_parseValue {text rest tail : List Char}
    (h : parseValue fuel text = some (value, rest)) : skipWhitespace text ≠ ']' :: tail := by
  intro hskip
  cases fuel with
  | zero => cases h
  | succ fuel => simp [parseValue, hskip, scanScalar, isNumberChar, isNumber, isMagnitude] at h

theorem skipWhitespace_of_parseItems {text rest tail : List Char} {items : List Json}
    (h : parseItems fuel text = some (items, rest)) : skipWhitespace text ≠ ']' :: tail := by
  cases fuel with
  | zero => cases h
  | succ fuel =>
    cases hvalue : parseValue fuel text with
    | none => simp [parseItems, hvalue] at h
    | some read => exact skipWhitespace_of_parseValue hvalue

theorem parseValue_step (hfields : ∀ text fields rest, parseFields fuel text = some (fields, rest) →
      Consumes parseFields text fields rest)
    (hitems : ∀ text items rest, parseItems fuel text = some (items, rest) →
      Consumes parseItems text items rest)
    (text : List Char) (value : Json) (rest : List Char)
    (h : parseValue (fuel + 1) text = some (value, rest)) :
    Consumes parseValue text value rest := by
  rw [parseValue] at h
  split at h
  case h_1 inner hopen =>
    obtain ⟨blanks, rfl, -, hskip⟩ := skipWhitespace_eq_cons hopen
    split at h
    case h_1 behind hclose =>
      cases h
      obtain ⟨gap, rfl, -, hgap⟩ := skipWhitespace_eq_cons hclose
      refine ⟨blanks ++ '{' :: (gap ++ ['}']), by simp, fun n hn tail _ => ?_⟩
      obtain ⟨n, rfl⟩ : ∃ m, n = m + 1 := ⟨n - 1, by simp at hn; omega⟩
      have htext : blanks ++ '{' :: (gap ++ ['}']) ++ tail
          = blanks ++ '{' :: (gap ++ '}' :: tail) := by simp
      simp only [parseValue, htext, hskip, hgap]
    case h_2 hopened =>
      obtain ⟨⟨fields, _⟩, hparse, hpair⟩ := Option.map_eq_some_iff.mp h
      cases hpair
      obtain ⟨body, rfl, hread⟩ := hfields _ _ _ hparse
      refine ⟨blanks ++ '{' :: body, by simp, fun n hn tail htail => ?_⟩
      obtain ⟨n, rfl⟩ : ∃ m, n = m + 1 := ⟨n - 1, by simp at hn; omega⟩
      have hbody := hread n (by simp at hn; omega) tail htail
      obtain ⟨_, hquote⟩ := skipWhitespace_of_parseFields hbody
      have htext : blanks ++ '{' :: body ++ tail = blanks ++ '{' :: (body ++ tail) := by simp
      simp only [parseValue, htext, hskip]
      split
      · simp_all
      · rw [hbody, Option.map_some]
  case h_2 inner hopen =>
    obtain ⟨blanks, rfl, -, hskip⟩ := skipWhitespace_eq_cons hopen
    split at h
    case h_1 behind hclose =>
      cases h
      obtain ⟨gap, rfl, -, hgap⟩ := skipWhitespace_eq_cons hclose
      refine ⟨blanks ++ '[' :: (gap ++ [']']), by simp, fun n hn tail _ => ?_⟩
      obtain ⟨n, rfl⟩ : ∃ m, n = m + 1 := ⟨n - 1, by simp at hn; omega⟩
      have htext : blanks ++ '[' :: (gap ++ [']']) ++ tail
          = blanks ++ '[' :: (gap ++ ']' :: tail) := by simp
      simp only [parseValue, htext, hskip, hgap]
    case h_2 hopened =>
      obtain ⟨⟨items, _⟩, hparse, hpair⟩ := Option.map_eq_some_iff.mp h
      cases hpair
      obtain ⟨body, rfl, hread⟩ := hitems _ _ _ hparse
      refine ⟨blanks ++ '[' :: body, by simp, fun n hn tail htail => ?_⟩
      obtain ⟨n, rfl⟩ : ∃ m, n = m + 1 := ⟨n - 1, by simp at hn; omega⟩
      have hbody := hread n (by simp at hn; omega) tail htail
      have htext : blanks ++ '[' :: body ++ tail = blanks ++ '[' :: (body ++ tail) := by simp
      simp only [parseValue, htext, hskip]
      split
      · exact absurd ‹_› (skipWhitespace_of_parseItems hbody)
      · rw [hbody, Option.map_some]
  case h_3 hobject harray =>
    obtain ⟨c, scalar, htext, hread⟩ := scanScalar_spec h
    obtain ⟨blanks, rfl, -, hskip⟩ := skipWhitespace_eq_cons htext
    refine ⟨blanks ++ c :: scalar, by simp, fun n hn tail htail => ?_⟩
    obtain ⟨n, rfl⟩ : ∃ m, n = m + 1 := ⟨n - 1, by simp at hn; omega⟩
    have hbrace : c ≠ '{' := by
      rintro rfl
      exact hobject _ htext
    have hbracket : c ≠ '[' := by
      rintro rfl
      exact harray _ htext
    have hscan := hread tail htail
    simp only [List.cons_append] at hscan
    simp only [parseValue, List.append_assoc, List.cons_append, hskip]
    split <;> simp_all

theorem parseFields_step (hvalue : ∀ text value rest, parseValue fuel text = some (value, rest) →
      Consumes parseValue text value rest)
    (hfields : ∀ text fields rest, parseFields fuel text = some (fields, rest) →
      Consumes parseFields text fields rest)
    (text : List Char) (fields : List (String × Json)) (rest : List Char)
    (h : parseFields (fuel + 1) text = some (fields, rest)) :
    Consumes parseFields text fields rest := by
  rw [parseFields] at h
  split at h
  case h_1 => cases h
  case h_2 key afterKey hkey =>
    obtain ⟨name, rfl, hname⟩ := scanKey_spec hkey
    split at h
    case h_1 => cases h
    case h_2 value afterValue hparse =>
      obtain ⟨body, rfl, hbody⟩ := hvalue _ _ _ hparse
      split at h
      case h_1 afterComma hcomma =>
        obtain ⟨⟨more, _⟩, hmore, hpair⟩ := Option.map_eq_some_iff.mp h
        cases hpair
        obtain ⟨blanks, rfl, hblanks, hskip⟩ := skipWhitespace_eq_cons hcomma
        obtain ⟨others, rfl, hothers⟩ := hfields _ _ _ hmore
        refine ⟨name ++ (body ++ (blanks ++ ',' :: others)), by simp, fun n hn tail htail => ?_⟩
        simp only [List.length_append, List.length_cons] at hn
        obtain ⟨n, rfl⟩ : ∃ m, n = m + 1 := ⟨n - 1, by omega⟩
        have hstops : Stops (blanks ++ ',' :: (others ++ tail)) :=
          stops_append hblanks (stops_comma _)
        have hfirst := hbody n (by omega) _ hstops
        have hrest := hothers n (by omega) tail htail
        simp only [List.append_assoc, List.cons_append, parseFields, hname, hfirst, hskip, hrest,
          Option.map_some]
      case h_2 behind hclose =>
        cases h
        obtain ⟨blanks, rfl, hblanks, hskip⟩ := skipWhitespace_eq_cons hclose
        refine ⟨name ++ (body ++ (blanks ++ ['}'])), by simp, fun n hn tail htail => ?_⟩
        simp only [List.length_append, List.length_cons, List.length_nil] at hn
        obtain ⟨n, rfl⟩ : ∃ m, n = m + 1 := ⟨n - 1, by omega⟩
        have hstops : Stops (blanks ++ '}' :: tail) := stops_append hblanks (stops_brace _)
        have hfirst := hbody n (by omega) _ hstops
        simp only [List.append_assoc, List.cons_append, List.nil_append, parseFields, hname,
          hfirst, hskip]
      case h_3 => cases h

theorem parseItems_step (hvalue : ∀ text value rest, parseValue fuel text = some (value, rest) →
      Consumes parseValue text value rest)
    (hitems : ∀ text items rest, parseItems fuel text = some (items, rest) →
      Consumes parseItems text items rest)
    (text : List Char) (items : List Json) (rest : List Char)
    (h : parseItems (fuel + 1) text = some (items, rest)) :
    Consumes parseItems text items rest := by
  rw [parseItems] at h
  split at h
  case h_1 => cases h
  case h_2 value afterValue hparse =>
    obtain ⟨body, rfl, hbody⟩ := hvalue _ _ _ hparse
    split at h
    case h_1 afterComma hcomma =>
      obtain ⟨⟨more, _⟩, hmore, hpair⟩ := Option.map_eq_some_iff.mp h
      cases hpair
      obtain ⟨blanks, rfl, hblanks, hskip⟩ := skipWhitespace_eq_cons hcomma
      obtain ⟨others, rfl, hothers⟩ := hitems _ _ _ hmore
      refine ⟨body ++ (blanks ++ ',' :: others), by simp, fun n hn tail htail => ?_⟩
      simp only [List.length_append, List.length_cons] at hn
      obtain ⟨n, rfl⟩ : ∃ m, n = m + 1 := ⟨n - 1, by omega⟩
      have hstops : Stops (blanks ++ ',' :: (others ++ tail)) :=
        stops_append hblanks (stops_comma _)
      have hfirst := hbody n (by omega) _ hstops
      have hrest := hothers n (by omega) tail htail
      simp only [List.append_assoc, List.cons_append, parseItems, hfirst, hskip, hrest,
        Option.map_some]
    case h_2 behind hclose =>
      cases h
      obtain ⟨blanks, rfl, hblanks, hskip⟩ := skipWhitespace_eq_cons hclose
      refine ⟨body ++ (blanks ++ [']']), by simp, fun n hn tail htail => ?_⟩
      simp only [List.length_append, List.length_cons, List.length_nil] at hn
      obtain ⟨n, rfl⟩ : ∃ m, n = m + 1 := ⟨n - 1, by omega⟩
      have hstops : Stops (blanks ++ ']' :: tail) := stops_append hblanks (stops_bracket _)
      have hfirst := hbody n (by omega) _ hstops
      simp only [List.append_assoc, List.cons_append, List.nil_append, parseItems, hfirst, hskip]
    case h_3 => cases h

/-- By induction on the fuel; one step for each of the three readers. -/
theorem parse_spec (fuel : ℕ) :
    (∀ text value rest, parseValue fuel text = some (value, rest) →
      Consumes parseValue text value rest) ∧
    (∀ text fields rest, parseFields fuel text = some (fields, rest) →
      Consumes parseFields text fields rest) ∧
    (∀ text items rest, parseItems fuel text = some (items, rest) →
      Consumes parseItems text items rest) := by
  induction fuel with
  | zero => exact ⟨nofun, nofun, nofun⟩
  | succ fuel ih =>
    obtain ⟨hvalue, hfields, hitems⟩ := ih
    exact ⟨parseValue_step hfields hitems, parseFields_step hvalue hfields,
      parseItems_step hvalue hitems⟩

theorem parseValue_spec
    (h : parseValue fuel text = some (value, rest)) : Consumes parseValue text value rest :=
  (parse_spec fuel).1 text value rest h

theorem parse_of_parseValue
    (h : parseValue fuel text = some (value, rest)) (hrest : skipWhitespace rest = []) :
    parse text = some value := by
  obtain ⟨consumed, rfl, hread⟩ := parseValue_spec h
  have hstops : Stops rest := by
    have hblanks : ∀ c ∈ rest, isWhitespace c = true := by
      simpa [skipWhitespace, List.dropWhile_eq_nil_iff] using hrest
    have hnil : Stops (rest ++ []) := stops_append hblanks (by simp [Stops])
    rwa [List.append_nil] at hnil
  rw [parse, hread _ (by simp) rest hstops]
  exact if_pos hrest

end Json

end FluxPurr.Wire
