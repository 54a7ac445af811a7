import FluxPurr.Wire.Json

/-!
# Writing JSON text

`Json.render` writes a value without white space, and `parse_render` says that it is read
back when its strings need no escape.  The proof follows the value: each of the writers puts
down a prefix that its reader takes off again (`reads_render`, `reads_renderItems`,
`reads_renderFields`), whatever comes behind it.
-/

namespace FluxPurr.Wire.Json

/-! ## Writing -/

def upperHexDigit (digit : ℕ) : Char :=
  if digit < 10 then .ofNat (48 + digit) else .ofNat (55 + digit)

def escapeChar (c : Char) : List Char :=
  if c = '"' then ['\\', '"']
  else if c = '\\' then ['\\', '\\']
  else if c = '\x08' then ['\\', 'b']
  else if c = '\t' then ['\\', 't']
  else if c = '\n' then ['\\', 'n']
  else if c = '\x0c' then ['\\', 'f']
  else if c = '\r' then ['\\', 'r']
  else if c.toNat < 0x20 then
    ['\\', 'u', '0', '0', upperHexDigit (c.toNat / 16), upperHexDigit (c.toNat % 16)]
  else [c]

def renderString (text : String) : List Char := '"' :: text.toList.flatMap escapeChar ++ ['"']

mutual

def render : Json → List Char
  | null => ['n', 'u', 'l', 'l']
  | bool true => ['t', 'r', 'u', 'e']
  | bool false => ['f', 'a', 'l', 's', 'e']
  | number literal => literal.toList
  | string text => renderString text
  | array items => '[' :: renderItems items ++ [']']
  | object fields => '{' :: renderFields fields ++ ['}']

def renderItems : List Json → List Char
  | [] => []
  | [value] => render value
  | value :: next :: items => render value ++ ',' :: renderItems (next :: items)

def renderFields : List (String × Json) → List Char
  | [] => []
  | [(key, value)] => renderString key ++ ':' :: render value
  | (key, value) :: next :: fields =>
      renderString key ++ ':' :: render value ++ ',' :: renderFields (next :: fields)

end

/-- No character of the text is written as an escape sequence. -/
def plainText (text : String) : Bool :=
  text.toList.all fun c => c ≠ '"' && c ≠ '\\' && 0x20 ≤ c.toNat

/-- The text is a number. -/
def isNumberLiteral (literal : String) : Bool :=
  isNumber literal.toList && literal.toList.all isNumberChar

mutual

/-- All numbers of a value satisfy `onNumber`, and all its strings and keys `onText`. -/
def all (onNumber onText : String → Bool) : Json → Bool
  | null | bool _ => true
  | number literal => onNumber literal
  | string text => onText text
  | array items => allItems onNumber onText items
  | object fields => allFields onNumber onText fields

def allItems (onNumber onText : String → Bool) : List Json → Bool
  | [] => true
  | value :: items => all onNumber onText value && allItems onNumber onText items

def allFields (onNumber onText : String → Bool) : List (String × Json) → Bool
  | [] => true
  | (key, value) :: fields =>
      onText key && all onNumber onText value && allFields onNumber onText fields

end

def numbersValid (value : Json) : Bool := all isNumberLiteral (fun _ => true) value

def needsNoEscape (value : Json) : Bool := all (fun _ => true) plainText value

section

variable {onNumber onText : String → Bool}

mutual

theorem all_of_numbers_of_texts : ∀ {value : Json}, all onNumber (fun _ => true) value = true →
    all (fun _ => true) onText value = true → all onNumber onText value = true
  | null, _, _ => rfl
  | bool _, _, _ => rfl
  | number _, hnumber, _ => by simpa [all] using hnumber
  | string _, _, htext => by simpa [all] using htext
  | array _, hnumbers, htexts => by
    rw [all] at hnumbers htexts ⊢
    exact allItems_of_numbers_of_texts hnumbers htexts
  | object _, hnumbers, htexts => by
    rw [all] at hnumbers htexts ⊢
    exact allFields_of_numbers_of_texts hnumbers htexts

theorem allItems_of_numbers_of_texts : ∀ {items : List Json},
    allItems onNumber (fun _ => true) items = true → allItems (fun _ => true) onText items = true →
    allItems onNumber onText items = true
  | [], _, _ => rfl
  | _ :: _, hnumbers, htexts => by
    rw [allItems, Bool.and_eq_true] at hnumbers htexts ⊢
    exact ⟨all_of_numbers_of_texts hnumbers.1 htexts.1,
      allItems_of_numbers_of_texts hnumbers.2 htexts.2⟩

theorem allFields_of_numbers_of_texts : ∀ {fields : List (String × Json)},
    allFields onNumber (fun _ => true) fields = true →
    allFields (fun _ => true) onText fields = true → allFields onNumber onText fields = true
  | [], _, _ => rfl
  | (_, _) :: _, hnumbers, htexts => by
    rw [allFields, Bool.and_eq_true, Bool.and_eq_true] at hnumbers htexts ⊢
    exact ⟨⟨htexts.1.1, all_of_numbers_of_texts hnumbers.1.2 htexts.1.2⟩,
      allFields_of_numbers_of_texts hnumbers.2 htexts.2⟩

end

end

/-! ## The round trip -/

theorem flatMap_escapeChar {text : List Char}
    (h : text.all (fun c => c ≠ '"' && c ≠ '\\' && 0x20 ≤ c.toNat) = true) :
    text.flatMap escapeChar = text := by
  induction text with
  | nil => rfl
  | cons c text ih =>
    simp only [List.all_cons, Bool.and_eq_true, decide_eq_true_eq] at h
    obtain ⟨⟨⟨hquote, hbackslash⟩, hprint⟩, htext⟩ := h
    have hcontrol : ∀ d : Char, d.toNat < 0x20 → c ≠ d := by
      rintro d hd rfl
      omega
    have hescape : escapeChar c = [c] := by
      simp only [escapeChar, if_neg hquote, if_neg hbackslash,
        if_neg (hcontrol '\x08' (by decide)), if_neg (hcontrol '\t' (by decide)),
        if_neg (hcontrol '\n' (by decide)), if_neg (hcontrol '\x0c' (by decide)),
        if_neg (hcontrol '\r' (by decide)), if_neg (Nat.not_lt.mpr hprint)]
    rw [List.flatMap_cons, hescape, ih htext, List.singleton_append]

theorem scanString_plain {text : List Char}
    (h : text.all (fun c => c ≠ '"' && c ≠ '\\' && 0x20 ≤ c.toNat) = true) (rest : List Char) :
    scanString (text.flatMap escapeChar ++ '"' :: rest) = some (text, rest) := by
  rw [flatMap_escapeChar h]
  induction text with
  | nil => rfl
  | cons c text ih =>
    simp only [List.all_cons, Bool.and_eq_true, decide_eq_true_eq] at h
    obtain ⟨⟨⟨hquote, hbackslash⟩, -⟩, htext⟩ := h
    simp [scanString, hbackslash, ih htext]

theorem scanKey_render {key : String} (h : plainText key = true) (rest : List Char) :
    scanKey (renderString key ++ ':' :: rest) = some (key, rest) := by
  have hscan := scanString_plain h (':' :: rest)
  have hquote : skipWhitespace (renderString key ++ ':' :: rest)
      = '"' :: (key.toList.flatMap escapeChar ++ '"' :: ':' :: rest) := by
    simp [renderString, skipWhitespace, isWhitespace]
  have hcolon : skipWhitespace (':' :: rest) = ':' :: rest := rfl
  simp only [scanKey, hquote, hscan, hcolon, String.ofList_toList]

/-- A scalar is read as one when it does not start like anything else. -/
theorem parseValue_scalar {n : ℕ} {c : Char} {text : List Char} (hblank : isWhitespace c = false)
    (hbrace : c ≠ '{') (hbracket : c ≠ '[') :
    parseValue (n + 1) (c :: text) = scanScalar (c :: text) := by
  have hskip : skipWhitespace (c :: text) = c :: text := by
    simp [skipWhitespace, hblank]
  simp only [parseValue, hskip]
  split <;> simp_all

theorem reads_number {n : ℕ} {literal : String} (hnumber : isNumber literal.toList = true)
    (hchars : literal.toList.all isNumberChar = true) :
    Reads (parseValue (n + 1)) literal.toList (number literal) := by
  intro rest hrest
  cases hliteral : literal.toList with
  | nil => simp [hliteral, isNumber, isMagnitude] at hnumber
  | cons c digits =>
    rw [hliteral] at hnumber hchars
    have hall : ∀ d ∈ c :: digits, isNumberChar d = true := List.all_eq_true.mp hchars
    have hc := hall c List.mem_cons_self
    have hne : ∀ d, isNumberChar d = false → c ≠ d := by
      rintro d hd rfl
      simp [hc] at hd
    have hblank : isWhitespace c = false := by
      by_contra hblank
      simp [isNumberChar_of_isWhitespace (Bool.not_eq_false _ ▸ hblank)] at hc
    rw [List.cons_append, parseValue_scalar hblank (hne _ (by decide)) (hne _ (by decide)),
      ← List.cons_append, scanScalar_number hnumber hall hrest, ← hliteral,
      String.ofList_toList]

theorem parseValue_object {n : ℕ} {fields : List (String × Json)} {text rest : List Char}
    (h : parseFields n text = some (fields, rest)) :
    parseValue (n + 1) ('{' :: text) = some (object fields, rest) := by
  have hskip : skipWhitespace ('{' :: text) = '{' :: text := rfl
  obtain ⟨_, hquote⟩ := skipWhitespace_of_parseFields h
  simp only [parseValue, hskip]
  split
  · simp_all
  · rw [h, Option.map_some]

theorem parseValue_array {n : ℕ} {items : List Json} {text rest : List Char}
    (h : parseItems n text = some (items, rest)) :
    parseValue (n + 1) ('[' :: text) = some (array items, rest) := by
  have hskip : skipWhitespace ('[' :: text) = '[' :: text := rfl
  simp only [parseValue, hskip]
  split
  · exact absurd ‹_› (skipWhitespace_of_parseItems h)
  · rw [h, Option.map_some]

theorem exists_eq_succ {m n : ℕ} (h : m < n) : ∃ k, n = k + 1 ∧ m ≤ k := ⟨n - 1, by omega, by omega⟩

mutual

/-- One unit of fuel for each character written is enough, by recursion over the value. -/
theorem reads_render : ∀ (value : Json) (n : ℕ), all isNumberLiteral plainText value = true →
    (render value).length ≤ n →
    Reads (parseValue n) (render value) value
  | null, n, _, hn => by
    obtain ⟨n, rfl, -⟩ := exists_eq_succ hn
    exact fun _ _ => rfl
  | bool true, n, _, hn => by
    obtain ⟨n, rfl, -⟩ := exists_eq_succ hn
    exact fun _ _ => rfl
  | bool false, n, _, hn => by
    obtain ⟨n, rfl, -⟩ := exists_eq_succ hn
    exact fun _ _ => rfl
  | number literal, n, hplain, hn => by
    rw [all, isNumberLiteral, Bool.and_eq_true] at hplain
    rw [render] at hn ⊢
    have hpos : 0 < literal.toList.length := by
      cases hliteral : literal.toList with
      | nil => simp [hliteral, isNumber, isMagnitude] at hplain
      | cons c digits => simp
    obtain ⟨n, rfl, -⟩ := exists_eq_succ (Nat.lt_of_lt_of_le hpos hn)
    exact reads_number hplain.1 hplain.2
  | string text, n, hplain, hn => by
    rw [all] at hplain
    rw [render] at hn ⊢
    have hpos : 0 < (renderString text).length := by simp [renderString]
    obtain ⟨n, rfl, -⟩ := exists_eq_succ (Nat.lt_of_lt_of_le hpos hn)
    intro rest _
    rw [renderString, List.append_assoc, List.cons_append,
      parseValue_scalar (by decide) (by decide) (by decide), List.singleton_append, scanScalar,
      scanString_plain hplain, Option.map_some]
    simp only [String.ofList_toList]
  | array [], n, _, hn => by
    obtain ⟨n, rfl, -⟩ := exists_eq_succ hn
    exact fun _ _ => rfl
  | array (item :: items), n, hplain, hn => by
    rw [all] at hplain
    simp only [render, List.length_cons, List.length_append, List.length_nil] at hn
    obtain ⟨n, rfl, hn⟩ := exists_eq_succ hn
    intro rest hrest
    rw [render, List.cons_append, List.cons_append]
    exact parseValue_array (reads_renderItems item items n hplain (by omega) rest hrest)
  | object [], n, _, hn => by
    obtain ⟨n, rfl, -⟩ := exists_eq_succ hn
    exact fun _ _ => rfl
  | object ((key, value) :: fields), n, hplain, hn => by
    rw [all] at hplain
    simp only [render, List.length_cons, List.length_append, List.length_nil] at hn
    obtain ⟨n, rfl, hn⟩ := exists_eq_succ hn
    intro rest hrest
    rw [render, List.cons_append, List.cons_append]
    exact parseValue_object (reads_renderFields key value fields n hplain (by omega) rest hrest)

theorem reads_renderItems : ∀ (item : Json) (items : List Json) (n : ℕ),
    allItems isNumberLiteral plainText (item :: items) = true →
    (renderItems (item :: items)).length < n →
    Reads (parseItems n) (renderItems (item :: items) ++ [']']) (item :: items)
  | item, [], n, hplain, hn => by
    rw [allItems, Bool.and_eq_true] at hplain
    simp only [renderItems] at hn ⊢
    obtain ⟨n, rfl, hn⟩ := exists_eq_succ hn
    intro rest hrest
    have hitem := reads_render item n hplain.1 (by omega) _ (stops_bracket rest)
    have hskip : skipWhitespace (']' :: rest) = ']' :: rest := rfl
    simp only [List.append_assoc, List.singleton_append, parseItems, hitem, hskip]
  | item, next :: items, n, hplain, hn => by
    rw [allItems, Bool.and_eq_true] at hplain
    simp only [renderItems, List.length_append, List.length_cons] at hn ⊢
    obtain ⟨n, rfl, hn⟩ := exists_eq_succ hn
    intro rest hrest
    have hskip : ∀ tail, skipWhitespace (',' :: tail) = ',' :: tail := fun _ => rfl
    have hitem := reads_render item n hplain.1 (by omega) _
      (stops_comma (renderItems (next :: items) ++ ']' :: rest))
    have hitems := reads_renderItems next items n hplain.2 (by omega) rest hrest
    simp only [List.append_assoc, List.cons_append, List.nil_append] at hitems ⊢
    simp only [parseItems, hitem, hskip, hitems, Option.map_some]

theorem reads_renderFields : ∀ (key : String) (value : Json) (fields : List (String × Json))
    (n : ℕ), allFields isNumberLiteral plainText ((key, value) :: fields) = true →
    (renderFields ((key, value) :: fields)).length < n →
    Reads (parseFields n) (renderFields ((key, value) :: fields) ++ ['}']) ((key, value) :: fields)
  | key, value, [], n, hplain, hn => by
    rw [allFields, Bool.and_eq_true, Bool.and_eq_true] at hplain
    simp only [renderFields, List.length_append, List.length_cons] at hn ⊢
    obtain ⟨n, rfl, hn⟩ := exists_eq_succ hn
    intro rest hrest
    have hvalue := reads_render value n hplain.1.2 (by omega) _ (stops_brace rest)
    have hskip : ∀ tail, skipWhitespace ('}' :: tail) = '}' :: tail := fun _ => rfl
    simp only [List.append_assoc, List.cons_append, List.nil_append, parseFields,
      scanKey_render hplain.1.1, hvalue, hskip]
  | key, value, (next, other) :: fields, n, hplain, hn => by
    rw [allFields, Bool.and_eq_true, Bool.and_eq_true] at hplain
    simp only [renderFields, List.length_append, List.length_cons] at hn ⊢
    obtain ⟨n, rfl, hn⟩ := exists_eq_succ hn
    intro rest hrest
    have hvalue := reads_render value n hplain.1.2 (by omega) _
      (stops_comma (renderFields ((next, other) :: fields) ++ '}' :: rest))
    have hfields := reads_renderFields next other fields n hplain.2 (by omega) rest hrest
    have hskip : ∀ tail, skipWhitespace (',' :: tail) = ',' :: tail := fun _ => rfl
    simp only [List.append_assoc, List.cons_append, List.nil_append] at hfields ⊢
    simp only [parseFields, scanKey_render hplain.1.1, hvalue, hskip, hfields, Option.map_some]

end

theorem parse_render {value : Json} (hnumbers : numbersValid value = true)
    (hescape : needsNoEscape value = true) : parse (render value) = some value := by
  have hread := reads_render value _ (all_of_numbers_of_texts hnumbers hescape) (Nat.le_refl _) []
    (by simp [Stops])
  rw [List.append_nil] at hread
  exact parse_of_parseValue hread rfl

end FluxPurr.Wire.Json
