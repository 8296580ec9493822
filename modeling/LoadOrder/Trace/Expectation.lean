/-
  LoadOrder/Trace/Expectation.lean
  ================================
  **How a value is asked to read.**

  A wish for a value may say how the value should read: as a truth value, as a
  number, or like a pattern.  The first of these readings that fits the text is
  meant, so `+5` is a number, although it would be no pattern.  Truth values are
  patterns of their own letters, and only what is no number has to be a pattern.
-/
import LoadOrder.Pattern.Reader

namespace LoadOrder.Expectation

/-! ### Numbers -/

def unsigned : List Char → List Char
  | '+' :: rest => rest
  | '-' :: rest => rest
  | text => text

/-- Whether a text is nothing, or the power of ten at the end of a number. -/
def isPower : List Char → Bool
  | [] => true
  | c :: rest =>
    (c == 'e' || c == 'E') && unsigned rest != [] && (unsigned rest).all Char.isDigit

/-- Whether a text is a number in digits.  The digits on one side of the point may be
    left out, and so may the point. -/
def isDecimal (text : List Char) : Bool :=
  let whole := text.takeWhile Char.isDigit
  match text.drop whole.length with
  | '.' :: rest =>
    let fraction := rest.takeWhile Char.isDigit
    (whole != [] || fraction != []) && isPower (rest.drop fraction.length)
  | rest => whole != [] && isPower rest

/-- The names of what is no number in digits. -/
def numberNames : List String := ["inf", "infinity", "nan"]

/-- Whether a text is a number.  The names may be written in any case. -/
def isNumber (text : List Char) : Bool :=
  isDecimal (unsigned text)
    || numberNames.contains (String.ofList ((unsigned text).map Char.toLower))

/-! ### Faults -/

/-- What is wrong with a text that says how a value should read. -/
def fault? (text : List Char) : Option Pattern.Fault :=
  if isNumber text then none else Pattern.fault? text

end LoadOrder.Expectation
