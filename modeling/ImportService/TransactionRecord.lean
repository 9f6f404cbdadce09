/-
This file models the pure domain functions a line of an upload goes through: parsing
one NDJSON line, validating and normalising the record on it, and the fingerprint of
the result. Both the parser and the validator answer with a value, never with an error
that is thrown.
-/

import ImportService.Json

namespace ImportService

/-! ### Parsing a line -/

/-- The limit for a line, in bytes of UTF-8. -/
def MAX_LINE_BYTES : Nat := 64 * 1024

/-- What a line can be rejected for by the parser. -/
inductive LineErrorCode
  | LINE_TOO_LONG
  | INVALID_JSON
  deriving DecidableEq, Repr

/-- What the parser makes of a line. -/
inductive LineParseResult
  | blank
  | valid (lineNumber : Nat) (data : Json)
  | rejected (lineNumber : Nat) (errorCode : LineErrorCode) (message : JsString)
      (rawValueTruncated : JsString)

/-- A line is trimmed, measured and read as JSON. What is kept of a rejected one is cut to 200
units. -/
def parseNdjsonLine (runtime : Runtime) (rawLine : JsString) (lineNumber : Nat) :
    LineParseResult :=
  let trimmed := JsString.trim rawLine
  if trimmed.isEmpty then .blank
  else if MAX_LINE_BYTES < JsString.byteLength trimmed then
    .rejected lineNumber .LINE_TOO_LONG
      (JsString.ofString "Line exceeds the " ++ JsString.ofNat MAX_LINE_BYTES ++
        JsString.ofString "-byte limit.")
      (trimmed.take 200)
  else
    match Json.parse trimmed with
    | some data => .valid lineNumber data
    | none =>
        .rejected lineNumber .INVALID_JSON (runtime.syntaxErrorMessage trimmed)
          (trimmed.take 200)

/-- The result names the line, unless the line is blank. -/
def LineParseResult.Names (lineNumber : Nat) : LineParseResult → Prop
  | .blank => True
  | .valid given _ | .rejected given _ _ _ => given = lineNumber

theorem parseNdjsonLine_names (runtime : Runtime) (rawLine : JsString) (lineNumber : Nat) :
    (parseNdjsonLine runtime rawLine lineNumber).Names lineNumber := by
  unfold parseNdjsonLine
  simp only
  split
  · trivial
  · split
    · rfl
    · split <;> rfl

/-! ### Validating a record -/

/-- A transaction as the validator accepts it. -/
structure ValidatedTransaction where
  provider : JsString
  transactionId : JsString
  accountId : JsString
  merchantId : JsString
  amount : Rat
  currency : JsString
  /-- The time value of the `Date`. -/
  timestamp : Int
  description : Option JsString
  deriving DecidableEq

/-- What a record can be rejected for by the validator. -/
inductive ValidationErrorCode
  | MISSING_FIELD
  | INVALID_AMOUNT
  | INVALID_CURRENCY
  | INVALID_TIMESTAMP
  | DESCRIPTION_TOO_LONG
  | INVALID_TYPE
  deriving DecidableEq, Repr

/-- A rejection of the validator names the field it is about. -/
structure ValidationFailure where
  errorCode : ValidationErrorCode
  message : String
  field : Option String

/-- The transaction, or what is wrong with the record. -/
abbrev ValidationResult := Except ValidationFailure ValidatedTransaction

/-- The limit for a description, in code units. -/
def MAX_DESCRIPTION_LENGTH : Nat := 500

/-- The limit for an identifier, in code units. -/
def MAX_IDENTIFIER_LENGTH : Nat := 128

/-- `CURRENCY_PATTERN`: three ASCII letters. -/
def matchesCurrencyPattern (text : JsString) : Bool :=
  text.length == 3 && text.all JsString.isLetter

/-- A rejection. -/
def fail {Result : Type} (errorCode : ValidationErrorCode) (message : String)
    (field : Option String) : Except ValidationFailure Result :=
  .error { errorCode, message, field }

/-- `none` is both `undefined` and what a member of another type normalises to. -/
def normalizeRequiredString : Option Json → Option JsString
  | some (.string value) =>
      let cleaned := JsString.trim (JsString.removeControls value)
      if cleaned.length = 0 then none
      else if MAX_IDENTIFIER_LENGTH < cleaned.length then none
      else some cleaned
  | _ => none

/-- A number greater than zero, rounded to cents. Text is read as a number first. -/
def normalizeAmount (value : Json) : Option Rat :=
  let round : JsNumber → Option Rat
    | .finite parsed => if parsed ≤ 0 then none else some (mathRound (parsed * 100) / 100)
    | _ => none
  match value with
  | .number parsed => round parsed
  | .string text =>
      let trimmed := JsString.trim text
      if trimmed.isEmpty then none else round (JsNumber.ofText trimmed)
  | _ => none

/-- `new Date(value)`: a number is a time value, a string is parsed by the host. -/
def newDate (runtime : Runtime) : Json → Option Int
  | .string text => runtime.dateParse text
  | .number (.finite value) => JsDate.timeClip value
  | _ => none

/-- A time of the years 1970 to 2200. -/
def normalizeTimestamp (runtime : Runtime) (value : Json) : Option Int := do
  let time ← newDate runtime value
  let year := JsDate.getUTCFullYear time
  if year < 1970 || 2200 < year then none else some time

/-- A string field that must be there. -/
def requiredString (members : List (JsString × Json)) (field : String) :
    Except ValidationFailure JsString :=
  match normalizeRequiredString (Json.get? members field) with
  | some value => .ok value
  | none => fail .MISSING_FIELD (field ++ " is required.") field

/-- A field of any type that must be there and not be `null`. -/
def requiredValue (members : List (JsString × Json)) (field : String) :
    Except ValidationFailure Json :=
  match Json.get? members field with
  | none | some .null => fail .MISSING_FIELD (field ++ " is required.") field
  | some value => .ok value

/-- A description may be missing. An empty one is none. -/
def validateDescription (members : List (JsString × Json)) :
    Except ValidationFailure (Option JsString) :=
  match Json.get? members "description" with
  | none | some .null => .ok none
  | some (.string value) =>
      let trimmed := JsString.trim (JsString.removeControls value)
      if MAX_DESCRIPTION_LENGTH < trimmed.length then
        fail .DESCRIPTION_TOO_LONG
          ("description exceeds " ++ toString MAX_DESCRIPTION_LENGTH ++ " characters.")
          "description"
      else .ok (if 0 < trimmed.length then some trimmed else none)
  | some _ => fail .INVALID_TYPE "description must be a string." "description"

/-- The fields are checked one after the other, and the first that fails is named. -/
def validateTransaction (runtime : Runtime) (raw : Json) (fallbackProvider : JsString) :
    ValidationResult :=
  match raw with
  | .object record => do
      -- an empty provider is let through: the check for it is commented out in the source
      let provider :=
        (normalizeRequiredString (Json.get? record "provider")).getD fallbackProvider
      let transactionId ← requiredString record "transactionId"
      let accountId ← requiredString record "accountId"
      let merchantId ← requiredString record "merchantId"
      let rawAmount ← requiredValue record "amount"
      let amount ← match normalizeAmount rawAmount with
        | some amount => .ok amount
        | none =>
            fail .INVALID_AMOUNT "amount must be a finite number greater than zero." "amount"
      let rawCurrency ← requiredString record "currency"
      if !matchesCurrencyPattern rawCurrency then
        fail .INVALID_CURRENCY "currency must be a 3-letter alphabetic code." "currency"
      let currency := JsString.toUpperCase rawCurrency
      let rawTimestamp ← requiredValue record "timestamp"
      let timestamp ← match normalizeTimestamp runtime rawTimestamp with
        | some timestamp => .ok timestamp
        | none =>
            fail .INVALID_TIMESTAMP "timestamp must be a valid ISO-8601 date-time." "timestamp"
      let description ← validateDescription record
      .ok { provider, transactionId, accountId, merchantId, amount, currency, timestamp,
            description }
  | _ => fail .INVALID_TYPE "Record must be a JSON object." none

/-! ### The fingerprint -/

/-- The version every fingerprint begins with. -/
def FINGERPRINT_VERSION : JsString := JsString.ofString "v1"

/-- `amount.toFixed(2)`; from `10 ^ 21` on it prints the number itself. -/
def toFixed2 (runtime : Runtime) (amount : Rat) : JsString :=
  if 10 ^ 21 ≤ |amount| then runtime.numberToString amount
  else
    let cents := mathRound (|amount| * 100)
    (if amount < 0 then JsString.ofString "-" else []) ++ JsString.ofNat (cents.toNat / 100) ++
      JsString.ofString "." ++ JsString.padded 2 (cents.toNat % 100)

/-- The hash of the fields, joined by bars, behind the version. -/
def computeFingerprint (runtime : Runtime) (transaction : ValidatedTransaction) : JsString :=
  let canonicalParts := [transaction.provider, transaction.transactionId, transaction.accountId,
    transaction.merchantId, toFixed2 runtime transaction.amount, transaction.currency,
    JsDate.toISOString transaction.timestamp]
  let canonicalString := Json.joined (JsString.ofString "|") canonicalParts
  FINGERPRINT_VERSION ++ JsString.ofString ":" ++ runtime.sha256 canonicalString

end ImportService
