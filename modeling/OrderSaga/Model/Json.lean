import Mathlib.Algebra.Group.Int
import Mathlib.Algebra.Group.Nat.Basic
import Mathlib.Data.Rat.Defs

/-!
# Message bodies and the part of `encoding/json` the handlers rely on

Every handler receives its message as raw bytes and calls `json.Unmarshal` into its
envelope struct, and the dead-letter capture checks `json.Valid` through
`StoreEventForReplay`. A body is modelled by what those two calls can see: bytes that
parse as one JSON value are that value, all other bytes are `malformed`.

Decoding into a struct follows `encoding/json`: object members are applied in order,
each to the field whose tag it matches after case folding, unknown members are
skipped, `null` leaves a field as it is, and a value of the wrong kind makes
`Unmarshal` return an error. Numbers keep the one distinction Go's decoder makes: an
integer literal fits an `int` field, any other literal only a `float64` one.

A number is the value its literal denotes. Go reads an `int` field with
`strconv.ParseInt`, which fails outside `int64`, and a `float64` field with
`strconv.ParseFloat`, which rounds to the nearest float64, fails from `2^1024 - 2^970` up
and rounds to zero at `2^-1075` and below. Those limits are not part of the decoders here;
`JsonValue.numbersFit` says when a value keeps clear of them, so that the decoders here
and Go's accept the same bodies and agree on every sign.
-/

set_option autoImplicit false

namespace OrderSaga

/-- A JSON value as `encoding/json` parses it. Object members stay in source order,
duplicates included, since the decoder applies them one after another. -/
inductive JsonValue where
  | null
  | bool (b : Bool)
  /-- A number written as an integer literal. -/
  | int (n : Int)
  /-- A number written with a fraction or an exponent. -/
  | number (q : ℚ)
  | string (s : String)
  | array (elems : List JsonValue)
  | object (members : List (String × JsonValue))

/-- The bytes of a message body. -/
inductive Body where
  /-- Bytes that parse as the JSON value `v`. -/
  | json (v : JsonValue)
  /-- Bytes that `json.Valid` rejects. -/
  | malformed (bytes : List UInt8)

/-- `json.Valid`. -/
def Body.valid : Body → Bool
  | .json _ => true
  | .malformed _ => false

/-! ## Decoding into struct fields -/

/-- `encoding/json`'s folding of one character of a member name or a tag, as Go 1.21 and
later compute it (`unicode.ToUpper(unicode.ToLower(r))`): ASCII letters fold to upper case,
and exactly four other characters fold to an ASCII letter, the Kelvin sign (U+212A) to `K`,
the long s (U+017F) to `S`, and the dotted and dotless i (U+0130, U+0131) to `I`. Every
other character folds to one that is not ASCII; it is kept as it is, which decides no
comparison differently, since every tag is ASCII. -/
def foldChar (c : Char) : Char :=
  if c = '\u212A' then 'K'
  else if c = '\u017F' then 'S'
  else if c = '\u0130' ∨ c = '\u0131' then 'I'
  else c.toUpper

/-- The key `encoding/json` compares a member name and a field tag by. -/
def foldKey (s : String) : List Char := s.data.map foldChar

/-- Whether an object member named `key` lands in the field tagged `tag`. -/
def keyMatches (key tag : String) : Bool := foldKey key == foldKey tag

/-- Decoding into a `string` field holding `old`. -/
def decodeString (old : String) : JsonValue → Option String
  | .null => some old
  | .string s => some s
  | _ => none

/-- Decoding into an `int` field holding `old`: only an integer literal fits. -/
def decodeInt (old : Int) : JsonValue → Option Int
  | .null => some old
  | .int n => some n
  | _ => none

/-- Decoding into a `float64` field holding `old`. -/
def decodeFloat (old : ℚ) : JsonValue → Option ℚ
  | .null => some old
  | .int n => some n
  | .number q => some q
  | _ => none

/-- Decoding into a `bool` field holding `old`. -/
def decodeBool (old : Bool) : JsonValue → Option Bool
  | .null => some old
  | .bool b => some b
  | _ => none

/-- The value of a decimal digit. -/
def digitValue (c : Char) : Option Nat := if c.isDigit then some (c.toNat - '0'.toNat) else none

/-- The value of a run of decimal digits; `none` when one of them is not a digit. -/
def decimalValue (cs : List Char) : Option Nat :=
  cs.foldlM (fun n c => (digitValue c).map (10 * n + ·)) 0

/-- `time.daysIn`: the days of a month, February by the Gregorian leap-year rule. -/
def daysIn (month year : Nat) : Nat :=
  if month = 2 then (if year % 4 = 0 ∧ (year % 100 ≠ 0 ∨ year % 400 = 0) then 29 else 28)
  else if month = 4 ∨ month = 6 ∨ month = 9 ∨ month = 11 then 30
  else 31

/-- The hour of the layout element `15`, which `time.Parse` reads with `getnum(_, false)`:
two digits when two follow, otherwise one. -/
def parseHour : List Char → Option (Nat × List Char)
  | a :: b :: rest =>
    match digitValue a, digitValue b with
    | some x, some y => some (10 * x + y, rest)
    | some x, none => some (x, b :: rest)
    | none, _ => none
  | [a] => (digitValue a).map fun x => (x, [])
  | [] => none

/-- The fractional second `time.Parse` takes after the seconds although the layout has
none: `.` or `,` and at least one digit. -/
def skipFraction : List Char → List Char
  | c :: d :: rest => if (c = '.' ∨ c = ',') ∧ d.isDigit then rest.dropWhile Char.isDigit else c :: d :: rest
  | cs => cs

/-- The layout element `Z07:00`: `Z`, or a sign and `hh:mm` with at most 24 hours and 60
minutes (`time.Parse` compares the offset with `>`), and nothing after it. -/
def zoneFits : List Char → Bool
  | ['Z'] => true
  | [sign, h1, h2, ':', m1, m2] =>
    match decimalValue [h1, h2], decimalValue [m1, m2] with
    | some h, some m => decide ((sign = '+' ∨ sign = '-') ∧ h ≤ 24 ∧ m ≤ 60)
    | _, _ => false
  | _ => false

/-- The texts `time.Parse(time.RFC3339, s)` accepts, which is what
`time.Time.UnmarshalJSON` accepts inside the quotes: its Go 1.20 fast path
`parseRFC3339` accepts fewer, and falls back to `time.Parse`. A four-digit year, a month
and a day that exists in it, `T`, an hour below 24 in one or two digits, minutes and
seconds below 60, an optional fraction, and the zone. -/
def parsesRFC3339 (s : String) : Bool :=
  match s.data with
  | y1 :: y2 :: y3 :: y4 :: '-' :: m1 :: m2 :: '-' :: d1 :: d2 :: 'T' :: rest =>
    match decimalValue [y1, y2, y3, y4], decimalValue [m1, m2], decimalValue [d1, d2], parseHour rest with
    | some year, some month, some day, some (hour, ':' :: n1 :: n2 :: ':' :: s1 :: s2 :: zone) =>
      match decimalValue [n1, n2], decimalValue [s1, s2] with
      | some minute, some second =>
        decide (1 ≤ month ∧ month ≤ 12 ∧ 1 ≤ day ∧ day ≤ daysIn month year ∧ hour < 24 ∧ minute < 60 ∧
          second < 60) && zoneFits (skipFraction zone)
      | _, _ => false
    | _, _, _, _ => false
  | _ => false

example : parsesRFC3339 "2024-02-29T09:30:00.123456+05:30" = true := by decide

example : parsesRFC3339 "2023-02-29T09:30:00Z" = false := by decide

example : parsesRFC3339 "2024-01-02T9:30:00,5Z" = true := by decide

/-- `time.Time.UnmarshalJSON` accepts `null` and a JSON string that `parsesRFC3339`; any
other value is an error. Go parses the raw bytes between the quotes without unescaping
them, so a timestamp written with escapes is the one text the two read differently. -/
def decodeTime : JsonValue → Option Unit
  | .null => some ()
  | .string s => if parsesRFC3339 s then some () else none
  | _ => none

/-- `json.Unmarshal` of `v` into a struct already holding `init`, where `setField`
applies one member (and skips members no field's tag matches). -/
def decodeInto {α : Type} (setField : α → String → JsonValue → Option α) (init : α) :
    JsonValue → Option α
  | .null => some init
  | .object members => members.foldlM (fun acc m => setField acc m.1 m.2) init
  | _ => none

/-- `json.Unmarshal(body, &v)` for a fresh `v` holding the zero value `zero`. -/
def Body.unmarshal {α : Type} (setField : α → String → JsonValue → Option α) (zero : α) :
    Body → Option α
  | .json v => decodeInto setField zero v
  | .malformed _ => none

/-! ## Numbers Go reads as the decoders here do -/

/-- An integer literal `strconv.ParseInt(_, 10, 64)` reads: one in `[-2^63, 2^63)`. -/
def fitsInt64 (n : Int) : Bool := decide (-2 ^ 63 ≤ n ∧ n < 2 ^ 63)

/-- A number `strconv.ParseFloat(_, 64)` reads without an error and without rounding it to
zero unless it is zero: its magnitude is above `2^-1075`, half the least positive
float64, and below `2^1024 - 2^970`, from which it rounds to infinity. -/
def fitsFloat64 (q : ℚ) : Bool :=
  q == 0 || (decide (q.den < q.num.natAbs * 2 ^ 1075) && decide (q.num.natAbs < (2 ^ 1024 - 2 ^ 970) * q.den))

mutual

/-- Every number in the value fits: integer literals in `int64`, other numbers in
float64's range. -/
def JsonValue.numbersFit : JsonValue → Bool
  | .int n => fitsInt64 n
  | .number q => fitsFloat64 q
  | .array elems => JsonValue.numbersFitList elems
  | .object members => JsonValue.numbersFitMembers members
  | _ => true
termination_by structural v => v

/-- Every number in the elements fits. -/
def JsonValue.numbersFitList : List JsonValue → Bool
  | [] => true
  | v :: vs => v.numbersFit && JsonValue.numbersFitList vs
termination_by structural vs => vs

/-- Every number in the members' values fits. -/
def JsonValue.numbersFitMembers : List (String × JsonValue) → Bool
  | [] => true
  | (_, v) :: members => v.numbersFit && JsonValue.numbersFitMembers members
termination_by structural members => members

end

/-- Every number in the body fits; bytes that are not JSON hold none. -/
def Body.numbersFit : Body → Bool
  | .json v => v.numbersFit
  | .malformed _ => true

/-- `json.Marshal` of a `float64`: integral values print as integer literals. -/
def marshalFloat (q : ℚ) : JsonValue :=
  if q.den = 1 then .int q.num else .number q

/-- A `float64` decodes back from its JSON, whether it printed as an integer literal or not. -/
@[simp] theorem decodeFloat_marshalFloat (old q : ℚ) : decodeFloat old (marshalFloat q) = some q := by
  unfold marshalFloat
  split
  · simp [decodeFloat, Rat.coe_int_num_of_den_eq_one ‹_›]
  · rfl

/-- Bytes that are not JSON decode into no struct. -/
@[simp] theorem unmarshal_malformed {α : Type} (setField : α → String → JsonValue → Option α)
    (zero : α) (bytes : List UInt8) : Body.unmarshal setField zero (.malformed bytes) = none := rfl

end OrderSaga
