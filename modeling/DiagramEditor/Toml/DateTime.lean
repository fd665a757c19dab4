import DiagramEditor.Text.Basic

/-! Dates and times of TOML. A date may be followed by a time, and the time by an offset;
a time may stand alone. The parts have fixed widths and are checked against the
calendar; the seconds may be left out, and may count up to a leap second. -/
namespace DiagramEditor.Toml.DateTime

/-- A number of exactly `width` digits, with the text behind it. -/
def digits? (width : Nat) (rest : Text) : Option (Nat × Text) :=
  let digits := rest.takeWhile Char.isDigit
  if digits.length = width then
    some (digits.foldl (fun value c => value * 10 + (c.toNat - 48)) 0, rest.drop width)
  else none

/-- The text behind an expected character. -/
def skip? (expected : Char) : Text → Option Text
  | [] => none
  | c :: rest => if c = expected then some rest else none

def isLeapYear (year : Nat) : Bool :=
  year % 4 = 0 && (year % 100 ≠ 0 || year % 400 = 0)

def daysInMonth (year month : Nat) : Nat :=
  if month = 2 then if isLeapYear year then 29 else 28
  else if month ∈ [4, 6, 9, 11] then 30
  else 31

/-- The text behind a date. -/
def date? (rest : Text) : Option Text := do
  let (year, rest) ← digits? 4 rest
  let (month, rest) ← digits? 2 (← skip? '-' rest)
  let (day, rest) ← digits? 2 (← skip? '-' rest)
  if 1 ≤ month ∧ month ≤ 12 ∧ 1 ≤ day ∧ day ≤ daysInMonth year month then some rest else none

/-- The text behind the fraction of a second, which has at least one digit. -/
def fraction? : Text → Option Text
  | '.' :: c :: rest => if c.isDigit then some (rest.dropWhile Char.isDigit) else none
  | '.' :: [] => none
  | rest => some rest

/-- The text behind the seconds of a time, if it has any. -/
def seconds? : Text → Option Text
  | ':' :: rest => do
    let (second, rest) ← digits? 2 rest
    if second ≤ 60 then fraction? rest else none
  | rest => some rest

/-- The text behind an hour and a minute. -/
def hourMinute? (rest : Text) : Option Text := do
  let (hour, rest) ← digits? 2 rest
  let (minute, rest) ← digits? 2 (← skip? ':' rest)
  if hour ≤ 23 ∧ minute ≤ 59 then some rest else none

def time? (rest : Text) : Option Text := (hourMinute? rest).bind seconds?

/-- The text behind an offset, if there is one. -/
def offset? : Text → Option Text
  | 'Z' :: rest | 'z' :: rest => some rest
  | '+' :: rest | '-' :: rest => hourMinute? rest
  | rest => some rest

def isDate (raw : Text) : Bool := date? raw = some []

def isTime (raw : Text) : Bool := time? raw = some []

/-- A date with a time behind it, or a date or a time alone. -/
def isValid (raw : Text) : Bool :=
  match date? raw with
  | some [] => true
  | some (separator :: rest) =>
    ['T', 't', ' '].contains separator && (time? rest).bind offset? = some []
  | none => isTime raw

end DiagramEditor.Toml.DateTime
