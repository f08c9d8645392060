import RowFerry.Calendar.Time
import RowFerry.Unicode.WhiteSpace

/-!
Reading dates and times from text. White space may stand before any field; a field may have fewer
digits than it is written with; a year of more than four digits needs a sign; of a fraction the
first nine digits count.
-/

namespace RowFerry.Calendar

/-- The text after its leading white space. -/
def skipBlanks (cs : List Char) : List Char := cs.dropWhile Unicode.isWhiteSpace

/-- Reads one to `width` digits. -/
def digits? (width : Nat) (cs : List Char) : Option (Nat × List Char) :=
  let ds := (cs.takeWhile Char.isDigit).take width
  if ds.isEmpty then none else some (Text.ofDigits ds, cs.drop ds.length)

/-- Reads a field of one to `width` digits. -/
def field? (width : Nat) (cs : List Char) : Option (Nat × List Char) :=
  digits? width (skipBlanks cs)

/-- Reads one given character. -/
def mark? (c : Char) : List Char → Option (List Char)
  | [] => none
  | d :: ds => if d = c then some ds else none

/-- Reads a year: up to four digits, or a sign and any number of them. -/
def year? (cs : List Char) : Option (Int × List Char) :=
  match skipBlanks cs with
  | '-' :: ds => (digits? ds.length ds).map fun (n, rest) => (-(n : Int), rest)
  | '+' :: ds => (digits? ds.length ds).map fun (n, rest) => ((n : Int), rest)
  | ds => (digits? 4 ds).map fun (n, rest) => ((n : Int), rest)

/-- Reads a date at the start of a text. -/
def date? (cs : List Char) : Option (Date × List Char) := do
  let (year, cs) ← year? cs
  let cs ← mark? '-' cs
  let (month, cs) ← field? 2 cs
  let cs ← mark? '-' cs
  let (day, cs) ← field? 2 cs
  let date ← Date.of? year month day
  pure (date, cs)

/-- Reads the fraction of a second, in nanoseconds; without a point there is none. -/
def fraction? : List Char → Option (Nat × List Char)
  | '.' :: cs =>
    let ds := cs.takeWhile Char.isDigit
    if ds.isEmpty then none
    else
      let used := ds.take 9
      some (Text.ofDigits used * Nat.pow 10 (9 - used.length), cs.dropWhile Char.isDigit)
  | cs => some (0, cs)

/-- Reads a time at the start of a text. -/
def time? (cs : List Char) : Option (Time × List Char) := do
  let (hour, cs) ← field? 2 cs
  let cs ← mark? ':' cs
  let (minute, cs) ← field? 2 cs
  let cs ← mark? ':' cs
  let (second, cs) ← field? 2 cs
  let (nano, cs) ← fraction? cs
  let time ← Time.ofClock? hour minute second nano
  pure (time, cs)

/-- The value read when nothing of the text is left. -/
def whole? {α : Type} : Option (α × List Char) → Option α
  | some (a, []) => some a
  | _ => none

end RowFerry.Calendar

namespace RowFerry

/-- Reads a date and nothing else. -/
def Date.ofText? (text : String) : Option Date := Calendar.whole? (Calendar.date? text.toList)

/-- Reads a time and nothing else. -/
def Time.ofText? (text : String) : Option Time := Calendar.whole? (Calendar.time? text.toList)

/-- Reads a date, white space if any, and a time. -/
def DateTime.ofText? (text : String) : Option DateTime :=
  Calendar.whole? do
    let (date, cs) ← Calendar.date? text.toList
    let (time, cs) ← Calendar.time? (Calendar.skipBlanks cs)
    pure (⟨date, time⟩, cs)

/-- Reads a date and a time with `T` between them. -/
def DateTime.ofStamp? (text : String) : Option DateTime :=
  Calendar.whole? do
    let (date, cs) ← Calendar.date? text.toList
    let cs ← Calendar.mark? 'T' cs
    let (time, cs) ← Calendar.time? cs
    pure (⟨date, time⟩, cs)

end RowFerry
