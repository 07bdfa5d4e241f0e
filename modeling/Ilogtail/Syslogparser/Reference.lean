import Ilogtail.Syslogparser.Rfc3164.Parser

/-!
# Reference instances of the imported functions

The parser's theorems hold for every `Library` and every `TimeLib`. A theorem with a
hypothesis on them is instantiated at the readers below, which follow the RFC 3164
grammar of the fields they read: `PRI` is `<`, one to three digits and `>` at the start
of the line, and `HOSTNAME` runs to the next space; `referenceLibrary_readsPriority` and
`referenceLibrary_readsHostname` show that they read every such field. The reference
clock accepts a value only when it is the layout's own reference time
(`Jan 2 15:04:05`, year 0), which the standard library also accepts, with the same
result.
-/

namespace Ilogtail.Syslogparser

open Ilogtail.Go

/-- `IsDigit`: an ASCII decimal digit. -/
def isDigit (c : UInt8) : Bool := '0'.toUInt8 ≤ c && c ≤ '9'.toUInt8

/-- The value of a run of decimal digits. -/
def digitsValue (digits : Bytes) : Int :=
  digits.foldl (fun acc d => 10 * acc + ((d - '0'.toUInt8).toNat : Int)) 0

/-- The priority `<PRI>` of `PRI` as `newPriority` splits it: facility `PRI / 8`,
severity `PRI % 8`. -/
def newPriority (value : Int) : Priority := { p := value, f := ⟨value / 8⟩, s := ⟨value % 8⟩ }

/-- A `ParsePriority` reading `<`, one to three digits and `>` from the start of the
buffer; the cursor is left after `>`. -/
def referenceParsePriority (buff : Bytes) (cursor _l : Nat) : (Priority × Option ParserError) × Nat :=
  let digits := (buff.drop 1).takeWhile isDigit
  if buff.head? = some '<'.toUInt8 ∧ 0 < digits.length ∧ digits.length ≤ 3 ∧
      (buff.drop (digits.length + 1)).head? = some '>'.toUInt8 then
    ((newPriority (digitsValue digits), none), digits.length + 2)
  else (({}, some (.other 0)), cursor)

/-- A `ParseHostname` reading from the cursor to the next space, or to the end of the
buffer; the cursor is left on that space. -/
def referenceParseHostname (buff : Bytes) (cursor l : Nat) : (Bytes × Option ParserError) × Nat :=
  if l ≤ cursor then (([], some (.other 1)), cursor)
  else
    let hostname := (slice buff cursor l).takeWhile (· ≠ ' '.toUInt8)
    ((hostname, none), cursor + hostname.length)

/-- The reference readers, with `NO_VERSION = -1`. -/
def referenceLibrary : Library where
  parsePriority := referenceParsePriority
  parseHostname := referenceParseHostname
  noVersion := -1

/-- The reference reader accepts every `PRI` of one to three digits. -/
theorem referenceLibrary_readsPriority {pri : Bytes} (digits : ∀ d ∈ pri, isDigit d)
    (nonempty : 0 < pri.length) (short : pri.length ≤ 3) :
    referenceLibrary.ReadsPriority pri (newPriority (digitsValue pri)) := by
  rintro buff ⟨rest, rfl⟩
  have buffEq : bytesOf "<" ++ pri ++ bytesOf ">" ++ rest =
      '<'.toUInt8 :: (pri ++ '>'.toUInt8 :: rest) := by
    simp [bytesOf]
  have digitsEq : (pri ++ '>'.toUInt8 :: rest).takeWhile isDigit = pri := by
    have notDigit : isDigit '>'.toUInt8 = false := by decide
    simp [List.takeWhile_append_of_pos digits, notDigit]
  rw [buffEq]
  simp [referenceLibrary, referenceParsePriority, digitsEq, nonempty, short]

/-- The reference reader reads every hostname without spaces. -/
theorem referenceLibrary_readsHostname {hostname : Bytes} (noSpace : ' '.toUInt8 ∉ hostname) :
    referenceLibrary.ReadsHostname hostname := by
  rintro buff cursor ⟨rest, restEq⟩
  have sliceEq : slice buff cursor buff.length = hostname ++ ' '.toUInt8 :: rest := by
    rw [slice_to_length, ← restEq]
    simp [bytesOf]
  have inside : cursor < buff.length := by
    have lengths := congrArg List.length sliceEq
    simp only [slice_length, min_self, List.length_append, List.length_cons] at lengths
    omega
  have readEq : (hostname ++ ' '.toUInt8 :: rest).takeWhile (· ≠ ' '.toUInt8) = hostname := by
    rw [List.takeWhile_append_of_pos (fun b mem => by simpa using ne_of_mem_of_not_mem mem noSpace)]
    simp
  simp only [referenceLibrary, referenceParseHostname, if_neg (Nat.not_le.mpr inside), sliceEq,
    readEq]

/-- The reference clock: a value parses only as the layout's own reference time, and
`time.Date` keeps the in-range fields it is given. -/
def referenceClock : TimeLib where
  parseInLocation layout value location :=
    if value = layout then
      some { year := 0, month := 1, day := 2, hour := 15, minute := 4, second := 5, location }
    else none
  now := {}
  date year month day hour minute second nanosecond location :=
    { year, month, day, hour, minute, second, nanosecond, location }

end Ilogtail.Syslogparser
