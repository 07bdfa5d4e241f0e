import Ilogtail.Syslogparser.Rfc3164.Tag
import Ilogtail.Syslogparser.Reference

/-!
# Where the steps leave the cursor

From an entry cursor inside the buffer, the successful return of `parseTimestamp`,
the skip of one space at an in-range cursor, `parseTag` and `parseContent` all leave
the cursor between where it was and the end of the buffer. The failed return of
`parseTimestamp` does not: it sets the cursor to 15, the length of the last layout,
wherever the timestamp started, which lies past the end of every buffer shorter than
15 bytes.
-/

namespace Ilogtail.Syslogparser.Rfc3164

open Ilogtail.Go

namespace Parser

theorem cursor_le_skipSpace (p : Parser) : p.cursor ≤ p.skipSpace.cursor := by
  rw [skipSpace_eq]
  split_ifs <;> simp

/-- The skip moves the cursor only over a byte of the buffer. -/
theorem skipSpace_cursor_le {p : Parser} (entry : p.cursor ≤ p.l) : p.skipSpace.cursor ≤ p.l := by
  rw [skipSpace_eq]
  split_ifs with space
  · have inBuff : p.cursor < p.buff.length := (List.getElem?_eq_some_iff.mp space).1
    simp [p.l_eq]
    omega
  · exact entry

/-- A successful `parseTimestamp` moves the cursor forward and keeps it in the buffer. -/
theorem parseTimestamp_cursor_of_ok {p : Parser} {time : TimeLib}
    (ok : (p.parseTimestamp time).1.2 = none) :
    p.cursor ≤ (p.parseTimestamp time).2.cursor ∧ (p.parseTimestamp time).2.cursor ≤ p.l := by
  rw [parseTimestamp_eq] at ok ⊢
  split at ok
  · cases ok
  · rename_i ts found
    have fits := cursor_add_le_of_timestampAt found
    simp only
    constructor
    · exact Nat.le_trans (by simp) (cursor_le_skipSpace _)
    · exact skipSpace_cursor_le (by simpa using fits)

/-- From an entry cursor inside the buffer, `parseTag` moves forward within the buffer. -/
theorem parseTag_cursor {p : Parser} (entry : p.cursor ≤ p.l) :
    p.cursor ≤ p.parseTag.2.cursor ∧ p.parseTag.2.cursor ≤ p.l := by
  have cursorEq := congrArg (·.2.cursor) (parseTag_eq_window p)
  dsimp only at cursorEq
  have windowLength : (slice p.buff p.cursor (min p.buff.length (p.cursor + 32))).length =
      min p.buff.length (p.cursor + 32) - p.cursor := by simp
  have before := @List.findIdx_lt_length _ (· == ' '.toUInt8)
    (slice p.buff p.cursor (min p.buff.length (p.cursor + 32)))
  have onSpace : ' '.toUInt8 ∈ slice p.buff p.cursor (min p.buff.length (p.cursor + 32)) →
      ∃ x ∈ slice p.buff p.cursor (min p.buff.length (p.cursor + 32)), (x == ' '.toUInt8) = true :=
    fun found => ⟨_, found, by simp⟩
  rw [cursorEq, p.l_eq]
  rw [p.l_eq] at entry
  split_ifs with empty found
  · exact ⟨le_rfl, entry⟩
  · have := before.mpr (onSpace found)
    constructor <;> omega
  · constructor <;> omega

/-- From a cursor inside the buffer, `parseContent` returns the rest of the buffer
without its surrounding spaces and advances the cursor by the content's length. -/
theorem parseContent_of_le {p : Parser} (entry : p.cursor ≤ p.l) :
    p.parseContent = ((trim (p.buff.drop p.cursor) (bytesOf " "), some .errEOL),
      { p with cursor := p.cursor + (trim (p.buff.drop p.cursor) (bytesOf " ")).length }) := by
  have sliceEq : slice p.buff p.cursor p.l = p.buff.drop p.cursor := by
    rw [p.l_eq, slice_to_length]
  simp only [parseContent, if_neg (Nat.not_lt.mpr entry), sliceEq]

/-- From an entry cursor inside the buffer, `parseContent` moves forward within the buffer. -/
theorem parseContent_cursor {p : Parser} (entry : p.cursor ≤ p.l) :
    p.cursor ≤ p.parseContent.2.cursor ∧ p.parseContent.2.cursor ≤ p.l := by
  have trimmed := trim_length_le (p.buff.drop p.cursor) (bytesOf " ")
  rw [parseContent_of_le entry]
  simp only [List.length_drop, ← p.l_eq] at trimmed ⊢
  omega

/-- From an entry cursor inside the buffer, every step that returns normally keeps the
cursor between where it was and the end of the buffer: a successful `parseTimestamp`,
the skip of a space at a cursor inside the buffer (the read in `Parse` panics at the
end), `parseTag` and `parseContent`. -/
theorem steps_keep_cursor_in_buffer (p : Parser) (time : TimeLib) (entry : p.cursor ≤ p.l) :
    ((p.parseTimestamp time).1.2 = none →
      p.cursor ≤ (p.parseTimestamp time).2.cursor ∧ (p.parseTimestamp time).2.cursor ≤ p.l) ∧
    (p.cursor < p.l → p.cursor ≤ p.skipSpace.cursor ∧ p.skipSpace.cursor ≤ p.l) ∧
    (p.cursor ≤ p.parseTag.2.cursor ∧ p.parseTag.2.cursor ≤ p.l) ∧
    (p.cursor ≤ p.parseContent.2.cursor ∧ p.parseContent.2.cursor ≤ p.l) :=
  ⟨parseTimestamp_cursor_of_ok,
    fun inside => ⟨cursor_le_skipSpace p, skipSpace_cursor_le inside.le⟩,
    parseTag_cursor entry, parseContent_cursor entry⟩

/-- The parser over `<13>Jan 02 15:04:05 su: hi` with the cursor after `<13>`, on the
timestamp. -/
def stampedParser : Parser := { newParser (bytesOf "<13>Jan 02 15:04:05 su: hi") with cursor := 4 }

theorem steps_keep_cursor_in_buffer_at_timestamp :
    stampedParser.cursor ≤ stampedParser.l ∧
      (stampedParser.parseTimestamp referenceClock).1.2 = none ∧
      (stampedParser.parseTimestamp referenceClock).2.cursor = 20 ∧
      stampedParser.cursor < stampedParser.l ∧
      ((stampedParser.parseTimestamp referenceClock).1.2 = none →
        stampedParser.cursor ≤ (stampedParser.parseTimestamp referenceClock).2.cursor ∧
          (stampedParser.parseTimestamp referenceClock).2.cursor ≤ stampedParser.l) ∧
      (stampedParser.cursor < stampedParser.l →
        stampedParser.cursor ≤ stampedParser.skipSpace.cursor ∧
          stampedParser.skipSpace.cursor ≤ stampedParser.l) ∧
      (stampedParser.cursor ≤ stampedParser.parseTag.2.cursor ∧
        stampedParser.parseTag.2.cursor ≤ stampedParser.l) ∧
      (stampedParser.cursor ≤ stampedParser.parseContent.2.cursor ∧
        stampedParser.parseContent.2.cursor ≤ stampedParser.l) :=
  ⟨by decide, rfl, rfl, by decide,
    steps_keep_cursor_in_buffer stampedParser referenceClock (by decide)⟩

/-- On the line `<1>`, where a reader of `<PRI>` leaves the cursor at 3, no layout fits,
and the failed `parseTimestamp` moves the cursor to 15, past the end of the 3-byte
buffer. -/
theorem parseTimestamp_cursor_past_end (time : TimeLib) :
    (({ newParser (bytesOf "<1>") with cursor := 3 } : Parser).parseTimestamp time).1.2 =
        some .errTimestampUnknownFormat ∧
      (({ newParser (bytesOf "<1>") with cursor := 3 } : Parser).parseTimestamp time).2.cursor = 15 ∧
      (bytesOf "<1>").length = 3 := by
  have notFound : ({ newParser (bytesOf "<1>") with cursor := 3 } : Parser).timestampAt time =
      none := by
    simp [timestampAt, newParser, bytesOf]
  rw [parseTimestamp_eq, notFound]
  simp [skipSpace_eq, newParser, bytesOf]

end Parser

end Ilogtail.Syslogparser.Rfc3164
