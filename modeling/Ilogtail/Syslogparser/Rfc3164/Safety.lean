import Ilogtail.Syslogparser.Rfc3164.Cursor

/-!
# When `Parse` panics

`Parse` reads `p.buff[p.cursor]` right after the header without comparing the cursor
with `p.l`, unlike the two reads of the same byte in `parseTimestamp`. A successful
header can end exactly at the end of the buffer: a 15-byte timestamp that closes the
line under a hostname override, or a hostname that closes it.
`parse_panics_when_timestamp_ends_buffer` shows that the first case panics for every
reader of the imported package and every clock.
-/

namespace Ilogtail.Syslogparser.Rfc3164

open Ilogtail.Go

namespace Parser

/-- A hostname set by `Hostname` is returned without reading the buffer. -/
theorem parseHostname_of_override {p : Parser} (lib : Library) (override : p.hostname ≠ []) :
    p.parseHostname lib = ((p.hostname, none), p) := by
  simp [parseHostname, override]

/-- The header after a timestamp was read: the hostname step decides the outcome. -/
theorem parseHeader_of_timestampAt {p : Parser} {lib : Library} {time : TimeLib} {ts : Time}
    (found : p.timestampAt time = some ts) :
    p.parseHeader lib time =
      let host := ({ p with cursor := p.cursor + 15 }.skipSpace).parseHostname lib
      if host.1.2.isSome then (({}, host.1.2), host.2)
      else (({ timestamp := fixTimestampIfNeeded time ts, hostname := host.1.1 }, none), host.2) := by
  rw [parseHeader_eq, parseTimestamp_eq, found]
  rfl

/-- A nil return of `Parse` comes from a successful `ParsePriority`, a successful header
that leaves the cursor inside the buffer, and `parsemessage` after the space skip. -/
theorem parse_eq_ok {p q : Parser} {lib : Library} {time : TimeLib}
    (returnsNil : p.parse lib time = .ok (none, q)) :
    let pri := p.parsePriority lib
    let hdr := pri.2.parseHeader lib time
    pri.1.2 = none ∧ hdr.1.2 = none ∧ hdr.2.cursor < hdr.2.l ∧
      q = { hdr.2.skipSpace.parsemessage.2 with
        priority := pri.1.1, version := lib.noVersion, header := hdr.1.1,
        message := hdr.2.skipSpace.parsemessage.1.1 } := by
  rw [parse_eq] at returnsNil
  dsimp only at returnsNil ⊢
  split_ifs at returnsNil with priFailed hdrFailed inside
  · simp only [Except.ok.injEq, Prod.mk.injEq] at returnsNil
    simp [returnsNil.1] at priFailed
  · simp only [Except.ok.injEq, Prod.mk.injEq] at returnsNil
    simp [returnsNil.1] at hdrFailed
  · simp only [Except.ok.injEq, Prod.mk.injEq] at returnsNil
    exact ⟨Option.not_isSome_iff_eq_none.mp priFailed, Option.not_isSome_iff_eq_none.mp hdrFailed,
      inside, returnsNil.2.symm⟩

/-- A run of `Parse` that returns nil keeps the buffer. -/
theorem buff_of_parse_ok {p q : Parser} {lib : Library} {time : TimeLib}
    (returnsNil : p.parse lib time = .ok (none, q)) : q.buff = p.buff := by
  have frame := (sameExceptCursor_parsePriority p lib).trans
    (sameExceptCursor_parseHeader _ lib time)
  obtain ⟨-, -, -, rfl⟩ := parse_eq_ok returnsNil
  generalize ((p.parsePriority lib).2.parseHeader lib time).2 = r at frame ⊢
  exact (frame.trans ((sameExceptCursor_skipSpace r).trans (sameExceptCursor_parsemessage _))).buff

/-- A run of `Parse` that returns nil keeps the buffer and leaves the cursor inside it. -/
theorem parse_ok_cursor_le {p q : Parser} {lib : Library} {time : TimeLib}
    (returnsNil : p.parse lib time = .ok (none, q)) : q.buff = p.buff ∧ q.cursor ≤ q.l := by
  refine ⟨buff_of_parse_ok returnsNil, ?_⟩
  obtain ⟨-, -, inside, rfl⟩ := parse_eq_ok returnsNil
  generalize ((p.parsePriority lib).2.parseHeader lib time).2 = r at inside ⊢
  have skipped := sameExceptCursor_skipSpace r
  have tagged := sameExceptCursor_parseTag r.skipSpace
  have contentFrame := sameExceptCursor_parseContent r.skipSpace.parseTag.2
  have startInside := (skipSpace_cursor_le inside.le).trans_eq skipped.l.symm
  have tagInside := (parseTag_cursor startInside).2.trans_eq tagged.l.symm
  rw [parsemessage_eq_tag_content]
  dsimp only
  exact (parseContent_cursor tagInside).2.trans_eq contentFrame.l.symm

theorem parse_ok_cursor_le_on_short_line :
    ∃ q, (newParser (bytesOf "<13>Jan 02 15:04:05 host su: hi")).parse referenceLibrary
        referenceClock = .ok (none, q) ∧
      q.buff = (newParser (bytesOf "<13>Jan 02 15:04:05 host su: hi")).buff ∧ q.cursor ≤ q.l :=
  ⟨_, rfl, @parse_ok_cursor_le _ _ referenceLibrary referenceClock rfl⟩

/-- When the line is a priority field followed by a 15-byte timestamp and nothing else,
and a hostname override is set, the header ends at the end of the buffer and `Parse`
panics reading `buff[len(buff)]`. -/
theorem parse_panics_when_timestamp_ends_buffer (lib : Library) (time : TimeLib)
    (pri stamp hostname : Bytes) (priority : Priority)
    (readsPriority : lib.parsePriority (pri ++ stamp) 0 (pri ++ stamp).length =
      ((priority, none), pri.length))
    (stampLength : stamp.length = 15) (accepted : AcceptsTimestamp time stamp Location.utc)
    (override : hostname ≠ []) :
    ((newParser (pri ++ stamp)).Hostname hostname).parse lib time =
      .error ⟨(pri ++ stamp).length, (pri ++ stamp).length⟩ := by
  let start := (newParser (pri ++ stamp)).Hostname hostname
  have priEq : start.parsePriority lib = ((priority, none), { start with cursor := pri.length }) := by
    show (let (result, cursor) := lib.parsePriority (pri ++ stamp) 0 (pri ++ stamp).length
      (result, { start with cursor := cursor })) = _
    rw [readsPriority]
  let afterPri : Parser := { start with cursor := pri.length }
  have stampAt : slice afterPri.buff afterPri.cursor (15 + afterPri.cursor) = stamp := by
    show ((pri ++ stamp).take (15 + pri.length)).drop pri.length = stamp
    rw [← stampLength, Nat.add_comm, ← List.length_append, List.take_length, List.drop_left]
  obtain ⟨ts, found⟩ := Option.isSome_iff_exists.mp
    ((timestampAt_isSome_iff afterPri time).mpr
      ⟨by simp [afterPri, start, newParser, Hostname, stampLength], stampAt ▸ accepted⟩)
  have atEnd : { afterPri with cursor := afterPri.cursor + 15 }.skipSpace =
      { afterPri with cursor := afterPri.cursor + 15 } := by
    rw [skipSpace_eq, if_neg]
    show ¬(pri ++ stamp)[pri.length + 15]? = some ' '.toUInt8
    rw [List.getElem?_eq_none (by simp [stampLength])]
    simp
  have hdrEq := @parseHeader_of_timestampAt _ lib _ _ found
  rw [atEnd, parseHostname_of_override lib override] at hdrEq
  rw [parse_eq, priEq]
  dsimp only
  rw [show ({ start with cursor := pri.length } : Parser) = afterPri from rfl, hdrEq]
  simp [afterPri, start, newParser, Hostname, stampLength]

theorem parse_panics_on_priority_and_timestamp_only :
    (referenceLibrary.parsePriority (bytesOf "<1>" ++ bytesOf "Jan 02 15:04:05") 0
        (bytesOf "<1>" ++ bytesOf "Jan 02 15:04:05").length =
      ((newPriority 1, none), (bytesOf "<1>").length)) ∧
    (bytesOf "Jan 02 15:04:05").length = 15 ∧
    AcceptsTimestamp referenceClock (bytesOf "Jan 02 15:04:05") Location.utc ∧
    bytesOf "h" ≠ [] ∧
    ((newParser (bytesOf "<1>" ++ bytesOf "Jan 02 15:04:05")).Hostname (bytesOf "h")).parse
        referenceLibrary referenceClock =
      .error ⟨(bytesOf "<1>" ++ bytesOf "Jan 02 15:04:05").length,
        (bytesOf "<1>" ++ bytesOf "Jan 02 15:04:05").length⟩ :=
  have readsPriority : referenceLibrary.parsePriority (bytesOf "<1>" ++ bytesOf "Jan 02 15:04:05") 0
      (bytesOf "<1>" ++ bytesOf "Jan 02 15:04:05").length =
      ((newPriority 1, none), (bytesOf "<1>").length) := by decide
  have accepted : AcceptsTimestamp referenceClock (bytesOf "Jan 02 15:04:05") Location.utc :=
    ⟨_, List.mem_cons_self _ _, by decide⟩
  ⟨readsPriority, by decide, accepted, by decide,
    parse_panics_when_timestamp_ends_buffer referenceLibrary referenceClock _ _ _ _
      readsPriority (by decide) accepted (by decide)⟩

end Parser

end Ilogtail.Syslogparser.Rfc3164
