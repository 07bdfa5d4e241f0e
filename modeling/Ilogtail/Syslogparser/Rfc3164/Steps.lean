import Ilogtail.Syslogparser.Rfc3164.Parser

/-!
# One spec lemma for each step of the parser

The steps are stated once here, and later proofs cite these lemmas rather than
unfolding the methods. `parseTimestamp_eq` resolves the layout loop,
`parseHeader_eq` and `parsemessage_eq` open the multiple assignments of their bodies,
and `parse_eq` shows `Parse` as three exits: an error from `ParsePriority`, an error
from the header, or the read at the cursor, which panics at the end of the buffer.

Every method but `Parse` moves the cursor and changes no other field of the parser.
`SameExceptCursor` names that frame condition; each method gets one lemma for it.
-/

namespace Ilogtail.Syslogparser.Rfc3164

open Ilogtail.Go

namespace Parser

/-- The time `parseTimestamp` reads at the cursor: the 15 bytes there, when the buffer
holds them, parsed with the first of `tsFmts` that accepts them. -/
def timestampAt (p : Parser) (time : TimeLib) : Option Time :=
  if p.cursor + 15 ≤ p.l then
    (time.parseInLocation (bytesOf "Jan 02 15:04:05") (slice p.buff p.cursor (15 + p.cursor))
        p.location).or
      (time.parseInLocation (bytesOf "Jan  2 15:04:05") (slice p.buff p.cursor (15 + p.cursor))
        p.location)
  else none

/-- `time.ParseInLocation` accepts `value` with one of the layouts of `tsFmts`. -/
def AcceptsTimestamp (time : TimeLib) (value : Bytes) (location : Go.Location) : Prop :=
  ∃ tsFmt ∈ tsFmts, (time.parseInLocation tsFmt value location).isSome

/-- A time is read exactly when the buffer holds 15 bytes at the cursor and one of the
layouts accepts them. -/
theorem timestampAt_isSome_iff (p : Parser) (time : TimeLib) :
    (p.timestampAt time).isSome ↔
      p.cursor + 15 ≤ p.l ∧
        AcceptsTimestamp time (slice p.buff p.cursor (15 + p.cursor)) p.location := by
  unfold timestampAt AcceptsTimestamp
  split_ifs with fits
  · simp [fits, tsFmts, Option.isSome_or]
  · simp [fits]

/-- The layout loop always ends with `tsFmtLen = 15`, the length of both layouts. -/
theorem tryTsFmts_tsFmts (p : Parser) (time : TimeLib) (tsFmtLen : Nat) :
    p.tryTsFmts time tsFmts tsFmtLen = (p.timestampAt time, 15) := by
  have firstLength : (bytesOf "Jan 02 15:04:05").length = 15 := by decide
  have secondLength : (bytesOf "Jan  2 15:04:05").length = 15 := by decide
  unfold timestampAt
  by_cases fits : p.cursor + 15 ≤ p.l
  · cases first : time.parseInLocation (bytesOf "Jan 02 15:04:05")
        (slice p.buff p.cursor (15 + p.cursor)) p.location <;>
      cases second : time.parseInLocation (bytesOf "Jan  2 15:04:05")
        (slice p.buff p.cursor (15 + p.cursor)) p.location <;>
      simp [tsFmts, tryTsFmts, firstLength, secondLength, fits, Nat.not_lt.mpr fits, first, second]
  · simp [tsFmts, tryTsFmts, firstLength, secondLength, fits, Nat.lt_of_not_le fits]

theorem parseTimestamp_eq (p : Parser) (time : TimeLib) :
    p.parseTimestamp time =
      match p.timestampAt time with
      | none => (({}, some .errTimestampUnknownFormat), { p with cursor := 15 }.skipSpace)
      | some ts => ((fixTimestampIfNeeded time ts, none), { p with cursor := p.cursor + 15 }.skipSpace) := by
  rw [parseTimestamp, tryTsFmts_tsFmts]
  cases p.timestampAt time <;> rfl

/-- A time is read only from 15 bytes that the buffer holds. -/
theorem cursor_add_le_of_timestampAt {p : Parser} {time : TimeLib} {ts : Time}
    (found : p.timestampAt time = some ts) : p.cursor + 15 ≤ p.l := by
  unfold timestampAt at found
  split_ifs at found with fits
  exact fits

/-- `skipSpace` steps over the byte at the cursor exactly when it is a space. -/
theorem skipSpace_eq (p : Parser) :
    p.skipSpace =
      if p.buff[p.cursor]? = some ' '.toUInt8 then { p with cursor := p.cursor + 1 } else p := by
  unfold skipSpace
  by_cases inBounds : p.cursor < p.l
  · have inBuff : p.cursor < p.buff.length := p.l_eq ▸ inBounds
    simp [inBounds, List.getElem?_eq_getElem inBuff]
  · have outside : p.buff.length ≤ p.cursor := p.l_eq ▸ Nat.not_lt.mp inBounds
    simp [inBounds, List.getElem?_eq_none outside]

theorem parseHeader_eq (p : Parser) (lib : Library) (time : TimeLib) :
    p.parseHeader lib time =
      let stamp := p.parseTimestamp time
      let host := stamp.2.parseHostname lib
      if stamp.1.2.isSome then (({}, stamp.1.2), stamp.2)
      else if host.1.2.isSome then (({}, host.1.2), host.2)
      else (({ timestamp := stamp.1.1, hostname := host.1.1 }, none), host.2) :=
  rfl

theorem parsemessage_eq (p : Parser) :
    p.parsemessage =
      let tag := p.parseTag
      let content := tag.2.parseContent
      if tag.1.2.isSome then (({}, tag.1.2), tag.2)
      else if content.1.2 ≠ some .errEOL then (({}, content.1.2), content.2)
      else (({ tag := tag.1.1, content := content.1.1 }, content.1.2), content.2) :=
  rfl

/-- `parseContent` always reports `ErrEOL`. -/
@[simp] theorem parseContent_err (p : Parser) : p.parseContent.1.2 = some .errEOL := by
  unfold parseContent
  split_ifs <;> rfl

/-- `parseTag` never reports an error. -/
@[simp] theorem parseTag_err (p : Parser) : p.parseTag.1.2 = none := rfl

/-- `parsemessage` always reports `ErrEOL`, with the tag and content it read. -/
theorem parsemessage_eq_tag_content (p : Parser) :
    p.parsemessage =
      (({ tag := p.parseTag.1.1, content := p.parseTag.2.parseContent.1.1 }, some .errEOL),
        p.parseTag.2.parseContent.2) := by
  simp [parsemessage_eq]

/-- `Parse` ends in one of three ways: the error of `ParsePriority`, the error of the
header, or the read of `p.buff[p.cursor]`, which panics when the header has left the
cursor at or past the end of the buffer and otherwise leads to the message. -/
theorem parse_eq (p : Parser) (lib : Library) (time : TimeLib) :
    p.parse lib time =
      let pri := p.parsePriority lib
      let hdr := pri.2.parseHeader lib time
      let msg := hdr.2.skipSpace.parsemessage
      if pri.1.2.isSome then .ok (pri.1.2, pri.2)
      else if hdr.1.2.isSome then .ok (hdr.1.2, hdr.2)
      else if hdr.2.cursor < hdr.2.l then
        .ok (none, { msg.2 with
          priority := pri.1.1, version := lib.noVersion, header := hdr.1.1, message := msg.1.1 })
      else .error ⟨hdr.2.cursor, hdr.2.l⟩ := by
  rcases priEq : p.parsePriority lib with ⟨⟨pri, priErr⟩, q⟩
  rcases hdrEq : q.parseHeader lib time with ⟨⟨hdr, hdrErr⟩, r⟩
  cases priErr with
  | some e => simp [parse, priEq, pure, Except.pure]
  | none =>
    cases hdrErr with
    | some e => simp [parse, priEq, hdrEq, bind, Except.bind, pure, Except.pure]
    | none =>
      by_cases inBounds : r.cursor < r.l
      · have inBuff : r.cursor < r.buff.length := r.l_eq ▸ inBounds
        have skipped := skipSpace_eq r
        simp only [List.getElem?_eq_getElem inBuff, Option.some.injEq] at skipped
        simp [parse, priEq, hdrEq, inBounds, index_of_lt inBuff, parsemessage_eq_tag_content,
          skipped, apply_ite Parser.parsemessage, bind, Except.bind, pure, Except.pure]
      · have outside : r.buff.length ≤ r.cursor := r.l_eq ▸ Nat.not_lt.mp inBounds
        simp [parse, priEq, hdrEq, index_of_le outside, bind, Except.bind, pure, Except.pure,
          r.l_eq, Nat.not_lt.mpr outside]

/-- `q` agrees with `p` in every field except possibly the cursor. -/
def SameExceptCursor (p q : Parser) : Prop := q = { p with cursor := q.cursor }

namespace SameExceptCursor

variable {p q r : Parser}

theorem refl (p : Parser) : p.SameExceptCursor p := rfl

theorem setCursor (p : Parser) (cursor : Nat) : p.SameExceptCursor { p with cursor := cursor } :=
  rfl

theorem trans (first : p.SameExceptCursor q) (second : q.SameExceptCursor r) :
    p.SameExceptCursor r := by
  unfold SameExceptCursor at *
  rw [second, first]

theorem buff (same : p.SameExceptCursor q) : q.buff = p.buff := by rw [same]

theorem l (same : p.SameExceptCursor q) : q.l = p.l := by rw [same]

theorem hostname (same : p.SameExceptCursor q) : q.hostname = p.hostname := by rw [same]

theorem location (same : p.SameExceptCursor q) : q.location = p.location := by rw [same]

end SameExceptCursor

theorem sameExceptCursor_parsePriority (p : Parser) (lib : Library) :
    p.SameExceptCursor (p.parsePriority lib).2 :=
  SameExceptCursor.setCursor p _

theorem sameExceptCursor_skipSpace (p : Parser) : p.SameExceptCursor p.skipSpace := by
  rw [skipSpace_eq]
  split_ifs
  exacts [SameExceptCursor.setCursor p _, SameExceptCursor.refl p]

theorem sameExceptCursor_parseTimestamp (p : Parser) (time : TimeLib) :
    p.SameExceptCursor (p.parseTimestamp time).2 := by
  rw [parseTimestamp_eq]
  split <;> exact (SameExceptCursor.setCursor p _).trans (sameExceptCursor_skipSpace _)

theorem sameExceptCursor_parseHostname (p : Parser) (lib : Library) :
    p.SameExceptCursor (p.parseHostname lib).2 := by
  unfold parseHostname
  split_ifs
  exacts [SameExceptCursor.refl p, SameExceptCursor.setCursor p _]

theorem sameExceptCursor_parseHeader (p : Parser) (lib : Library) (time : TimeLib) :
    p.SameExceptCursor (p.parseHeader lib time).2 := by
  have stamp := sameExceptCursor_parseTimestamp p time
  have host := stamp.trans (sameExceptCursor_parseHostname _ lib)
  rw [parseHeader_eq]
  dsimp only
  split_ifs
  exacts [stamp, host, host]

theorem sameExceptCursor_parseTag (p : Parser) : p.SameExceptCursor p.parseTag.2 :=
  SameExceptCursor.setCursor p _

theorem sameExceptCursor_parseContent (p : Parser) : p.SameExceptCursor p.parseContent.2 := by
  unfold parseContent
  split_ifs
  exacts [SameExceptCursor.refl p, SameExceptCursor.setCursor p _]

theorem sameExceptCursor_parsemessage (p : Parser) : p.SameExceptCursor p.parsemessage.2 := by
  rw [parsemessage_eq_tag_content]
  exact (sameExceptCursor_parseTag p).trans (sameExceptCursor_parseContent _)

end Parser

end Ilogtail.Syslogparser.Rfc3164
