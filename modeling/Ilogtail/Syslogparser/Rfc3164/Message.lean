import Ilogtail.Syslogparser.Rfc3164.Safety

/-!
# What `parsemessage` keeps and what it drops

From the cursor where `parsemessage` starts, the rest of the buffer `M` splits into the
tag, a dropped segment and the rest, whose trim is the content. The dropped segment
runs from the end of the tag to the first space of the 32-byte window at the start of
`M`, or to the window's end: with the `enough` flag set, the loop skips every byte of
the first word after a `'['`, `']'` or `':'`, text included.

Whatever the buffer, a nil return of `Parse` reports a tag of at most 32 bytes free of
the bytes that end a tag, a content without surrounding spaces, and the hostname set by
`Hostname` when there is one (`parse_result_wellformed`).
-/

namespace Ilogtail.Syslogparser.Rfc3164

open Ilogtail.Go

/-- `w` up to and including its first space, or all of `w` when it has none. -/
def throughFirstSpace (w : Bytes) : Bytes := w.take (w.findIdx (· == ' '.toUInt8) + 1)

/-- A tag read from a window stops before the window's first space. -/
theorem takeWhile_prefix_throughFirstSpace (w : Bytes) :
    w.takeWhile isTagByte <+: throughFirstSpace w := by
  induction w with
  | nil => exact List.nil_prefix
  | cons b rest inductionHypothesis =>
      by_cases tagByte : isTagByte b
      · have notSpace : (b == ' '.toUInt8) = false := by
          simp only [isTagByte, Bool.not_or, Bool.and_eq_true, Bool.not_eq_true'] at tagByte
          exact tagByte.1
        simpa [throughFirstSpace, List.takeWhile_cons_of_pos tagByte, List.findIdx_cons, notSpace,
          List.prefix_cons_inj] using inductionHypothesis
      · simp [List.takeWhile_cons_of_neg tagByte]

/-- What `parsemessage` reads from the rest `M` of the buffer (`parsemessage_eq_readMessage`):
the tag from the 32-byte window at the start of `M`, and `M` after the bytes `parseTag`
consumed, trimmed. -/
def readMessage (M : Bytes) : Rfc3164message :=
  let window := M.take 32
  let tag := window.takeWhile isTagByte
  { tag := tag, content := trim (M.drop
      (if tag = [] then 0 else min (window.findIdx (· == ' '.toUInt8) + 1) window.length))
      (bytesOf " ") }

/-- A message as a nil return of `Parse` leaves it: a tag of at most 32 bytes, none of them
a space, `'['`, `']'` or `':'`, and a content that neither starts nor ends with a space. -/
structure Rfc3164message.Wellformed (msg : Rfc3164message) : Prop where
  tag_length_le : msg.tag.length ≤ 32
  tag_stops : ∀ b ∈ msg.tag, b ∉ bytesOf " []:"
  content_head : ∀ b ∈ msg.content.head?, b ≠ ' '.toUInt8
  content_last : ∀ b ∈ msg.content.getLast?, b ≠ ' '.toUInt8

namespace Parser

/-- `parsemessage` from a cursor inside the buffer: the tag read from the 32-byte window at
the cursor, and the rest of the buffer after the bytes `parseTag` consumed, trimmed. -/
theorem parsemessage_of_le (p : Parser) (entry : p.cursor ≤ p.l) :
    p.parsemessage.1.1 =
      let window := (p.buff.drop p.cursor).take 32
      let tag := window.takeWhile isTagByte
      { tag := tag, content := trim ((p.buff.drop p.cursor).drop
          (if tag = [] then 0 else min (window.findIdx (· == ' '.toUInt8) + 1) window.length))
          (bytesOf " ") } := by
  have windowLength : ((p.buff.drop p.cursor).take 32).length ≤ p.l - p.cursor := by
    rw [List.length_take, List.length_drop, ← p.l_eq]
    omega
  rw [parsemessage_eq_tag_content, parseTag_eq, slice_tagLimit]
  dsimp only
  split_ifs
  · rw [parseContent_of_le entry]
    rfl
  · rw [parseContent_of_le (by dsimp only; omega)]
    simp [List.drop_drop]

theorem parsemessage_eq_readMessage (p : Parser) (entry : p.cursor ≤ p.l) :
    p.parsemessage.1.1 = readMessage (p.buff.drop p.cursor) :=
  parsemessage_of_le p entry

/-- From a cursor inside the buffer, `parsemessage` splits the rest `M` of the buffer into
the tag, a dropped segment and a rest whose trim is the content. The segment is empty
with an empty tag; otherwise tag and segment together are `M`'s first 32 bytes up to
and including their first space. -/
theorem parsemessage_split (p : Parser) (entry : p.cursor ≤ p.l) :
    ∃ dropped rest, p.buff.drop p.cursor = p.parsemessage.1.1.tag ++ dropped ++ rest ∧
      trim rest (bytesOf " ") = p.parsemessage.1.1.content ∧
      (p.parsemessage.1.1.tag = [] → dropped = []) ∧
      (p.parsemessage.1.1.tag ≠ [] →
        p.parsemessage.1.1.tag ++ dropped = throughFirstSpace ((p.buff.drop p.cursor).take 32)) := by
  rw [parsemessage_of_le p entry]
  dsimp only
  split_ifs with empty
  · exact ⟨[], p.buff.drop p.cursor, by simp [empty], rfl, fun _ => rfl,
      fun nonempty => absurd empty nonempty⟩
  · obtain ⟨dropped, droppedEq⟩ :=
      takeWhile_prefix_throughFirstSpace ((p.buff.drop p.cursor).take 32)
    obtain ⟨rest, restEq⟩ : throughFirstSpace ((p.buff.drop p.cursor).take 32) <+:
        p.buff.drop p.cursor :=
      (List.take_prefix _ _).trans (List.take_prefix _ _)
    have consumed : min (((p.buff.drop p.cursor).take 32).findIdx (· == ' '.toUInt8) + 1)
        ((p.buff.drop p.cursor).take 32).length =
          (throughFirstSpace ((p.buff.drop p.cursor).take 32)).length := by
      simp [throughFirstSpace, Nat.min_comm]
    have afterConsumed : (p.buff.drop p.cursor).drop
        (throughFirstSpace ((p.buff.drop p.cursor).take 32)).length = rest := by
      rw [← List.drop_left (throughFirstSpace ((p.buff.drop p.cursor).take 32)) rest, restEq]
    refine ⟨dropped, rest, by rw [droppedEq, restEq], ?_, fun nonempty => absurd nonempty empty,
      fun _ => droppedEq⟩
    rw [consumed, afterConsumed]

/-- On every buffer where `Parse` returns nil, the message part `M` (the buffer from the
cursor after the header and the skip of one space) is the tag, a dropped segment and a
rest whose trim is the content. The segment is empty with an empty tag; otherwise tag
and segment are `M`'s first 32 bytes up to and including their first space. -/
theorem parse_message_split (p q : Parser) (lib : Library) (time : TimeLib)
    (returnsNil : p.parse lib time = .ok (none, q)) :
    let start := ((p.parsePriority lib).2.parseHeader lib time).2.skipSpace
    ∃ dropped rest, p.buff.drop start.cursor = q.message.tag ++ dropped ++ rest ∧
      trim rest (bytesOf " ") = q.message.content ∧
      (q.message.tag = [] → dropped = []) ∧
      (q.message.tag ≠ [] →
        q.message.tag ++ dropped = throughFirstSpace ((p.buff.drop start.cursor).take 32)) := by
  have frame := (sameExceptCursor_parsePriority p lib).trans
    (sameExceptCursor_parseHeader _ lib time)
  obtain ⟨-, -, inside, rfl⟩ := parse_eq_ok returnsNil
  dsimp only
  generalize ((p.parsePriority lib).2.parseHeader lib time).2 = r at frame inside ⊢
  have skipped := sameExceptCursor_skipSpace r
  have startInside : r.skipSpace.cursor ≤ r.skipSpace.l := by
    rw [skipped.l]
    exact skipSpace_cursor_le inside.le
  rw [← (frame.trans skipped).buff]
  exact parsemessage_split r.skipSpace startInside

theorem parse_message_split_on_pid_line :
    ∃ q, (newParser (bytesOf "<13>Jan 02 15:04:05 host su[42]: hello")).parse referenceLibrary
        referenceClock = .ok (none, q) ∧
      ∃ dropped rest,
        (bytesOf "<13>Jan 02 15:04:05 host su[42]: hello").drop
            ((((newParser (bytesOf "<13>Jan 02 15:04:05 host su[42]: hello")).parsePriority
              referenceLibrary).2.parseHeader referenceLibrary referenceClock).2.skipSpace.cursor) =
          q.message.tag ++ dropped ++ rest ∧
        trim rest (bytesOf " ") = q.message.content ∧
        (q.message.tag = [] → dropped = []) ∧
        (q.message.tag ≠ [] → q.message.tag ++ dropped = throughFirstSpace
          (((bytesOf "<13>Jan 02 15:04:05 host su[42]: hello").drop
            ((((newParser (bytesOf "<13>Jan 02 15:04:05 host su[42]: hello")).parsePriority
              referenceLibrary).2.parseHeader referenceLibrary referenceClock).2.skipSpace.cursor)).take
                32)) :=
  ⟨_, rfl, parse_message_split _ _ referenceLibrary referenceClock rfl⟩

/-- The content `parseContent` returns neither starts nor ends with a space. -/
theorem parseContent_trimmed (p : Parser) :
    (∀ b ∈ p.parseContent.1.1.head?, b ≠ ' '.toUInt8) ∧
      ∀ b ∈ p.parseContent.1.1.getLast?, b ≠ ' '.toUInt8 := by
  unfold parseContent
  split_ifs
  · simp
  · exact ⟨fun b head space => trim_head_not_mem b head (space ▸ List.mem_singleton_self _),
      fun b last space => trim_getLast_not_mem b last (space ▸ List.mem_singleton_self _)⟩

/-- A successful header reports the hostname set by `Hostname`, when one is set. -/
theorem parseHeader_hostname_of_override {p : Parser} {lib : Library} {time : TimeLib}
    (override : p.hostname ≠ []) (ok : (p.parseHeader lib time).1.2 = none) :
    (p.parseHeader lib time).1.1.hostname = p.hostname := by
  have stamp := sameExceptCursor_parseTimestamp p time
  rw [parseHeader_eq] at ok ⊢
  dsimp only at ok ⊢
  split_ifs at ok ⊢ with stampFailed hostFailed
  · simp only at ok
    simp [ok] at stampFailed
  · simp only at ok
    simp [ok] at hostFailed
  · rw [parseHostname_of_override lib (stamp.hostname ▸ override), stamp.hostname]

/-- A nil return of `Parse` leaves a tag read by `parseTag` and a content trimmed by
`parseContent`. -/
theorem parse_ok_message_wellformed {p q : Parser} {lib : Library} {time : TimeLib}
    (returnsNil : p.parse lib time = .ok (none, q)) : q.message.Wellformed := by
  obtain ⟨-, -, -, rfl⟩ := parse_eq_ok returnsNil
  dsimp only
  rw [parsemessage_eq_tag_content]
  generalize ((p.parsePriority lib).2.parseHeader lib time).2.skipSpace = s
  rw [parseTag_eq_window s]
  exact ⟨length_takeWhile_window_le s _, fun b mem => by simpa using List.mem_takeWhile_imp mem,
    (parseContent_trimmed _).1, (parseContent_trimmed _).2⟩

/-- A nil return of `Parse` reports the hostname set by `Hostname`, when one is set. -/
theorem parse_ok_hostname_of_override {p q : Parser} {lib : Library} {time : TimeLib}
    (returnsNil : p.parse lib time = .ok (none, q)) (override : p.hostname ≠ []) :
    q.header.hostname = p.hostname := by
  obtain ⟨-, hdrOk, -, rfl⟩ := parse_eq_ok returnsNil
  have priFrame := sameExceptCursor_parsePriority p lib
  rw [parseHeader_hostname_of_override (priFrame.hostname ▸ override) hdrOk, priFrame.hostname]

/-- On every buffer where `Parse` returns nil, the tag has at most 32 bytes, none of them
a space, `'['`, `']'` or `':'`; the content neither starts nor ends with a space; and a
hostname set by `Hostname` is the one reported. -/
theorem parse_result_wellformed (p q : Parser) (lib : Library) (time : TimeLib)
    (returnsNil : p.parse lib time = .ok (none, q)) :
    q.message.tag.length ≤ 32 ∧ (∀ b ∈ q.message.tag, b ∉ bytesOf " []:") ∧
      (∀ b ∈ q.message.content.head?, b ≠ ' '.toUInt8) ∧
      (∀ b ∈ q.message.content.getLast?, b ≠ ' '.toUInt8) ∧
      (p.hostname ≠ [] → q.header.hostname = p.hostname) :=
  have wellformed := parse_ok_message_wellformed returnsNil
  ⟨wellformed.tag_length_le, wellformed.tag_stops, wellformed.content_head,
    wellformed.content_last, parse_ok_hostname_of_override returnsNil⟩

theorem parse_result_wellformed_on_override :
    ∃ q, ((newParser (bytesOf "<13>Jan 02 15:04:05 su[42]: hello")).Hostname
        (bytesOf "h")).parse referenceLibrary referenceClock = .ok (none, q) ∧
      q.message.tag.length ≤ 32 ∧ (∀ b ∈ q.message.tag, b ∉ bytesOf " []:") ∧
      (∀ b ∈ q.message.content.head?, b ≠ ' '.toUInt8) ∧
      (∀ b ∈ q.message.content.getLast?, b ≠ ' '.toUInt8) ∧
      (((newParser (bytesOf "<13>Jan 02 15:04:05 su[42]: hello")).Hostname
          (bytesOf "h")).hostname ≠ [] →
        q.header.hostname = ((newParser (bytesOf "<13>Jan 02 15:04:05 su[42]: hello")).Hostname
          (bytesOf "h")).hostname) :=
  ⟨_, rfl, parse_result_wellformed _ _ referenceLibrary referenceClock rfl⟩

/-- Every byte of `dropped` is syntax: a space, `'['`, `']'` or `':'`, or a byte inside
brackets, after a `'['` of `dropped` with no `']'` between. -/
def OnlySyntaxDropped (dropped : Bytes) : Prop :=
  ∀ i < dropped.length, dropped.getD i 0 ∈ bytesOf " []:" ∨
    ∃ j < i, dropped.getD j 0 = '['.toUInt8 ∧ ∀ k < i, j < k → dropped.getD k 0 ≠ ']'.toUInt8

instance : DecidablePred OnlySyntaxDropped := fun dropped =>
  inferInstanceAs (Decidable (∀ i < dropped.length, dropped.getD i 0 ∈ bytesOf " []:" ∨
    ∃ j < i, dropped.getD j 0 = '['.toUInt8 ∧ ∀ k < i, j < k → dropped.getD k 0 ≠ ']'.toUInt8))

/-- No way of splitting `X` satisfies `P` when no split position does. -/
theorem not_exists_append {X : Bytes} {P : Bytes → Bytes → Prop}
    (noSplit : ∀ i ≤ X.length, ¬P (X.take i) (X.drop i)) : ¬∃ D R, X = D ++ R ∧ P D R := by
  rintro ⟨D, R, rfl, holds⟩
  exact noSplit D.length (by simp) (by simpa using holds)

/-- On `<13>Jan 02 15:04:05 host su:x hello`, `Parse` returns nil with tag `su` and
content `hello`, and its message part `su:x hello` has no split whose dropped segment is
made of `[pid]` and `:` syntax and spaces only: the `x` after the colon is lost. -/
theorem parse_drops_text_after_colon :
    ∃ q, (newParser (bytesOf "<13>Jan 02 15:04:05 host su:x hello")).parse referenceLibrary
        referenceClock = .ok (none, q) ∧
      (bytesOf "<13>Jan 02 15:04:05 host su:x hello").drop
          ((((newParser (bytesOf "<13>Jan 02 15:04:05 host su:x hello")).parsePriority
            referenceLibrary).2.parseHeader referenceLibrary referenceClock).2.skipSpace.cursor) =
        bytesOf "su:x hello" ∧
      q.message.tag = bytesOf "su" ∧ q.message.content = bytesOf "hello" ∧
      ¬∃ dropped rest, bytesOf "su:x hello" = q.message.tag ++ dropped ++ rest ∧
        trim rest (bytesOf " ") = q.message.content ∧ (q.message.tag = [] → dropped = []) ∧
        OnlySyntaxDropped dropped := by
  refine ⟨_, rfl, by decide, by decide, by decide, ?_⟩
  rintro ⟨dropped, rest, split, trimmed, -, only⟩
  have afterTag : bytesOf ":x hello" = dropped ++ rest := by
    rw [List.append_assoc] at split
    exact List.append_cancel_left (split.symm.trans (by decide)).symm
  refine not_exists_append (P := fun D R => trim R (bytesOf " ") = bytesOf "hello" ∧
    OnlySyntaxDropped D) (by decide) ⟨dropped, rest, afterTag, ?_, only⟩
  rw [trimmed]
  decide

end Parser

end Ilogtail.Syslogparser.Rfc3164
