import Ilogtail.Syslogparser.Rfc3164.Message

/-!
# Rendered lines read back

A `Line` holds the fields of one BSD syslog line, each with the condition RFC 3164 sets
on it: a 15-byte `TIMESTAMP`, a `HOSTNAME` without spaces, a `TAG` of one to 32
alphanumeric bytes, an optional `PID` of digits, and a `CONTENT` that neither starts nor
ends with a space. `render` lays it out as `<PRI>TIMESTAMP HOSTNAME TAG[PID]: CONTENT`;
`renderWithoutHostname` leaves out the hostname field, for a parser that is given its
hostname by `Hostname`.

`parse_render` and `parse_renderWithoutHostname` compute what `Parse` makes of every
rendered line. The hostname and the tag always come back. The content comes back exactly
when `TAG[PID]:` fits in the 32 bytes that `parseTag` scans (`parse_render_roundtrip`):
past that window the loop stops inside `TAG[PID]:`, and what is left of it stays at the
front of the content.
-/

namespace Ilogtail.Syslogparser.Rfc3164

open Ilogtail.Go

/-- An ASCII letter or digit. -/
def isAlnum (b : UInt8) : Bool :=
  isDigit b || ('a'.toUInt8 ≤ b && b ≤ 'z'.toUInt8) || ('A'.toUInt8 ≤ b && b ≤ 'Z'.toUInt8)

/-- An alphanumeric byte is none of the bytes that end a tag. -/
theorem isTagByte_of_isAlnum {b : UInt8} (alnum : isAlnum b) : isTagByte b := by
  have stopsAreNotAlnum : ∀ c ∈ bytesOf " []:", isAlnum c = false := by decide
  rw [isTagByte_eq, decide_eq_true_iff]
  exact fun stop => absurd alnum (by rw [stopsAreNotAlnum b stop]; decide)

/-- The fields of one RFC 3164 line, with the conditions each must meet. -/
structure Line where
  pri : Bytes
  timestamp : Bytes
  hostname : Bytes
  tag : Bytes
  pid : Option Bytes
  content : Bytes
  timestamp_length : timestamp.length = 15
  hostname_ne_nil : hostname ≠ []
  space_not_mem_hostname : ' '.toUInt8 ∉ hostname
  tag_ne_nil : tag ≠ []
  tag_length_le : tag.length ≤ 32
  tag_alnum : ∀ b ∈ tag, isAlnum b
  pid_digits : ∀ digits ∈ pid, ∀ b ∈ digits, isDigit b
  content_head : ∀ b ∈ content.head?, b ≠ ' '.toUInt8
  content_last : ∀ b ∈ content.getLast?, b ≠ ' '.toUInt8

namespace Line

/-- `[PID]`, or nothing for a line without a PID. -/
def pidField (line : Line) : Bytes :=
  match line.pid with
  | none => []
  | some digits => bytesOf "[" ++ digits ++ bytesOf "]"

/-- `TAG[PID]:`, the bytes that `parseTag` collects as the tag or skips after it. -/
def tagPart (line : Line) : Bytes := line.tag ++ line.pidField ++ bytesOf ":"

/-- `TAG[PID]: CONTENT`. -/
def message (line : Line) : Bytes := line.tagPart ++ bytesOf " " ++ line.content

/-- `<PRI>TIMESTAMP HOSTNAME TAG[PID]: CONTENT`. -/
def render (line : Line) : Bytes :=
  bytesOf "<" ++ line.pri ++ bytesOf ">" ++ line.timestamp ++ bytesOf " " ++ line.hostname ++
    bytesOf " " ++ line.message

/-- `<PRI>TIMESTAMP TAG[PID]: CONTENT`. -/
def renderWithoutHostname (line : Line) : Bytes :=
  bytesOf "<" ++ line.pri ++ bytesOf ">" ++ line.timestamp ++ bytesOf " " ++ line.message

/-- The content `Parse` reads from the line: what is left of `TAG[PID]:` past the 32
bytes `parseTag` scans, a space and `CONTENT`, trimmed. -/
def parsedContent (line : Line) : Bytes :=
  trim (line.tagPart.drop 32 ++ bytesOf " " ++ line.content) (bytesOf " ")

/-- The rendered line is `<PRI>` followed by the timestamp, a space and the rest. -/
theorem render_eq (line : Line) :
    line.render = bytesOf "<" ++ line.pri ++ bytesOf ">" ++
      (line.timestamp ++ bytesOf " " ++ (line.hostname ++ bytesOf " " ++ line.message)) := by
  simp only [render, List.append_assoc]

theorem renderWithoutHostname_eq (line : Line) :
    line.renderWithoutHostname = bytesOf "<" ++ line.pri ++ bytesOf ">" ++
      (line.timestamp ++ bytesOf " " ++ line.message) := by
  simp only [renderWithoutHostname, List.append_assoc]

/-- The message is `TAG[PID]:`, a space and `CONTENT`. -/
theorem message_eq (line : Line) : line.message = line.tagPart ++ ' '.toUInt8 :: line.content := by
  rw [message, List.append_assoc]
  rfl

/-- The message starts with the first byte of the tag, which is not a space. -/
theorem message_head (line : Line) : ∀ b ∈ line.message.head?, b ≠ ' '.toUInt8 := by
  intro b head space
  have notAlnum : isAlnum ' '.toUInt8 = false := by decide
  rw [message_eq, tagPart, List.append_assoc, List.append_assoc,
    List.head?_append_of_ne_nil _ line.tag_ne_nil] at head
  have alnum := line.tag_alnum b (List.mem_of_mem_head? head)
  rw [space, notAlnum] at alnum
  exact Bool.false_ne_true alnum

/-- After the tag, `TAG[PID]:` goes on with `'['` or `':'`, which end a tag. -/
theorem tagPart_eq (line : Line) :
    ∃ stop rest, line.tagPart = line.tag ++ stop :: rest ∧ isTagByte stop = false := by
  unfold tagPart pidField
  cases line.pid with
  | none => exact ⟨':'.toUInt8, [], by simp only [List.append_nil]; rfl, by decide⟩
  | some digits =>
      exact ⟨'['.toUInt8, digits ++ bytesOf "]:", by simp only [List.append_assoc]; rfl, by decide⟩

theorem space_not_mem_tagPart (line : Line) : ' '.toUInt8 ∉ line.tagPart := by
  have notAlnum : isAlnum ' '.toUInt8 = false := by decide
  have notDigit : isDigit ' '.toUInt8 = false := by decide
  have stops : ' '.toUInt8 ∉ bytesOf "[" ∧ ' '.toUInt8 ∉ bytesOf "]" ∧ ' '.toUInt8 ∉ bytesOf ":" := by
    decide
  have inTag : ' '.toUInt8 ∉ line.tag := fun mem => by simpa [notAlnum] using line.tag_alnum _ mem
  have inPid : ' '.toUInt8 ∉ line.pidField := by
    unfold pidField
    cases pid : line.pid with
    | none => exact List.not_mem_nil _
    | some digits =>
        have inDigits : ' '.toUInt8 ∉ digits := fun mem => by
          simpa [notDigit] using line.pid_digits digits pid _ mem
        simp only [List.mem_append, stops.1, inDigits, stops.2.1, or_self, not_false_eq_true]
  simp only [tagPart, List.mem_append, inTag, inPid, stops.2.2, or_self, not_false_eq_true]

/-- The window of 32 bytes at the start of the message holds the whole tag, and the tag
ends there. -/
theorem takeWhile_window (line : Line) : (line.message.take 32).takeWhile isTagByte = line.tag := by
  obtain ⟨stop, rest, tagPartEq, notTagByte⟩ := line.tagPart_eq
  have afterTag : ∀ n, ((stop :: (rest ++ ' '.toUInt8 :: line.content)).take n).takeWhile
      isTagByte = [] := by
    rintro (_ | n)
    · rfl
    · rw [List.take_succ_cons, List.takeWhile_cons_of_neg (by rw [notTagByte]; decide)]
  rw [message_eq, tagPartEq, List.append_assoc, List.cons_append, List.take_append_eq_append_take,
    List.take_of_length_le line.tag_length_le,
    List.takeWhile_append_of_pos (fun b mem => isTagByte_of_isAlnum (line.tag_alnum b mem)),
    afterTag, List.append_nil]

/-- A prefix of `head ++ ' ' :: tail` stops at its first space, the one after `head`,
when `head` has no space. -/
theorem findIdx_take_append_space {head tail : Bytes} (noSpace : ' '.toUInt8 ∉ head) (n : Nat) :
    ((head ++ ' '.toUInt8 :: tail).take n).findIdx (· == ' '.toUInt8) = min head.length n := by
  induction head generalizing n with
  | nil => cases n <;> simp [List.findIdx_cons]
  | cons b head inductionHypothesis =>
      have notSpace : (b == ' '.toUInt8) = false := by
        simpa using (ne_of_mem_of_not_mem (List.mem_cons_self b head) noSpace)
      cases n with
      | zero => simp
      | succ n =>
          simp only [List.cons_append, List.take_succ_cons, List.findIdx_cons, notSpace,
            cond_false, List.length_cons,
            inductionHypothesis (fun mem => noSpace (List.mem_cons_of_mem b mem))]
          omega

/-- `parseTag` moves the cursor over `TAG[PID]: ` when it fits in the window, and over
the whole window otherwise. -/
theorem consumed_window (line : Line) :
    min ((line.message.take 32).findIdx (· == ' '.toUInt8) + 1) (line.message.take 32).length =
      min (line.tagPart.length + 1) 32 := by
  rw [message_eq, findIdx_take_append_space line.space_not_mem_tagPart, List.length_take,
    List.length_append, List.length_cons]
  omega

/-- What `parseContent` trims after the tag is `parsedContent`. -/
theorem trim_drop_window (line : Line) :
    trim (line.message.drop (min (line.tagPart.length + 1) 32)) (bytesOf " ") =
      line.parsedContent := by
  rw [parsedContent, message_eq, List.append_assoc]
  by_cases fits : line.tagPart.length + 1 ≤ 32
  · have noOverflow : line.tagPart.drop 32 = [] := List.drop_eq_nil_of_le (by omega)
    have afterSpace : (line.tagPart ++ ' '.toUInt8 :: line.content).drop
        (line.tagPart.length + 1) = line.content := by
      rw [List.drop_append_eq_append_drop, List.drop_of_length_le (by omega)]
      simp
    rw [Nat.min_eq_left fits, noOverflow, afterSpace, List.nil_append]
    exact (trim_cons_of_mem (List.mem_singleton_self _)).symm
  · rw [Nat.min_eq_right (by omega), List.drop_append_of_le_length (by omega)]
    rfl

/-- Trimming leaves `CONTENT` as it is. -/
theorem trim_content (line : Line) : trim line.content (bytesOf " ") = line.content :=
  trim_eq_self (fun b head => by simpa [bytesOf] using line.content_head b head)
    (fun b last => by simpa [bytesOf] using line.content_last b last)

/-- Past the window, the rest of `TAG[PID]:` stays at the front of the content: alone
for an empty `CONTENT`, and followed by a space and `CONTENT` otherwise. -/
theorem parsedContent_of_overflow (line : Line) (overflow : 32 < line.tagPart.length) :
    line.parsedContent = line.tagPart.drop 32 ++
      (if line.content = [] then [] else bytesOf " " ++ line.content) := by
  have noSpace : ∀ b ∈ line.tagPart.drop 32, b ∉ bytesOf " " := fun b mem space =>
    line.space_not_mem_tagPart (List.mem_singleton.mp space ▸ List.mem_of_mem_drop mem)
  have nonempty : line.tagPart.drop 32 ≠ [] := by simp; omega
  unfold parsedContent
  split_ifs with empty
  · rw [empty, List.append_nil, List.append_nil, trim_append_space]
    exact trim_eq_self (fun b head => noSpace b (List.mem_of_mem_head? head))
      (fun b last => noSpace b (List.mem_of_mem_getLast? last))
  · rw [List.append_assoc]
    refine trim_eq_self (fun b head => ?_) (fun b last => ?_)
    · rw [List.head?_append_of_ne_nil _ nonempty] at head
      exact noSpace b (List.mem_of_mem_head? head)
    · rw [List.getLast?_append_of_ne_nil _ (List.append_ne_nil_of_right_ne_nil _ empty),
        List.getLast?_append_of_ne_nil _ empty] at last
      exact fun space => line.content_last b last (List.mem_singleton.mp space)

/-- The content comes back exactly when `TAG[PID]:` fits in the 32-byte window. -/
theorem parsedContent_eq_iff (line : Line) :
    line.parsedContent = line.content ↔ line.tagPart.length ≤ 32 := by
  constructor
  · intro same
    by_contra overflow
    have overflowLength : 0 < (line.tagPart.drop 32).length := by simp; omega
    have lengths := congrArg List.length (line.parsedContent_of_overflow (by omega))
    rw [same] at lengths
    split_ifs at lengths with empty <;> simp [empty, bytesOf] at lengths <;> omega
  · intro fits
    rw [parsedContent, List.drop_eq_nil_of_le fits, List.nil_append, trim_space_append,
      trim_content]

/-- From a rendered message, `parsemessage` reads the tag and `parsedContent`. -/
theorem readMessage_message (line : Line) :
    readMessage line.message = { tag := line.tag, content := line.parsedContent } := by
  simp only [readMessage, line.takeWhile_window, line.tag_ne_nil, if_false, line.consumed_window,
    line.trim_drop_window]

end Line

namespace Parser

/-- Moving the cursor over `head` leaves the bytes that followed it. -/
theorem drop_cursor_add {p : Parser} {head tail : Bytes}
    (rest : p.buff.drop p.cursor = head ++ tail) : p.buff.drop (p.cursor + head.length) = tail := by
  rw [← List.drop_drop, rest, List.drop_left]

theorem skipSpace_of_space {p : Parser} {tail : Bytes}
    (atSpace : p.buff.drop p.cursor = bytesOf " " ++ tail) :
    p.skipSpace = { p with cursor := p.cursor + 1 } := by
  rw [skipSpace_eq, ← List.head?_drop, atSpace]
  rfl

theorem skipSpace_of_not_space {p : Parser}
    (notSpace : ∀ b ∈ (p.buff.drop p.cursor).head?, b ≠ ' '.toUInt8) : p.skipSpace = p := by
  rw [skipSpace_eq, if_neg]
  rw [← List.head?_drop]
  exact fun space => notSpace _ space rfl

/-- `ParsePriority` reads `<PRI>` at the start of the buffer. -/
theorem parsePriority_of_reads {p : Parser} {lib : Library} {pri : Bytes} {priority : Priority}
    (readsPriority : lib.ReadsPriority pri priority) (atStart : p.cursor = 0)
    (startsWith : bytesOf "<" ++ pri ++ bytesOf ">" <+: p.buff) :
    p.parsePriority lib = ((priority, none), { p with cursor := pri.length + 2 }) := by
  have call : lib.parsePriority p.buff p.cursor p.l = ((priority, none), pri.length + 2) := by
    rw [atStart, p.l_eq]
    exact readsPriority _ startsWith
  unfold parsePriority
  rw [call]

/-- Without an override, `parseHostname` returns the hostname that starts the rest of the
buffer and moves the cursor over it. -/
theorem parseHostname_of_reads {p : Parser} {lib : Library} {hostname : Bytes}
    (noOverride : p.hostname = []) (readsHostname : lib.ReadsHostname hostname)
    (startsWith : hostname ++ bytesOf " " <+: p.buff.drop p.cursor) :
    p.parseHostname lib = ((hostname, none), { p with cursor := p.cursor + hostname.length }) := by
  have call : lib.parseHostname p.buff p.cursor p.l =
      ((hostname, none), p.cursor + hostname.length) := by
    rw [p.l_eq]
    exact readsHostname _ _ startsWith
  unfold parseHostname
  rw [if_neg (not_not_intro noOverride), call]

/-- A header that starts with an accepted timestamp and a space: the timestamp is read,
the space skipped, and the hostname step decides the rest. -/
theorem parseHeader_of_stamp {p : Parser} {lib : Library} {time : TimeLib} {stamp tail : Bytes}
    (atStamp : p.buff.drop p.cursor = stamp ++ bytesOf " " ++ tail)
    (stampLength : stamp.length = 15) (accepted : AcceptsTimestamp time stamp p.location) :
    ∃ ts, p.parseHeader lib time =
      let host := ({ p with cursor := p.cursor + 16 } : Parser).parseHostname lib
      if host.1.2.isSome then (({}, host.1.2), host.2)
      else (({ timestamp := ts, hostname := host.1.1 }, none), host.2) := by
  have fits : p.cursor + 15 ≤ p.l := by
    have lengths := congrArg List.length atStamp
    simp only [List.length_drop, List.length_append, stampLength] at lengths
    rw [p.l_eq]
    omega
  have sliceEq : slice p.buff p.cursor (15 + p.cursor) = stamp := by
    rw [Go.slice, List.drop_take, Nat.add_sub_cancel, atStamp, List.append_assoc,
      List.take_left' stampLength]
  obtain ⟨ts, found⟩ := Option.isSome_iff_exists.mp
    ((timestampAt_isSome_iff p time).mpr ⟨fits, sliceEq ▸ accepted⟩)
  have atSpace := @drop_cursor_add p stamp (bytesOf " " ++ tail) (by rw [atStamp, List.append_assoc])
  rw [stampLength] at atSpace
  have skipped := skipSpace_of_space (p := { p with cursor := p.cursor + 15 }) atSpace
  exact ⟨fixTimestampIfNeeded time ts, by rw [parseHeader_of_timestampAt found, skipped]⟩

/-- When `ParsePriority` and the header succeed and leave the cursor on a space before
the rest `M` of the buffer, or on `M` itself when it starts with another byte, `Parse`
returns nil with that priority, that header and the message `readMessage` reads from `M`. -/
theorem parse_of_rest {p r : Parser} {lib : Library} {time : TimeLib} {priority : Priority}
    {hdr : Header} {M : Bytes}
    (priOk : (p.parsePriority lib).1 = (priority, none))
    (hdrOk : (p.parsePriority lib).2.parseHeader lib time = ((hdr, none), r))
    (atHeaderEnd : r.buff.drop r.cursor = bytesOf " " ++ M ∨
      r.buff.drop r.cursor = M ∧ ∃ b ∈ M.head?, b ≠ ' '.toUInt8) :
    ∃ q, p.parse lib time = .ok (none, q) ∧ q.priority = priority ∧ q.header = hdr ∧
      q.message = readMessage M := by
  have atRest : r.skipSpace.buff.drop r.skipSpace.cursor = M := by
    rcases atHeaderEnd with atSpace | ⟨atM, b, first, notSpace⟩
    · rw [skipSpace_of_space atSpace]
      exact drop_cursor_add atSpace
    · rw [skipSpace_of_not_space fun c head => by
        rw [atM] at head
        rwa [Option.mem_unique head first]]
      exact atM
  have inside : r.cursor < r.l := by
    have nonempty : r.buff.drop r.cursor ≠ [] := by
      rcases atHeaderEnd with atSpace | ⟨atM, b, first, -⟩
      · simp [atSpace, bytesOf]
      · rw [atM]
        exact List.ne_nil_of_mem (List.mem_of_mem_head? first)
    rw [r.l_eq]
    exact Nat.lt_of_not_le (mt List.drop_eq_nil_iff.mpr nonempty)
  have startInside : r.skipSpace.cursor ≤ r.skipSpace.l := by
    rw [(sameExceptCursor_skipSpace r).l]
    exact skipSpace_cursor_le inside.le
  refine ⟨{ r.skipSpace.parsemessage.2 with
      priority := priority, version := lib.noVersion, header := hdr,
      message := r.skipSpace.parsemessage.1.1 }, ?_, rfl, rfl, ?_⟩
  · rw [parse_eq]
    simp only [priOk, hdrOk, Option.isSome_none, Bool.false_eq_true, if_false, inside, if_true]
  · rw [parsemessage_eq_readMessage _ startInside, atRest]

/-- `parse_of_rest` on a rendered message: `Parse` reads its tag and `parsedContent`. -/
theorem parse_of_message {p r : Parser} {lib : Library} {time : TimeLib} {line : Line}
    {priority : Priority} {hdr : Header}
    (priOk : (p.parsePriority lib).1 = (priority, none))
    (hdrOk : (p.parsePriority lib).2.parseHeader lib time = ((hdr, none), r))
    (atHeaderEnd : r.buff.drop r.cursor = bytesOf " " ++ line.message ∨
      r.buff.drop r.cursor = line.message) :
    ∃ q, p.parse lib time = .ok (none, q) ∧ q.priority = priority ∧ q.header = hdr ∧
      q.message = { tag := line.tag, content := line.parsedContent } := by
  obtain ⟨first, rest, messageEq⟩ : ∃ first rest, line.message = first :: rest :=
    List.exists_cons_of_ne_nil (by simp [line.message_eq])
  have notSpace : first ≠ ' '.toUInt8 := line.message_head first (by simp [messageEq])
  obtain ⟨q, parseEq, priQ, hdrQ, msgQ⟩ := parse_of_rest priOk hdrOk
    (atHeaderEnd.imp_right fun atMessage => ⟨atMessage, first, by simp [messageEq], notSpace⟩)
  exact ⟨q, parseEq, priQ, hdrQ, msgQ.trans line.readMessage_message⟩

/-- On a buffer that starts with `<PRI>`, an accepted 15-byte timestamp and a space,
`ParsePriority` and the timestamp succeed, and the hostname step starts on what follows
the space. -/
theorem parse_reaches_rest {start : Parser} {lib : Library} {time : TimeLib}
    {pri timestamp tail : Bytes} {priority : Priority} (readsPriority : lib.ReadsPriority pri priority)
    (stampLength : timestamp.length = 15) (accepted : AcceptsTimestamp time timestamp start.location)
    (atStart : start.cursor = 0)
    (buffEq : start.buff = bytesOf "<" ++ pri ++ bytesOf ">" ++ (timestamp ++ bytesOf " " ++ tail)) :
    let r : Parser := { start with cursor := pri.length + 2 + 16 }
    (start.parsePriority lib).1 = (priority, none) ∧ r.buff.drop r.cursor = tail ∧
      ∃ ts, (start.parsePriority lib).2.parseHeader lib time =
        let host := r.parseHostname lib
        if host.1.2.isSome then (({}, host.1.2), host.2)
        else (({ timestamp := ts, hostname := host.1.1 }, none), host.2) := by
  let p : Parser := { start with cursor := pri.length + 2 }
  have atStamp : p.buff.drop p.cursor = timestamp ++ bytesOf " " ++ tail := by
    show start.buff.drop _ = _
    rw [buffEq]
    exact List.drop_left' (by simp [bytesOf])
  have atTail := @drop_cursor_add p (timestamp ++ bytesOf " ") _ atStamp
  rw [show (timestamp ++ bytesOf " ").length = 16 by simp [stampLength, bytesOf]] at atTail
  rw [parsePriority_of_reads readsPriority atStart (by rw [buffEq]; exact List.prefix_append _ _)]
  exact ⟨rfl, atTail, parseHeader_of_stamp atStamp stampLength accepted⟩

/-- `Parse` on a rendered line returns nil with the line's priority, hostname and tag,
and with `parsedContent`. -/
theorem parse_render (line : Line) (lib : Library) (time : TimeLib) (priority : Priority)
    (readsPriority : lib.ReadsPriority line.pri priority)
    (readsHostname : lib.ReadsHostname line.hostname)
    (accepted : AcceptsTimestamp time line.timestamp Location.utc) :
    ∃ q, (newParser line.render).parse lib time = .ok (none, q) ∧ q.priority = priority ∧
      q.header.hostname = line.hostname ∧
      q.message = { tag := line.tag, content := line.parsedContent } := by
  obtain ⟨priOk, atHostname, ts, hdrEq⟩ :=
    @parse_reaches_rest (newParser line.render) lib time line.pri line.timestamp _ priority readsPriority
      line.timestamp_length accepted rfl line.render_eq
  rw [parseHostname_of_reads rfl readsHostname ⟨line.message, atHostname.symm⟩] at hdrEq
  rw [List.append_assoc] at atHostname
  obtain ⟨q, parseEq, priQ, hdrQ, msgQ⟩ :=
    parse_of_message priOk hdrEq (.inl (drop_cursor_add atHostname))
  exact ⟨q, parseEq, priQ, by rw [hdrQ], msgQ⟩

/-- `Parse` on a line rendered without its hostname, with a hostname set by `Hostname`,
returns nil with the line's priority and tag, the hostname that was set, and
`parsedContent`. -/
theorem parse_renderWithoutHostname (line : Line) (lib : Library) (time : TimeLib)
    (priority : Priority) (override : Bytes) (readsPriority : lib.ReadsPriority line.pri priority)
    (accepted : AcceptsTimestamp time line.timestamp Location.utc) (overridden : override ≠ []) :
    ∃ q, ((newParser line.renderWithoutHostname).Hostname override).parse lib time =
        .ok (none, q) ∧ q.priority = priority ∧ q.header.hostname = override ∧
      q.message = { tag := line.tag, content := line.parsedContent } := by
  obtain ⟨priOk, atMessage, ts, hdrEq⟩ :=
    @parse_reaches_rest ((newParser line.renderWithoutHostname).Hostname override) lib time line.pri
      line.timestamp _ priority readsPriority line.timestamp_length accepted rfl
      line.renderWithoutHostname_eq
  rw [parseHostname_of_override lib overridden] at hdrEq
  obtain ⟨q, parseEq, priQ, hdrQ, msgQ⟩ := parse_of_message priOk hdrEq (.inr atMessage)
  exact ⟨q, parseEq, priQ, by rw [hdrQ]; rfl, msgQ⟩

/-- Every rendered line parses, with its hostname field or with the hostname set by
`Hostname`: the hostname and the tag come back, and the content comes back exactly when
`TAG[PID]:` fits in the 32 bytes `parseTag` scans. -/
theorem parse_render_roundtrip (line : Line) (lib : Library) (time : TimeLib)
    (priority : Priority) (override : Bytes) (readsPriority : lib.ReadsPriority line.pri priority)
    (readsHostname : lib.ReadsHostname line.hostname)
    (accepted : AcceptsTimestamp time line.timestamp Location.utc) (overridden : override ≠ []) :
    (∃ q, (newParser line.render).parse lib time = .ok (none, q) ∧
      q.dumpParseResult.hostname = line.hostname ∧ q.dumpParseResult.tag = line.tag ∧
      (q.dumpParseResult.content = line.content ↔ line.tagPart.length ≤ 32)) ∧
    (∃ q, ((newParser line.renderWithoutHostname).Hostname override).parse lib time =
        .ok (none, q) ∧
      q.dumpParseResult.hostname = override ∧ q.dumpParseResult.tag = line.tag ∧
      (q.dumpParseResult.content = line.content ↔ line.tagPart.length ≤ 32)) := by
  obtain ⟨q, parseEq, -, hostname, message⟩ :=
    parse_render line lib time priority readsPriority readsHostname accepted
  obtain ⟨q', parseEq', -, hostname', message'⟩ :=
    parse_renderWithoutHostname line lib time priority override readsPriority accepted overridden
  exact ⟨⟨q, parseEq, hostname, by simp [dumpParseResult, message],
      by simpa [dumpParseResult, message] using line.parsedContent_eq_iff⟩,
    ⟨q', parseEq', hostname', by simp [dumpParseResult, message'],
      by simpa [dumpParseResult, message'] using line.parsedContent_eq_iff⟩⟩

/-- The line `<13>Jan 02 15:04:05 host su[42]: hello`. -/
def pidLine : Line where
  pri := bytesOf "13"
  timestamp := bytesOf "Jan 02 15:04:05"
  hostname := bytesOf "host"
  tag := bytesOf "su"
  pid := some (bytesOf "42")
  content := bytesOf "hello"
  timestamp_length := by decide
  hostname_ne_nil := by decide
  space_not_mem_hostname := by decide
  tag_ne_nil := by decide
  tag_length_le := by decide
  tag_alnum := by decide
  pid_digits := by rintro _ ⟨⟩; decide
  content_head := by decide
  content_last := by decide

theorem parse_render_roundtrip_on_pid_line :
    referenceLibrary.ReadsPriority pidLine.pri (newPriority (digitsValue pidLine.pri)) ∧
    referenceLibrary.ReadsHostname pidLine.hostname ∧
    AcceptsTimestamp referenceClock pidLine.timestamp Location.utc ∧ bytesOf "h" ≠ [] ∧
    (∃ q, (newParser pidLine.render).parse referenceLibrary referenceClock = .ok (none, q) ∧
      q.dumpParseResult.hostname = pidLine.hostname ∧ q.dumpParseResult.tag = pidLine.tag ∧
      (q.dumpParseResult.content = pidLine.content ↔ pidLine.tagPart.length ≤ 32)) ∧
    (∃ q, ((newParser pidLine.renderWithoutHostname).Hostname (bytesOf "h")).parse
        referenceLibrary referenceClock = .ok (none, q) ∧
      q.dumpParseResult.hostname = bytesOf "h" ∧ q.dumpParseResult.tag = pidLine.tag ∧
      (q.dumpParseResult.content = pidLine.content ↔ pidLine.tagPart.length ≤ 32)) :=
  have readsPriority := @referenceLibrary_readsPriority pidLine.pri (by decide) (by decide)
    (by decide)
  have readsHostname := referenceLibrary_readsHostname pidLine.space_not_mem_hostname
  have accepted : AcceptsTimestamp referenceClock pidLine.timestamp Location.utc :=
    ⟨_, List.mem_cons_self _ _, by decide⟩
  ⟨readsPriority, readsHostname, accepted, by decide,
    parse_render_roundtrip pidLine referenceLibrary referenceClock _ (bytesOf "h") readsPriority
      readsHostname accepted (by decide)⟩

/-- A line whose tag has the full 32 bytes RFC 3164 allows, without a PID, parses with
the colon and the space after the tag kept at the front of its content. -/
theorem parse_keeps_colon_after_full_tag (line : Line) (lib : Library) (time : TimeLib)
    (priority : Priority) (readsPriority : lib.ReadsPriority line.pri priority)
    (readsHostname : lib.ReadsHostname line.hostname)
    (accepted : AcceptsTimestamp time line.timestamp Location.utc)
    (fullTag : line.tag.length = 32) (noPid : line.pid = none) (hasContent : line.content ≠ []) :
    ∃ q, (newParser line.render).parse lib time = .ok (none, q) ∧
      q.dumpParseResult.tag = line.tag ∧ q.dumpParseResult.content = bytesOf ": " ++ line.content := by
  have tagPartEq : line.tagPart = line.tag ++ bytesOf ":" := by
    rw [Line.tagPart, Line.pidField, noPid, List.append_nil]
  have overflow : line.tagPart.drop 32 = bytesOf ":" := by
    rw [tagPartEq]
    exact List.drop_left' fullTag
  obtain ⟨q, parseEq, -, -, message⟩ :=
    parse_render line lib time priority readsPriority readsHostname accepted
  refine ⟨q, parseEq, by simp [dumpParseResult, message], ?_⟩
  rw [show q.dumpParseResult.content = line.parsedContent by simp [dumpParseResult, message],
    line.parsedContent_of_overflow (by simp [tagPartEq, fullTag, bytesOf]), overflow,
    if_neg hasContent]
  rfl

/-- The line `<13>Jan 02 15:04:05 host` and 32 times `a`, then `: hello`. -/
def fullTagLine : Line where
  pri := bytesOf "13"
  timestamp := bytesOf "Jan 02 15:04:05"
  hostname := bytesOf "host"
  tag := bytesOf "aaaaaaaaaaaaaaaaaaaaaaaaaaaaaaaa"
  pid := none
  content := bytesOf "hello"
  timestamp_length := by decide
  hostname_ne_nil := by decide
  space_not_mem_hostname := by decide
  tag_ne_nil := by decide
  tag_length_le := by decide
  tag_alnum := by decide
  pid_digits := by rintro _ ⟨⟩
  content_head := by decide
  content_last := by decide

theorem parse_keeps_colon_after_full_tag_on_line :
    referenceLibrary.ReadsPriority fullTagLine.pri (newPriority (digitsValue fullTagLine.pri)) ∧
    referenceLibrary.ReadsHostname fullTagLine.hostname ∧
    AcceptsTimestamp referenceClock fullTagLine.timestamp Location.utc ∧
    fullTagLine.tag.length = 32 ∧ fullTagLine.pid = none ∧ fullTagLine.content ≠ [] ∧
    ∃ q, (newParser fullTagLine.render).parse referenceLibrary referenceClock = .ok (none, q) ∧
      q.dumpParseResult.tag = fullTagLine.tag ∧
      q.dumpParseResult.content = bytesOf ": " ++ fullTagLine.content :=
  have readsPriority := @referenceLibrary_readsPriority fullTagLine.pri (by decide)
    (by decide) (by decide)
  have readsHostname := referenceLibrary_readsHostname fullTagLine.space_not_mem_hostname
  have accepted : AcceptsTimestamp referenceClock fullTagLine.timestamp Location.utc :=
    ⟨_, List.mem_cons_self _ _, by decide⟩
  ⟨readsPriority, readsHostname, accepted, by decide, rfl, by decide,
    parse_keeps_colon_after_full_tag fullTagLine referenceLibrary referenceClock _ readsPriority
      readsHostname accepted (by decide) rfl (by decide)⟩

end Parser

end Ilogtail.Syslogparser.Rfc3164
