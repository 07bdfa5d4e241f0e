import Ilogtail.Syslogparser.Rfc3164.Line

/-!
# Bytes that land in the next field

`Parse` reads the message from wherever the header leaves the cursor, and `parseTag` stops
after 32 bytes. Two kinds of line therefore move bytes from one field into the next.

Under a hostname set by `Hostname`, the header consumes no hostname, so on a line that
does carry one, that hostname is read as the tag, and `TAG[PID]: CONTENT` becomes the
content (`parse_render_reads_hostname_as_tag`).

When the first 32 bytes of the message hold no space and no `'['`, `']'` or `':'`, the
tag is those 32 bytes and the content is everything after them. A longer word is cut at
32 bytes, and no byte of the message is dropped (`parse_keeps_bytes_past_tag_window`).
-/

namespace Ilogtail.Syslogparser.Rfc3164

open Ilogtail.Go

theorem space_ne_of_isTagByte {b : UInt8} (tagByte : isTagByte b) : (b == ' '.toUInt8) = false :=
  beq_false_of_ne fun space => absurd tagByte (by rw [space]; decide)

/-- A window of tag bytes only is the tag, and the content is everything after the window,
trimmed. -/
theorem readMessage_of_window {M : Bytes} (window : ∀ b ∈ M.take 32, isTagByte b) :
    readMessage M = { tag := M.take 32, content := trim (M.drop 32) (bytesOf " ") } := by
  have whole : (M.take 32).takeWhile isTagByte = M.take 32 := List.takeWhile_eq_self_iff.mpr window
  have noSpace : (M.take 32).findIdx (· == ' '.toUInt8) = (M.take 32).length :=
    List.findIdx_eq_length.mpr fun b mem => space_ne_of_isTagByte (window b mem)
  have afterWindow : M.drop (M.take 32).length = M.drop 32 := by
    rw [List.length_take]
    by_cases long : 32 ≤ M.length
    · rw [Nat.min_eq_left long]
    · rw [List.drop_eq_nil_of_le (by omega), List.drop_eq_nil_of_le (by omega)]
  simp only [readMessage, whole]
  split_ifs with empty
  · obtain rfl : M = [] := (List.take_eq_nil_iff.mp empty).resolve_left (by decide)
    rfl
  · rw [noSpace, Nat.min_eq_right (Nat.le_succ _), afterWindow]

/-- A word of tag bytes that fits in the window, followed by a space: the word is the tag,
and the content is what follows the space, trimmed. -/
theorem readMessage_word {word tail : Bytes} (tagBytes : ∀ b ∈ word, isTagByte b)
    (nonempty : word ≠ []) (fits : word.length ≤ 32) :
    readMessage (word ++ ' '.toUInt8 :: tail) = { tag := word, content := trim tail (bytesOf " ") } := by
  have noSpace : ' '.toUInt8 ∉ word := fun mem => by simpa using space_ne_of_isTagByte (tagBytes _ mem)
  have afterWord : ∀ n, ((' '.toUInt8 :: tail).take n).takeWhile isTagByte = [] := by
    rintro (_ | n)
    · rfl
    · rw [List.take_succ_cons, List.takeWhile_cons_of_neg (by decide)]
  have tagEq : ((word ++ ' '.toUInt8 :: tail).take 32).takeWhile isTagByte = word := by
    rw [List.take_append_eq_append_take, List.take_of_length_le fits,
      List.takeWhile_append_of_pos tagBytes, afterWord, List.append_nil]
  have consumed : min (((word ++ ' '.toUInt8 :: tail).take 32).findIdx (· == ' '.toUInt8) + 1)
      ((word ++ ' '.toUInt8 :: tail).take 32).length = min (word.length + 1) 32 := by
    rw [Line.findIdx_take_append_space noSpace, List.length_take, List.length_append, List.length_cons]
    omega
  have afterSpace : trim ((word ++ ' '.toUInt8 :: tail).drop (min (word.length + 1) 32))
      (bytesOf " ") = trim tail (bytesOf " ") := by
    by_cases full : word.length = 32
    · rw [Nat.min_eq_right (by omega), ← full, List.drop_left]
      exact trim_cons_of_mem (List.mem_singleton_self _)
    · rw [Nat.min_eq_left (by omega), show word ++ ' '.toUInt8 :: tail = word ++ [' '.toUInt8] ++ tail
        by simp, List.drop_left' (by simp)]
  simp only [readMessage, tagEq, nonempty, if_false, consumed, afterSpace]

namespace Line

/-- `TAG[PID]: CONTENT` without surrounding spaces: all of it, or `TAG[PID]:` when `CONTENT`
is empty. -/
theorem trim_message (line : Line) :
    trim line.message (bytesOf " ") = if line.content = [] then line.tagPart else line.message := by
  have notSpace : ∀ b, b ≠ ' '.toUInt8 → b ∉ bytesOf " " := fun b ne mem =>
    ne (List.mem_singleton.mp mem)
  have head : ∀ b ∈ line.message.head?, b ∉ bytesOf " " := fun b first =>
    notSpace b (line.message_head b first)
  split_ifs with empty
  · have colonLast : ∀ b ∈ line.tagPart.getLast?, b ∉ bytesOf " " := by
      rw [tagPart, List.getLast?_append_of_ne_nil _ (by decide)]
      rintro b ⟨⟩
      decide
    rw [message, empty, List.append_nil, trim_append_space]
    refine trim_eq_self (fun b first => head b ?_) colonLast
    rw [message, List.append_assoc, List.head?_append_of_ne_nil _ ?_]
    · exact first
    · exact List.ne_nil_of_mem (List.mem_of_mem_head? first)
  · refine trim_eq_self head fun b last => notSpace b (line.content_last b ?_)
    rwa [message, List.getLast?_append_of_ne_nil _ empty] at last

end Line

namespace Parser

/-- Under a hostname set by `Hostname`, `Parse` on a full rendered line returns nil, but
with every field after the timestamp moved: the line's hostname is reported as the tag,
and `TAG[PID]: CONTENT` as the content, or `TAG[PID]:` when `CONTENT` is empty. This holds
for every hostname of at most 32 bytes without `'['`, `']'` or `':'`. -/
theorem parse_render_reads_hostname_as_tag (line : Line) (lib : Library) (time : TimeLib)
    (priority : Priority) (override : Bytes) (readsPriority : lib.ReadsPriority line.pri priority)
    (accepted : AcceptsTimestamp time line.timestamp Location.utc) (overridden : override ≠ [])
    (hostnameTag : ∀ b ∈ line.hostname, b ∉ bytesOf "[]:") (hostnameShort : line.hostname.length ≤ 32) :
    ∃ q, ((newParser line.render).Hostname override).parse lib time = .ok (none, q) ∧
      q.dumpParseResult.hostname = override ∧ q.dumpParseResult.tag = line.hostname ∧
      q.dumpParseResult.content = if line.content = [] then line.tagPart else line.message := by
  have tagBytes : ∀ b ∈ line.hostname, isTagByte b := fun b mem => by
    rw [isTagByte_eq, decide_eq_true_iff, show bytesOf " []:" = ' '.toUInt8 :: bytesOf "[]:" from rfl,
      List.mem_cons, not_or]
    exact ⟨ne_of_mem_of_not_mem mem line.space_not_mem_hostname, hostnameTag b mem⟩
  obtain ⟨first, rest, hostnameEq⟩ := List.exists_cons_of_ne_nil line.hostname_ne_nil
  obtain ⟨priOk, atHostname, ts, hdrEq⟩ :=
    @parse_reaches_rest ((newParser line.render).Hostname override) lib time line.pri line.timestamp _
      priority readsPriority line.timestamp_length accepted rfl line.render_eq
  rw [parseHostname_of_override lib overridden] at hdrEq
  obtain ⟨q, parseEq, -, hdrQ, msgQ⟩ := parse_of_rest priOk hdrEq (.inr ⟨atHostname, first,
    by simp [hostnameEq], ne_of_mem_of_not_mem (by simp [hostnameEq]) line.space_not_mem_hostname⟩)
  have restEq : line.hostname ++ bytesOf " " ++ line.message =
      line.hostname ++ ' '.toUInt8 :: line.message := by
    rw [List.append_assoc]
    rfl
  rw [restEq, readMessage_word tagBytes line.hostname_ne_nil hostnameShort] at msgQ
  exact ⟨q, parseEq, by rw [dumpParseResult, hdrQ]; rfl, by rw [dumpParseResult, msgQ],
    by rw [dumpParseResult, msgQ, line.trim_message]⟩

theorem parse_render_reads_hostname_as_tag_on_pid_line :
    referenceLibrary.ReadsPriority pidLine.pri (newPriority (digitsValue pidLine.pri)) ∧
    AcceptsTimestamp referenceClock pidLine.timestamp Location.utc ∧ bytesOf "h" ≠ [] ∧
    (∀ b ∈ pidLine.hostname, b ∉ bytesOf "[]:") ∧ pidLine.hostname.length ≤ 32 ∧
    ∃ q, ((newParser pidLine.render).Hostname (bytesOf "h")).parse referenceLibrary referenceClock =
        .ok (none, q) ∧
      q.dumpParseResult.hostname = bytesOf "h" ∧ q.dumpParseResult.tag = pidLine.hostname ∧
      q.dumpParseResult.content = if pidLine.content = [] then pidLine.tagPart else pidLine.message :=
  have readsPriority := @referenceLibrary_readsPriority pidLine.pri (by decide) (by decide)
    (by decide)
  have accepted : AcceptsTimestamp referenceClock pidLine.timestamp Location.utc :=
    ⟨_, List.mem_cons_self _ _, by decide⟩
  ⟨readsPriority, accepted, by decide, by decide, by decide,
    parse_render_reads_hostname_as_tag pidLine referenceLibrary referenceClock _ (bytesOf "h")
      readsPriority accepted (by decide) (by decide) (by decide)⟩

/-- On every line `<PRI>TIMESTAMP HOSTNAME M` whose fields the readers accept, where the first
32 bytes of `M` hold no space and no `'['`, `']'` or `':'`, `Parse` returns nil with the tag
`M[:32]` and the content `M[32:]` trimmed: a word longer than the 32 bytes `parseTag`
scans is cut there, and the rest of it opens the content, so no byte of `M` is dropped. -/
theorem parse_keeps_bytes_past_tag_window (pri timestamp hostname M : Bytes) (lib : Library)
    (time : TimeLib) (priority : Priority) (readsPriority : lib.ReadsPriority pri priority)
    (readsHostname : lib.ReadsHostname hostname) (stampLength : timestamp.length = 15)
    (accepted : AcceptsTimestamp time timestamp Location.utc)
    (fullWindow : ∀ b ∈ M.take 32, b ∉ bytesOf " []:") :
    ∃ q, (newParser (bytesOf "<" ++ pri ++ bytesOf ">" ++ timestamp ++ bytesOf " " ++ hostname ++
        bytesOf " " ++ M)).parse lib time = .ok (none, q) ∧
      q.dumpParseResult.hostname = hostname ∧ q.dumpParseResult.tag = M.take 32 ∧
      q.dumpParseResult.content = trim (M.drop 32) (bytesOf " ") := by
  have window : ∀ b ∈ M.take 32, isTagByte b := fun b mem => by
    rw [isTagByte_eq]
    exact decide_eq_true (fullWindow b mem)
  obtain ⟨priOk, atHostname, ts, hdrEq⟩ := @parse_reaches_rest
    (newParser (bytesOf "<" ++ pri ++ bytesOf ">" ++ timestamp ++ bytesOf " " ++ hostname ++
      bytesOf " " ++ M)) lib time pri timestamp (hostname ++ bytesOf " " ++ M) priority
    readsPriority stampLength accepted rfl (by simp only [newParser, List.append_assoc])
  rw [parseHostname_of_reads rfl readsHostname ⟨M, atHostname.symm⟩] at hdrEq
  obtain ⟨q, parseEq, -, hdrQ, msgQ⟩ := parse_of_rest priOk hdrEq
    (.inl (drop_cursor_add (atHostname.trans (List.append_assoc _ _ _))))
  rw [readMessage_of_window window] at msgQ
  exact ⟨q, parseEq, by rw [dumpParseResult, hdrQ], by rw [dumpParseResult, msgQ],
    by rw [dumpParseResult, msgQ]⟩

/-- A message whose process name has 33 bytes, which `parseTag` cuts after 32. -/
def longTagMessage : Bytes := bytesOf "kube-controller-manager-scheduler[7]: ready"

theorem parse_keeps_bytes_past_tag_window_on_long_name :
    referenceLibrary.ReadsPriority (bytesOf "13") (newPriority (digitsValue (bytesOf "13"))) ∧
    referenceLibrary.ReadsHostname (bytesOf "host") ∧ (bytesOf "Jan 02 15:04:05").length = 15 ∧
    AcceptsTimestamp referenceClock (bytesOf "Jan 02 15:04:05") Location.utc ∧
    (∀ b ∈ longTagMessage.take 32, b ∉ bytesOf " []:") ∧
    ∃ q, (newParser (bytesOf "<" ++ bytesOf "13" ++ bytesOf ">" ++ bytesOf "Jan 02 15:04:05" ++
        bytesOf " " ++ bytesOf "host" ++ bytesOf " " ++ longTagMessage)).parse referenceLibrary
          referenceClock = .ok (none, q) ∧
      q.dumpParseResult.hostname = bytesOf "host" ∧ q.dumpParseResult.tag = longTagMessage.take 32 ∧
      q.dumpParseResult.content = trim (longTagMessage.drop 32) (bytesOf " ") :=
  have readsPriority := @referenceLibrary_readsPriority (bytesOf "13") (by decide) (by decide)
    (by decide)
  have readsHostname := @referenceLibrary_readsHostname (bytesOf "host") (by decide)
  have accepted : AcceptsTimestamp referenceClock (bytesOf "Jan 02 15:04:05") Location.utc :=
    ⟨_, List.mem_cons_self _ _, by decide⟩
  ⟨readsPriority, readsHostname, by decide, accepted, by decide,
    parse_keeps_bytes_past_tag_window _ _ _ _ referenceLibrary referenceClock _ readsPriority
      readsHostname (by decide) accepted (by decide)⟩

end Parser

end Ilogtail.Syslogparser.Rfc3164
