import Ilogtail.Syslogparser.Rfc3164.Steps

/-!
# The tag loop

`parseTag` scans at most 32 bytes from the cursor. It collects bytes up to the first
space or delimiter, keeps scanning past delimiters with its `enough` flag set, and
stops after the first space. `tagLoop_eq` is the loop invariant: from any cursor,
with any tag collected so far and either value of the flag, the loop returns the
longest prefix of its window free of stop bytes and the position just after the
window's first space. `parseTag_eq` reads the tag, the absent error and the final
cursor off it, and `parseTag_eq_window` says the same in the terms of RFC 3164.
-/

namespace Ilogtail.Syslogparser.Rfc3164

open Ilogtail.Go

/-- A byte that may belong to a tag: none of `' '`, `'['`, `']'` and `':'`. -/
def isTagByte (b : UInt8) : Bool := !(b == ' '.toUInt8 || isTagDelimiter b)

theorem isTagByte_eq : isTagByte = fun b => decide (b ∉ bytesOf " []:") := by
  funext b
  rw [show bytesOf " []:" = [' '.toUInt8, '['.toUInt8, ']'.toUInt8, ':'.toUInt8] from rfl]
  simp only [isTagByte, isTagDelimiter, List.mem_cons, List.mem_singleton, List.not_mem_nil,
    or_false, decide_not, Bool.decide_or, Bool.or_assoc]
  rfl

/-- The window the loop reads from `cursor` starts with the byte at `cursor`. -/
theorem drop_take_succ {buff : Bytes} {cursor steps : Nat} (inBuff : cursor < buff.length) :
    (buff.drop cursor).take (steps + 1) = buff[cursor] :: (buff.drop (cursor + 1)).take steps := by
  rw [List.drop_eq_getElem_cons inBuff]
  rfl

/-- The loop invariant of `parseTag`: over the window of `steps` bytes from `cursor`,
the loop appends the window's longest prefix of tag bytes unless `enough` is already
set, and stops just after the window's first space, or at the window's end. -/
theorem tagLoop_eq (buff : Bytes) (steps cursor : Nat) (inBounds : steps ≤ buff.length - cursor)
    (tag : Bytes) (enough : Bool) :
    tagLoop buff steps cursor inBounds tag enough =
      (tag ++ (if enough then [] else ((buff.drop cursor).take steps).takeWhile isTagByte),
        cursor + min (((buff.drop cursor).take steps).findIdx (· == ' '.toUInt8) + 1)
          ((buff.drop cursor).take steps).length) := by
  induction steps generalizing cursor tag enough with
  | zero => simp [tagLoop]
  | succ steps inductionHypothesis =>
      have inBuff : cursor < buff.length := by omega
      have restLength : ((buff.drop (cursor + 1)).take steps).length = steps := by
        rw [List.length_take, List.length_drop]; omega
      rw [drop_take_succ inBuff, tagLoop]
      simp only [List.get_eq_getElem, inductionHypothesis]
      generalize buff[cursor] = b
      generalize (buff.drop (cursor + 1)).take steps = rest at restLength ⊢
      by_cases space : b = ' '.toUInt8
      · simp [space, isTagByte, List.findIdx_cons]
      · have notSpace : (b == ' '.toUInt8) = false := by simpa using space
        by_cases skipped : isTagDelimiter b || enough
        · rw [if_neg space, if_pos skipped]
          rcases Bool.or_eq_true _ _ ▸ skipped with delimiter | set
          · simp [notSpace, isTagByte, delimiter, List.findIdx_cons]
            omega
          · simp [notSpace, set, List.findIdx_cons]
            omega
        · rw [if_neg space, if_neg skipped]
          simp only [Bool.or_eq_true, not_or, Bool.not_eq_true] at skipped
          simp [notSpace, isTagByte, skipped, List.findIdx_cons]
          omega

namespace Parser

/-- `parseTag` for every parser state: the longest prefix of tag bytes in the window
of at most 32 bytes at the cursor, no error, and a cursor that stays where it was
when the tag is empty and otherwise ends just after the window's first space. -/
theorem parseTag_eq (p : Parser) :
    p.parseTag =
      let window := slice p.buff p.cursor p.tagLimit
      let tag := window.takeWhile isTagByte
      ((tag, none), { p with
        cursor := if tag = [] then p.cursor
          else p.cursor + min (window.findIdx (· == ' '.toUInt8) + 1) window.length }) := by
  have window : slice p.buff p.cursor p.tagLimit =
      (p.buff.drop p.cursor).take (p.tagLimit - p.cursor) := List.drop_take _ _ _
  simp only [parseTag, tagLoop_eq, window, List.nil_append, Bool.false_eq_true, if_false,
    List.length_eq_zero]

/-- The window `parseTag` scans is the next 32 bytes of the buffer, or all that is left. -/
theorem slice_tagLimit (p : Parser) :
    slice p.buff p.cursor p.tagLimit = (p.buff.drop p.cursor).take 32 := by
  rw [Go.slice, List.drop_take, tagLimit, p.l_eq]
  by_cases near : p.buff.length ≤ p.cursor + 32
  · rw [Nat.min_eq_left near, List.take_of_length_le (by simp),
      List.take_of_length_le (by simp; omega)]
  · rw [Nat.min_eq_right (by omega), Nat.add_sub_cancel_left]

/-- `parseTag` in the terms of RFC 3164: the tag is the longest prefix without `' '`, `'['`,
`']'` or `':'` of the window `buff[c : min(len(buff), c+32)]`; there is no error; and the
cursor stays at `c` for an empty tag, and otherwise ends just after the window's first
space, or at the window's end when it has none. -/
theorem parseTag_eq_window (p : Parser) :
    let window := slice p.buff p.cursor (min p.buff.length (p.cursor + 32))
    let tag := window.takeWhile (fun b => b ∉ bytesOf " []:")
    p.parseTag = ((tag, none), { p with
        cursor := if tag = [] then p.cursor
          else if ' '.toUInt8 ∈ window then p.cursor + window.findIdx (· == ' '.toUInt8) + 1
          else min p.buff.length (p.cursor + 32) }) := by
  intro window tag
  have windowEq : slice p.buff p.cursor p.tagLimit = window := by rw [tagLimit, p.l_eq]
  have tagEq : window.takeWhile isTagByte = tag := by rw [isTagByte_eq]
  have windowLength : window.length = min p.buff.length (p.cursor + 32) - p.cursor := by
    simp only [window, slice_length]
    omega
  have tagLength : tag.length ≤ window.length := (List.takeWhile_prefix _).length_le
  rw [parseTag_eq]
  simp only [windowEq, tagEq]
  congr 2
  split_ifs with empty found
  · rfl
  · have before : window.findIdx (· == ' '.toUInt8) < window.length :=
      List.findIdx_lt_length_of_exists ⟨_, found, by simp⟩
    omega
  · have atEnd : window.findIdx (· == ' '.toUInt8) = window.length :=
      List.findIdx_eq_length.mpr (fun b mem => by simpa using ne_of_mem_of_not_mem mem found)
    have nonempty : 0 < tag.length := List.length_pos.mpr empty
    omega

/-- A prefix of the window `buff[c : min(len(buff), c+32)]` has at most 32 bytes. -/
theorem length_takeWhile_window_le (p : Parser) (keep : UInt8 → Bool) :
    ((slice p.buff p.cursor (min p.buff.length (p.cursor + 32))).takeWhile keep).length ≤ 32 := by
  have prefixLength := (List.takeWhile_prefix keep).length_le.trans_eq
    (slice_length p.buff p.cursor (min p.buff.length (p.cursor + 32)))
  omega

/-- `parseTag` for every buffer and every cursor, in the terms of RFC 3164: the tag is
the longest prefix without `' '`, `'['`, `']'` or `':'` of the window
`buff[c : min(len(buff), c+32)]`, so at most 32 bytes; there is no error; and the
cursor stays at `c` for an empty tag, and otherwise ends just after the window's first
space, or at the window's end when it has none. -/
theorem parseTag_window (p : Parser) :
    let window := slice p.buff p.cursor (min p.buff.length (p.cursor + 32))
    let tag := window.takeWhile (fun b => b ∉ bytesOf " []:")
    p.parseTag = ((tag, none), { p with
        cursor := if tag = [] then p.cursor
          else if ' '.toUInt8 ∈ window then p.cursor + window.findIdx (· == ' '.toUInt8) + 1
          else min p.buff.length (p.cursor + 32) }) ∧
      tag.length ≤ 32 :=
  ⟨parseTag_eq_window p, length_takeWhile_window_le p _⟩

end Parser

end Ilogtail.Syslogparser.Rfc3164
