import Ilogtail.Syslogparser.Rfc3164.Message

/-!
# Runs of calls on one parser

A client makes a `Parser` with `NewParser` and may then call `Location`, `Hostname` and
`Parse` in any order, as often as it likes; `DumpParseResult` reads what the parser holds.
`Parse` stores its results only on its nil return, in its last four assignments, so a
failed `Parse` leaves the reported result as it was, stale from an earlier line or the
zero result (`parse_error_keeps_result`), and so do `Location` and `Hostname`.
`call_cases` says this once for every call.

`run_reports_last_parse` carries it to whole runs: after any run that does not panic, the
buffer is the one the parser started with, and `DumpParseResult` reports either what it
reported before the run or the well-formed result of a nil-returning `Parse` of the run,
unchanged by every call after it.
-/

namespace Ilogtail.Syslogparser.Rfc3164

open Ilogtail.Go

/-- A call a client makes on a parser after `NewParser`. -/
inductive Call
  | location (location : Go.Location)
  | hostname (hostname : Bytes)
  | parse
deriving DecidableEq, Repr

namespace Parser

/-- One call: the state it leaves, or the panic of `Parse`. The error `Parse` returns is
handed to the caller and not kept. -/
def call (p : Parser) (lib : Library) (time : TimeLib) : Call → Except IndexOutOfRange Parser
  | .location location => .ok (p.Location location)
  | .hostname hostname => .ok (p.Hostname hostname)
  | .parse => (p.parse lib time).map Prod.snd

/-- A run of calls, which ends at the first panic. -/
def run (p : Parser) (lib : Library) (time : TimeLib) : List Call → Except IndexOutOfRange Parser
  | [] => .ok p
  | first :: rest =>
      match p.call lib time first with
      | .ok q => q.run lib time rest
      | .error panic => .error panic

/-- A `Parse` that returns an error changes nothing but the cursor. -/
theorem sameExceptCursor_of_parse_error {p q : Parser} {lib : Library} {time : TimeLib}
    {e : ParserError} (failed : p.parse lib time = .ok (some e, q)) : p.SameExceptCursor q := by
  have priFrame := sameExceptCursor_parsePriority p lib
  have hdrFrame := sameExceptCursor_parseHeader (p.parsePriority lib).2 lib time
  rw [parse_eq] at failed
  dsimp only at failed
  split_ifs at failed <;>
    simp only [Except.ok.injEq, Prod.mk.injEq, reduceCtorEq, false_and] at failed
  · rw [← failed.2]
    exact priFrame
  · rw [← failed.2]
    exact priFrame.trans hdrFrame

/-- A `Parse` that returns an error leaves `DumpParseResult` as it was. -/
theorem parse_error_keeps_result {p q : Parser} {lib : Library} {time : TimeLib}
    {e : ParserError} (failed : p.parse lib time = .ok (some e, q)) :
    q.dumpParseResult = p.dumpParseResult := by
  rw [sameExceptCursor_of_parse_error failed]
  rfl

/-- What one call can do: keep the buffer and the reported result, or be a `Parse` that
returns nil. -/
theorem call_cases {p q : Parser} {lib : Library} {time : TimeLib} {c : Call}
    (step : p.call lib time c = .ok q) :
    q.buff = p.buff ∧ q.dumpParseResult = p.dumpParseResult ∨
      c = .parse ∧ p.parse lib time = .ok (none, q) := by
  cases c with
  | location location =>
      cases step
      exact .inl ⟨rfl, rfl⟩
  | hostname hostname =>
      cases step
      exact .inl ⟨rfl, rfl⟩
  | parse =>
      rcases parseEq : p.parse lib time with panic | ⟨_ | e, r⟩ <;>
        simp only [call, parseEq, Except.map, Except.ok.injEq, reduceCtorEq] at step
      · subst step
        exact .inr ⟨rfl, rfl⟩
      · subst step
        exact .inl ⟨(sameExceptCursor_of_parse_error parseEq).buff,
          parse_error_keeps_result parseEq⟩

/-- No call changes the buffer. -/
theorem buff_of_call {p q : Parser} {lib : Library} {time : TimeLib} {c : Call}
    (step : p.call lib time c = .ok q) : q.buff = p.buff := by
  rcases call_cases step with ⟨kept, -⟩ | ⟨-, parsed⟩
  exacts [kept, buff_of_parse_ok parsed]

/-- After every run of calls that does not panic, the parser holds the buffer it started
with, and `DumpParseResult` reports what it reported before the run, or the result of a
`Parse` of the run that returned nil, a well-formed one that no later call changed:
`Location`, `Hostname` and a `Parse` that fails leave the reported result as it was. -/
theorem run_reports_last_parse (p : Parser) (lib : Library) (time : TimeLib) (calls : List Call)
    {q : Parser} (reached : p.run lib time calls = .ok q) :
    q.buff = p.buff ∧
      (q.dumpParseResult = p.dumpParseResult ∨
        ∃ before after r s, calls = before ++ Call.parse :: after ∧
          p.run lib time before = .ok r ∧ r.parse lib time = .ok (none, s) ∧
          s.run lib time after = .ok q ∧ q.dumpParseResult = s.dumpParseResult ∧
          s.message.Wellformed) := by
  induction calls generalizing p with
  | nil =>
      cases reached
      exact ⟨rfl, .inl rfl⟩
  | cons first rest inductionHypothesis =>
      rcases step : p.call lib time first with panic | next <;>
        simp only [run, step, reduceCtorEq] at reached
      obtain ⟨buffEq, kept | ⟨before, after, r, s, restEq, toR, later⟩⟩ :=
        inductionHypothesis next reached
      · refine ⟨buffEq.trans (buff_of_call step), ?_⟩
        rcases call_cases step with ⟨-, nextResult⟩ | ⟨rfl, parsed⟩
        · exact .inl (kept.trans nextResult)
        · exact .inr ⟨[], rest, p, next, rfl, rfl, parsed, reached, kept,
            parse_ok_message_wellformed parsed⟩
      · refine ⟨buffEq.trans (buff_of_call step),
          .inr ⟨first :: before, after, r, s, by rw [restEq]; rfl, ?_, later⟩⟩
        simp only [run, step, toR]

/-- The line `<13>Jan 02 15:04:05 host su: hi`, parsed once between a `Location` and a
`Hostname`. -/
theorem run_reports_last_parse_around_setters :
    ∃ q, (newParser (bytesOf "<13>Jan 02 15:04:05 host su: hi")).run referenceLibrary referenceClock
        [.location Location.utc, .parse, .hostname (bytesOf "h")] = .ok q ∧
      q.buff = (newParser (bytesOf "<13>Jan 02 15:04:05 host su: hi")).buff ∧
      (q.dumpParseResult = (newParser (bytesOf "<13>Jan 02 15:04:05 host su: hi")).dumpParseResult ∨
        ∃ before after r s, [.location Location.utc, .parse, .hostname (bytesOf "h")] =
            before ++ Call.parse :: after ∧
          (newParser (bytesOf "<13>Jan 02 15:04:05 host su: hi")).run referenceLibrary
            referenceClock before = .ok r ∧
          r.parse referenceLibrary referenceClock = .ok (none, s) ∧
          s.run referenceLibrary referenceClock after = .ok q ∧
          q.dumpParseResult = s.dumpParseResult ∧ s.message.Wellformed) :=
  ⟨_, rfl, run_reports_last_parse _ referenceLibrary referenceClock
    [.location Location.utc, .parse, .hostname (bytesOf "h")] rfl⟩

end Parser

end Ilogtail.Syslogparser.Rfc3164
