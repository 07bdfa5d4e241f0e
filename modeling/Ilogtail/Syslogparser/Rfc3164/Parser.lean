import Ilogtail.Syslogparser.Package

/-!
# The RFC 3164 parser

`rfc3164.go` as functions on the parser state. A method of `*Parser` takes the state
and returns its Go results (a value and an error, `none` for nil) with the state it
leaves. The state carries `l = len(buff)`, which `NewParser` sets and no method
changes, so every read that the code guards by a comparison with `p.l` is total here.
`Parse` alone may panic, at the one read of `p.buff[p.cursor]` that no check guards.

`limit` in `parseTag` is computed through `float64` in the source; it is `min` here,
which is exact for every buffer shorter than 2^53 bytes.
-/

namespace Ilogtail.Syslogparser.Rfc3164

open Ilogtail.Go

/-- `header`. -/
structure Header where
  timestamp : Time := {}
  hostname : Bytes := []
deriving DecidableEq, Repr

/-- `rfc3164message`. -/
structure Rfc3164message where
  tag : Bytes := []
  content : Bytes := []
deriving DecidableEq, Repr

/-- `ParseResult`, the flat record `DumpParseResult` returns. -/
structure ParseResult where
  timestamp : Time
  hostname : Bytes
  tag : Bytes
  content : Bytes
  priority : Int
  facility : Int
  severity : Int
deriving DecidableEq, Repr

/-- `Parser`, with the length `l` tied to the buffer it measures. -/
structure Parser where
  buff : Bytes
  cursor : Nat
  l : Nat
  priority : Priority := {}
  version : Int := 0
  header : Header := {}
  message : Rfc3164message := {}
  location : Go.Location
  hostname : Bytes := []
  /-- `l` is `len(buff)`: `NewParser` sets it and no method changes either. -/
  l_eq : l = buff.length

/-- `NewParser`: a parser over `buff` at cursor 0, in UTC, without a hostname. -/
def newParser (buff : Bytes) : Parser where
  buff := buff
  cursor := 0
  l := buff.length
  location := Location.utc
  l_eq := rfl

namespace Parser

/-- `Location`. -/
def Location (p : Parser) (location : Go.Location) : Parser := { p with location := location }

/-- `Hostname`: the hostname reported in place of the one in the buffer. -/
def Hostname (p : Parser) (hostname : Bytes) : Parser := { p with hostname := hostname }

/-- `Dump`: the same seven values as `DumpParseResult`, keyed by name. -/
def dump (p : Parser) : LogParts :=
  [("timestamp", .time p.header.timestamp), ("hostname", .string p.header.hostname),
    ("tag", .string p.message.tag), ("content", .string p.message.content),
    ("priority", .int p.priority.p), ("facility", .int p.priority.f.value),
    ("severity", .int p.priority.s.value)]

/-- `DumpParseResult`. -/
def dumpParseResult (p : Parser) : ParseResult where
  timestamp := p.header.timestamp
  hostname := p.header.hostname
  tag := p.message.tag
  content := p.message.content
  priority := p.priority.p
  facility := p.priority.f.value
  severity := p.priority.s.value

/-- `parsePriority`: `syslogparser.ParsePriority(p.buff, &p.cursor, p.l)`. -/
def parsePriority (p : Parser) (lib : Library) : (Priority × Option ParserError) × Parser :=
  let (result, cursor) := lib.parsePriority p.buff p.cursor p.l
  (result, { p with cursor := cursor })

/-- `if (p.cursor < p.l) && (p.buff[p.cursor] == ' ') { p.cursor++ }`. -/
def skipSpace (p : Parser) : Parser :=
  if inBounds : p.cursor < p.l then
    if p.buff.get ⟨p.cursor, p.l_eq ▸ inBounds⟩ = ' '.toUInt8 then
      { p with cursor := p.cursor + 1 }
    else p
  else p

end Parser

/-- `fixTimestampIfNeeded`: a timestamp of year 0 moves to the current year. -/
def fixTimestampIfNeeded (time : TimeLib) (ts : Time) : Time :=
  let now := time.now
  let y := if ts.year = 0 then now.year else ts.year
  time.date y ts.month ts.day ts.hour ts.minute ts.second ts.nanosecond ts.location

/-- `tsFmts`, the layouts `parseTimestamp` tries in order. -/
def tsFmts : List Bytes := [bytesOf "Jan 02 15:04:05", bytesOf "Jan  2 15:04:05"]

namespace Parser

/-- The `for _, tsFmt := range tsFmts` loop of `parseTimestamp` over the layouts still
to try, given the `tsFmtLen` the last iteration set: the time parsed with the first
layout that fits in the buffer and parses, and the final `tsFmtLen`. -/
def tryTsFmts (p : Parser) (time : TimeLib) : List Bytes → Nat → Option Time × Nat
  | [], tsFmtLen => (none, tsFmtLen)
  | tsFmt :: rest, _ =>
      if p.cursor + tsFmt.length > p.l then p.tryTsFmts time rest tsFmt.length
      else
        match time.parseInLocation tsFmt (slice p.buff p.cursor (tsFmt.length + p.cursor))
            p.location with
        | some ts => (some ts, tsFmt.length)
        | none => p.tryTsFmts time rest tsFmt.length

/-- `parseTimestamp`. When no layout parses, the cursor is set to `tsFmtLen` itself,
not advanced by it. -/
def parseTimestamp (p : Parser) (time : TimeLib) : (Time × Option ParserError) × Parser :=
  match p.tryTsFmts time tsFmts 0 with
  | (none, tsFmtLen) =>
      (({}, some .errTimestampUnknownFormat), { p with cursor := tsFmtLen }.skipSpace)
  | (some ts, tsFmtLen) =>
      ((fixTimestampIfNeeded time ts, none), { p with cursor := p.cursor + tsFmtLen }.skipSpace)

/-- `parseHostname`: the hostname set by `Hostname`, or `syslogparser.ParseHostname`. -/
def parseHostname (p : Parser) (lib : Library) : (Bytes × Option ParserError) × Parser :=
  if p.hostname ≠ [] then ((p.hostname, none), p)
  else
    let (result, cursor) := lib.parseHostname p.buff p.cursor p.l
    (result, { p with cursor := cursor })

/-- `parseHeader`. -/
def parseHeader (p : Parser) (lib : Library) (time : TimeLib) :
    (Header × Option ParserError) × Parser :=
  let hdr : Header := {}
  let ((ts, err), p) := p.parseTimestamp time
  if err.isSome then ((hdr, err), p) else
  let ((hostname, err), p) := p.parseHostname lib
  if err.isSome then ((hdr, err), p) else
  (({ hdr with timestamp := ts, hostname := hostname }, none), p)

end Parser

/-- `b == '[' || b == ']' || b == ':'`: a byte that ends the tag without ending the loop. -/
def isTagDelimiter (b : UInt8) : Bool :=
  b == '['.toUInt8 || b == ']'.toUInt8 || b == ':'.toUInt8

/-- The `for p.cursor < limit` loop of `parseTag`, `steps` iterations before `limit`,
with the `tag` collected so far and the `enough` flag: the final tag and cursor. -/
def tagLoop (buff : Bytes) :
    (steps cursor : Nat) → steps ≤ buff.length - cursor → Bytes → Bool → Bytes × Nat
  | 0, cursor, _, tag, _ => (tag, cursor)
  | steps + 1, cursor, inBounds, tag, enough =>
      let b := buff.get ⟨cursor, by omega⟩
      if b = ' '.toUInt8 then (tag, cursor + 1)
      else if isTagDelimiter b || enough then
        tagLoop buff steps (cursor + 1) (by omega) tag true
      else tagLoop buff steps (cursor + 1) (by omega) (tag ++ [b]) enough

namespace Parser

/-- `limit` in `parseTag`: the RFC 3164 bound of 32 bytes, cut at the end of the buffer. -/
def tagLimit (p : Parser) : Nat := min p.l (p.cursor + 32)

theorem tagLimit_le (p : Parser) : p.tagLimit - p.cursor ≤ p.buff.length - p.cursor :=
  Nat.sub_le_sub_right (p.l_eq ▸ Nat.min_le_left _ _) _

/-- `parseTag`. The cursor goes back to where it started when the tag is empty. -/
def parseTag (p : Parser) : (Bytes × Option ParserError) × Parser :=
  let previous := p.cursor
  let (tag, cursor) := tagLoop p.buff (p.tagLimit - p.cursor) p.cursor p.tagLimit_le [] false
  ((tag, none), { p with cursor := if tag.length = 0 then previous else cursor })

/-- `parseContent`: the rest of the buffer without its surrounding spaces. -/
def parseContent (p : Parser) : (Bytes × Option ParserError) × Parser :=
  if p.cursor > p.l then (([], some .errEOL), p)
  else
    let content := trim (slice p.buff p.cursor p.l) (bytesOf " ")
    ((content, some .errEOL), { p with cursor := p.cursor + content.length })

/-- `parsemessage`. -/
def parsemessage (p : Parser) : (Rfc3164message × Option ParserError) × Parser :=
  let msg : Rfc3164message := {}
  let ((tag, err), p) := p.parseTag
  if err.isSome then ((msg, err), p) else
  let ((content, err), p) := p.parseContent
  if err ≠ some .errEOL then ((msg, err), p) else
  (({ msg with tag := tag, content := content }, err), p)

/-- `Parse`: the returned error (`none` for nil) and the final state, or the panic of
`p.buff[p.cursor]` after the header. -/
def parse (p : Parser) (lib : Library) (time : TimeLib) :
    Except IndexOutOfRange (Option ParserError × Parser) := do
  let ((pri, err), p) := p.parsePriority lib
  if err.isSome then return (err, p)
  let ((hdr, err), p) := p.parseHeader lib time
  if err.isSome then return (err, p)
  let b ← index p.buff p.cursor
  let p := if b = ' '.toUInt8 then { p with cursor := p.cursor + 1 } else p
  let ((msg, err), p) := p.parsemessage
  if err ≠ some .errEOL then return (err, p)
  return (none, { p with priority := pri, version := lib.noVersion, header := hdr, message := msg })

end Parser

end Ilogtail.Syslogparser.Rfc3164
