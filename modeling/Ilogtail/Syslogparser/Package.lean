import Ilogtail.Go.Time

/-!
# The imported `syslogparser` package

`rfc3164.go` imports `github.com/jeromer/syslogparser` for its priority and hostname
readers, its error values and the constant `NO_VERSION`. That package's own source is
not among the modelled files, so the parser takes the two readers and the constant as
a `Library`, and every theorem about the parser holds for all of them. A theorem
that needs one of the readers to accept a field says so in a hypothesis.
-/

namespace Ilogtail.Syslogparser

open Ilogtail.Go

/-- The error values the parser returns or compares against. Go compares errors by
identity (`err != syslogparser.ErrEOL`); `other` stands for every further error value
the imported readers may return, which the parser only passes on. -/
inductive ParserError
  | errEOL
  | errTimestampUnknownFormat
  | other (id : Nat)
deriving DecidableEq, Repr

/-- `syslogparser.Facility`. -/
structure Facility where
  value : Int := 0
deriving DecidableEq, Repr

/-- `syslogparser.Severity`. -/
structure Severity where
  value : Int := 0
deriving DecidableEq, Repr

/-- `syslogparser.Priority`: the PRI value with its facility and severity. -/
structure Priority where
  p : Int := 0
  f : Facility := {}
  s : Severity := {}
deriving DecidableEq, Repr

/-- A value of `syslogparser.LogParts`, by the dynamic type `Dump` stores. -/
inductive LogValue
  | time (value : Time)
  | string (value : Bytes)
  | int (value : Int)
deriving DecidableEq, Repr

/-- `syslogparser.LogParts`, a `map[string]interface{}`, by its entries. -/
def LogParts := List (String × LogValue)

/-- The members of the imported package that `rfc3164.go` uses. Each reader is
`f(buff, &cursor, l)`: it returns its result and error, and the cursor it leaves. -/
structure Library where
  /-- `syslogparser.ParsePriority`. -/
  parsePriority : Bytes → Nat → Nat → (Priority × Option ParserError) × Nat
  /-- `syslogparser.ParseHostname`. -/
  parseHostname : Bytes → Nat → Nat → (Bytes × Option ParserError) × Nat
  /-- `syslogparser.NO_VERSION`. -/
  noVersion : Int

/-- `ParsePriority` reads the field `<PRI>` from the start of every buffer that begins
with it, and leaves the cursor after its `>`. -/
def Library.ReadsPriority (lib : Library) (pri : Bytes) (priority : Priority) : Prop :=
  ∀ buff, bytesOf "<" ++ pri ++ bytesOf ">" <+: buff →
    lib.parsePriority buff 0 buff.length = ((priority, none), pri.length + 2)

/-- `ParseHostname` reads `hostname` wherever the rest of the buffer starts with it and
a space, and leaves the cursor on that space. -/
def Library.ReadsHostname (lib : Library) (hostname : Bytes) : Prop :=
  ∀ buff cursor, hostname ++ bytesOf " " <+: buff.drop cursor →
    lib.parseHostname buff cursor buff.length = ((hostname, none), cursor + hostname.length)

end Ilogtail.Syslogparser
