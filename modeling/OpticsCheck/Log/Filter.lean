import OpticsCheck.Log.Directive

/-!
# Log filters

A filter is a list of directives. An event passes by itself as far as the most specific directive
that covers it allows; what a check logs passes also as far as some directive for the check's span
allows. Of two directives for the same events the later one holds. What nothing covers is dropped.
-/

namespace OpticsCheck

/-- A span of time in which events are logged; it carries one flag, which is set. -/
structure Span where
  name : String
  target : String
  level : Level
  flag : String
deriving DecidableEq, Repr

/-- Every check is shown by a spinner, whose span holds what the check logs. -/
def Span.check : Span :=
  { name := "check", target := "optics::terminal::spinner", level := .info,
    flag := "indicatif.pb_show" }

/-- Whether the directive lets pass what is logged inside the span. -/
def Directive.coversInside (directive : Directive) (span : Span) : Bool :=
  directive.isDynamic && directive.admits span.target && directive.span.all (· = span.name)
    && directive.field.all fun test => test.name = span.flag && test.value.all (· = "true")

abbrev Filter := List Directive

namespace Filter

/-- Reads directives separated by commas. -/
def ofText? (text : String) : Option Filter :=
  ((text.toList.splitOn ',').filter (· ≠ [])).mapM Directive.ofChars?

/-- Lets everything through up to a verbosity. -/
def upTo (verbosity : Nat) : Filter := [.ofLevel verbosity]

/-- Nothing more verbose is looked at. A test for a value leaves that open. -/
def maxVerbosity (filter : Filter) : Nat :=
  if filter.any fun directive => directive.field.any (·.value.isSome) then 5
  else filter.foldl (fun most directive => max most directive.verbosity) 0

/-- The verbosity of the most specific directive that covers the event. -/
def verbosityFor (filter : Filter) (event : Event) : Nat :=
  ((filter.filter (·.covers event)).foldl (fun best directive =>
    match best with
    | some other => if directive.isAtLeastAsSpecificAs other then some directive else best
    | none => some directive) (none : Option Directive)).elim 0 (·.verbosity)

/-- The directives less those that a later one with the same conditions replaces. -/
def inForce : Filter → Filter
  | [] => []
  | directive :: rest =>
    if rest.any fun later => { later with verbosity := directive.verbosity } = directive then
      inForce rest
    else directive :: inForce rest

/-- The verbosity allowed inside a span. A span that is not looked at itself allows nothing. -/
def verbosityInside (filter : Filter) (span : Span) : Nat :=
  if filter.maxVerbosity < span.level.verbosity then 0
  else (filter.inForce.filter (·.coversInside span)).foldl
    (fun most directive => max most directive.verbosity) 0

def passes (filter : Filter) (event : Event) : Bool :=
  event.level.verbosity ≤ filter.maxVerbosity
    && (event.level.verbosity ≤ filter.verbosityFor event
      || (event.target.duringCheck && event.level.verbosity ≤ filter.verbosityInside .check))

/-- The filter of a quiet level: everything from information on, or, when quiet, warnings and what
is printed. -/
def ofQuiet (quiet : Nat) : Filter :=
  if quiet = 0 then upTo 3
  else [.ofLevel 2, { target := some Target.print.path, verbosity := 3 }]

/-- The filter asked for in the environment, where that can be read, else the quiet level's. -/
def choose (environment : Option String) (quiet : Nat) : Filter :=
  (environment.bind ofText?).getD (ofQuiet quiet)

end Filter

/-- The texts of the events that pass. -/
def shown (filter : Filter) (events : List Event) : List String :=
  (events.filter filter.passes).map Event.text

end OpticsCheck
