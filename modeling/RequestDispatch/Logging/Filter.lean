import RequestDispatch.Logging.Directive

/-!
# Log filters

A filter is made of directives.  Of the fixed ones that cover an event the highest in rank decides on it.
The others are bound to spans: those that cover the spans of requests let further events through, the
ones reported inside a span that they admit.
-/

namespace RequestDispatch

structure Filter where
  fixed : List Directive
  bound : List Directive
  /-- What any directive ever added lets through.  Nothing else passes, and a directive that asks for a
  value counts as one that lets all spans through. -/
  widest : Threshold
  deriving DecidableEq, Repr

namespace Filter

def empty : Filter := ⟨[], [], none⟩

/-- Adds a directive, in place of one about the same. -/
def put (directives : List Directive) (d : Directive) : List Directive :=
  directives.filter (!d.replaces ·) ++ [d]

def addFixed (f : Filter) (d : Directive) : Filter :=
  { f with fixed := put f.fixed d, widest := f.widest.wider d.threshold }

def addBound (f : Filter) (d : Directive) : Filter :=
  let asked := if d.hasValue then some .trace else d.threshold
  { f with bound := put f.bound d, widest := f.widest.wider asked }

/-- Adds a directive as a fixed one if it can be one. -/
def add (f : Filter) (d : Directive) : Filter := if d.isFixed then f.addFixed d else f.addBound d

/-- Adds a directive in every way that it allows. -/
def addBoth (f : Filter) (d : Directive) : Filter :=
  let f := if d.isBound then f.addBound d else f
  if d.isFixed then f.addFixed d else f

def ofLevel (level : Level) : Filter := empty.addFixed (.ofLevel level)

/-- Reads a list of directives, all of which must be sound; an empty list lets errors through. -/
def ofText (text : String) : Except DirectiveError Filter :=
  ((text.splitOn ",").filter (!·.isEmpty)).mapM Directive.ofText |>.map fun
    | [] => ofLevel .error
    | ds => ds.foldl addBoth empty

/-- The filter that a list of directives takes the place of, or the one of a level where there is no
sound list.  A torn list gives none. -/
def ofBase? (base : Option String) (level : Level) : Option Filter :=
  match base.map ofText with
  | none | some (.error .malformed) => some (ofLevel level)
  | some (.error .torn) => none
  | some (.ok f) => some f

/-- The filter of the log and the directives that could not be read. -/
def ofSettings? (config : LogSettings) (base : Option String) : Option (Filter × List String) :=
  (ofBase? base config.level).map fun start =>
    let extra := (((config.filter.getD "").splitOn ",").map Text.trim).filter (!·.isEmpty)
    extra.foldl
      (fun (f, rejected) text =>
        match Directive.ofText text with
        | .ok d => (f.add d, rejected)
        | .error _ => (f, rejected ++ [text]))
      (start, [])

/-- The directive of the highest rank. -/
def highest? (directives : List Directive) : Option Directive :=
  directives.foldl
    (fun best d =>
      match best with
      | none => some d
      | some b => if d.outranks b then some d else some b)
    none

/-- Whether the fixed directives about something let its level through. -/
def allowsFixed (f : Filter) (about : Directive → Bool) (level : Level) : Bool :=
  (highest? (f.fixed.filter about)).any fun d => level.passes d.threshold

/-- The directives on which events inside the spans of requests depend. -/
def onSpans (f : Filter) : List Directive :=
  if Span.level.passes f.widest then f.bound.filter (·.coversSpans) else []

/-- What passes inside a span. -/
def within (f : Filter) (span : Span) : Threshold :=
  ((f.onSpans.filter (·.admits span)).map (·.threshold)).foldl Threshold.wider none

/-- Whether a record passes. -/
def allows (f : Filter) (r : LogRecord) : Bool :=
  f.allowsFixed (·.coversEvent r.event) r.event.level ||
    r.spans.any fun span => r.event.level.passes (f.within span)

/-- Whether the spans of requests pass. -/
def allowsSpans (f : Filter) : Bool :=
  !f.onSpans.isEmpty || f.allowsFixed (·.covers Span.component) Span.level

/-- What is left of a log.  The records lose their spans where these do not pass. -/
def keep (f : Filter) (records : List LogRecord) : List LogRecord :=
  (records.filter f.allows).map fun r => if f.allowsSpans then r else { r with spans := [] }

end Filter

end RequestDispatch
