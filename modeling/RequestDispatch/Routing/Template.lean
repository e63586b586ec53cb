import RequestDispatch.Http.Method

/-!
# Route templates

A template is literal text, parameters (`:name` right after a slash, up to the next slash) and
perhaps a catch-all (`*name`) at its end.  `Template.parse` splits it into segments, and `shape` forgets
the names: two templates with one shape claim the same paths.
-/

namespace RequestDispatch

/-- Why a registration is refused. -/
inductive RouteError where
  | malformedTemplate (path reason : String)
  | catchAllNotLast (path : String)
  | duplicateRoute (method : Method) (path existing : String)
  | unknownHandler (name : String)
  | unknownMiddleware (name : String)
  | invalidMethod (name : String)
  deriving DecidableEq, Repr

def RouteError.message : RouteError → String
  | .malformedTemplate path reason => s!"malformed route template '{path}': {reason}"
  | .catchAllNotLast path =>
    s!"malformed route template '{path}': catch-all segment must be the last segment"
  | .duplicateRoute method path existing =>
    s!"duplicate route {method.name} {path}: conflicts with already registered '{existing}'"
  | .unknownHandler name => s!"unknown handler '{name}'"
  | .unknownMiddleware name => s!"unknown middleware '{name}'"
  | .invalidMethod name => s!"invalid HTTP method '{name}'"

namespace Routing

inductive Segment where
  /-- Literal text, perhaps over several slashes. -/
  | literal (text : List Char)
  /-- Exactly one non-empty piece of the path. -/
  | param (name : List Char)
  /-- The rest of the path, which may be empty. -/
  | catchAll (name : List Char)
  deriving DecidableEq, Repr

/-- One step of a template whose names are forgotten. -/
inductive Token where
  | char (c : Char)
  | param
  | catchAll
  deriving DecidableEq, Repr

namespace Segment

def tokens : Segment → List Token
  | .literal text => text.map .char
  | .param _ => [.param]
  | .catchAll _ => [.catchAll]

def name? : Segment → Option String
  | .literal _ => none
  | .param name => some (String.ofList name)
  | .catchAll name => some (String.ofList name)

end Segment

/-- The tokens of all segments. -/
def shape (segments : List Segment) : List Token := segments.flatMap Segment.tokens

def paramNames (segments : List Segment) : List String := segments.filterMap Segment.name?

/-- The name of a catch-all that is written as a bare asterisk. -/
def unnamedTail : List Char := ['*']

/-- What is wrong with the text of a template. -/
inductive TemplateFault where
  | noLeadingSlash
  | trailingSlash
  | emptySegment
  | emptyParamName
  | badParamName
  | catchAllNotLast
  | badCatchAllName
  deriving DecidableEq, Repr

def TemplateFault.toError (path : String) : TemplateFault → RouteError
  | .noLeadingSlash => .malformedTemplate path "template must start with '/'"
  | .trailingSlash => .malformedTemplate path "template must not end with '/'"
  | .emptySegment => .malformedTemplate path "template contains an empty segment"
  | .emptyParamName => .malformedTemplate path "parameter name is empty"
  | .badParamName => .malformedTemplate path "parameter name contains ':' or '*'"
  | .catchAllNotLast => .catchAllNotLast path
  | .badCatchAllName => .malformedTemplate path "catch-all name contains ':' or '*'"

namespace Template

/-- A name may hold any character but the two that open one. -/
def isNameChar (c : Char) : Bool := c ≠ ':' && c ≠ '*'

def hasEmptySegment : List Char → Bool
  | '/' :: '/' :: _ => true
  | _ :: rest => hasEmptySegment rest
  | [] => false

/-- Collected literal text as a segment; empty text is none. -/
def literal (text : List Char) : List Segment :=
  if text.isEmpty then [] else [.literal text]

/-- The parameter of a completely read name. -/
def param (name : List Char) : Except TemplateFault Segment :=
  if name.isEmpty then .error .emptyParamName
  else if !name.all isNameChar then .error .badParamName
  else .ok (.param name)

/-- The catch-all whose name is the rest of the template. -/
def catchAll (name : List Char) : Except TemplateFault Segment :=
  if '/' ∈ name then .error .catchAllNotLast
  else if !name.all isNameChar then .error .badCatchAllName
  else .ok (.catchAll (if name.isEmpty then unnamedTail else name))

/-- What is being read: literal text, or the name of a parameter. -/
inductive Reading where
  | literal (text : List Char)
  | param (name : List Char)

/-- Splits the rest of a template into segments.  A colon opens a parameter only right after a
slash, an asterisk opens a catch-all anywhere in literal text. -/
def split : Reading → List Char → Except TemplateFault (List Segment)
  | .literal text, [] => .ok (literal text)
  | .param name, [] => (param name).map ([·])
  | .literal text, c :: rest =>
    if c = ':' ∧ text.getLast? = some '/' then
      (split (.param []) rest).map (literal text ++ ·)
    else if c = '*' then (catchAll rest).map fun segment => literal text ++ [segment]
    else split (.literal (text ++ [c])) rest
  | .param name, c :: rest =>
    if c = '/' then
      (param name).bind fun segment => (split (.literal [c]) rest).map (segment :: ·)
    else split (.param (name ++ [c])) rest

/-- The segments of a template in canonical form. -/
def parseChars (cs : List Char) : Except TemplateFault (List Segment) :=
  if cs.head? ≠ some '/' then .error .noLeadingSlash
  else if 1 < cs.length ∧ cs.getLast? = some '/' then .error .trailingSlash
  else if hasEmptySegment cs then .error .emptySegment
  else split (.literal []) cs

def parse (template : String) : Except RouteError (List Segment) :=
  (parseChars template.toList).mapError (TemplateFault.toError template)

end Template

end Routing

end RequestDispatch
