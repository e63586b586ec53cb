import RequestDispatch.Http.Method

/-!
# Headers

Names are tokens in lower case.  A value is any text without control characters other than the tab; it
is shown as text where all of it is visible ASCII.
-/

namespace RequestDispatch

structure HeaderName where
  text : String
  deriving DecidableEq, Repr

namespace HeaderName

/-- The name in lower case, unless it is no token. -/
def ofString? (name : String) : Option HeaderName :=
  if isToken name then some ⟨String.ofList (name.toList.map Char.toLower)⟩ else none

def contentType : HeaderName := ⟨"content-type"⟩
def location : HeaderName := ⟨"location"⟩
def allow : HeaderName := ⟨"allow"⟩
def requestId : HeaderName := ⟨"x-request-id"⟩

end HeaderName

/-- Visible ASCII, the space and the tab. -/
def isVisibleChar (c : Char) : Bool :=
  c == '\t' || (0x20 ≤ c.toNat && c.toNat < 0x7F)

/-- No control character other than the tab. -/
def isHeaderChar (c : Char) : Bool :=
  c == '\t' || (0x20 ≤ c.toNat && c.toNat != 0x7F)

/-- A value as text.  Bytes that are not UTF-8 cannot be held; a request that carries such a value, which
is never visible ASCII, has no counterpart here. -/
structure HeaderValue where
  text : String
  deriving DecidableEq, Repr

namespace HeaderValue

/-- The value with this text, unless it holds a control character. -/
def ofString? (s : String) : Option HeaderValue :=
  if s.toList.all isHeaderChar then some ⟨s⟩ else none

/-- The text of a value that is visible throughout. -/
def visibleText? (v : HeaderValue) : Option String :=
  if v.text.toList.all isVisibleChar then some v.text else none

end HeaderValue

/-- Header fields in the order in which they were set. -/
abbrev Headers := List (HeaderName × HeaderValue)

namespace Headers

/-- Sets the only value of a name. -/
def insert (headers : Headers) (name : HeaderName) (value : HeaderValue) : Headers :=
  headers.filter (fun field => field.1 ≠ name) ++ [(name, value)]

/-- Adds one more value to a name. -/
def append (headers : Headers) (name : HeaderName) (value : HeaderValue) : Headers :=
  headers ++ [(name, value)]

/-- The first value of a name. -/
def get? (headers : Headers) (name : HeaderName) : Option HeaderValue :=
  (headers.find? (fun field => field.1 = name)).map Prod.snd

/-- All values of a name, in order. -/
def values (headers : Headers) (name : HeaderName) : List HeaderValue :=
  (headers.filter (fun field => field.1 = name)).map Prod.snd

theorem values_insert (headers : Headers) (name : HeaderName) (value : HeaderValue) :
    (headers.insert name value).values name = [value] := by
  simp [insert, values, List.filter_append, List.filter_filter]

theorem values_insert_of_ne {name other : HeaderName} (headers : Headers) (value : HeaderValue)
    (h : other ≠ name) : (headers.insert name value).values other = headers.values other := by
  have : ∀ field : HeaderName × HeaderValue,
      (decide (field.1 = other) && decide (field.1 ≠ name)) = decide (field.1 = other) := by
    intro field
    by_cases hf : field.1 = other <;> simp [hf, h]
  simp [insert, values, List.filter_append, List.filter_filter, Ne.symm h]
  congr 1
  apply List.filter_congr
  intro field _
  simpa using this field

end Headers

end RequestDispatch
