import RequestDispatch.Text.Utf8

/-!
# Request targets

A target names a path and perhaps a query.  It is written in origin form (`/path?query`), as an
absolute address (`scheme://authority/path?query`), as a bare authority (`host:80`, which has an
empty path) or as a single asterisk.  Nothing is percent-decoded, and a fragment is dropped unread.
-/

namespace RequestDispatch

structure Target where
  path : String
  query : Option String
  deriving DecidableEq, Repr

namespace Target

/-- The target of a context that no request has reached. -/
def root : Target := ⟨"/", none⟩

def isPathChar (c : Char) : Bool :=
  let n := c.toNat
  n == 0x21 || n == 0x22 || (0x24 ≤ n && n ≤ 0x3B) || n == 0x3D || (0x40 ≤ n && n ≤ 0x5F) ||
    (0x61 ≤ n && n ≤ 0x7E) || 0x80 ≤ n

def isQueryChar (c : Char) : Bool :=
  let n := c.toNat
  n == 0x21 || (0x24 ≤ n && n ≤ 0x3B) || n == 0x3D || (0x3F ≤ n && n ≤ 0x7E) || 0x80 ≤ n

/-- A text written as path, query and fragment; an empty path is the root. -/
def ofOrigin? (cs : List Char) : Option Target :=
  let located := cs.takeWhile (· ≠ '#')
  let path := located.takeWhile (· ≠ '?')
  let query := match located.dropWhile (· ≠ '?') with
    | [] => none
    | _ :: rest => some rest
  if path.all isPathChar && (query.getD []).all isQueryChar then
    some ⟨if path.isEmpty then "/" else String.ofList path, query.map String.ofList⟩
  else none

/-- Unreserved and reserved characters of an authority. -/
def isAuthorityChar (c : Char) : Bool :=
  c.isAlphanum ||
    c ∈ ['!', '$', '&', '\'', '(', ')', '*', '+', ',', '-', '.', ':', ';', '=', '@', '[', ']',
      '_', '~', '%']

/-- What has been seen of an authority so far.  Reading `@` or `]` forgets the colons and percent
signs before it, which belong to the user information or to a bracketed address. -/
structure AuthorityState where
  colons : Nat
  opened : Bool
  closed : Bool
  percent : Bool
  afterAt : Bool

/-- Most colons that may stand together in one part of an authority. -/
def maxColons : Nat := 8

def AuthorityState.read (s : AuthorityState) (c : Char) : Option AuthorityState :=
  let s' := { s with afterAt := false }
  if !isAuthorityChar c then none
  else if c = ':' then
    if maxColons ≤ s.colons then none else some { s' with colons := s.colons + 1 }
  else if c = '[' then
    if s.percent || s.opened then none else some { s' with opened := true }
  else if c = ']' then
    if !s.opened || s.closed then none
    else some { s' with closed := true, colons := 0, percent := false }
  else if c = '@' then some { s' with colons := 0, percent := false, afterAt := true }
  else if c = '%' then some { s' with percent := true }
  else some s'

/-- A non-empty authority: brackets in one closed pair, at most one colon outside user information
and brackets, no percent sign there, and something after the last `@`. -/
def isAuthority (cs : List Char) : Bool :=
  match cs.foldlM AuthorityState.read ⟨0, false, false, false, false⟩ with
  | none => false
  | some s => !cs.isEmpty && s.opened == s.closed && s.colons ≤ 1 && !s.percent && !s.afterAt

/-- A character of a scheme; the tilde is one too. -/
def isSchemeChar (c : Char) : Bool :=
  c.isAlphanum || c ∈ ['+', '-', '.', '~']

/-- Longest scheme. -/
def maxScheme : Nat := 64

/-- What follows the `://` of a scheme; `none` where no scheme is written. -/
def afterScheme? (cs : List Char) : Option (List Char × List Char) :=
  let scheme := cs.takeWhile isSchemeChar
  match cs.dropWhile isSchemeChar with
  | ':' :: '/' :: '/' :: rest => some (scheme, rest)
  | _ => none

def isAuthorityEnd (c : Char) : Bool :=
  c == '/' || c == '?' || c == '#'

/-- Most bytes of a target. -/
def maxWidth : Nat := 65534

def parse? (text : String) : Option Target :=
  let cs := text.toList
  if maxWidth < Utf8.width cs then none
  else match cs with
    | [] => none
    | ['*'] => some ⟨"*", none⟩
    | '/' :: _ => ofOrigin? cs
    | _ =>
      match afterScheme? cs with
      | some (scheme, rest) =>
        let authority := rest.takeWhile (!isAuthorityEnd ·)
        if scheme.length ≤ maxScheme && isAuthority authority then
          ofOrigin? (rest.dropWhile (!isAuthorityEnd ·))
        else none
      | none => if isAuthority cs then some ⟨"", none⟩ else none

end Target

end RequestDispatch
