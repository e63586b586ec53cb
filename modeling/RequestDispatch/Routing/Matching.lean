import RequestDispatch.Routing.Template

/-!
# Which paths a template matches

A template matches a path that arises from it by filling its places with values: a parameter takes a
non-empty text without slash, the catch-all takes any text.  Of two templates that match one path the
one that is more specific where they first differ is preferred.

Nothing here speaks of trees.  The statements compare the tree with these definitions.
-/

namespace RequestDispatch.Routing

/-- The text of a template whose places are filled with values in order. -/
def fill : List Token → List (List Char) → Option (List Char)
  | [], [] => some []
  | .char c :: rest, values => (fill rest values).map (c :: ·)
  | .param :: rest, value :: values => (fill rest values).map (value ++ ·)
  | .catchAll :: rest, value :: values => (fill rest values).map (value ++ ·)
  | _, _ => none

/-- Every place has a value that it takes, and no value is left over. -/
def Suits : List Token → List (List Char) → Prop
  | [], [] => True
  | .char _ :: rest, values => Suits rest values
  | .param :: rest, value :: values => value ≠ [] ∧ '/' ∉ value ∧ Suits rest values
  | .catchAll :: rest, _ :: values => Suits rest values
  | _, _ => False

/-- The path arises from the tokens by filling their places with these values. -/
def MatchesWith (tokens : List Token) (path : List Char) (values : List (List Char)) : Prop :=
  Suits tokens values ∧ fill tokens values = some path

def Matches (tokens : List Token) (path : List Char) : Prop :=
  ∃ values, MatchesWith tokens path values

/-- Literal text is more specific than a parameter, and a parameter than a catch-all. -/
def Token.rank : Token → Nat
  | .char _ => 2
  | .param => 1
  | .catchAll => 0

/-- The first template is preferred: it is more specific at the first difference.  A template that ends
there is preferred to one that goes on with a catch-all. -/
def Preferred : List Token → List Token → Prop
  | a :: as, b :: bs => if a = b then Preferred as bs else b.rank < a.rank
  | [], b :: _ => b = .catchAll
  | _, [] => False

/-- Number of values that the tokens take. -/
def places : List Token → Nat
  | [] => 0
  | .char _ :: rest => places rest
  | _ :: rest => places rest + 1

theorem length_eq_places {tokens : List Token} {values : List (List Char)}
    (h : Suits tokens values) : values.length = places tokens := by
  induction tokens generalizing values with
  | nil =>
    cases values with
    | nil => rfl
    | cons _ _ => exact h.elim
  | cons token rest ih =>
    cases token with
    | char c => exact ih (by simpa [Suits] using h)
    | param =>
      cases values with
      | nil => exact h.elim
      | cons value values =>
        have inner : Suits rest values := h.2.2
        simp [places, ih inner]
    | catchAll =>
      cases values with
      | nil => exact h.elim
      | cons value values =>
        have inner : Suits rest values := h
        simp [places, ih inner]

theorem Preferred.asymm {s t : List Token} (h : Preferred s t) : ¬ Preferred t s := by
  induction s generalizing t with
  | nil =>
    cases t with
    | nil => exact h.elim
    | cons b bs => exact id
  | cons a as ih =>
    cases t with
    | nil => exact h.elim
    | cons b bs =>
      by_cases same : a = b
      · subst same
        simp only [Preferred, if_true] at h ⊢
        exact ih h
      · simp only [Preferred, if_neg same, if_neg (Ne.symm same)] at h ⊢
        omega

end RequestDispatch.Routing
