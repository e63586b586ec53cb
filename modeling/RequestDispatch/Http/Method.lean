/-!
# Request methods

A method is any non-empty token; its case counts.  The nine standard methods have names of their
own, and their order in `Method.standard` is the order in which a route for any method is registered.
-/

namespace RequestDispatch

/-- A character of a token: a letter, a digit or one of fifteen marks, all ASCII. -/
def isTokenChar (c : Char) : Bool :=
  c.isAlphanum ||
    c ∈ ['!', '#', '$', '%', '&', '\'', '*', '+', '-', '.', '^', '_', '\x60', '|', '~']

def isToken (s : String) : Bool :=
  !s.toList.isEmpty && s.toList.all isTokenChar

structure Method where
  name : String
  isToken_name : isToken name = true
  deriving DecidableEq, Repr

namespace Method

/-- The method with this name, unless the name is no token. -/
def ofString? (name : String) : Option Method :=
  if h : isToken name = true then some ⟨name, h⟩ else none

def connect : Method := ⟨"CONNECT", by decide⟩
def delete : Method := ⟨"DELETE", by decide⟩
def get : Method := ⟨"GET", by decide⟩
def head : Method := ⟨"HEAD", by decide⟩
def options : Method := ⟨"OPTIONS", by decide⟩
def patch : Method := ⟨"PATCH", by decide⟩
def post : Method := ⟨"POST", by decide⟩
def put : Method := ⟨"PUT", by decide⟩
def trace : Method := ⟨"TRACE", by decide⟩

/-- The standard methods. -/
def standard : List Method :=
  [connect, delete, get, head, options, patch, post, put, trace]

theorem ofString?_name (m : Method) : ofString? m.name = some m := by
  simp [ofString?, m.isToken_name]

end Method

section Distinct

variable {α : Type} [DecidableEq α]

/-- Adds the items that are not listed yet, in order. -/
def addDistinct (listed items : List α) : List α :=
  items.foldl (fun seen a => if a ∈ seen then seen else seen ++ [a]) listed

/-- The items without repetitions, each where it occurs first. -/
def distinct (items : List α) : List α := addDistinct [] items

theorem mem_addDistinct (listed items : List α) (a : α) :
    a ∈ addDistinct listed items ↔ a ∈ listed ∨ a ∈ items := by
  unfold addDistinct
  induction items generalizing listed with
  | nil => simp
  | cons b bs ih =>
    rw [List.foldl_cons, ih]
    by_cases h : b ∈ listed
    · rw [if_pos h, List.mem_cons]
      constructor
      · rintro (h | h)
        · exact .inl h
        · exact .inr (.inr h)
      · rintro (h | rfl | h)
        · exact .inl h
        · exact .inl ‹_›
        · exact .inr h
    · rw [if_neg h]
      simp [or_assoc]

theorem nodup_addDistinct (listed items : List α) (h : listed.Nodup) :
    (addDistinct listed items).Nodup := by
  unfold addDistinct
  induction items generalizing listed with
  | nil => exact h
  | cons b bs ih =>
    rw [List.foldl_cons]
    apply ih
    by_cases hb : b ∈ listed
    · rwa [if_pos hb]
    · rw [if_neg hb, List.nodup_append]
      refine ⟨h, by simp, ?_⟩
      intro x hx y hy same
      rw [List.mem_singleton] at hy
      exact hb (hy ▸ same ▸ hx)

theorem mem_distinct (items : List α) (a : α) : a ∈ distinct items ↔ a ∈ items := by
  simp [distinct, mem_addDistinct]

theorem nodup_distinct (items : List α) : (distinct items).Nodup :=
  nodup_addDistinct [] items List.nodup_nil

/-- What is added is listed once, and was missing before. -/
theorem exists_addDistinct (listed items : List α) :
    ∃ added, addDistinct listed items = listed ++ added ∧ added.Sublist items ∧ added.Nodup ∧
      ∀ a ∈ added, a ∉ listed := by
  unfold addDistinct
  induction items generalizing listed with
  | nil => exact ⟨[], (List.append_nil _).symm, .slnil, .nil, nofun⟩
  | cons a items ih =>
    rw [List.foldl_cons]
    by_cases known : a ∈ listed
    · obtain ⟨added, eq, inside, nodup, fresh⟩ := ih listed
      rw [if_pos known]
      exact ⟨added, eq, inside.cons a, nodup, fresh⟩
    · obtain ⟨added, eq, inside, nodup, fresh⟩ := ih (listed ++ [a])
      rw [if_neg known]
      refine ⟨a :: added, by simp [eq], inside.cons_cons a, ?_, ?_⟩
      · refine List.nodup_cons.mpr ⟨fun again => ?_, nodup⟩
        exact fresh a again (by simp)
      · intro b mem
        rcases List.mem_cons.mp mem with rfl | later
        · exact known
        · have missing := fresh b later
          simp only [List.mem_append, not_or] at missing
          exact missing.1

theorem distinct_sublist (items : List α) : (distinct items).Sublist items := by
  obtain ⟨added, eq, inside, _, _⟩ := exists_addDistinct [] items
  rw [distinct, eq, List.nil_append]
  exact inside

end Distinct

/-- Names in ascending order. -/
def sortNames (names : List String) : List String :=
  names.mergeSort (fun a b => a ≤ b)

end RequestDispatch
