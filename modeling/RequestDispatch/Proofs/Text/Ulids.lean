import Mathlib.Data.List.Forall2
import Mathlib.Data.Nat.Digits.Defs
import Mathlib.Tactic.Ring
import RequestDispatch.Http.Header
import RequestDispatch.Text.Blank
import RequestDispatch.Ulid

/-!
# The texts of identifiers

A text denotes an identifier if it is made of 26 digits in either case and the identifier is the low 128
bits of the number that they write (`Ulid.Denotes`).  Exactly these texts are read (`Ulid.parse_eq_ok_iff`),
and every identifier is written as one of them (`Ulid.text_denotes`).
-/

namespace RequestDispatch

namespace Ulid

/-- The character is the digit of this value, in either case. -/
def IsDigit (c : Char) (d : Nat) : Prop := alphabet[d]? = some c.toUpper

/-- The text is made of 26 digits, and the identifier is the low 128 bits of the number that they write. -/
def Denotes (text : List Char) (id : Ulid) : Prop :=
  text.length = 26 ∧ ∃ ds, List.Forall₂ IsDigit text ds ∧
    id.value = Nat.ofDigits 32 ds.reverse % 2 ^ 128

theorem digitValue?_eq_some_iff {c : Char} {d : Nat} : digitValue? c = some d ↔ IsDigit c d := by
  have distinct : alphabet.Nodup := by decide
  rw [digitValue?, IsDigit, List.idxOf?_eq_some_iff, List.getElem?_eq_some_iff]
  refine exists_congr fun inside => and_iff_left_of_imp ?_
  intro at_d j before at_j
  exact List.pairwise_iff_getElem.mp distinct j d _ inside before (at_j.trans at_d.symm)

/-- Digits are ASCII. -/
theorem IsDigit.utf8Size {c : Char} {d : Nat} (digit : IsDigit c d) : c.utf8Size = 1 := by
  have ascii : alphabet.all (fun x => x.val ≤ 127) = true := by decide
  have upper := of_decide_eq_true (List.all_eq_true.mp ascii _ (List.mem_of_getElem? digit))
  rw [Char.utf8Size_eq_one_iff]
  unfold Char.toUpper at upper
  split at upper
  · rename_i lower
    exact UInt32.le_trans lower.2 (by decide)
  · exact upper

theorem width_of_digits {cs : List Char} {ds : List Nat} (digits : List.Forall₂ IsDigit cs ds) :
    Utf8.width cs = cs.length := by
  induction digits with
  | nil => rfl
  | cons digit _ ih => rw [Utf8.width, ih, digit.utf8Size, List.length_cons, Nat.add_comm]

/-- Digits are read up to the first that is none. -/
theorem readDigits?_eq_some_iff {acc n : Nat} {cs : List Char} :
    readDigits? acc cs = some n ↔ ∃ ds, List.Forall₂ IsDigit cs ds ∧
      n = acc * 32 ^ cs.length + Nat.ofDigits 32 ds.reverse := by
  induction cs generalizing acc with
  | nil =>
    simp only [readDigits?, Option.some.injEq, List.forall₂_nil_left_iff, exists_eq_left,
      List.length_nil, pow_zero, mul_one, List.reverse_nil, Nat.ofDigits_nil, add_zero, eq_comm]
  | cons c cs ih =>
    have value {d : Nat} {ds : List Nat} (digits : List.Forall₂ IsDigit cs ds) :
        (acc * 32 + d) * 32 ^ cs.length + Nat.ofDigits 32 ds.reverse =
          acc * 32 ^ (c :: cs).length + Nat.ofDigits 32 (d :: ds).reverse := by
      rw [List.reverse_cons, Nat.ofDigits_append, Nat.ofDigits_singleton, List.length_reverse,
        ← digits.length_eq, List.length_cons]
      ring
    rw [readDigits?, Option.bind_eq_some_iff]
    simp only [digitValue?_eq_some_iff, ih]
    constructor
    · rintro ⟨d, digit, ds, digits, rfl⟩
      exact ⟨d :: ds, .cons digit digits, value digits⟩
    · rintro ⟨_, all, rfl⟩
      obtain ⟨d, ds, digit, digits, rfl⟩ := List.forall₂_cons_left_iff.mp all
      exact ⟨d, digit, ds, digits, (value digits).symm⟩

/-- Exactly the texts that denote an identifier are read, and as that. -/
theorem parse_eq_ok_iff {s : String} {id : Ulid} : parse s = .ok id ↔ Denotes s.toList id := by
  have limit : idLimit = 2 ^ 128 := by decide +kernel
  have read {n : Nat} : ofNat n = id ↔ id.value = n % 2 ^ 128 := by
    rw [← limit]
    constructor
    · rintro rfl
      rfl
    · intro same
      cases id
      cases same
      rfl
  constructor
  · intro parsed
    unfold parse at parsed
    split at parsed
    · cases parsed
    · rename_i width
      split at parsed
      · rename_i n number
        obtain ⟨ds, digits, rfl⟩ := readDigits?_eq_some_iff.mp number
        rw [Decidable.not_not, width_of_digits digits] at width
        refine ⟨width, ds, digits, ?_⟩
        rw [read.mp (Except.ok.inj parsed), zero_mul, zero_add]
      · cases parsed
  · rintro ⟨length, ds, digits, value⟩
    have width : Utf8.width s.toList = textLength := (width_of_digits digits).trans length
    have number := readDigits?_eq_some_iff.mpr ⟨ds, digits, (rfl : _ = 0 * 32 ^ _ + _)⟩
    rw [parse, if_neg (not_not.mpr width), number, zero_mul, zero_add]
    exact congrArg Except.ok (read.mpr value)

/-- The digits of a number are digits in upper case, and write what they are to. -/
theorem digits_spec (count n : Nat) :
    (∀ c ∈ digits count n, c ∈ alphabet) ∧ (digits count n).length = count ∧
      ∃ ds, List.Forall₂ IsDigit (digits count n) ds ∧ Nat.ofDigits 32 ds.reverse = n % 32 ^ count := by
  induction count generalizing n with
  | zero => exact ⟨nofun, rfl, [], .nil, (Nat.mod_one n).symm⟩
  | succ count ih =>
    obtain ⟨listed, length, ds, digits, value⟩ := ih (n / 32)
    have last : ∀ d < 32, digitChar d ∈ alphabet ∧ IsDigit (digitChar d) d := by
      unfold IsDigit
      decide
    obtain ⟨mem, digit⟩ := last (n % 32) (Nat.mod_lt n (by decide))
    refine ⟨?_, ?_, ds ++ [n % 32], ?_, ?_⟩
    · rw [Ulid.digits, List.forall_mem_append, List.forall_mem_singleton]
      exact ⟨listed, mem⟩
    · rw [Ulid.digits, List.length_append, length, List.length_singleton]
    · exact List.rel_append digits (.cons digit .nil)
    · rw [List.reverse_append, List.reverse_singleton, List.singleton_append, Nat.ofDigits_cons, value,
        Nat.pow_succ', Nat.mod_mul]

/-! ### Written identifiers -/

variable (id : Ulid)

theorem toList_text : id.text.toList = digits 26 id.value := String.toList_ofList

/-- An identifier is written in upper case. -/
theorem mem_alphabet_of_text : ∀ c ∈ id.text.toList, c ∈ alphabet := by
  rw [toList_text]
  exact (digits_spec 26 id.value).1

theorem length_text : id.text.toList.length = 26 := by
  rw [toList_text]
  exact (digits_spec 26 id.value).2.1

/-- An identifier is written as a text that denotes it. -/
theorem text_denotes : Denotes id.text.toList id := by
  obtain ⟨-, length, ds, digits, value⟩ := digits_spec 26 id.value
  rw [toList_text]
  refine ⟨length, ds, digits, ?_⟩
  have bound : id.value < 2 ^ 128 := lt_of_lt_of_le id.bound (by decide +kernel)
  rw [value, Nat.mod_eq_of_lt (bound.trans (by norm_num)), Nat.mod_eq_of_lt bound]

/-- There is no blank margin around a written identifier. -/
theorem trim_text : Text.trim id.text = id.text := by
  have solid : alphabet.any Text.isBlank = false := by decide
  have kept (cs : List Char) (listed : ∀ c ∈ cs, c ∈ alphabet) : cs.dropWhile Text.isBlank = cs := by
    cases cs with
    | nil => rfl
    | cons c rest =>
      exact List.dropWhile_cons_of_neg (List.any_eq_false.mp solid c (listed c List.mem_cons_self))
  have listed := id.mem_alphabet_of_text
  unfold Text.trim Text.trimChars Text.trimEnd
  rw [kept _ listed, kept _ fun c mem => listed c (List.mem_reverse.mp mem), List.reverse_reverse,
    String.ofList_toList]

theorem all_visible_text : id.text.toList.all isVisibleChar = true := by
  have visible : alphabet.all isVisibleChar = true := by decide
  exact List.all_eq_true.mpr fun c mem => List.all_eq_true.mp visible c (id.mem_alphabet_of_text c mem)

/-- A written identifier may stand in a header. -/
theorem headerValue_text : HeaderValue.ofString? id.text = some ⟨id.text⟩ := by
  have allowed : alphabet.all isHeaderChar = true := by decide
  rw [HeaderValue.ofString?, if_pos]
  exact List.all_eq_true.mpr fun c mem => List.all_eq_true.mp allowed c (id.mem_alphabet_of_text c mem)

end Ulid

end RequestDispatch
