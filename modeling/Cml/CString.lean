import Mathlib.Algebra.Group.Int
import Mathlib.Algebra.Group.Nat.Basic
import Mathlib.Data.List.Infix

set_option autoImplicit false

namespace Cml

/-- `0 == strncmp(s, t, n)` for strings without an embedded NUL: the first `n` characters agree,
the terminator counting as a character where a string is shorter. -/
def strncmpEq (s t : String) (n : Nat) : Bool :=
  s.data.take n == t.data.take n

/-- `strstr(hay, needle)` as the offset of the first occurrence, `none` for a NULL result. -/
def strstr (hay needle : List Char) : Option Nat :=
  if needle.isPrefixOf hay then some 0
  else match hay with
    | [] => none
    | _ :: rest => (strstr rest needle).map (· + 1)

/-- `printf("%d", x)` of an `unsigned int`: the bits are read back as a signed `int`. -/
def formatD (x : UInt32) : String :=
  toString x.toBitVec.toInt

theorem strncmpEq_length_iff (s t : String) :
    strncmpEq s t t.length = true ↔ t.data <+: s.data := by
  simp only [strncmpEq, String.length, List.take_length, beq_iff_eq]
  exact ⟨fun same => same ▸ List.take_prefix _ _,
    fun pre => List.prefix_iff_eq_take.mp pre |>.symm⟩

theorem strstr_eq_none_iff (hay needle : List Char) :
    strstr hay needle = none ↔ ∀ k, ¬ needle <+: hay.drop k := by
  induction hay with
  | nil =>
      by_cases empty : needle = []
      · subst empty
        simp [strstr]
      · simp [strstr, List.isPrefixOf_iff_prefix, empty]
  | cons c rest ih =>
      rw [strstr]
      by_cases here : needle <+: c :: rest
      · simp only [List.isPrefixOf_iff_prefix.mpr here, ↓reduceIte, reduceCtorEq, false_iff,
          not_forall, not_not]
        exact ⟨0, here⟩
      · have missed : needle.isPrefixOf (c :: rest) = false :=
          Bool.eq_false_iff.mpr (mt List.isPrefixOf_iff_prefix.mp here)
        simp only [missed, Bool.false_eq_true, ↓reduceIte, Option.map_eq_none', ih]
        constructor
        · intro never k
          cases k with
          | zero => exact here
          | succ k => exact never k
        · intro never k
          exact never (k + 1)

theorem strstr_eq_some_iff (hay needle : List Char) (k : Nat) :
    strstr hay needle = some k ↔ needle <+: hay.drop k ∧ ∀ j < k, ¬ needle <+: hay.drop j := by
  induction hay generalizing k with
  | nil =>
      by_cases empty : needle = []
      · subst empty
        cases k <;> simp [strstr]
        exact ⟨0, Nat.succ_pos _⟩
      · simp [strstr, List.isPrefixOf_iff_prefix, empty]
  | cons c rest ih =>
      rw [strstr]
      by_cases here : needle <+: c :: rest
      · simp only [List.isPrefixOf_iff_prefix.mpr here, ↓reduceIte, Option.some.injEq]
        constructor
        · rintro rfl
          exact ⟨here, fun j below => absurd below (Nat.not_lt_zero j)⟩
        · rintro ⟨-, least⟩
          exact (Nat.eq_zero_of_not_pos fun pos => least 0 pos here).symm
      · have missed : needle.isPrefixOf (c :: rest) = false :=
          Bool.eq_false_iff.mpr (mt List.isPrefixOf_iff_prefix.mp here)
        simp only [missed, Bool.false_eq_true, ↓reduceIte, Option.map_eq_some']
        cases k with
        | zero => simp [here]
        | succ k =>
            simp only [ih, Nat.add_right_cancel_iff, List.drop_succ_cons]
            constructor
            · rintro ⟨_, ⟨occurs, least⟩, rfl⟩
              refine ⟨occurs, fun j below => ?_⟩
              cases j with
              | zero => exact here
              | succ j => exact least j (Nat.lt_of_succ_lt_succ below)
            · rintro ⟨occurs, least⟩
              exact ⟨k, ⟨occurs, fun j below => least (j + 1) (Nat.succ_lt_succ below)⟩, rfl⟩

theorem exists_prefix_drop_iff_infix (hay needle : List Char) :
    (∃ k, needle <+: hay.drop k) ↔ needle <:+: hay := by
  constructor
  · rintro ⟨k, occurs⟩
    exact occurs.isInfix.trans (List.drop_suffix k hay).isInfix
  · rintro ⟨front, back, rfl⟩
    exact ⟨front.length, back, by simp [List.append_assoc, List.drop_left]⟩

theorem strstr_eq_none_iff_not_infix (hay needle : List Char) :
    strstr hay needle = none ↔ ¬ needle <:+: hay := by
  rw [strstr_eq_none_iff, ← exists_prefix_drop_iff_infix, not_exists]

end Cml
