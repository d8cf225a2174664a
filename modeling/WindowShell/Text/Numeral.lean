/-
**Numerals.**

Reading and writing natural numbers in a base of up to sixteen. Digits above nine are written in
lower case and read in either.

* `read?_digits`: a written number is read back;
* `isDigit_of_mem_digits`: and it consists of digits of its base.
-/

namespace WindowShell.Numeral

/-- The value of a digit, in either case. -/
def digitValue? (c : Char) : Option Nat :=
  if '0' ≤ c ∧ c ≤ '9' then some (c.toNat - '0'.toNat)
  else if 'a' ≤ c ∧ c ≤ 'f' then some (c.toNat - 'a'.toNat + 10)
  else if 'A' ≤ c ∧ c ≤ 'F' then some (c.toNat - 'A'.toNat + 10)
  else none

/-- Whether a character is a digit of the base. -/
def isDigit (base : Nat) (c : Char) : Bool := (digitValue? c).any (· < base)

/-- Appends one digit to a number. -/
def append? (base : Nat) (value : Nat) (c : Char) : Option Nat :=
  (digitValue? c).bind fun digit => if digit < base then some (value * base + digit) else none

/-- The number that a non-empty text of digits stands for. -/
def read? (base : Nat) (text : List Char) : Option Nat :=
  if text = [] then none else text.foldlM (append? base) 0

/-- The digits of a number, without leading zeros. -/
def digits (base : Nat) (value : Nat) : List Char := Nat.toDigits base value

theorem digitValue?_digitChar {digit : Nat} (small : digit < 16) :
    digitValue? digit.digitChar = some digit := by
  have all : ∀ other ∈ List.range 16, digitValue? other.digitChar = some other := by decide
  exact all digit (List.mem_range.mpr small)

theorem append?_digitChar {base digit : Nat} (value : Nat) (small : digit < base)
    (bounded : base ≤ 16) : append? base value digit.digitChar = some (value * base + digit) := by
  simp [append?, digitValue?_digitChar (Nat.lt_of_lt_of_le small bounded), small]

/-- Reading the digits of a number gives the number. -/
theorem foldlM_digits {base : Nat} (large : 1 < base) (bounded : base ≤ 16) (value : Nat) :
    (digits base value).foldlM (append? base) 0 = some value := by
  induction value using Nat.strongRecOn with
  | ind value hypothesis =>
    rw [digits]
    by_cases small : value < base
    · rw [Nat.toDigits_of_lt_base small]
      simp [append?_digitChar 0 small bounded]
    · have pos : 0 < value := by omega
      rw [Nat.toDigits_of_base_le large (by omega), List.foldlM_append]
      have smaller := hypothesis (value / base) (Nat.div_lt_self pos large)
      rw [digits] at smaller
      rw [smaller]
      have last := append?_digitChar (value / base) (Nat.mod_lt value (by omega)) bounded
      simp only [Option.bind_eq_bind, Option.bind_some, List.foldlM_cons, List.foldlM_nil, last,
        Option.pure_def, Option.some.injEq]
      rw [Nat.mul_comm]
      exact Nat.div_add_mod value base

/-- A written number is read back. -/
theorem read?_digits {base : Nat} (large : 1 < base) (bounded : base ≤ 16) (value : Nat) :
    read? base (digits base value) = some value := by
  have some_digit : digits base value ≠ [] := Nat.toDigits_ne_nil
  rw [read?, if_neg some_digit, foldlM_digits large bounded]

/-- A text that is read consists of digits. -/
theorem isDigit_of_foldlM {base start value : Nat} {text : List Char}
    (read : text.foldlM (append? base) start = some value) : ∀ c ∈ text, isDigit base c := by
  induction text generalizing start with
  | nil => simp
  | cons c text ih =>
    obtain ⟨next, first, others⟩ := Option.bind_eq_some_iff.mp read
    refine List.forall_mem_cons.mpr ⟨?_, ih others⟩
    obtain ⟨digit, found, small⟩ := Option.bind_eq_some_iff.mp first
    split at small
    · next below => rw [isDigit, found, Option.any_some, decide_eq_true below]
    · cases small

/-- A written number consists of digits of its base. -/
theorem isDigit_of_mem_digits {base value : Nat} {c : Char} (large : 1 < base) (bounded : base ≤ 16)
    (member : c ∈ digits base value) : isDigit base c :=
  isDigit_of_foldlM (foldlM_digits large bounded value) c member

end WindowShell.Numeral
