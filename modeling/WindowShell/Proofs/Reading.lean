/-
**What readers take from a text.**

A reader takes a value from the front of a text and leaves the rest, or it refuses the text. What a
compound reader does follows from its parts: a sequence goes on with what is left, an alternative is tried
where the first is refused, and a repetition goes on until it is refused.

* `Reads`, `Refuses`: what a reader does with a text, and how that goes together;
* `Turns`, `Turns.many`: the turns that a repetition takes;
* `Decimal`, `reads_natural`: a natural number is read from its digits;
* `Bare`, `Bare.reads_assignmentLine`: a line is read if its value is;
* `Written`, `Written.fields_read`: a document is read if its lines are.
-/

import Mathlib.Algebra.Group.Nat.Defs
import Mathlib.Data.List.Basic
import WindowShell.Toml.Document

namespace WindowShell.Toml

namespace Reader

variable {α β : Type} {reader first second : Reader α} {next : α → Reader β} {text rest last : List Char}
  {value : α} {result : β}

/-- A reader takes a value from the front of a text and leaves the rest. -/
def Reads (reader : Reader α) (text : List Char) (value : α) (rest : List Char) : Prop :=
  reader text = some (value, rest)

/-- A reader takes nothing from a text. -/
def Refuses (reader : Reader α) (text : List Char) : Prop := reader text = none

theorem Refuses.not_reads (refuses : Refuses reader text) : ¬ Reads reader text value rest := by
  rw [Reads, refuses]
  exact nofun

theorem refuses_of_not_reads (none : ∀ value rest, ¬ Reads reader text value rest) :
    Refuses reader text :=
  Option.eq_none_iff_forall_ne_some.mpr fun found => none found.1 found.2

/-! ### How readers go together -/

theorem reads_pure (value : α) (text : List Char) : Reads (pure value) text value text := rfl

theorem reads_get (text : List Char) : Reads get text text text := rfl

theorem Reads.bind (one : Reads first text value rest) (two : Reads (next value) rest result last) :
    Reads (first >>= next) text result last := by
  show (first text).bind (fun found => next found.1 found.2) = _
  rw [one]
  exact two

theorem Reads.refuses (one : Reads first text value rest) (two : Refuses (next value) rest) :
    Refuses (first >>= next) text := by
  show (first text).bind (fun found => next found.1 found.2) = _
  rw [one]
  exact two

theorem Refuses.bind (one : Refuses first text) (next : α → Reader β) :
    Refuses (first >>= next) text := by
  show (first text).bind (fun found => next found.1 found.2) = _
  rw [one]
  rfl

/-- What a sequence takes was taken by its parts, one after the other. -/
theorem Reads.of_bind (reads : Reads (first >>= next) text result last) :
    ∃ value rest, Reads first text value rest ∧ Reads (next value) rest result last := by
  obtain ⟨found, one, two⟩ := Option.bind_eq_some_iff.mp reads
  exact ⟨found.1, found.2, one, two⟩

/-- The first alternative counts if it is not refused. -/
theorem Reads.orElse (one : Reads first text value rest) (second : Reader α) :
    Reads (first <|> second) text value rest := by
  show (first text <|> second text) = _
  rw [one]
  rfl

/-- An alternative is tried where the one before it is refused. -/
theorem Refuses.orElse_reads (one : Refuses first text) (two : Reads second text value rest) :
    Reads (first <|> second) text value rest := by
  show (first text <|> second text) = _
  rw [one]
  exact two

theorem Refuses.orElse (one : Refuses first text) (two : Refuses second text) :
    Refuses (first <|> second) text := by
  show (first text <|> second text) = _
  rw [one]
  exact two

theorem Reads.attempt (reads : Reads reader text value rest) :
    Reads reader.attempt text (some value) rest := by
  rw [Reads, Reader.attempt, reads]

theorem Refuses.attempt (refuses : Refuses reader text) : Reads reader.attempt text none text := by
  rw [Reads, Reader.attempt, refuses]

theorem left_of_require {condition : Bool} (reads : Reads (require condition) text () rest) :
    rest = text := by
  cases condition with
  | false => cases reads
  | true => exact (Prod.mk.inj (Option.some.inj reads)).2.symm

theorem reads_require {condition : Bool} (holds : condition) (text : List Char) :
    Reads (require condition) text () text := by
  rw [require, if_pos holds]
  rfl

/-! ### Single characters -/

theorem reads_satisfying {test : Char → Bool} {c : Char} (passes : test c) (rest : List Char) :
    Reads (satisfying test) (c :: rest) c rest :=
  satisfying_cons passes rest

/-- A text whose first character fails the test is refused, and so is the empty one. -/
theorem refuses_satisfying {test : Char → Bool} (fails : ∀ c ∈ text.head?, test c = false) :
    Refuses (satisfying test) text := by
  cases text with
  | nil => rfl
  | cons c rest =>
    show (if test c then some (c, rest) else none) = none
    rw [fails c rfl]
    rfl

theorem append_of_literal {expected : List Char} (reads : Reads (literal expected) text () rest) :
    expected ++ rest = text := by
  obtain ⟨left, found, same⟩ := Option.map_eq_some_iff.mp reads
  obtain rfl := (Prod.mk.inj same).2
  exact List.isPrefixOf?_eq_some_iff_append_eq.mp found

theorem refuses_literal {c : Char} {expected : List Char} (differs : text.head? ≠ some c) :
    Refuses (literal (c :: expected)) text := by
  cases text with
  | nil => rfl
  | cons d rest =>
    have other : (c == d) = false := beq_false_of_ne fun same => differs (same ▸ rfl)
    show ((if c == d then expected.isPrefixOf? rest else none).map fun rest => ((), rest)) = none
    rw [other]
    rfl

/-! ### Repetitions -/

/-- **The turns of a repetition**: it goes on as long as the reader takes something. -/
inductive Turns (reader : Reader α) : List Char → List α → List Char → Prop
  | stop {text : List Char} (refuses : Refuses reader text) : Turns reader text [] text
  | turn {text rest last : List Char} {value : α} {values : List α}
      (reads : Reads reader text value rest) (shorter : rest.length < text.length)
      (onward : Turns reader rest values last) : Turns reader text (value :: values) last

theorem Turns.manyWithin {values : List α} (turns : Turns reader text values rest)
    (budget : List Char) (enough : text.length ≤ budget.length) :
    Reads (reader.manyWithin budget) text values rest := by
  induction turns generalizing budget with
  | stop refuses =>
    cases budget with
    | nil => exact reads_pure [] _
    | cons _ budget => exact .bind refuses.attempt (reads_pure [] _)
  | turn reads shorter onward ih =>
    cases budget with
    | nil => rw [List.length_nil] at enough; omega
    | cons _ budget =>
      rw [List.length_cons] at enough
      exact .bind reads.attempt (.bind (ih budget (by omega)) (reads_pure _ _))

/-- There are enough turns, because each of them takes a character. -/
theorem Turns.many {values : List α} (turns : Turns reader text values rest) :
    Reads reader.many text values rest :=
  .bind (reads_get text) (turns.manyWithin text (Nat.le_refl _))

/-- A repetition takes nothing where the reader is refused. -/
theorem Refuses.many (refuses : Refuses reader text) : Reads reader.many text [] text :=
  (Turns.stop refuses).many

/-- A repetition over characters takes those that pass the test. -/
theorem turns_satisfying {test : Char → Bool} {front : List Char} (passes : ∀ c ∈ front, test c)
    (stops : ∀ c ∈ rest.head?, test c = false) :
    Turns (satisfying test) (front ++ rest) front rest := by
  induction front with
  | nil => exact .stop (refuses_satisfying stops)
  | cons c front ih =>
    obtain ⟨first, others⟩ := List.forall_mem_cons.mp passes
    exact .turn (reads_satisfying first _) (Nat.lt_succ_self _) (ih others)

theorem reads_oneOrMore {test : Char → Bool} {front : List Char} (filled : front ≠ [])
    (passes : ∀ c ∈ front, test c) (stops : ∀ c ∈ rest.head?, test c = false) :
    Reads (satisfying test).oneOrMore (front ++ rest) front rest := by
  cases front with
  | nil => exact absurd rfl filled
  | cons c front =>
    obtain ⟨first, others⟩ := List.forall_mem_cons.mp passes
    exact .bind (reads_satisfying first _) (.bind (turns_satisfying others stops).many (reads_pure _ _))

end Reader

open Reader

/-! ### Spaces and line ends -/

/-- A text goes on with the next line, or it is at its end. -/
def AtLineEnd (text : List Char) : Prop := ∀ c ∈ text.head?, c = '\n'

/-- What comes after the line of which the end is left. -/
inductive EndsLine : List Char → List Char → Prop
  | feed (rest : List Char) : EndsLine ('\n' :: rest) rest
  | done : EndsLine [] []

section Lines

variable {text rest : List Char}

theorem AtLineEnd.head?_ne (ends : AtLineEnd text) {c : Char} (other : c ≠ '\n') :
    text.head? ≠ some c := fun same => other (ends c same)

theorem EndsLine.atLineEnd (ends : EndsLine text rest) : AtLineEnd text := by
  cases ends with
  | feed => exact fun c member => (Option.some.inj member).symm
  | done => exact fun c member => by cases member

theorem reads_gap {front : List Char} (blank : ∀ c ∈ front, isGap c)
    (stops : ∀ c ∈ rest.head?, isGap c = false) : Reads gap (front ++ rest) () rest :=
  .bind (spanning_append blank stops) (reads_pure _ _)

/-- Nothing is taken where no blank stands. -/
theorem reads_no_gap (stops : ∀ c ∈ text.head?, isGap c = false) : Reads gap text () text :=
  reads_gap (List.forall_mem_nil _) stops

/-- A character that passes a test that blanks fail is no blank. -/
theorem solid_of_passes {test : Char → Bool} {c : Char} (passes : test c) (space : test ' ' = false)
    (tab : test '\t' = false) : isGap c = false := by
  cases gapped : isGap c with
  | false => rfl
  | true =>
    simp only [isGap, Bool.or_eq_true, decide_eq_true_eq] at gapped
    rcases gapped with rfl | rfl
    · exact absurd (passes.symm.trans space) (by decide)
    · exact absurd (passes.symm.trans tab) (by decide)

theorem EndsLine.reads_trailing (ends : EndsLine text rest) : Reads trailing text () rest := by
  have solid : ∀ c ∈ text.head?, isGap c = false := fun c member => ends.atLineEnd c member ▸ rfl
  have plain : Refuses comment text := (refuses_literal (ends.atLineEnd.head?_ne (by decide))).bind _
  refine .bind (reads_no_gap solid) (.bind plain.attempt ?_)
  cases ends with
  | feed => exact .orElse (.orElse (literal_append ['\n'] rest) _) _
  | done => rfl

/-- A line that begins with something else than a blank or a comment is not empty, and neither is the end
of a text. (The last of the characters is the mark that a document may begin with.) -/
theorem refuses_emptyLine (solid : ∀ c ∈ text.head?, isGap c = false ∧ c ∉ ['\n', '\r', '#', '\ufeff']) :
    Refuses emptyLine text := by
  have other : ∀ d ∈ ['\n', '\r', '#', '\ufeff'], text.head? ≠ some d := fun d member same =>
    (solid d same).2 member
  refine (reads_no_gap fun c member => (solid c member).1).refuses ?_
  refine .orElse (.orElse (refuses_literal (other _ (by simp))) (refuses_literal (other _ (by simp)))) ?_
  exact .bind (.bind (refuses_literal (other _ (by simp))) _) _

end Lines

/-! ### Natural numbers -/

section Numbers

variable {text rest digits : List Char}

/-- All characters are decimal digits. -/
def Decimal (digits : List Char) : Prop := ∀ c ∈ digits, Numeral.isDigit 10 c

theorem Decimal.head?_ne (decimal : Decimal digits) (ends : AtLineEnd rest) {c : Char}
    (other : Numeral.isDigit 10 c = false) (differs : c ≠ '\n') : (digits ++ rest).head? ≠ some c := by
  cases digits with
  | nil => exact ends.head?_ne differs
  | cons d digits =>
    intro same
    have digit := (List.forall_mem_cons.mp decimal).1
    rw [Option.some.inj same, other] at digit
    cases digit

theorem Decimal.solid (decimal : Decimal digits) : ∀ c ∈ digits, isGap c = false := fun c member =>
  solid_of_passes (decimal c member) rfl rfl

theorem refuses_digit (ends : AtLineEnd rest) : Refuses (satisfying (Numeral.isDigit 10)) rest :=
  refuses_satisfying fun c member => ends c member ▸ rfl

theorem Decimal.reads_digitRun (decimal : Decimal digits) (filled : digits ≠ [])
    (ends : AtLineEnd rest) : Reads (digitRun 10) (digits ++ rest) digits rest := by
  have plain : ∀ {more}, Decimal more →
      Reads (literal ['_']).attempt (more ++ rest) none (more ++ rest) := fun decimal =>
    (refuses_literal (decimal.head?_ne ends rfl (by decide))).attempt
  have turns : ∀ more, Decimal more → Turns (do
      let _ ← (literal ['_']).attempt
      satisfying (Numeral.isDigit 10)) (more ++ rest) more rest := by
    intro more decimal
    induction more with
    | nil => exact .stop ((plain decimal).refuses (refuses_digit ends))
    | cons c more ih =>
      obtain ⟨first, others⟩ := List.forall_mem_cons.mp decimal
      exact .turn ((plain decimal).bind (reads_satisfying first _)) (Nat.lt_succ_self _) (ih others)
  cases digits with
  | nil => exact absurd rfl filled
  | cons c digits =>
    obtain ⟨first, others⟩ := List.forall_mem_cons.mp decimal
    exact .bind (reads_satisfying first _) (.bind (turns digits others).many (reads_pure _ _))

/-- A sign is not there where a digit is. -/
theorem Decimal.reads_no_sign (decimal : Decimal digits) (ends : AtLineEnd rest) :
    Reads sign (digits ++ rest) false (digits ++ rest) :=
  (Refuses.bind (refuses_literal (decimal.head?_ne ends rfl (by decide))) _).orElse_reads
    ((Refuses.bind (refuses_literal (decimal.head?_ne ends rfl (by decide))) _).orElse_reads
      (reads_pure _ _))

/-- Some digits of a number are read, and what is left are the others. -/
theorem Decimal.of_times (decimal : Decimal digits) (ends : AtLineEnd rest) {count : Nat}
    {values left : List Char}
    (reads : Reads ((satisfying (Numeral.isDigit 10)).times count) (digits ++ rest) values left) :
    ∃ others, Decimal others ∧ left = others ++ rest := by
  induction count generalizing digits values with
  | zero =>
    obtain ⟨-, rfl⟩ := Prod.mk.inj (Option.some.inj reads)
    exact ⟨digits, decimal, rfl⟩
  | succ count ih =>
    obtain ⟨c, onward, one, behind⟩ := reads.of_bind
    obtain ⟨following, last, more, done⟩ := behind.of_bind
    obtain ⟨-, rfl⟩ := Prod.mk.inj (Option.some.inj done)
    cases digits with
    | nil => exact absurd one (refuses_digit ends).not_reads
    | cons d digits =>
      obtain ⟨first, others⟩ := List.forall_mem_cons.mp decimal
      obtain ⟨-, rfl⟩ := Prod.mk.inj (Option.some.inj ((reads_satisfying first _).symm.trans one))
      exact ih others more

/-- Whatever a number of a date or time takes from a plain number, no separator comes after it. -/
theorem Decimal.refuses_separated (decimal : Decimal digits) (ends : AtLineEnd rest) {separator : Char}
    (other : Numeral.isDigit 10 separator = false) (differs : separator ≠ '\n') {α : Type}
    {count low high : Nat} {next : Nat → Unit → Reader α} :
    Refuses (fixedNumber count low high >>= fun value => literal [separator] >>= next value)
      (digits ++ rest) := by
  refine refuses_of_not_reads fun value last reads => ?_
  obtain ⟨number, left, fixed, separated⟩ := reads.of_bind
  obtain ⟨_, onward, separate, -⟩ := separated.of_bind
  obtain ⟨values, between, taken, checked⟩ := fixed.of_bind
  obtain ⟨_, _, required, done⟩ := checked.of_bind
  obtain rfl := left_of_require required
  obtain ⟨-, rfl⟩ := Prod.mk.inj (Option.some.inj done)
  obtain ⟨others, more, rfl⟩ := decimal.of_times ends taken
  exact (refuses_literal (more.head?_ne ends other differs)).not_reads separate

/-- A plain number is no date and no time. -/
theorem Decimal.refuses_moment (decimal : Decimal digits) (ends : AtLineEnd rest) :
    Refuses moment (digits ++ rest) := by
  refine Refuses.bind (Reads.refuses (reads_get _) (Refuses.bind (.orElse (.bind ?_ _) (.bind ?_ _)) _)) _
  · exact decimal.refuses_separated ends rfl (by decide)
  · exact decimal.refuses_separated ends rfl (by decide)

/-- A plain number has no prefix. -/
theorem Decimal.refuses_prefixedInteger (decimal : Decimal digits) (ends : AtLineEnd rest) :
    Refuses prefixedInteger (digits ++ rest) := by
  have plain : ∀ letter base, Numeral.isDigit 10 letter = false → letter ≠ '\n' →
      Refuses (prefixed letter base) (digits ++ rest) := by
    intro letter base other differs
    refine Refuses.bind (refuses_of_not_reads fun _ left reads => ?_) _
    have same := append_of_literal reads
    rcases digits with _ | ⟨first, digits⟩
    · have behind : '0' :: letter :: left = rest := same
      exact absurd (ends '0' (behind ▸ rfl)) (by decide)
    · have behind : letter :: left = digits ++ rest := (List.cons.inj same).2
      have more : Decimal digits := (List.forall_mem_cons.mp decimal).2
      exact more.head?_ne ends other differs (behind ▸ rfl)
  exact .bind (.orElse (plain _ _ rfl (by decide)) (.orElse (plain _ _ rfl (by decide))
    (plain _ _ rfl (by decide)))) _

theorem decimal_digits (value : Nat) : Decimal (Numeral.digits 10 value) := fun _ member =>
  Numeral.isDigit_of_mem_digits (by decide) (by decide) member

/-- A number other than zero does not begin with a zero. -/
theorem head?_digits {value : Nat} (pos : 0 < value) : (Numeral.digits 10 value).head? ≠ some '0' := by
  induction value using Nat.strongRecOn with
  | ind value ih =>
    rw [Numeral.digits]
    by_cases small : value < 10
    · rw [Nat.toDigits_of_lt_base small]
      have all : ∀ digit < 10, 0 < digit → [digit.digitChar].head? ≠ some '0' := by decide
      exact all value small pos
    · rw [Nat.toDigits_of_base_le (by decide) (by omega),
        List.head?_append_of_ne_nil _ Nat.toDigits_ne_nil]
      exact ih (value / 10) (by omega) (by omega)

theorem isDecimal_digits (value : Nat) : isDecimal (Numeral.digits 10 value) := by
  rcases Nat.eq_zero_or_pos value with rfl | pos
  · rfl
  · simp [isDecimal, head?_digits pos]

variable {value : Nat}

theorem reads_integerOf (fits : value ≤ 2 ^ 63 - 1) (text : List Char) :
    Reads (integerOf false 10 (Numeral.digits 10 value)) text (.int value) text := by
  have small : int64? false value = some (value : Int) := by
    rw [int64?]
    exact if_pos (by simp only [Bool.false_eq_true, if_false]; omega)
  rw [integerOf, Numeral.read?_digits (by decide) (by decide), Option.bind_some, small]
  exact reads_pure _ _

/-- Digits at the end of a line are an integer: neither a fraction nor an exponent follows. -/
theorem reads_decimal (fits : value ≤ 2 ^ 63 - 1) (ends : AtLineEnd rest) :
    Reads decimal (Numeral.digits 10 value ++ rest) (.int value) rest := by
  have decimal := decimal_digits value
  have noFraction : Refuses fraction rest := (refuses_literal (ends.head?_ne (by decide))).bind _
  have noExponent : Refuses exponent rest :=
    (refuses_satisfying fun c member => ends c member ▸ rfl).bind _
  refine .bind (reads_get _) (.bind (decimal.reads_no_sign ends) (.bind
    (decimal.reads_digitRun Nat.toDigits_ne_nil ends) (.bind (reads_require (isDecimal_digits value) _)
      (.bind noFraction.attempt (.bind noExponent.attempt ?_)))))
  exact reads_integerOf fits rest

/-- **A natural number is read from its digits**, if it fits 64 bits with a sign. -/
theorem reads_natural (fits : value ≤ 2 ^ 63 - 1) (ends : AtLineEnd rest) :
    Reads scalar (Numeral.digits 10 value ++ rest) (.int value) rest := by
  have decimal := decimal_digits value
  have double := decimal.head?_ne ends (c := '"') rfl (by decide)
  have single := decimal.head?_ne ends (c := '\'') rfl (by decide)
  have unquoted : Refuses quoted (Numeral.digits 10 value ++ rest) :=
    .orElse (.bind (refuses_literal double) _) (.orElse (.bind (refuses_literal double) _)
      (.orElse (.bind (refuses_literal single) _) (.bind (refuses_literal single) _)))
  refine (Refuses.bind unquoted _).orElse_reads ((decimal.refuses_moment ends).orElse_reads
    (.orElse ?_ _))
  exact (decimal.refuses_prefixedInteger ends).orElse_reads ((reads_decimal fits ends).orElse _)

end Numbers

/-- A truth value is read from its name. -/
theorem reads_truth (value : Bool) (rest : List Char) :
    Reads scalar ((toString value).toList ++ rest) (.bool value) rest := by
  cases value <;> rfl

/-! ### Assignments -/

section Assignments

variable {text rest last name : List Char} {found : Value}

/-- A key is written without quotes. -/
structure Bare (name : List Char) : Prop where
  filled : name ≠ []
  bare : ∀ c ∈ name, isBare c

/-- Such a key begins neither with a blank nor as an empty line does. -/
theorem solid_of_isBare {c : Char} (bare : isBare c) :
    isGap c = false ∧ c ∉ ['\n', '\r', '#', '\ufeff'] := by
  refine ⟨solid_of_passes bare rfl rfl, ?_⟩
  simp only [List.mem_cons, List.not_mem_nil, or_false, not_or]
  refine ⟨?_, ?_, ?_, ?_⟩ <;> rintro rfl <;> cases bare

theorem Bare.head (bare : Bare name) : ∀ c ∈ (name ++ rest).head?, isBare c := by
  intro c member
  rw [List.head?_append_of_ne_nil _ bare.filled] at member
  exact bare.bare c (List.mem_of_mem_head? member)

theorem Bare.reads_key (bare : Bare name) (rest : List Char) :
    Reads key (name ++ ' ' :: '=' :: rest) [String.ofList name] ('=' :: rest) := by
  have blank : Reads gap (' ' :: '=' :: rest) () ('=' :: rest) :=
    reads_gap (List.forall_mem_singleton.mpr rfl) fun c member => by
      rw [← Option.some.inj member]
      rfl
  have part : Reads keyPart (name ++ ' ' :: '=' :: rest) (String.ofList name) (' ' :: '=' :: rest) := by
    refine .bind (.orElse (reads_oneOrMore bare.filled bare.bare fun c member => ?_) _) (reads_pure _ _)
    rw [← Option.some.inj member]
    rfl
  refine .bind (.bind (reads_no_gap fun c member => (solid_of_isBare (bare.head c member)).1)
    (.bind part (.bind blank (reads_pure _ _)))) (.bind (Refuses.many (.bind (refuses_literal ?_) _)) ?_)
  · exact fun same => absurd (Option.some.inj same) (by decide)
  · exact .bind (reads_require rfl _) (reads_pure _ _)

theorem reads_value (reads : Reads scalar text found rest) (depth : Nat) :
    Reads (value depth) text found rest := by
  cases depth with
  | zero => exact reads
  | succ depth => exact reads.orElse _

/-- **A line is read if its value is.** -/
theorem Bare.reads_assignmentLine (bare : Bare name) (reads : Reads scalar text found rest)
    (solid : ∀ c ∈ text.head?, isGap c = false) (ends : EndsLine rest last) :
    Reads assignmentLine (name ++ ' ' :: '=' :: ' ' :: text) ([String.ofList name], found) last := by
  have equals := literal_append ['='] (' ' :: text)
  have blank : Reads gap (' ' :: text) () text := reads_gap (List.forall_mem_singleton.mpr rfl) solid
  refine .bind (.bind (bare.reads_key _) (.bind equals (.bind blank (.bind (reads_value reads _)
    (reads_pure _ _))))) ?_
  exact .bind ends.reads_trailing (reads_pure _ _)

end Assignments

/-! ### Documents -/

/-- A line that assigns a value to a key. -/
structure Line where
  name : String
  /-- The value as it is written. -/
  text : List Char
  found : Value

namespace Line

/-- The characters of a line. -/
def chars (line : Line) : List Char := line.name.toList ++ ' ' :: '=' :: ' ' :: line.text

/-- The assignment that a line stands for. -/
def pair (line : Line) : List String × Value := ([line.name], line.found)

/-- A line is well written. -/
structure Valid (line : Line) : Prop where
  bare : Bare line.name.toList
  filled : line.text ≠ []
  solid : ∀ c ∈ line.text.head?, isGap c = false
  /-- The value is read up to the end of the line. -/
  reads : ∀ rest, AtLineEnd rest → Reads scalar (line.text ++ rest) line.found rest

theorem Valid.reads_chars {line : Line} {rest last : List Char} (valid : line.Valid)
    (ends : EndsLine rest last) : Reads assignmentLine (line.chars ++ rest) line.pair last := by
  rw [chars, List.append_assoc, List.cons_append, List.cons_append, List.cons_append]
  have solid : ∀ c ∈ (line.text ++ rest).head?, isGap c = false := by
    rw [List.head?_append_of_ne_nil _ valid.filled]
    exact valid.solid
  have reads := valid.bare.reads_assignmentLine (valid.reads rest ends.atLineEnd) solid ends
  rwa [String.ofList_toList] at reads

end Line

/-- Lines written one after the other, with or without a line feed behind the last one. -/
inductive Written : List Line → List Char → Prop
  | nil : Written [] []
  | last (line : Line) : Written [line] line.chars
  | cons (line : Line) {lines : List Line} {text : List Char} (others : Written lines text) :
      Written (line :: lines) (line.chars ++ '\n' :: text)

section Documents

variable {lines : List Line} {text : List Char}

theorem Written.solid (written : Written lines text) (valid : ∀ line ∈ lines, line.Valid) :
    ∀ c ∈ text.head?, isGap c = false ∧ c ∉ ['\n', '\r', '#', '\ufeff'] := by
  intro c member
  cases written with
  | nil => cases member
  | last line => exact solid_of_isBare ((valid line (by simp)).bare.head c member)
  | cons line others =>
    rw [Line.chars, List.append_assoc] at member
    exact solid_of_isBare ((valid line (by simp)).bare.head c member)

/-- **Lines are read one after the other.** -/
theorem Written.turns (written : Written lines text) (valid : ∀ line ∈ lines, line.Valid) :
    Turns (do
      let pair ← assignmentLine
      let _ ← emptyLine.many
      return pair) text (lines.map Line.pair) [] := by
  induction written with
  | nil => exact .stop rfl
  | last line =>
    have reads := (valid line (by simp)).reads_chars .done
    rw [List.append_nil] at reads
    refine .turn (.bind reads (.bind (Refuses.many rfl) (reads_pure _ _))) ?_ (.stop rfl)
    rw [Line.chars, List.length_append]
    exact Nat.lt_add_left _ (Nat.succ_pos _)
  | cons line others ih =>
    obtain ⟨first, rest⟩ := List.forall_mem_cons.mp valid
    refine .turn (.bind (first.reads_chars (.feed _)) (.bind
      (refuses_emptyLine (others.solid rest)).many (reads_pure _ _))) ?_ (ih rest)
    rw [List.length_append, List.length_cons]
    omega

theorem Written.reads_document (written : Written lines text) (valid : ∀ line ∈ lines, line.Valid) :
    Reads document text (lines.map Line.pair, []) [] := by
  have solid := written.solid valid
  have unmarked : Refuses (literal ['\ufeff']) text := refuses_literal fun same =>
    (solid '\ufeff' same).2 (by simp)
  have root : Reads assignments text (lines.map Line.pair) [] :=
    .bind (refuses_emptyLine solid).many (.bind (written.turns valid).many (.bind rfl (reads_pure _ _)))
  exact .bind unmarked.attempt (.bind root (.bind (Refuses.many rfl) (reads_pure _ _)))

theorem assign_simple {entries : Entries} {name : String} (new : entries.lookup name = none)
    (found : Value) : entries.assign [name] found = some (entries ++ [(name, .leaf found)]) := by
  simp [Entries.assign, Entries.changeAt, new]

/-- Keys that differ make a table of their values. -/
theorem assignAll_lines {entries : Entries} (distinct : (lines.map Line.name).Nodup)
    (new : ∀ line ∈ lines, entries.lookup line.name = none) :
    entries.assignAll (lines.map Line.pair) =
      some (entries ++ lines.map fun line => (line.name, .leaf line.found)) := by
  induction lines generalizing entries with
  | nil => rw [List.map_nil, List.map_nil, List.append_nil]; rfl
  | cons line lines ih =>
    obtain ⟨apart, distinct⟩ := List.nodup_cons.mp distinct
    obtain ⟨first, others⟩ := List.forall_mem_cons.mp new
    have later : ∀ other ∈ lines,
        (entries ++ [(line.name, Node.leaf line.found)]).lookup other.name = none := by
      intro other member
      have differs : other.name ≠ line.name := fun same => apart (same ▸ List.mem_map_of_mem member)
      simp [List.lookup_append, others other member, List.lookup_cons, beq_false_of_ne differs]
    rw [List.map_cons, Entries.assignAll, List.foldlM_cons, Line.pair, assign_simple first]
    refine (ih distinct later).trans ?_
    rw [List.append_assoc, List.singleton_append, List.map_cons]

theorem fieldsOf_lines (lines : List Line) :
    fieldsOf (lines.map fun line => (line.name, .leaf line.found)) =
      lines.map fun line => (line.name, line.found) := by
  induction lines with
  | nil => rfl
  | cons line lines ih => rw [List.map_cons, fieldsOf, ih, Node.toValue, List.map_cons]

/-- **A document of simple lines is read**, if no key comes twice. -/
theorem Written.fields_read (written : Written lines text) (valid : ∀ line ∈ lines, line.Valid)
    (distinct : (lines.map Line.name).Nodup) :
    read? (String.ofList text) = some (lines.map fun line => (line.name, line.found)) := by
  have whole : document.whole? text = some (lines.map Line.pair, []) := by
    rw [whole?, written.reads_document valid]
  have root : Entries.assignAll [] (lines.map Line.pair) =
      some ([] ++ lines.map fun line => (line.name, .leaf line.found)) :=
    assignAll_lines distinct fun _ _ => rfl
  rw [Toml.read?, String.toList_ofList, whole]
  simp only [Option.bind_eq_bind, Option.bind_some, root, List.nil_append, List.foldlM_nil,
    Option.pure_def, fieldsOf_lines]

end Documents

end WindowShell.Toml
