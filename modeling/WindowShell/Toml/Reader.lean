/-
**Reading from the front of a text.**

A reader takes what it needs from the front of a text and leaves the rest, or it refuses the text.
Readers are sequenced by `do` and tried in turn by `<|>`. A repetition tries no more often than the
text has characters, which is often enough for a reader that takes something each time:

* `satisfying_cons`, `literal_append`, `spanning_append`: what the basic readers take.
-/

namespace WindowShell.Toml

/-- Reads from the front of a text, or refuses it. -/
abbrev Reader (α : Type) := StateT (List Char) Option α

namespace Reader

variable {α : Type}

/-- Takes one character that passes a test. -/
def satisfying (test : Char → Bool) : Reader Char := fun text =>
  match text with
  | [] => none
  | c :: rest => if test c then some (c, rest) else none

/-- Takes exactly the given characters. -/
def literal (expected : List Char) : Reader Unit := fun text =>
  (expected.isPrefixOf? text).map fun rest => ((), rest)

/-- Takes characters as long as they pass a test. -/
def spanning (test : Char → Bool) : Reader (List Char) := fun text =>
  some (text.takeWhile test, text.dropWhile test)

/-- Accepts the end of the text. -/
def ended : Reader Unit := fun text => if text = [] then some ((), []) else none

/-- Reads if possible, and takes nothing otherwise. -/
def attempt (reader : Reader α) : Reader (Option α) := fun text =>
  match reader text with
  | none => some (none, text)
  | some (value, rest) => some (some value, rest)

/-- Reads as often as possible, at most once for each character of a budget. -/
def manyWithin (reader : Reader α) : List Char → Reader (List α)
  | [] => pure []
  | _ :: budget => do
    match ← reader.attempt with
    | none => return []
    | some value => return value :: (← reader.manyWithin budget)

/-- Reads as often as possible. -/
def many (reader : Reader α) : Reader (List α) := do reader.manyWithin (← get)

/-- Reads at least once, and as often as possible. -/
def oneOrMore (reader : Reader α) : Reader (List α) := do return (← reader) :: (← reader.many)

/-- Reads a number of times. -/
def times (reader : Reader α) : Nat → Reader (List α)
  | 0 => pure []
  | count + 1 => do return (← reader) :: (← reader.times count)

/-- What a reader takes from a text, as text. -/
def written (reader : Reader α) : Reader (List Char) := do
  let before ← get
  let _ ← reader
  return before.take (before.length - (← get).length)

/-- Accepts only if a condition holds. -/
def require (condition : Bool) : Reader Unit := if condition then pure () else failure

/-- The whole text, read from front to end. -/
def whole? (reader : Reader α) (text : List Char) : Option α :=
  match reader text with
  | some (value, []) => some value
  | _ => none

/-! ## What the basic readers take -/

theorem satisfying_cons {test : Char → Bool} {c : Char} (passes : test c) (rest : List Char) :
    satisfying test (c :: rest) = some (c, rest) := by
  simp [satisfying, passes]

theorem literal_append (expected rest : List Char) :
    literal expected (expected ++ rest) = some ((), rest) := by
  have found : expected.isPrefixOf? (expected ++ rest) = some rest := by
    induction expected with
    | nil => rfl
    | cons c expected hypothesis =>
      change (if c == c then expected.isPrefixOf? (expected ++ rest) else none) = some rest
      rw [if_pos (beq_self_eq_true c), hypothesis]
  rw [literal, found]
  rfl

theorem spanning_append {test : Char → Bool} {front rest : List Char}
    (passes : ∀ c ∈ front, test c) (stops : ∀ c ∈ rest.head?, test c = false) :
    spanning test (front ++ rest) = some (front, rest) := by
  have taken : rest.takeWhile test = [] := by cases rest <;> simp_all
  have left : rest.dropWhile test = rest := by cases rest <;> simp_all
  simp only [spanning]
  rw [List.takeWhile_append_of_pos passes, List.dropWhile_append_of_pos passes, taken, left,
    List.append_nil]

end Reader

end WindowShell.Toml
