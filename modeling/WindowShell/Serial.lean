/-
**Configure serials.**

Every message that asks the client for something carries a serial, and the client names it in its
answer. A serial is never zero, and a counter hands serials out in increasing order, so "has the
client caught up with this configure" is a comparison of numbers:

* `Serial.ofRaw?_eq_none_iff`: zero is the only raw number that is no serial;
* `SerialCounter.last?_allocate`: the last serial of a counter is the one it just handed out, as long
  as the counter has not reached the largest serial, where it stays.
-/

namespace WindowShell

/-- The number of a configure or ping; never zero. -/
structure Serial where
  val : UInt32
  /-- Zero is not a serial. -/
  ne_zero : val ≠ 0
deriving DecidableEq

namespace Serial

instance : LT Serial := ⟨fun first second => first.val < second.val⟩

instance : LE Serial := ⟨fun first second => first.val ≤ second.val⟩

instance (first second : Serial) : Decidable (first < second) :=
  inferInstanceAs (Decidable (first.val < second.val))

instance (first second : Serial) : Decidable (first ≤ second) :=
  inferInstanceAs (Decidable (first.val ≤ second.val))

instance : Ord Serial := ⟨fun first second => compare first.val second.val⟩

theorem ext {first second : Serial} (same : first.val = second.val) : first = second := by
  cases first; cases second; cases same; rfl

/-- The serial with the given number, if that is one. -/
def ofRaw? (raw : UInt32) : Option Serial :=
  if nonzero : raw ≠ 0 then some ⟨raw, nonzero⟩ else none

theorem ofRaw?_eq_none_iff {raw : UInt32} : ofRaw? raw = none ↔ raw = 0 := by
  unfold ofRaw?; split <;> simp_all

theorem ofRaw?_eq_some_iff {raw : UInt32} {serial : Serial} :
    ofRaw? raw = some serial ↔ raw = serial.val := by
  unfold ofRaw?
  split
  · simp only [Option.some.injEq]
    exact ⟨fun same => same ▸ rfl, fun same => ext same⟩
  · next zero =>
    simp only [reduceCtorEq, false_iff]
    intro same
    exact serial.ne_zero (same ▸ Decidable.not_not.mp zero)

/-- A serial is read back from its number. -/
@[simp] theorem ofRaw?_val (serial : Serial) : ofRaw? serial.val = some serial :=
  ofRaw?_eq_some_iff.mpr rfl

/-- The first serial. -/
def first : Serial := ⟨1, by decide⟩

/-- The serial after this one; the largest serial is followed by itself. -/
def next (serial : Serial) : Serial :=
  if below : serial.val + 1 ≠ 0 then ⟨serial.val + 1, below⟩ else serial

/-- The decimal text of a serial. -/
def text (serial : Serial) : String := toString serial.val.toNat

end Serial

/-- Hands out the serials of one client connection. -/
structure SerialCounter where
  next : Serial := .first
deriving DecidableEq

namespace SerialCounter

/-- The next serial and the counter behind it. -/
def allocate (counter : SerialCounter) : Serial × SerialCounter :=
  (counter.next, ⟨counter.next.next⟩)

/-- The serial handed out last: the one before the next. -/
def last? (counter : SerialCounter) : Option Serial := Serial.ofRaw? (counter.next.val - 1)

/-- Below the largest serial, the last serial is the one just handed out. -/
theorem last?_allocate (counter : SerialCounter) (below : counter.next.val + 1 ≠ 0) :
    counter.allocate.2.last? = some counter.allocate.1 := by
  have step : counter.next.next.val = counter.next.val + 1 := by simp [Serial.next, below]
  simp only [allocate, last?, step]
  rw [show counter.next.val + 1 - 1 = counter.next.val by grind]
  exact Serial.ofRaw?_val _

end SerialCounter

end WindowShell
