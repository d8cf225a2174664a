/-
**The supply of serials.**

A fresh counter hands out 1, 2, 3 and so on. There are no more serials than numbers of 32 bits, and a
counter that has come to the largest one stays there instead of starting over: from then on it hands out
nothing else.

* `Serial.toNat_next`: the serial after a serial, as a number;
* `handOut`, `numbers_handOut`: what a counter hands out, as numbers;
* `serials_rise_to_the_largest`: so all serials are different up to the largest one, and each is known as
  the last one until another is taken;
* `largest_serial_repeats`: the largest serial comes twice, and the counter does not know it for the last.
-/

import Mathlib.Algebra.Group.Nat.Defs
import Mathlib.Data.List.Nodup
import Mathlib.Data.List.Range
import WindowShell.Serial

namespace WindowShell

namespace Serial

/-- No serial is larger. -/
def largest : Serial := ⟨4294967295, by decide⟩

theorem toNat_le_largest (serial : Serial) : serial.val.toNat ≤ 2 ^ 32 - 1 :=
  Nat.le_pred_of_lt serial.val.toNat_lt

theorem toNat_val_add_one (serial : Serial) :
    (serial.val + 1).toNat = (serial.val.toNat + 1) % 2 ^ 32 := UInt32.toNat_add _ _

/-- Only behind the largest serial there is none. -/
theorem val_add_one_eq_zero_iff (serial : Serial) :
    serial.val + 1 = 0 ↔ serial.val.toNat = 2 ^ 32 - 1 := by
  have bound := serial.toNat_le_largest
  rw [← UInt32.toNat_inj, toNat_val_add_one]
  show _ = 0 ↔ _
  omega

/-- Serials count upwards, and the largest one is followed by itself. -/
theorem toNat_next (serial : Serial) :
    serial.next.val.toNat = min (serial.val.toNat + 1) (2 ^ 32 - 1) := by
  have bound := serial.toNat_le_largest
  unfold next
  split
  · next below =>
    have short := mt serial.val_add_one_eq_zero_iff.mpr below
    have sum := serial.toNat_val_add_one
    show (serial.val + 1).toNat = _
    omega
  · next wraps =>
    have last := serial.val_add_one_eq_zero_iff.mp (Decidable.not_not.mp wraps)
    omega

end Serial

namespace SerialCounter

/-- Takes so many serials in a row. Each is listed with the counter as it is afterwards. -/
def handOut (counter : SerialCounter) : Nat → List (Serial × SerialCounter)
  | 0 => []
  | count + 1 => counter.allocate :: counter.allocate.2.handOut count

section Supply

variable {counter : SerialCounter} {count : Nat} {entry : Serial × SerialCounter}

/-- **A counter counts**, from the next serial up to the largest one. -/
theorem numbers_handOut (counter : SerialCounter) (count : Nat) :
    (counter.handOut count).map (fun entry => entry.1.val.toNat) =
      (List.range count).map fun place => min (counter.next.val.toNat + place) (2 ^ 32 - 1) := by
  induction count generalizing counter with
  | zero => rfl
  | succ count ih =>
    have bound := counter.next.toNat_le_largest
    rw [handOut, List.map_cons, ih, List.range_succ_eq_map, List.map_cons, List.map_map]
    refine congrArg₂ List.cons (by simp only [allocate]; omega) (List.map_congr_left fun place _ => ?_)
    simp only [allocate, Serial.toNat_next, Function.comp_apply]
    omega

theorem length_handOut (counter : SerialCounter) (count : Nat) :
    (counter.handOut count).length = count := by
  induction count generalizing counter with
  | zero => rfl
  | succ count ih => rw [handOut, List.length_cons, ih]

/-- Behind a serial the counter stands at the one after it. -/
theorem behind_of_mem (member : entry ∈ counter.handOut count) : entry = allocate ⟨entry.1⟩ := by
  induction count generalizing counter with
  | zero => cases member
  | succ count ih =>
    rcases List.mem_cons.mp member with rfl | later
    · rfl
    · exact ih later

/-- Short of the largest serial, the counter knows what it handed out last. -/
theorem last?_of_mem (member : entry ∈ counter.handOut count)
    (short : entry.1.val.toNat < 2 ^ 32 - 1) : entry.2.last? = some entry.1 := by
  have apart : entry.1.val + 1 ≠ 0 := mt entry.1.val_add_one_eq_zero_iff.mp (Nat.ne_of_lt short)
  rw [behind_of_mem member]
  exact last?_allocate ⟨entry.1⟩ apart

end Supply

/-- What a fresh counter hands out at a place. -/
theorem number_at {count place : Nat} (inside : place < count) :
    ∃ entry, (({} : SerialCounter).handOut count)[place]? = some entry ∧
      entry.1.val.toNat = min (1 + place) (2 ^ 32 - 1) := by
  have number : ((({} : SerialCounter).handOut count).map fun entry => entry.1.val.toNat)[place]? =
      some (min (1 + place) (2 ^ 32 - 1)) := by
    rw [numbers_handOut, List.getElem?_map, List.getElem?_range inside]
    rfl
  rw [List.getElem?_map] at number
  exact Option.map_eq_some_iff.mp number

/-- **Serials rise to the largest one.** However many serials a fresh counter hands out, they are 1, 2, 3
and so on up to the largest one, which is repeated from then on. So none is zero and none is smaller than
one before; up to the largest one they rise and no two are the same. As long as the largest serial was not
handed out, the last serial is the one just handed out. -/
theorem serials_rise_to_the_largest (count : Nat) :
    ((({} : SerialCounter).handOut count).map fun entry => entry.1.val.toNat) =
        ((List.range count).map fun place => min (1 + place) (2 ^ 32 - 1)) ∧
      (∀ entry ∈ ({} : SerialCounter).handOut count, entry.1.val ≠ 0) ∧
      ((({} : SerialCounter).handOut count).map Prod.fst).Pairwise (· ≤ ·) ∧
      (((({} : SerialCounter).handOut count).map Prod.fst).take (2 ^ 32 - 1)).Pairwise (· < ·) ∧
      (((({} : SerialCounter).handOut count).map Prod.fst).take (2 ^ 32 - 1)).Nodup ∧
      ∀ entry ∈ ({} : SerialCounter).handOut count, entry.1.val.toNat < 2 ^ 32 - 1 →
        entry.2.last? = some entry.1 := by
  have numbers : ((({} : SerialCounter).handOut count).map Prod.fst).map (fun serial => serial.val.toNat) =
      (List.range count).map fun place => min (1 + place) (2 ^ 32 - 1) :=
    List.map_map.trans (numbers_handOut {} count)
  have rise : (((({} : SerialCounter).handOut count).map Prod.fst).take (2 ^ 32 - 1)).Pairwise
      (· < ·) := by
    refine (List.pairwise_map (f := fun serial : Serial => serial.val.toNat) (R := (· < ·))).mp ?_
    rw [List.map_take, numbers, ← List.map_take, List.take_range, List.pairwise_map]
    refine List.pairwise_lt_range.imp_of_mem ?_
    intro first second one two below
    have inside := List.mem_range.mp two
    omega
  refine ⟨numbers_handOut {} count, fun entry _ => entry.1.ne_zero, ?_, rise, ?_, fun entry member => ?_⟩
  · refine (List.pairwise_map (f := fun serial : Serial => serial.val.toNat) (R := (· ≤ ·))).mp ?_
    rw [numbers, List.pairwise_map]
    refine List.pairwise_lt_range.imp ?_
    intro first second below
    omega
  · refine rise.imp ?_
    rintro first second below rfl
    exact absurd below (UInt32.lt_irrefl _)
  · exact last?_of_mem member

/-- The first three serials, each of them known as the last one. -/
theorem serials_rise_to_the_largest_three :
    ((({} : SerialCounter).handOut 3).map fun entry => entry.1.val.toNat) = [1, 2, 3] ∧
      ∀ entry ∈ ({} : SerialCounter).handOut 3, entry.2.last? = some entry.1 := by
  obtain ⟨numbers, -, -, -, -, known⟩ := serials_rise_to_the_largest 3
  have counted : ((({} : SerialCounter).handOut 3).map fun entry => entry.1.val.toNat) = [1, 2, 3] :=
    numbers.trans (by decide)
  refine ⟨counted, fun entry member => known entry member ?_⟩
  have number : entry.1.val.toNat ∈ [1, 2, 3] :=
    counted ▸ List.mem_map_of_mem (f := fun entry => entry.1.val.toNat) member
  simp only [List.mem_cons, List.not_mem_nil, or_false] at number
  omega

/-- **The largest serial is repeated**, and where it was handed out the counter knows the one before it
for the last. So among as many serials as there are numbers of 32 bits, two are the same. -/
theorem largest_serial_repeats :
    (∃ first second : Serial × SerialCounter,
      (({} : SerialCounter).handOut (2 ^ 32))[2 ^ 32 - 2]? = some first ∧
        (({} : SerialCounter).handOut (2 ^ 32))[2 ^ 32 - 1]? = some second ∧
        first.1 = .largest ∧ second.1 = .largest ∧ first.2.last? ≠ some first.1) ∧
      ¬ ((({} : SerialCounter).handOut (2 ^ 32)).map Prod.fst).Pairwise (· < ·) ∧
      ¬ ((({} : SerialCounter).handOut (2 ^ 32)).map Prod.fst).Nodup := by
  obtain ⟨first, here, largest⟩ := number_at (show 2 ^ 32 - 2 < 2 ^ 32 by omega)
  obtain ⟨second, there, again⟩ := number_at (show 2 ^ 32 - 1 < 2 ^ 32 by omega)
  have one : first.1 = .largest := Serial.ext (UInt32.toNat_inj.mp largest)
  have two : second.1 = .largest := Serial.ext (UInt32.toNat_inj.mp again)
  have unknown : first.2.last? ≠ some first.1 := by
    rw [behind_of_mem (List.mem_of_getElem? here), one]
    decide
  have repeats : ¬ ((({} : SerialCounter).handOut (2 ^ 32)).map Prod.fst).Nodup := by
    intro distinct
    have length : ((({} : SerialCounter).handOut (2 ^ 32)).map Prod.fst).length = 2 ^ 32 := by
      rw [List.length_map, length_handOut]
    refine List.nodup_iff_getElem?_ne_getElem?.mp distinct (2 ^ 32 - 2) (2 ^ 32 - 1) (by omega)
      (by omega) ?_
    rw [List.getElem?_map, List.getElem?_map, here, there, Option.map_some, Option.map_some, one, two]
  refine ⟨⟨first, second, here, there, one, two, unknown⟩, fun rise => repeats ?_, repeats⟩
  refine rise.imp ?_
  rintro first second below rfl
  exact absurd below (UInt32.lt_irrefl _)

end SerialCounter

end WindowShell
