/-
**The text of a set of edges is read back.**

The text of a set has one part for each named edge and one for all other bits, with bars between. No part
has a bar or a blank in it, so splitting the text at its bars and trimming what is between them gives the
parts again; each part stands for bits of its own; and all bits together are the set:

* `Text.trim_padded`: blanks around a part are taken off;
* `Edges.split_parts`: a text falls into the parts it was made of;
* `Edges.mapM_partBits?`, `Edges.join_shares`: the parts stand for shares of the set, which make it up;
* `Edges.ofText?_text`: every set is read back, the empty one and those with unnamed bits as well.
-/

import Mathlib.Data.List.TakeWhile
import Mathlib.Data.Nat.Bitwise
import WindowShell.Scenario.StepFormat

namespace WindowShell

namespace Numeral

theorem mem_digits {value : Nat} {c : Char} (member : c ∈ digits 16 value) :
    (digitValue? c).isSome :=
  Option.isSome_of_any (isDigit_of_mem_digits (by decide) (by decide) member)

end Numeral

namespace Text

/-- A character that may stand in a part of a text: neither blank nor a bar. -/
def Plain (c : Char) : Prop := isBlank c = false ∧ c ≠ '|'

/-- Between the digits and the lower letters there are no blanks, no bar and no sign. -/
theorem plain_of_bounds {c : Char} (low : 48 ≤ c.toNat) (high : c.toNat ≤ 122) :
    Plain c ∧ c ≠ '+' := by
  have order : ∀ {first second : Char}, first ≤ second ↔ first.toNat ≤ second.toNat :=
    UInt32.le_iff_toNat_le
  simp only [Plain, isBlank, Bool.or_eq_false_iff, Bool.and_eq_false_iff, decide_eq_false_iff_not,
    beq_eq_false_iff_ne, ne_eq, ← Char.toNat_inj, order]
  simp only [Char.reduceToNat]
  omega

theorem plain_of_digit {c : Char} (digit : (Numeral.digitValue? c).isSome) : Plain c ∧ c ≠ '+' := by
  have order : ∀ {first second : Char}, first ≤ second → first.toNat ≤ second.toNat :=
    UInt32.le_iff_toNat_le.mp
  have bounds : 48 ≤ c.toNat ∧ c.toNat ≤ 122 := by
    unfold Numeral.digitValue? at digit
    split at digit
    · next decimal => exact ⟨order decimal.1, (order decimal.2).trans (by decide)⟩
    · split at digit
      · next lower => exact ⟨.trans (by decide) (order lower.1), (order lower.2).trans (by decide)⟩
      · split at digit
        · next upper => exact ⟨.trans (by decide) (order upper.1), (order upper.2).trans (by decide)⟩
        · cases digit
  exact plain_of_bounds bounds.1 bounds.2

/-- What begins with blanks and then goes on otherwise loses the blanks. -/
theorem dropWhile_padded {front rest : List Char} (before : ∀ c ∈ front, isBlank c)
    (stops : ∀ c ∈ rest.head?, isBlank c = false) : (front ++ rest).dropWhile isBlank = rest := by
  rw [List.dropWhile_append_of_pos before]
  cases rest with
  | nil => rfl
  | cons c rest => rw [List.dropWhile_cons_of_neg (by simp [stops c rfl])]

/-- Blanks around a text are taken off. -/
theorem trim_padded {front part back : List Char} (before : ∀ c ∈ front, isBlank c)
    (after : ∀ c ∈ back, isBlank c) (filled : part ≠ []) (solid : ∀ c ∈ part, isBlank c = false) :
    trim (front ++ part ++ back) = part := by
  have leads : ∀ c ∈ (part ++ back).head?, isBlank c = false := by
    obtain ⟨c, rest, rfl⟩ := List.exists_cons_of_ne_nil filled
    intro first same
    rw [← Option.some.inj same]
    exact solid c List.mem_cons_self
  have trails : ∀ c ∈ part.reverse.head?, isBlank c = false := fun c last =>
    solid c (List.mem_reverse.mp (List.mem_of_mem_head? last))
  rw [trim, List.append_assoc, dropWhile_padded before leads, List.reverse_append,
    dropWhile_padded (by simpa using after) trails, List.reverse_reverse]

theorem trim_ne_nil {text : List Char} {c : Char} (member : c ∈ text) (solid : isBlank c = false) :
    trim text ≠ [] := by
  intro empty
  simp only [trim, List.reverse_eq_nil_iff, List.dropWhile_eq_nil_iff, List.mem_reverse] at empty
  rw [← List.takeWhile_append_dropWhile (p := isBlank) (l := text), List.mem_append] at member
  have blank : isBlank c := member.elim List.mem_takeWhile_imp (empty c)
  rw [blank] at solid
  cases solid

end Text

namespace Edges

open Text

/-! ### Parts -/

/-- The text of a part: something, without bars and blanks. -/
structure Word (part : List Char) : Prop where
  filled : part ≠ []
  plain : ∀ c ∈ part, Plain c

theorem word_of_mem_parts {edges : Edges} {part : List Char} (member : part ∈ edges.parts) :
    Word part := by
  have names : ∀ edge ∈ named, edge.1 ≠ [] ∧ ∀ c ∈ edge.1, 48 ≤ c.toNat ∧ c.toNat ≤ 122 := by
    simp [named]
  rcases List.mem_append.mp member with inNames | rest
  · obtain ⟨edge, kept, rfl⟩ := List.mem_map.mp inNames
    obtain ⟨filled, bounds⟩ := names edge (List.mem_filter.mp kept).1
    exact ⟨filled, fun c member => (plain_of_bounds (bounds c member).1 (bounds c member).2).1⟩
  · split at rest
    · cases rest
    · rw [List.mem_singleton.mp rest]
      refine ⟨List.cons_ne_nil _ _, ?_⟩
      simp only [List.forall_mem_cons]
      exact ⟨(plain_of_bounds (by decide) (by decide)).1, (plain_of_bounds (by decide) (by decide)).1,
        fun c digit => (plain_of_digit (Numeral.mem_digits digit)).1⟩

theorem Word.unbarred {part : List Char} (word : Word part) : '|' ∉ part := fun member =>
  (word.plain _ member).2 rfl

theorem Word.trim {part front back : List Char} (word : Word part) (before : ∀ c ∈ front, isBlank c)
    (after : ∀ c ∈ back, isBlank c) : Text.trim (front ++ part ++ back) = part :=
  trim_padded before after word.filled fun c member => (word.plain c member).1

/-- **A text falls into the parts it was made of**, even if spaces stand before it. -/
theorem split_parts {parts : List (List Char)} (words : ∀ part ∈ parts, Word part)
    (filled : parts ≠ []) {front : List Char} (before : ∀ c ∈ front, c = ' ') :
    ((front ++ [' ', '|', ' '].intercalate parts).splitOn '|').map Text.trim = parts := by
  have blank : ∀ {spaces : List Char}, (∀ c ∈ spaces, c = ' ') → ∀ c ∈ spaces, isBlank c :=
    fun all c member => all c member ▸ by decide
  have unbarred : ∀ {spaces : List Char}, (∀ c ∈ spaces, c = ' ') → '|' ∉ spaces :=
    fun all member => absurd (all _ member) (by decide)
  induction parts generalizing front with
  | nil => exact absurd rfl filled
  | cons part parts ih =>
    obtain ⟨word, words⟩ := List.forall_mem_cons.mp words
    cases parts with
    | nil =>
      have whole : '|' ∉ front ++ part := by simp [unbarred before, word.unbarred]
      have trimmed : Text.trim (front ++ part ++ []) = part := word.trim (blank before) (by simp)
      rw [List.intercalate_singleton, List.splitOn_eq_singleton whole, List.map_singleton]
      rw [List.append_nil] at trimmed
      rw [trimmed]
    | cons next parts =>
      have first : '|' ∉ front ++ part ++ [' '] := by simp [unbarred before, word.unbarred]
      have split : front ++ [' ', '|', ' '].intercalate (part :: next :: parts) =
          (front ++ part ++ [' ']) ++ '|' :: ([' '] ++ [' ', '|', ' '].intercalate (next :: parts)) := by
        simp [List.intercalate_cons_cons]
      rw [split, List.splitOn_append_cons_self_of_not_mem first, List.map_cons,
        word.trim (blank before) (blank (by simp)), ih words (List.cons_ne_nil _ _) (by simp)]

/-! ### Shares -/

/-- The bits without a name. -/
def unnamed (edges : Edges) : UInt32 := edges.bits >>> 4 <<< 4

/-- What the parts of the text stand for. -/
def shares (edges : Edges) : List UInt32 :=
  (named.filter fun edge => edges.bits &&& edge.2 ≠ 0).map Prod.snd ++
    if edges.bits >>> 4 = 0 then [] else [edges.unnamed]

theorem mapM_of_forall {α β : Type} {read : α → Option β} {share : α → β} {parts : List α}
    (each : ∀ part ∈ parts, read part = some (share part)) :
    parts.mapM read = some (parts.map share) := by
  induction parts with
  | nil => rfl
  | cons part parts ih =>
    obtain ⟨here, each⟩ := List.forall_mem_cons.mp each
    simp [here, ih each]

theorem hexBits?_digits (value : UInt32) :
    hexBits? (Numeral.digits 16 value.toNat) = some value := by
  have unsigned : (Numeral.digits 16 value.toNat).head? ≠ some '+' := fun signed =>
    (plain_of_digit (Numeral.mem_digits (List.mem_of_mem_head? signed))).2 rfl
  have within : value.toNat < UInt32.size := value.toNat_lt
  simp only [hexBits?, if_neg unsigned]
  rw [Numeral.read?_digits (by decide) (by decide), Option.bind_some, if_pos within,
    UInt32.ofNat_toNat]

/-- Every part stands for a share. -/
theorem mapM_partBits? (edges : Edges) : edges.parts.mapM partBits? = some edges.shares := by
  have words : ∀ edge ∈ named, partBits? edge.1 = some edge.2 := by decide
  have first : ((named.filter fun edge => edges.bits &&& edge.2 ≠ 0).map Prod.fst).mapM partBits? =
      some ((named.filter fun edge => edges.bits &&& edge.2 ≠ 0).map Prod.snd) := by
    rw [List.mapM_map]
    exact mapM_of_forall fun edge kept => words edge (List.mem_filter.mp kept).1
  have last : partBits? ('0' :: 'x' :: Numeral.digits 16 edges.unnamed.toNat) =
      some edges.unnamed := hexBits?_digits edges.unnamed
  rw [parts, shares, List.mapM_append, first]
  split
  · simp
  · rw [← unnamed]
    simp [last]

/-- The named shares are the bits that have names. -/
theorem foldl_named (bits start : UInt32) {flags : List (List Char × UInt32)}
    (single : ∀ flag ∈ flags, bits &&& flag.2 = 0 ∨ bits &&& flag.2 = flag.2) :
    ((flags.filter fun flag => bits &&& flag.2 ≠ 0).map Prod.snd).foldl (· ||| ·) start =
      (flags.map fun flag => bits &&& flag.2).foldl (· ||| ·) start := by
  induction flags generalizing start with
  | nil => rfl
  | cons flag flags ih =>
    obtain ⟨here, single⟩ := List.forall_mem_cons.mp single
    by_cases clear : bits &&& flag.2 = 0
    · simpa [clear] using ih start single
    · have set := here.resolve_left clear
      rw [List.filter_cons_of_pos (by simp [clear]), List.map_cons, List.foldl_cons, List.map_cons,
        List.foldl_cons, set]
      exact ih (start ||| flag.2) single

/-- A named edge is one bit, which is set or not. -/
theorem single_bit (bits : UInt32) :
    ∀ flag ∈ named, bits &&& flag.2 = 0 ∨ bits &&& flag.2 = flag.2 := by
  have powers : ∀ flag ∈ named, ∃ place < 4, flag.2.toNat = 2 ^ place := by decide
  intro flag member
  obtain ⟨place, -, power⟩ := powers flag member
  have masked := Nat.and_two_pow bits.toNat place
  rw [← power] at masked
  simp only [← UInt32.toNat_inj, UInt32.toNat_and, masked]
  cases bits.toNat.testBit place
  · exact .inl (Nat.zero_mul _)
  · exact .inr (Nat.one_mul _)

/-- The shares make up the set. -/
theorem join_shares (edges : Edges) : edges.shares.foldl (· ||| ·) 0 = edges.bits := by
  have bounded : edges.bits.toNat < 2 ^ 32 := edges.bits.toNat_lt
  let marked := (named.filter fun edge => edges.bits &&& edge.2 ≠ 0).map Prod.snd
  have low : (marked.foldl (· ||| ·) 0).toNat = edges.bits.toNat % 16 := by
    rw [foldl_named _ _ (single_bit edges.bits)]
    show 0 ||| edges.bits.toNat &&& 1 ||| edges.bits.toNat &&& 2 ||| edges.bits.toNat &&& 4 |||
      edges.bits.toNat &&& 8 = _
    rw [Nat.zero_or, ← Nat.and_or_distrib_left, ← Nat.and_or_distrib_left,
      ← Nat.and_or_distrib_left]
    exact Nat.and_two_pow_sub_one_eq_mod _ 4
  have shifted : (edges.bits >>> 4).toNat = edges.bits.toNat / 2 ^ 4 := by
    rw [UInt32.toNat_shiftRight]
    exact Nat.shiftRight_eq_div_pow _ _
  have high : edges.unnamed.toNat = (edges.bits.toNat / 2 ^ 4) <<< 4 := by
    rw [unnamed, UInt32.toNat_shiftLeft, shifted]
    refine Nat.mod_eq_of_lt ?_
    show _ <<< 4 < 2 ^ 32
    rw [Nat.shiftLeft_eq]
    omega
  rw [shares, List.foldl_append, ← UInt32.toNat_inj]
  split
  · next none =>
    rw [none] at shifted
    rw [List.foldl_nil, low]
    exact Nat.mod_eq_of_lt (Nat.lt_of_div_eq_zero (by decide) shifted.symm)
  · show (_ ||| edges.unnamed).toNat = _
    rw [UInt32.toNat_or, low, high, Nat.or_comm,
      ← Nat.shiftLeft_add_eq_or_of_lt (Nat.mod_lt _ (by decide)), Nat.shiftLeft_eq]
    exact Nat.div_add_mod' _ _

/-- **Every set of edges is read back from its text.** -/
theorem ofText?_text (edges : Edges) : ofText? edges.text = some edges := by
  have shares := edges.mapM_partBits?
  have joined := edges.join_shares
  have text : edges.text.toList = [' ', '|', ' '].intercalate edges.parts := String.toList_ofList
  rw [ofText?, text]
  by_cases empty : edges.parts = []
  · -- without parts there are no shares, so no bit is set
    rw [empty] at shares ⊢
    rw [← Option.some.inj shares] at joined
    exact congrArg (some ∘ Edges.mk) joined
  · have split : (([] ++ [' ', '|', ' '].intercalate edges.parts).splitOn '|').map Text.trim =
        edges.parts := split_parts (fun _ member => word_of_mem_parts member) empty (by simp)
    rw [List.nil_append] at split
    have visible : Text.trim ([' ', '|', ' '].intercalate edges.parts) ≠ [] := by
      obtain ⟨part, others, all⟩ := List.exists_cons_of_ne_nil empty
      have word : Word part := word_of_mem_parts (all ▸ List.mem_cons_self)
      obtain ⟨c, rest, rfl⟩ := List.exists_cons_of_ne_nil word.filled
      refine trim_ne_nil (c := c) ?_ (word.plain c List.mem_cons_self).1
      cases others <;> simp [all, List.intercalate_cons_cons]
    have read := List.mapM_map (f := Text.trim) (g := partBits?)
      (l := ([' ', '|', ' '].intercalate edges.parts).splitOn '|')
    rw [split, shares] at read
    rw [if_neg visible]
    show (List.mapM (partBits? ∘ Text.trim) _).map _ = _
    rw [← read, Option.map_some, joined]

example : ({ bits := 35 } : Edges).text = "TOP | BOTTOM | 0x20" := by decide

instance : LawfulCodec Edges := ⟨ofText?_text⟩

end Edges

end WindowShell
