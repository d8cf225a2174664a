/-
**Steps are read back.**

A step may be spelled in many ways: with its fields in any order, with fields of other names between them,
and without those fields that have their default. All spellings of a step are read as that step, and so no
two steps share one. What is written for a step is one of its spellings:

* `Spelling.lookup`: what a spelling has in a field;
* `Spelling.required`, `Spelling.optional`: what a required field and one with a default are read as;
* `Spelling.ofFields?`: a spelling is read as its step;
* `every_spelling_is_read`: all of it.
-/

import WindowShell.Proofs.EdgeText

namespace WindowShell

/-- A missing element and one that is there are told apart, if no element is written as no value. -/
theorem LawfulCodec.option {α : Type} [Codec α] [LawfulCodec α]
    (solid : ∀ element : α, encode element ≠ .null) : LawfulCodec (Option α) where
  decode?_encode
    | none => rfl
    | some element => by
      have read := LawfulCodec.decode?_encode element
      show decode? (encode element) = some (some element)
      cases written : encode element with
      | null => exact absurd written (solid element)
      | _ =>
        rw [written] at read
        show (decode? _).map some = _
        rw [read, Option.map_some]

instance : LawfulCodec (Option UInt32) := .option fun _ => nofun
instance : LawfulCodec (Option OutputId) := .option fun _ => nofun
instance : LawfulCodec (Option Size) := .option fun _ => nofun
instance : LawfulCodec (Option Rectangle) := .option fun _ => nofun

/-- Different elements are written differently. -/
theorem encode_injective {α : Type} [Codec α] [LawfulCodec α] {first second : α}
    (same : encode first = encode second) : first = second := by
  have read := LawfulCodec.decode?_encode first
  rw [same, LawfulCodec.decode?_encode] at read
  exact (Option.some.inj read).symm

namespace Step

/-- The parts of a step that may be left out, and what they stand for then. -/
def defaults : Step → List (String × Value)
  | newPopup _ _ _ => [("geometry", encode ({} : Rectangle))]
  | ack _ _ => [("serial", encode (none : Option UInt32))]
  | commit _ _ _ _ =>
    [ ("buffer", encode (none : Option Size)), ("remove_buffer", encode false),
      ("geometry", encode (none : Option Rectangle)) ]
  | requestResize _ _ _ => [("edges", encode ({} : Edges))]
  | requestFullscreen _ _ _ => [("output", encode (none : Option OutputId))]
  | _ => []

/-- **Fields that spell a step.** -/
structure Spelling (step : Step) (fields : List (String × Value)) : Prop where
  /-- A field with the name of a part says what the step says. -/
  faithful : ∀ field ∈ fields, field.1 ∈ step.fields.map Prod.fst → field ∈ step.fields
  /-- A part that is left out has its default. -/
  complete : ∀ field ∈ step.fields, field.1 ∈ fields.map Prod.fst ∨ field ∈ step.defaults

/-- The parts of a step have different names. -/
theorem nodup_fields (step : Step) : (step.fields.map Prod.fst).Nodup := by
  cases step <;> simp [fields, partFields, sizeFields]

/-- What is written for a step spells it. -/
theorem spelling_fields (step : Step) : Spelling step step.fields where
  faithful _ member _ := member
  complete _ member := .inl (List.mem_map_of_mem member)

namespace Spelling

variable {step : Step} {fields : List (String × Value)} {name : String}

/-- A spelling has in a field what the step has there, or it leaves out a default. -/
theorem lookup {value : Value} (spelling : Spelling step fields)
    (member : (name, value) ∈ step.fields) :
    fields.lookup name = some value ∨
      fields.lookup name = none ∧ (name, value) ∈ step.defaults := by
  cases found : fields.lookup name with
  | none =>
    refine .inr ⟨rfl, (spelling.complete _ member).resolve_left fun present => ?_⟩
    obtain ⟨field, inside, same⟩ := List.mem_map.mp present
    exact absurd (List.lookup_eq_none_iff.mp found field inside) (by simp [same])
  | some read =>
    obtain ⟨front, back, rfl, -⟩ := List.lookup_eq_some_iff.mp found
    have there := spelling.faithful (name, read) (by simp) (List.mem_map.mpr ⟨_, member, rfl⟩)
    have same := Table.entry_unique step.nodup_fields there member rfl
    exact .inl (congrArg (some ∘ Prod.snd) same)

section Parts

variable {α : Type} [Codec α] [LawfulCodec α] {part : α}

/-- A part without a default is read as what it is. -/
theorem required (spelling : Spelling step fields) (member : (name, encode part) ∈ step.fields)
    (needed : name ∉ step.defaults.map Prod.fst) : Value.required? fields name = some part := by
  have found := (spelling.lookup member).resolve_right fun omitted =>
    needed (List.mem_map_of_mem omitted.2)
  rw [Value.required?, found, Option.bind_some, LawfulCodec.decode?_encode]

/-- A part with a default is read as what it is, whether it is written or not. -/
theorem optional (spelling : Spelling step fields) {default : α}
    (member : (name, encode part) ∈ step.fields)
    (only : ∀ value, (name, value) ∈ step.defaults → value = encode default) :
    Value.optional? fields name default = some part := by
  rw [Value.optional?]
  rcases spelling.lookup member with found | ⟨missing, omitted⟩
  · rw [found]
    exact LawfulCodec.decode?_encode part
  · rw [missing, encode_injective (only _ omitted)]

end Parts

/-- Two lengths are read as the size they are. -/
theorem size {size : Extent} (spelling : Spelling step fields) (members : sizeFields size ⊆ step.fields)
    (needed : step.defaults = []) : size? fields = some size := by
  have width : Value.required? fields "width" = some size.width :=
    spelling.required (members (by simp [sizeFields])) (by simp [needed])
  have height : Value.required? fields "height" = some size.height :=
    spelling.required (members (by simp [sizeFields])) (by simp [needed])
  rw [size?, width, height]
  rfl

/-- **A spelling is read as its step.** -/
theorem ofFields? (spelling : Spelling step fields) : Step.ofFields? fields = some step := by
  have op : Value.required? fields "op" = some step.op :=
    spelling.required List.mem_cons_self (by cases step <;> simp [defaults])
  have surface : Value.required? fields "surface" = some step.surface :=
    spelling.required (by simp [Step.fields]) (by cases step <;> simp [defaults])
  simp only [Step.ofFields?, op, surface, Option.bind_eq_bind, Option.bind_some]
  cases step with
  | newToplevel | destroy | close | destroyView => rfl
  | newPopup surface parent geometry =>
    have parent : Value.required? fields "parent" = some parent :=
      spelling.required (by simp [Step.fields, partFields]) (by simp [defaults])
    have geometry : Value.optional? fields "geometry" {} = some geometry :=
      spelling.optional (by simp [Step.fields, partFields]) (by simp [defaults])
    simp only [Step.op, parent, geometry]
    rfl
  | setMinSize surface size | setMaxSize surface size | resize surface size =>
    have size : size? fields = some size := spelling.size (List.subset_append_right _ _) rfl
    simp only [Step.op, size]
    rfl
  | ack surface serial =>
    have serial : Value.nullable? fields "serial" = some serial :=
      spelling.optional (by simp [Step.fields, partFields]) (by simp [defaults])
    simp only [Step.op, serial]
    rfl
  | commit surface buffer removeBuffer geometry =>
    have buffer : Value.nullable? fields "buffer" = some buffer :=
      spelling.optional (by simp [Step.fields, partFields]) (by simp [defaults])
    have removes : Value.optional? fields "remove_buffer" false = some removeBuffer :=
      spelling.optional (by simp [Step.fields, partFields]) (by simp [defaults])
    have geometry : Value.nullable? fields "geometry" = some geometry :=
      spelling.optional (by simp [Step.fields, partFields]) (by simp [defaults])
    simp only [Step.op, buffer, removes, geometry]
    rfl
  | requestMove surface seat =>
    have seat : Value.required? fields "seat" = some seat :=
      spelling.required (by simp [Step.fields, partFields]) (by simp [defaults])
    simp only [Step.op, seat]
    rfl
  | requestResize surface seat edges =>
    have seat : Value.required? fields "seat" = some seat :=
      spelling.required (by simp [Step.fields, partFields]) (by simp [defaults])
    have edges : Value.optional? fields "edges" {} = some edges :=
      spelling.optional (by simp [Step.fields, partFields]) (by simp [defaults])
    simp only [Step.op, seat, edges]
    rfl
  | requestMaximize surface maximized | maximize surface maximized =>
    have maximized : Value.required? fields "maximized" = some maximized :=
      spelling.required (by simp [Step.fields, partFields]) (by simp [defaults])
    simp only [Step.op, maximized]
    rfl
  | requestFullscreen surface entered output =>
    have entered : Value.required? fields "fullscreen" = some entered :=
      spelling.required (by simp [Step.fields, partFields]) (by simp [defaults])
    have output : Value.nullable? fields "output" = some output :=
      spelling.optional (by simp [Step.fields, partFields]) (by simp [defaults])
    simp only [Step.op, entered, output]
    rfl
  | activate surface active =>
    have active : Value.required? fields "active" = some active :=
      spelling.required (by simp [Step.fields, partFields]) (by simp [defaults])
    simp only [Step.op, active]
    rfl
  | moveResize surface position size =>
    have x : Value.required? fields "x" = some position.x :=
      spelling.required (by simp [Step.fields, partFields]) (by simp [defaults])
    have y : Value.required? fields "y" = some position.y :=
      spelling.required (by simp [Step.fields, partFields]) (by simp [defaults])
    have size : size? fields = some size := spelling.size
      (fun _ member => List.mem_append_right _ (List.mem_append_right _ member)) rfl
    simp only [Step.op, position?, x, y, size]
    rfl
  | fullscreen surface entered =>
    have entered : Value.required? fields "fullscreen" = some entered :=
      spelling.required (by simp [Step.fields, partFields]) (by simp [defaults])
    simp only [Step.op, entered]
    rfl

end Spelling

/-- **Every spelling of a step is read as that step.** What is written for a step is one of its spellings;
fields may come in any order and besides others, and those with a default may be left out. So no two steps
have a spelling in common, and no two are written alike. -/
theorem every_spelling_is_read (step : Step) :
    Spelling step step.fields ∧ decode? (encode step) = some step ∧
      (∀ fields, Spelling step fields → decode? (.record fields) = some step) ∧
      (∀ other fields, Spelling step fields → Spelling other fields → step = other) ∧
      ∀ other : Step, encode step = encode other → step = other := by
  have read : ∀ {step fields}, Spelling step fields → decode? (.record fields) = some step :=
    fun spelling => spelling.ofFields?
  refine ⟨step.spelling_fields, read step.spelling_fields, fun _ => read, ?_, ?_⟩
  · intro other fields here there
    exact Option.some.inj ((read here).symm.trans (read there))
  · intro other same
    have written : decode? (encode step) = some step := read step.spelling_fields
    rw [same] at written
    exact Option.some.inj (written.symm.trans (read other.spelling_fields))

/-- A resize whose edges are left out and whose fields come last to first, with a remark between them, and
one of edges of which not all have names. -/
theorem every_spelling_is_read_shuffledResize :
    decode? (.record [("seat", .int 3), ("remark", .text "drag"), ("surface", .int 7),
        ("op", .text "request_resize")]) = some (requestResize ⟨7⟩ ⟨3⟩ {}) ∧
      decode? (.record [("op", .text "request_resize"), ("surface", .int 7), ("seat", .int 3),
        ("edges", .text "TOP | BOTTOM | 0x20")]) = some (requestResize ⟨7⟩ ⟨3⟩ { bits := 35 }) := by
  constructor
  · refine (every_spelling_is_read (requestResize ⟨7⟩ ⟨3⟩ {})).2.2.1 _ ⟨?_, ?_⟩ <;>
      simp [fields, partFields, defaults, surface, op, encode]
  · exact (every_spelling_is_read (requestResize ⟨7⟩ ⟨3⟩ { bits := 35 })).2.1

end Step

end WindowShell
