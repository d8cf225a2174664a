/-
**Structured values.**

The common form of what is read from TOML documents and written to reports: numbers, texts, lists, and
records of named fields. A type that can be written as a value and read from one has a codec. Reading
is strict: a number must be an integer in the range of the type, and a list that stands for a point, a
size or a rectangle must have exactly as many numbers as that.
-/

import WindowShell.Geometry
import WindowShell.Identifier

namespace WindowShell

/-- A structured value. -/
inductive Value
  | null
  | bool (value : Bool)
  | int (value : Int)
  /-- A number with a fraction or an exponent, as it was written. -/
  | float (written : String)
  /-- A date, a time or both, as it was written. -/
  | moment (written : String)
  | text (value : String)
  | list (items : List Value)
  | record (fields : List (String × Value))
deriving Inhabited

/-- How a type is written as a value and read from one. -/
class Codec (α : Type) where
  /-- The value that stands for an element. -/
  encode : α → Value
  /-- The element that a value stands for. -/
  decode? : Value → Option α

export Codec (encode decode?)

/-- A codec whose written values read back. -/
class LawfulCodec (α : Type) [Codec α] : Prop where
  /-- Every element is read back from its value. -/
  decode?_encode : ∀ element : α, decode? (encode element) = some element

namespace Value

/-- The integer in a range that a value stands for. -/
def intWithin? (low high : Int) : Value → Option Int
  | int value => if low ≤ value ∧ value ≤ high then some value else none
  | _ => none

/-- The items of a list, each of them read. -/
def items? {α : Type} [Codec α] : Value → Option (List α)
  | list items => items.mapM decode?
  | _ => none

/-- The fields of a record. -/
def fields? : Value → Option (List (String × Value))
  | record fields => some fields
  | _ => none

end Value

/-! ## Codecs of the basic types -/

instance : Codec Bool where
  encode := .bool
  decode?
    | .bool value => some value
    | _ => none

instance : LawfulCodec Bool := ⟨fun _ => rfl⟩

instance : Codec String where
  encode := .text
  decode?
    | .text value => some value
    | _ => none

instance : LawfulCodec String := ⟨fun _ => rfl⟩

instance : Codec UInt32 where
  encode value := .int value.toNat
  decode? value := (value.intWithin? 0 4294967295).map fun value => UInt32.ofNat value.toNat

instance : LawfulCodec UInt32 := ⟨fun value => by
  have := value.toNat_lt
  simp only [encode, decode?, Value.intWithin?]
  rw [if_pos (by omega)]
  simp⟩

instance : Codec Int32 where
  encode value := .int value.toInt
  decode? value := (value.intWithin? (-2147483648) 2147483647).map Int32.ofInt

instance : LawfulCodec Int32 := ⟨fun value => by
  have low := value.le_toInt
  have high := value.toInt_lt
  simp only [encode, decode?, Value.intWithin?]
  rw [if_pos (by omega)]
  simp⟩

/-- Natural numbers are read up to the largest 64-bit signed integer. -/
instance : Codec Nat where
  encode value := .int value
  decode? value := (value.intWithin? 0 9223372036854775807).map Int.toNat

instance {α : Type} [Codec α] : Codec (List α) where
  encode items := .list (items.map encode)
  decode? := Value.items?

theorem mapM_decode?_encode {α : Type} [Codec α] [LawfulCodec α] (items : List α) :
    (items.map encode).mapM decode? = some items := by
  induction items with
  | nil => rfl
  | cons item rest hypothesis => simp [LawfulCodec.decode?_encode, hypothesis]

instance {α : Type} [Codec α] [LawfulCodec α] : LawfulCodec (List α) := ⟨mapM_decode?_encode⟩

/-- A missing element is written as no value. -/
instance {α : Type} [Codec α] : Codec (Option α) where
  encode
    | none => .null
    | some element => encode element
  decode?
    | .null => some none
    | value => (decode? value).map some

/-- The codec of a type that wraps another one. -/
@[reducible] def Codec.wrapped {α β : Type} [Codec α] (wrap : α → β) (unwrap : β → α) : Codec β where
  encode element := encode (unwrap element)
  decode? value := (decode? value).map wrap

theorem LawfulCodec.wrapped {α β : Type} [Codec α] [LawfulCodec α] {wrap : α → β}
    {unwrap : β → α} (inverse : ∀ element, wrap (unwrap element) = element) :
    @LawfulCodec β (Codec.wrapped wrap unwrap) :=
  @LawfulCodec.mk β (Codec.wrapped wrap unwrap) fun element => by
    simp [encode, decode?, LawfulCodec.decode?_encode, inverse]

instance : Codec SurfaceId := .wrapped SurfaceId.mk SurfaceId.val
instance : LawfulCodec SurfaceId := .wrapped fun _ => rfl
instance : Codec ViewId := .wrapped ViewId.mk ViewId.val
instance : LawfulCodec ViewId := .wrapped fun _ => rfl
instance : Codec PopupId := .wrapped PopupId.mk PopupId.val
instance : LawfulCodec PopupId := .wrapped fun _ => rfl
instance : Codec SeatId := .wrapped SeatId.mk SeatId.val
instance : LawfulCodec SeatId := .wrapped fun _ => rfl
instance : Codec OutputId := .wrapped OutputId.mk OutputId.val
instance : LawfulCodec OutputId := .wrapped fun _ => rfl

/-- The codec of a type that stands for a list of a fixed length. -/
@[reducible] def Codec.listed {α β : Type} [Codec α] (read : List α → Option β)
    (write : β → List α) : Codec β where
  encode element := encode (write element)
  decode? value := (decode? value).bind read

theorem LawfulCodec.listed {α β : Type} [Codec α] [LawfulCodec α] {read : List α → Option β}
    {write : β → List α} (inverse : ∀ element, read (write element) = some element) :
    @LawfulCodec β (Codec.listed read write) :=
  @LawfulCodec.mk β (Codec.listed read write) fun element => by
    change (decode? (encode (write element))).bind read = some element
    rw [LawfulCodec.decode?_encode]
    exact inverse element

/-- The point with two coordinates. -/
def Point.ofList? : List Int32 → Option Point
  | [x, y] => some { x, y }
  | _ => none

/-- The size with two lengths. -/
def Size.ofList? : List Int32 → Option Size
  | [width, height] => some { width, height }
  | _ => none

/-- The extent with two lengths. -/
def Extent.ofList? : List UInt32 → Option Extent
  | [width, height] => some { width, height }
  | _ => none

/-- The rectangle with two coordinates and two lengths. -/
def Rectangle.ofList? : List Int32 → Option Rectangle
  | [x, y, width, height] => some { origin := { x, y }, size := { width, height } }
  | _ => none

instance : Codec Point := .listed Point.ofList? fun point => [point.x, point.y]
instance : LawfulCodec Point := .listed fun _ => rfl
instance : Codec Size := .listed Size.ofList? fun size => [size.width, size.height]
instance : LawfulCodec Size := .listed fun _ => rfl
instance : Codec Extent := .listed Extent.ofList? fun size => [size.width, size.height]
instance : LawfulCodec Extent := .listed fun _ => rfl
instance : Codec Rectangle :=
  .listed Rectangle.ofList? fun rectangle =>
    [rectangle.origin.x, rectangle.origin.y, rectangle.size.width, rectangle.size.height]
instance : LawfulCodec Rectangle := .listed fun _ => rfl

/-! ## Fields of records -/

namespace Value

/-- A field that must be there. -/
def required? {α : Type} [Codec α] (fields : List (String × Value)) (name : String) : Option α :=
  (fields.lookup name).bind decode?

/-- A field that may be left out and then has a default. -/
def optional? {α : Type} [Codec α] (fields : List (String × Value)) (name : String)
    (default : α) : Option α :=
  match fields.lookup name with
  | none => some default
  | some value => decode? value

/-- A field that may be left out or written as no value, both with the same meaning. -/
def nullable? {α : Type} [Codec α] (fields : List (String × Value)) (name : String) :
    Option (Option α) :=
  optional? fields name none

end Value

end WindowShell
