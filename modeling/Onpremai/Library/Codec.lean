import Mathlib.Data.Rat.Lemmas
import Onpremai.Library.Json

/-!
# Codecs

A codec writes the values of a type as documents and reads them back.  The codecs of
records are put together from those of their fields.
-/

namespace Onpremai.Library

universe u

/-- Values written as documents, with the document of a value read back as the value. -/
structure Codec (α : Type u) where
  encode : α → Json
  decode : Json → Option α
  decode_encode : ∀ value, decode (encode value) = some value

namespace Codec

variable {α : Type u} {β : Type}

attribute [simp] decode_encode

/-- A document is that of one value only. -/
theorem encode_injective (codec : Codec α) : Function.Injective codec.encode := by
  intro first second same
  have decoded := codec.decode_encode first
  rw [same, codec.decode_encode] at decoded
  exact (Option.some.inj decoded).symm

def Solid (codec : Codec α) : Prop := ∀ value, codec.encode value ≠ .null

def str : Codec String where
  encode := .str
  decode := fun value =>
    match value with
    | .str text => some text
    | _ => none
  decode_encode := fun _ => rfl

/-- Truth values. -/
def bool : Codec Bool where
  encode := .bool
  decode := fun value =>
    match value with
    | .bool flag => some flag
    | _ => none
  decode_encode := fun _ => rfl

def rat : Codec Rat where
  encode := .num
  decode := fun value =>
    match value with
    | .num number => some number
    | _ => none
  decode_encode := fun _ => rfl

/-- Integers, written as numbers. -/
def int : Codec Int where
  encode := fun number => .num number
  decode := fun value =>
    match value with
    | .num number => if number.den = 1 then some number.num else none
    | _ => none
  decode_encode := fun number => by simp

/-- Dictionaries from texts to documents. -/
def fields : Codec (List (String × Json)) where
  encode := .obj
  decode := fun value =>
    match value with
    | .obj entries => some entries
    | _ => none
  decode_encode := fun _ => rfl

def decodeItems (codec : Codec β) : List Json → Option (List β)
  | [] => some []
  | item :: rest =>
    match codec.decode item, decodeItems codec rest with
    | some value, some values => some (value :: values)
    | _, _ => none

@[simp] theorem decodeItems_map_encode (codec : Codec β) (values : List β) :
    codec.decodeItems (values.map codec.encode) = some values := by
  induction values with
  | nil => rfl
  | cons value rest ih => simp [decodeItems, ih]

/-- Lists, written as arrays. -/
def list (codec : Codec β) : Codec (List β) where
  encode := fun values => .arr (values.map codec.encode)
  decode := fun value =>
    match value with
    | .arr items => codec.decodeItems items
    | _ => none
  decode_encode := codec.decodeItems_map_encode

def nullable (codec : Codec β) (solid : codec.Solid) : Codec (Option β) where
  encode := fun value => (value.map codec.encode).getD .null
  decode := fun value =>
    match value with
    | .null => some none
    | other => (codec.decode other).map some
  decode_encode := by
    intro value
    cases value with
    | none => rfl
    | some value =>
      have written := codec.decode_encode value
      have present := solid value
      simp only [Option.map_some, Option.getD_some]
      generalize codec.encode value = document at written present
      cases document with
      | null => exact absurd rfl present
      | bool _ | num _ | str _ | arr _ | obj _ => simp [written]

/-- Values of a type that is written as another one. -/
def via {γ : Type} (codec : Codec β) (write : γ → β) (read : β → Option γ)
    (read_write : ∀ value, read (write value) = some value) : Codec γ where
  encode := fun value => codec.encode (write value)
  decode := fun value => (codec.decode value).bind read
  decode_encode := fun value => by simp [read_write]

theorem solid_str : str.Solid := fun _ => Json.noConfusion

theorem solid_fields : fields.Solid := fun _ => Json.noConfusion

theorem solid_list (codec : Codec β) : codec.list.Solid := fun _ => Json.noConfusion

def required (codec : Codec α) (key : String) (entries : List (String × Json)) : Option α :=
  (Json.field? key entries).bind codec.decode

def withDefault (codec : Codec α) (key : String) (default : α)
    (entries : List (String × Json)) : Option α :=
  match Json.field? key entries with
  | none => some default
  | some value => codec.decode value

section

variable {codec : Codec α} {key : String} {entries : List (String × Json)} {value : α}

theorem required_eq (found : Json.field? key entries = some (codec.encode value)) :
    codec.required key entries = some value := by
  simp [required, found]

theorem withDefault_eq (default : α) (found : Json.field? key entries = some (codec.encode value)) :
    codec.withDefault key default entries = some value := by
  simp [withDefault, found]

end

end Codec

end Onpremai.Library
