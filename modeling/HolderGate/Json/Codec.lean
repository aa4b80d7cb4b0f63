import HolderGate.Json.Skip
import HolderGate.Json.Writer

/-! JSON forms of types: how a value is read and how it is written.
A record is read from an object, whose members may come in any order among unknown ones,
or from an array of the values in the order of the fields. It is written as an object. -/
namespace HolderGate.Json

structure Codec (α : Type) where
  read : Reader α
  write : α → Bytes

namespace Codec

def string : Codec String := ⟨Json.string, quoted⟩

def uint64 : Codec UInt64 := ⟨Json.uint64, fun n => decimal n.toNat⟩

def integer : Codec Int := ⟨Json.integer, signed⟩

def boolean : Codec Bool := ⟨Json.boolean, flag⟩

def optional {α : Type} (value : Codec α) : Codec (Option α) :=
  ⟨Json.optional value.read, fun v => (v.map value.write).getD nothing⟩

def array {α : Type} (element : Codec α) : Codec (List α) :=
  ⟨Json.array element.read, fun values => list (values.map element.write)⟩

def table {α : Type} (value : Codec α) : Codec (List (String × α)) :=
  ⟨Json.table value.read, fun entries => object (entries.map (fun e => (e.1, value.write e.2)))⟩

def incoming {α : Type} (read : Reader α) : Codec α := ⟨read, fun _ => nothing⟩

def such {α β : Type} (form : Codec α) (decode : α → Option β) (encode : β → α) : Codec β :=
  ⟨Json.such form.read decode, fun v => form.write (encode v)⟩

def map {α β : Type} (form : Codec α) (decode : α → β) (encode : β → α) : Codec β :=
  ⟨decode <$> form.read, fun v => form.write (encode v)⟩

def named {α : Type} (values : List (String × α)) (name : α → String) : Codec α where
  read := do
    match (← peek) with
    | none => fail .truncated
    | some b =>
      if b = 0x22 then Json.such Json.string (fun s => values.lookup s)
      else if b = 0x7B then do
        advance
        let value ← Json.such Json.string (fun s => values.lookup s)
        colon
        null
        closeObject
        pure value
      else fail .malformed
  write := fun v => quoted (name v)

end Codec

/-- A member of a record. `absent` is its value where it is not given, and a value that is
`omitted` is not written. -/
structure Field (α : Type) where
  name : String
  value : Codec α
  absent : Option α
  omitted : α → Bool

namespace Field

def required {α : Type} (name : String) (value : Codec α) : Field α :=
  ⟨name, value, none, fun _ => false⟩

def optional {α : Type} (name : String) (value : Codec α) : Field (Option α) :=
  ⟨name, value.optional, some none, fun _ => false⟩

def sparse {α : Type} (name : String) (value : Codec α) : Field (Option α) :=
  ⟨name, value.optional, some none, Option.isNone⟩

def defaulted {α : Type} (name : String) (value : Codec α) (default : α) : Field α :=
  ⟨name, value, some default, fun _ => false⟩

end Field

def Row : List Type → Type
  | [] => Unit
  | α :: αs => α × Row αs

def Slots : List Type → Type
  | [] => Unit
  | α :: αs => Option α × Slots αs

inductive Fields : List Type → Type 1 where
  | nil : Fields []
  | cons {α : Type} {αs : List Type} (field : Field α) (fields : Fields αs) : Fields (α :: αs)

namespace Fields

def empty : {αs : List Type} → Fields αs → Slots αs
  | _, .nil => ()
  | _, .cons _ fields => (none, fields.empty)

def member : {αs : List Type} → Fields αs → Slots αs → String → Option (Reader (Slots αs))
  | _, .nil, _, _ => none
  | _, .cons field fields, (slot, slots), name =>
    if name = field.name then some do
      if slot.isSome then fail .mismatched
      colon
      let v ← field.value.read
      pure (some v, slots)
    else (fields.member slots name).map (fun read => do return (slot, ← read))

def close : {αs : List Type} → Fields αs → Slots αs → Option (Row αs)
  | _, .nil, _ => some ()
  | _, .cons field fields, (slot, slots) => do
    let v ← slot <|> field.absent
    let row ← fields.close slots
    some (v, row)

def ofObject {αs : List Type} (fields : Fields αs) (other : Reader Unit) : Reader (Row αs) := do
  let slots ← members (fun slots name =>
    (fields.member slots name).getD (do colon; other; pure slots)) fields.empty
  match fields.close slots with
  | some row => pure row
  | none => fail .mismatched

def ofArray : {αs : List Type} → Fields αs → Bool → Reader (Row αs)
  | _, .nil, _ => pure ()
  | _, .cons field fields, first => do
    if ← another first then
      let v ← field.value.read
      let row ← fields.ofArray false
      pure (v, row)
    else
      match field.absent with
      | some v => do
        let row ← fields.ofArray first
        pure (v, row)
      | none => fail .mismatched

def write : {αs : List Type} → Fields αs → Row αs → List (String × Bytes)
  | _, .nil, _ => []
  | _, .cons field fields, (v, row) =>
    let rest := fields.write row
    if field.omitted v then rest else (field.name, field.value.write v) :: rest

def codec {αs : List Type} (fields : Fields αs) : Codec (Row αs) where
  read := do
    match (← peek) with
    | none => fail .truncated
    | some b =>
      if b = 0x5B then do
        advance
        let row ← fields.ofArray true
        closeArray
        pure row
      else if b = 0x7B then do
        advance
        let row ← fields.ofObject skip
        closeObject
        pure row
      else otherType b
  write := fun row => object (fields.write row)

end Fields

class Document (α : Type) where
  codec : Codec α

def render {α : Type} [Document α] (v : α) : Bytes := Document.codec.write v

def read {α : Type} [Document α] (input : Bytes) : Except Fault α := parse Document.codec.read input

end HolderGate.Json
