import IdentitySync.Json.Decode

/-!
A codec pairs the JSON form of a type with its decoder.
-/
namespace IdentitySync
open Time

structure Codec (α : Type) where
  encode : α → Json
  decode : Source → Document → Decoded α

namespace Codec

def string : Codec String := ⟨.string, fun _ => Document.decodeString⟩

def bool : Codec Bool := ⟨.bool, fun _ => Document.decodeBool⟩

def word8 : Codec UInt8 :=
  ⟨fun n => .natural n.toNat, fun _ d => (d.decodeNatural UInt8.size "u8").map UInt8.ofNat⟩

def word32 : Codec UInt32 :=
  ⟨fun n => .natural n.toNat, fun _ d => (d.decodeNatural UInt32.size "u32").map UInt32.ofNat⟩

def word64 : Codec UInt64 :=
  ⟨fun n => .natural n.toNat, fun _ d => (d.decodeNatural UInt64.size "u64").map UInt64.ofNat⟩

def integer : Codec Int64 := ⟨fun n => .integer n.toInt, fun _ => Document.decodeInteger⟩

def timestamp : Codec Timestamp := ⟨fun t => .string t.text, fun _ => Document.decodeTimestamp⟩

def value : Codec Value := ⟨Value.json, fun _ => Document.decodeValue⟩

def list (c : Codec α) : Codec (List α) :=
  ⟨fun xs => .list (xs.map c.encode), fun src => Document.decodeList src (c.decode src)⟩

def map (c : Codec α) : Codec (KeyedMap α) :=
  ⟨fun m => .record (m.entries.map fun p => (p.1, c.encode p.2)),
    fun src => Document.decodeMap src (c.decode src)⟩

def decodeOption (decode : Document → Decoded α) : Document → Decoded (Option α)
  | .null => .ok none
  | d => (decode d).map some

def option (c : Codec α) : Codec (Option α) :=
  ⟨Json.optional c.encode, fun src => decodeOption (c.decode src)⟩

def orDefault (c : Codec α) (a : α) : Codec α :=
  ⟨c.encode, fun src d => (decodeOption (c.decode src) d).map (·.getD a)⟩

def read (c : Codec α) (s : String) : Decoded α :=
  match Json.scan s with
  | (d, complete) =>
    match c.decode .text d with
    | .error e => .error e
    | .ok a => if complete then .ok a else .error .malformed

def ofValue (c : Codec α) (v : Value) : Decoded α := c.decode .value v.json.document

end Codec

end IdentitySync
