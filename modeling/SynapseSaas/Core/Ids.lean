import SynapseSaas.Foundation.BitFields
import Mathlib.Data.List.Sort

/-! Time-ordered ids: forty-eight bits of milliseconds, then random bits around the
version and the variant. Ids are the integers of their UUIDs; the database compares
UUIDs byte by byte from the top, which is the order of these integers. -/

set_option autoImplicit false

namespace SynapseSaas

/-- `int.from_bytes(data, "big")`. -/
def fromBytes (data : List UInt8) : Nat :=
  data.foldl (fun number byte => number * 256 + byte.toNat) 0

/-- `UUID(int=value)`; `none` is a `ValueError`. -/
def uuidOfInt (value : Nat) : Option Nat := if value < 2 ^ 128 then some value else none

def uuidV7Value (tsMs randA randB : Nat) : Nat :=
  let value := (tsMs &&& 0xFFFFFFFFFFFF) <<< 80
  let value := value ||| 0x7 <<< 76            -- version 7
  let value := value ||| randA <<< 64
  let value := value ||| 0b10 <<< 62           -- RFC variant
  value ||| randB

/-- `time` is the clock in nanoseconds; `short` and `long` are what `os.urandom` gives. -/
def uuidV7 (time : Nat) (short long : List UInt8) : Option Nat :=
  let tsMs := time / 1000000
  let randA := fromBytes short &&& 0x0FFF      -- 12 bits, version goes on top
  let randB := fromBytes long &&& 0x3FFFFFFFFFFFFFFF
  uuidOfInt (uuidV7Value tsMs randA randB)

/-- The milliseconds that `uuid_v7_timestamp` makes a date of. -/
def uuidV7Timestamp (value : Nat) : Nat := value >>> 80

/-- The four bits above the random part that follows the time. -/
def uuidVersion (value : Nat) : Nat := value >>> 76 &&& 0xF

/-- The two bits on top of the lower half. -/
def uuidVariant (value : Nat) : Nat := value >>> 62 &&& 0b11

/-- What an id is made of, within its bounds. -/
structure UuidParts where
  tsMs : Nat
  randA : Nat
  randB : Nat
  tsMs_lt : tsMs < 2 ^ 48
  randA_lt : randA < 2 ^ 12
  randB_lt : randB < 2 ^ 62

namespace UuidParts

variable (parts later : UuidParts)

def id : Nat := uuidV7Value parts.tsMs parts.randA parts.randB

/-- The layout the id is meant to have, from the top. -/
def fields : List BitFields.Field :=
  [⟨48, parts.tsMs, parts.tsMs_lt⟩, ⟨4, 7, by decide⟩, ⟨12, parts.randA, parts.randA_lt⟩,
    ⟨2, 2, by decide⟩, ⟨62, parts.randB, parts.randB_lt⟩]

/-- The shifts of the code are the places of the fields. -/
theorem id_eq_pack : parts.id = BitFields.pack parts.fields := by
  have masked : parts.tsMs &&& 0xFFFFFFFFFFFF = parts.tsMs := by
    rw [show 0xFFFFFFFFFFFF = 2 ^ 48 - 1 from rfl, Nat.and_two_pow_sub_one_eq_mod,
      Nat.mod_eq_of_lt parts.tsMs_lt]
  rw [id, uuidV7Value, masked]
  simp only [fields, BitFields.pack, BitFields.total, List.map_cons, List.map_nil, List.sum_cons,
    List.sum_nil, Nat.reduceAdd, Nat.shiftLeft_zero, Nat.or_zero, Nat.or_assoc]

theorem id_lt : parts.id < 2 ^ 128 := by
  rw [id_eq_pack]
  exact BitFields.pack_lt parts.fields

theorem unpack_id : BitFields.unpack [48, 4, 12, 2, 62] parts.id =
    [parts.tsMs, 7, parts.randA, 2, parts.randB] := by
  rw [id_eq_pack]
  exact BitFields.unpack_pack parts.fields

/-- The fields, one by one. -/
theorem id_fields : parts.id >>> 80 % 2 ^ 48 = parts.tsMs ∧ parts.id >>> 76 % 2 ^ 4 = 7 ∧
    parts.id >>> 64 % 2 ^ 12 = parts.randA ∧ parts.id >>> 62 % 2 ^ 2 = 2 ∧
    parts.id % 2 ^ 62 = parts.randB := by
  have read := parts.unpack_id
  simp only [BitFields.unpack, List.sum_cons, List.sum_nil, Nat.reduceAdd, Nat.shiftRight_zero,
    List.cons.injEq, and_true] at read
  exact read

theorem id_timestamp : uuidV7Timestamp parts.id = parts.tsMs := by
  have small : parts.id >>> 80 < 2 ^ 48 := by
    rw [Nat.shiftRight_eq_div_pow]
    exact Nat.div_lt_of_lt_mul parts.id_lt
  rw [uuidV7Timestamp, ← Nat.mod_eq_of_lt small]
  exact parts.id_fields.1

theorem id_version : uuidVersion parts.id = 7 := by
  rw [uuidVersion, show 0xF = 2 ^ 4 - 1 from rfl, Nat.and_two_pow_sub_one_eq_mod]
  exact parts.id_fields.2.1

theorem id_variant : uuidVariant parts.id = 2 := by
  rw [uuidVariant, show 0b11 = 2 ^ 2 - 1 from rfl, Nat.and_two_pow_sub_one_eq_mod]
  exact parts.id_fields.2.2.2.1

variable {parts later}

theorem id_lt_id (earlier : parts.tsMs < later.tsMs) : parts.id < later.id := by
  rw [id_eq_pack, id_eq_pack]
  exact BitFields.pack_lt_pack earlier rfl

theorem tsMs_le_of_id_le (before : parts.id ≤ later.id) : parts.tsMs ≤ later.tsMs := by
  by_contra after
  exact absurd (id_lt_id (Nat.lt_of_not_le after)) (Nat.not_lt.mpr before)

end UuidParts

/-- The parts of the id drawn at a time from random bytes. -/
def drawnParts (time : Nat) (short long : List UInt8) (epoch : time / 1000000 < 2 ^ 48) :
    UuidParts where
  tsMs := time / 1000000
  randA := fromBytes short &&& 0x0FFF
  randB := fromBytes long &&& 0x3FFFFFFFFFFFFFFF
  tsMs_lt := epoch
  randA_lt := Nat.and_le_right.trans_lt (by decide)
  randB_lt := Nat.and_le_right.trans_lt (by decide)

/-- Whatever the clock and the random bytes, an id is made of parts within their bounds. -/
theorem uuidV7_eq (time : Nat) (short long : List UInt8) (epoch : time / 1000000 < 2 ^ 48) :
    uuidV7 time short long = some (drawnParts time short long epoch).id := by
  have bounded := (drawnParts time short long epoch).id_lt
  rw [UuidParts.id, drawnParts] at bounded ⊢
  rw [uuidV7, uuidOfInt, if_pos bounded]

/-- `ORDER BY id`. -/
def orderById (rows : List UuidParts) : List UuidParts :=
  rows.insertionSort fun first second => first.id ≤ second.id

/-- The fields of an id do not overlap, and the order of ids is that of their milliseconds. -/
theorem uuidV7_layout (parts : UuidParts) :
    uuidVersion parts.id = 7 ∧ uuidVariant parts.id = 2 ∧
    uuidV7Timestamp parts.id = parts.tsMs ∧
    BitFields.unpack [48, 4, 12, 2, 62] parts.id = [parts.tsMs, 7, parts.randA, 2, parts.randB] ∧
    parts.id < 2 ^ 128 ∧
    (∀ later : UuidParts, parts.tsMs < later.tsMs → parts.id < later.id) ∧
    ∀ rows : List UuidParts, (orderById rows).Perm rows ∧
      (orderById rows).Pairwise fun first second => first.tsMs ≤ second.tsMs := by
  refine ⟨parts.id_version, parts.id_variant, parts.id_timestamp, parts.unpack_id, parts.id_lt,
    fun _ => UuidParts.id_lt_id, fun rows => ⟨List.perm_insertionSort .., ?_⟩⟩
  have total : Std.Total fun first second : UuidParts => first.id ≤ second.id :=
    ⟨fun first second => Nat.le_total first.id second.id⟩
  have transitive : IsTrans UuidParts fun first second => first.id ≤ second.id :=
    ⟨fun _ _ _ => Nat.le_trans⟩
  exact (List.pairwise_insertionSort _ rows).imp UuidParts.tsMs_le_of_id_le

def sampleParts : UuidParts := ⟨1700000000000, 4095, 77, by decide, by decide, by decide⟩

def laterParts : UuidParts := ⟨1700000000001, 12, 5, by decide, by decide, by decide⟩

/-- A millisecond later, smaller random bits do not matter. -/
theorem sampleParts_lt_laterParts : sampleParts.id < laterParts.id :=
  (uuidV7_layout sampleParts).2.2.2.2.2.1 laterParts (by decide)

end SynapseSaas
