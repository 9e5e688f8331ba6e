import AxmolFighter.Lib.Bytes
import Mathlib.Data.Nat.Log

/-!
# Protocol buffers on the wire

Numbers in groups of seven bits, and fields: a tag, and a number or a counted string of bytes. Sizes are
those of the canonical form, in which a number has no groups that it does not need.
-/

/-! ### Numbers -/

namespace Varint

/-- At most `k + 1` groups, the lowest first; all but the last have the high bit. -/
def put : Nat → Nat → Bytes
  | 0, n => [UInt8.ofNat n]
  | k + 1, n => if n < 128 then [UInt8.ofNat n] else UInt8.ofNat (n % 128 + 128) :: put k (n / 128)

/-- The number at the front, and the bytes behind it. -/
def get : Bytes → Option (Nat × Bytes)
  | [] => none
  | b :: rest =>
      if b.toNat < 128 then some (b.toNat, rest)
      else (get rest).map fun r => (b.toNat - 128 + 128 * r.1, r.2)

def size (n : Nat) : Nat := Nat.log 128 n + 1

theorem size_of_lt {n : Nat} (h : n < 128) : size n = 1 := by
  rw [size, Nat.log_of_lt h]

theorem size_of_le {n : Nat} (h : 128 ≤ n) : size n = size (n / 128) + 1 := by
  rw [size, size, Nat.log_of_one_lt_of_le (by omega) h]

theorem length_put {k n : Nat} (h : n < 128 ^ (k + 1)) : (put k n).length = size n := by
  induction k generalizing n with
  | zero => rw [size_of_lt (by simpa using h), put, List.length_singleton]
  | succ k ih =>
      rw [put]
      split_ifs with hsmall
      · rw [size_of_lt hsmall, List.length_singleton]
      · rw [size_of_le (Nat.le_of_not_lt hsmall), List.length_cons, ih]
        rw [pow_succ] at h
        exact Nat.div_lt_of_lt_mul (by omega)

theorem get_small {n : Nat} (h : n < 128) (rest : Bytes) : get (UInt8.ofNat n :: rest) = some (n, rest) := by
  have hn : (UInt8.ofNat n).toNat = n := by rw [UInt8.toNat_ofNat', Nat.mod_eq_of_lt (by omega)]
  rw [get, hn, if_pos h]

theorem get_put {k n : Nat} (h : n < 128 ^ (k + 1)) (rest : Bytes) : get (put k n ++ rest) = some (n, rest) := by
  induction k generalizing n with
  | zero => exact get_small (by simpa using h) rest
  | succ k ih =>
      rw [put]
      split_ifs with hsmall
      · exact get_small hsmall rest
      · have hlow : (UInt8.ofNat (n % 128 + 128)).toNat = n % 128 + 128 := by
          rw [UInt8.toNat_ofNat', Nat.mod_eq_of_lt (by omega)]
        rw [pow_succ] at h
        rw [List.cons_append, get, hlow, if_neg (by omega), ih (Nat.div_lt_of_lt_mul (by omega)), Option.map_some]
        congr 2
        omega

end Varint

/-! ### Fields -/

namespace Wire

inductive Value
  | number (n : Nat)
  | bytes (b : Bytes)
deriving DecidableEq

structure Field where
  number : Nat
  value : Value
deriving DecidableEq

/-- The number behind the tag. -/
def Value.count : Value → Nat
  | number n => n
  | bytes b => b.length

def Value.kind : Value → Nat
  | number _ => 0
  | bytes _ => 2

def Value.content : Value → Bytes
  | number _ => []
  | bytes b => b

namespace Field

/-- The tag has one byte, and the number at most ten. -/
def Valid (f : Field) : Prop := f.number < 16 ∧ f.value.count < 128 ^ 10

def put (f : Field) : Bytes :=
  UInt8.ofNat (8 * f.number + f.value.kind) :: (Varint.put 9 f.value.count ++ f.value.content)

def size (f : Field) : Nat := 1 + Varint.size f.value.count + f.value.content.length

/-- The field at the front, and the bytes behind it. -/
def get : Bytes → Option (Field × Bytes)
  | [] => none
  | tag :: rest => do
      let (n, rest) ← Varint.get rest
      if tag.toNat % 8 = 0 then some (⟨tag.toNat / 8, .number n⟩, rest)
      else if tag.toNat % 8 = 2 ∧ n ≤ rest.length then some (⟨tag.toNat / 8, .bytes (rest.take n)⟩, rest.drop n)
      else none

variable {f : Field}

theorem length_put (h : f.Valid) : f.put.length = f.size := by
  rw [put, List.length_cons, List.length_append, Varint.length_put h.2, size]
  omega

theorem get_put (h : f.Valid) (rest : Bytes) : get (f.put ++ rest) = some (f, rest) := by
  obtain ⟨number, value⟩ := f
  obtain ⟨hnumber, hcount⟩ := h
  have hnumber : number < 16 := hnumber
  have htag : (UInt8.ofNat (8 * number + value.kind)).toNat = 8 * number + value.kind := by
    rw [UInt8.toNat_ofNat', Nat.mod_eq_of_lt]
    cases value <;> simp only [Value.kind] <;> omega
  rw [put, List.cons_append, List.append_assoc, get, Varint.get_put hcount, htag]
  cases value with
  | number n => simp [Value.kind, Value.content, Value.count]
  | bytes b =>
      have hkind : (8 * number + 2) % 8 = 2 ∧ (8 * number + 2) / 8 = number := by omega
      simp [Value.kind, Value.content, Value.count, hkind]

end Field

/-- All fields of a message. -/
def getAll : Nat → Bytes → Option (List Field)
  | _, [] => some []
  | 0, _ => none
  | fuel + 1, bytes => do
      let (f, rest) ← Field.get bytes
      let fs ← getAll fuel rest
      some (f :: fs)

def putAll (fs : List Field) : Bytes := fs.flatMap Field.put

theorem length_putAll {fs : List Field} (h : ∀ f ∈ fs, f.Valid) :
    (putAll fs).length = (fs.map Field.size).sum := by
  rw [putAll, List.length_flatMap]
  exact congrArg List.sum (List.map_congr_left fun f hf => Field.length_put (h f hf))

theorem getAll_succ {fuel : Nat} {f : Field} {bytes rest : Bytes} (h : Field.get bytes = some (f, rest)) :
    getAll (fuel + 1) bytes = (getAll fuel rest).map (f :: ·) := by
  cases bytes with
  | nil => cases h
  | cons b bytes =>
      simp only [getAll, h, Option.bind_eq_bind, Option.bind_some]
      cases getAll fuel rest <;> rfl

theorem getAll_putAll {fs : List Field} (h : ∀ f ∈ fs, f.Valid) {fuel : Nat} (hfuel : fs.length ≤ fuel) :
    getAll fuel (putAll fs) = some fs := by
  induction fs generalizing fuel with
  | nil => cases fuel <;> rfl
  | cons f fs ih =>
      obtain ⟨hf, hfs⟩ := List.forall_mem_cons.1 h
      obtain _ | fuel := fuel
      · cases hfuel
      · have hbytes : putAll (f :: fs) = f.put ++ putAll fs := List.flatMap_cons
        rw [hbytes, getAll_succ (Field.get_put hf _), ih hfs (Nat.le_of_succ_le_succ hfuel), Option.map_some]

/-- As many steps as there are bytes are enough. -/
theorem length_le_putAll (fs : List Field) : fs.length ≤ (putAll fs).length := by
  induction fs with
  | nil => exact Nat.le_refl _
  | cons f fs ih =>
      rw [show putAll (f :: fs) = f.put ++ putAll fs from List.flatMap_cons, List.length_append, Field.put,
        List.length_cons, List.length_cons]
      omega

end Wire
