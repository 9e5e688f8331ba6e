import Mathlib.Tactic.Ring

/-!
# Bytes in network order

Fixed-width big-endian numbers at the front of a byte string, as a buffer reads and writes them:
`put k n` is the `k` bytes of `n`, `get k bytes` reads `k` bytes and leaves the rest. The typed
readers and writers of unsigned and two's-complement integers are instances, each with one round
trip (`getU16_put`, …), so that a format's proofs are rewrites with these.
-/

abbrev Bytes := List UInt8

namespace Bytes

/-- The `k` bytes of `n`, the most significant first; higher bits are dropped. -/
def put : Nat → Nat → Bytes
  | 0, _ => []
  | k + 1, n => UInt8.ofNat (n / 256 ^ k) :: put k n

/-- The number that the bytes write. -/
def value (bytes : Bytes) : Nat := bytes.foldl (fun n b => 256 * n + b.toNat) 0

@[simp] theorem length_put (k n : Nat) : (put k n).length = k := by
  induction k with
  | zero => rfl
  | succ k ih => rw [put, List.length_cons, ih]

theorem foldl_put (k n start : Nat) :
    (put k n).foldl (fun n b => 256 * n + b.toNat) start = 256 ^ k * start + n % 256 ^ k := by
  induction k generalizing start with
  | zero => simp [put, Nat.mod_one]
  | succ k ih =>
      have hdigit : n % 256 ^ (k + 1) = n % 256 ^ k + 256 ^ k * (n / 256 ^ k % 256) := by
        rw [pow_succ, Nat.mod_mul]
      rw [put, List.foldl_cons, ih, UInt8.toNat_ofNat', hdigit]
      ring

theorem value_put (k n : Nat) : value (put k n) = n % 256 ^ k := by
  rw [value, foldl_put]
  simp

/-- Reads `k` bytes as a number. -/
def get (k : Nat) (bytes : Bytes) : Nat × Bytes := (value (bytes.take k), bytes.drop k)

theorem get_put (k n : Nat) (rest : Bytes) : get k (put k n ++ rest) = (n % 256 ^ k, rest) := by
  have htake : (put k n ++ rest).take k = put k n := List.take_left' (length_put k n)
  have hdrop : (put k n ++ rest).drop k = rest := List.drop_left' (length_put k n)
  rw [get, htake, hdrop, value_put]

/-! ### Typed fields -/

def putU8 (v : UInt8) : Bytes := put 1 v.toNat

def putU16 (v : UInt16) : Bytes := put 2 v.toNat

def putU32 (v : UInt32) : Bytes := put 4 v.toNat

def putI32 (v : Int32) : Bytes := putU32 v.toUInt32

def getU8 (bytes : Bytes) : UInt8 × Bytes := (UInt8.ofNat (get 1 bytes).1, (get 1 bytes).2)

def getU16 (bytes : Bytes) : UInt16 × Bytes := (UInt16.ofNat (get 2 bytes).1, (get 2 bytes).2)

def getU32 (bytes : Bytes) : UInt32 × Bytes := (UInt32.ofNat (get 4 bytes).1, (get 4 bytes).2)

def getI32 (bytes : Bytes) : Int32 × Bytes := ((getU32 bytes).1.toInt32, (getU32 bytes).2)

section Typed

variable (rest : Bytes)

@[simp] theorem length_putU8 (v : UInt8) : (putU8 v).length = 1 := length_put ..

@[simp] theorem length_putU16 (v : UInt16) : (putU16 v).length = 2 := length_put ..

@[simp] theorem length_putU32 (v : UInt32) : (putU32 v).length = 4 := length_put ..

@[simp] theorem length_putI32 (v : Int32) : (putI32 v).length = 4 := length_put ..

@[simp] theorem getU8_put (v : UInt8) : getU8 (putU8 v ++ rest) = (v, rest) := by
  rw [getU8, putU8, get_put, Nat.mod_eq_of_lt (v.toNat_lt.trans_eq (by norm_num))]
  exact congrArg (·, rest) UInt8.ofNat_toNat

@[simp] theorem getU16_put (v : UInt16) : getU16 (putU16 v ++ rest) = (v, rest) := by
  rw [getU16, putU16, get_put, Nat.mod_eq_of_lt (v.toNat_lt.trans_eq (by norm_num))]
  exact congrArg (·, rest) UInt16.ofNat_toNat

@[simp] theorem getU32_put (v : UInt32) : getU32 (putU32 v ++ rest) = (v, rest) := by
  rw [getU32, putU32, get_put, Nat.mod_eq_of_lt (v.toNat_lt.trans_eq (by norm_num))]
  exact congrArg (·, rest) UInt32.ofNat_toNat

@[simp] theorem getI32_put (v : Int32) : getI32 (putI32 v ++ rest) = (v, rest) := by
  rw [getI32, putI32, getU32_put]
  rfl

end Typed

end Bytes
