import Mathlib.Data.List.GetD
import Mathlib.Tactic

/-!
# Fixed byte buffers

A C array `uint8_t a[n]` is a list of bytes together with a proof that it has length `n`, so a
buffer of the wrong size cannot be built and no theorem needs a hypothesis about sizes.

There are two ways to touch a buffer. `slice` and `store` are total, and clip at the end of the
array. `readAt`, `sliceAt` and `storeAt` are checked: they answer `none` when the access leaves
the array, which is how a model says that the C code has undefined behaviour there. The checked
forms agree with the total ones whenever they answer at all.

## Main definitions

* `Buf n` — a byte array of size `n`
* `Buf.slice`, `Buf.store` — `memcpy` out of and into a buffer, clipped
* `readAt`, `sliceAt`, `Buf.storeAt` — the checked forms
* `leBytes`, `leNat` — little-endian words of any width

## Main results

* `Buf.slice_store_self`, `Buf.slice_store_below`, `Buf.slice_store_above` — read after write
* `Buf.store_store_append` — two adjacent writes are one
* `leNat_leBytes`, `leBytes_leNat` — the word codec is a bijection on its range
-/

/-- A byte array of size `n`. -/
@[ext]
structure Buf (n : ℕ) where
  bytes : List UInt8
  length_bytes : bytes.length = n
deriving DecidableEq

namespace Buf

variable {n : ℕ}

attribute [simp] length_bytes

/-- The array of size `n` whose bytes are all zero. -/
def zero (n : ℕ) : Buf n := ⟨List.replicate n 0, List.length_replicate⟩

instance : Inhabited (Buf n) := ⟨zero n⟩

/-- The byte at index `i`, and zero past the end. -/
def get (b : Buf n) (i : ℕ) : UInt8 := b.bytes.getD i 0

/-- The `len` bytes from index `off`, clipped at the end of the array. -/
def slice (b : Buf n) (off len : ℕ) : List UInt8 := (b.bytes.drop off).take len

/-- `xs` written from index `off`, clipped at the end of the array. -/
def store (b : Buf n) (off : ℕ) (xs : List UInt8) : Buf n where
  bytes := (b.bytes.take off ++ xs ++ b.bytes.drop (off + xs.length)).take n
  length_bytes := by
    simp only [List.length_take, List.length_append, List.length_drop, length_bytes]
    omega

/-- The byte `x` written at index `i`. -/
def set (b : Buf n) (i : ℕ) (x : UInt8) : Buf n := b.store i [x]

/-! ### Reading -/

@[simp] theorem length_slice (b : Buf n) (off len : ℕ) :
    (b.slice off len).length = min len (n - off) := by
  simp [slice]

theorem length_slice_of_le (b : Buf n) {off len : ℕ} (h : off + len ≤ n) :
    (b.slice off len).length = len := by
  rw [length_slice]; omega

@[simp] theorem slice_zero (b : Buf n) (off : ℕ) : b.slice off 0 = [] := by
  simp [slice]

theorem slice_self (b : Buf n) : b.slice 0 n = b.bytes := by
  simp [slice, List.take_of_length_le]

/-- A slice splits at any point inside it. -/
theorem slice_add (b : Buf n) (off l₁ l₂ : ℕ) :
    b.slice off (l₁ + l₂) = b.slice off l₁ ++ b.slice (off + l₁) l₂ := by
  rw [slice, slice, slice, List.take_add, List.drop_drop]

theorem take_slice (b : Buf n) (off l k : ℕ) : (b.slice off l).take k = b.slice off (min k l) := by
  simp [slice, List.take_take]

theorem drop_slice (b : Buf n) (off l k : ℕ) :
    (b.slice off l).drop k = b.slice (off + k) (l - k) := by
  rw [slice, slice, List.drop_take, List.drop_drop]

theorem slice_succ (b : Buf n) {off len : ℕ} (h : off < n) :
    b.slice off (len + 1) = b.get off :: b.slice (off + 1) len := by
  have hoff : off < b.bytes.length := by simpa using h
  rw [slice, List.drop_eq_getElem_cons hoff, List.take_succ_cons, get,
    List.getD_eq_getElem _ _ hoff, slice]

/-! ### Writing -/

/-- A write that fits, without the clipping. -/
theorem bytes_store (b : Buf n) {off : ℕ} {xs : List UInt8} (h : off + xs.length ≤ n) :
    (b.store off xs).bytes = b.bytes.take off ++ xs ++ b.bytes.drop (off + xs.length) := by
  rw [store]
  refine List.take_of_length_le ?_
  simp only [List.length_append, List.length_take, List.length_drop, length_bytes]
  omega

@[simp] theorem store_nil (b : Buf n) (off : ℕ) : b.store off [] = b := by
  ext1
  rw [store]
  simp [List.take_append_drop, List.take_of_length_le]

/-- A whole array is copied. -/
theorem store_bytes (b b' : Buf n) : b.store 0 b'.bytes = b' := by
  ext1
  rw [bytes_store b (by simp), List.take_zero, List.nil_append, length_bytes,
    List.drop_of_length_le (by simp), List.append_nil]

/-- What was written is read back. -/
theorem slice_store_self (b : Buf n) {off : ℕ} {xs : List UInt8} (h : off + xs.length ≤ n) :
    (b.store off xs).slice off xs.length = xs := by
  have hlen : (b.bytes.take off).length = off := by simp; omega
  rw [slice, bytes_store b h, List.append_assoc, List.drop_append_of_le_length (by omega),
    List.drop_of_length_le (by omega), List.nil_append,
    List.take_append_of_le_length (Nat.le_refl _), List.take_length]

/-- A read below a write does not see it. -/
theorem slice_store_below (b : Buf n) {off off' len : ℕ} {xs : List UInt8}
    (h : off + xs.length ≤ n) (hd : off' + len ≤ off) :
    (b.store off xs).slice off' len = b.slice off' len := by
  have hlen : (b.bytes.take off).length = off := by simp; omega
  rw [slice, bytes_store b h, List.append_assoc, List.drop_append_of_le_length (by omega),
    List.take_append_of_le_length (by rw [List.length_drop]; omega), List.drop_take,
    List.take_take, slice]
  congr 1
  omega

/-- A read above a write does not see it. -/
theorem slice_store_above (b : Buf n) {off off' len : ℕ} {xs : List UInt8}
    (h : off + xs.length ≤ n) (hd : off + xs.length ≤ off') :
    (b.store off xs).slice off' len = b.slice off' len := by
  have hlen : (b.bytes.take off ++ xs).length = off + xs.length := by simp; omega
  rw [slice, bytes_store b h, List.drop_append, hlen, List.drop_drop,
    List.drop_of_length_le (by omega), List.nil_append, slice]
  congr 3
  omega

/-- Two adjacent writes are one write. -/
theorem store_store_append (b : Buf n) {off off' : ℕ} {xs ys : List UInt8}
    (hoff : off' = off + xs.length) (h : off + xs.length + ys.length ≤ n) :
    (b.store off xs).store off' ys = b.store off (xs ++ ys) := by
  subst hoff
  have hlen : (b.bytes.take off ++ xs).length = off + xs.length := by simp; omega
  ext1
  rw [bytes_store _ h, bytes_store b (by omega), bytes_store b (by simp; omega),
    List.take_append_of_le_length (by omega), List.take_of_length_le (by omega),
    List.drop_append, hlen, List.drop_drop, List.drop_of_length_le (by omega), List.nil_append,
    List.length_append]
  simp only [List.append_assoc]
  congr 4
  omega

/-- Reading a buffer from its start, across a write, up to the end of the write. -/
theorem slice_zero_store (b : Buf n) {off : ℕ} {xs : List UInt8} (h : off + xs.length ≤ n) :
    (b.store off xs).slice 0 (off + xs.length) = b.slice 0 off ++ xs := by
  rw [slice_add, Nat.zero_add, slice_store_self b h, slice_store_below b h (by omega)]

end Buf

/-! ### Checked accesses

`none` is an access outside the array. -/

/-- Read one byte, checked. -/
def readAt (src : List UInt8) (i : ℕ) : Option UInt8 := src[i]?

/-- Read `len` bytes from index `off`, checked. -/
def sliceAt (src : List UInt8) (off len : ℕ) : Option (List UInt8) :=
  if off + len ≤ src.length then some ((src.drop off).take len) else none

/-- Write `xs` from index `off`, checked. -/
def Buf.storeAt {n : ℕ} (b : Buf n) (off : ℕ) (xs : List UInt8) : Option (Buf n) :=
  if off + xs.length ≤ n then some (b.store off xs) else none

theorem sliceAt_of_le {src : List UInt8} {off len : ℕ} (h : off + len ≤ src.length) :
    sliceAt src off len = some ((src.drop off).take len) := if_pos h

theorem Buf.storeAt_of_le {n : ℕ} (b : Buf n) {off : ℕ} {xs : List UInt8}
    (h : off + xs.length ≤ n) : b.storeAt off xs = some (b.store off xs) := if_pos h

/-! ### Little-endian words -/

/-- The `k` low bytes of `v`, lowest first. -/
def leBytes : ℕ → ℕ → List UInt8
  | 0, _ => []
  | k + 1, v => UInt8.ofNat v :: leBytes k (v / 256)

/-- The word whose bytes are `xs`, lowest first. -/
def leNat : List UInt8 → ℕ
  | [] => 0
  | x :: xs => x.toNat + 256 * leNat xs

@[simp] theorem length_leBytes (k v : ℕ) : (leBytes k v).length = k := by
  induction k generalizing v with
  | zero => rfl
  | succ k ih => simp [leBytes, ih]

theorem leNat_lt (xs : List UInt8) : leNat xs < 256 ^ xs.length := by
  induction xs with
  | nil => simp [leNat]
  | cons x xs ih =>
    have := x.toNat_lt
    rw [leNat, List.length_cons, Nat.pow_succ]
    omega

/-- Reading back the `k` low bytes of a word gives the word modulo `256 ^ k`. -/
theorem leNat_leBytes (k v : ℕ) : leNat (leBytes k v) = v % 256 ^ k := by
  induction k generalizing v with
  | zero => simp [leBytes, leNat, Nat.mod_one]
  | succ k ih =>
    rw [leBytes, leNat, ih, UInt8.toNat_ofNat', Nat.pow_succ 256 k, Nat.mul_comm (256 ^ k),
      Nat.mod_mul]

/-- Writing out a word that was read gives the bytes it was read from. -/
theorem leBytes_leNat (xs : List UInt8) : leBytes xs.length (leNat xs) = xs := by
  induction xs with
  | nil => rfl
  | cons x xs ih =>
    have hx := x.toNat_lt
    have hdiv : (x.toNat + 256 * leNat xs) / 256 = leNat xs := by omega
    rw [leNat, List.length_cons, leBytes, hdiv, ih]
    congr 1
    apply UInt8.toNat_inj.mp
    rw [UInt8.toNat_ofNat']
    omega
