import Meshcore.Lib.Buf

/-!
# Writes into a buffer

A C function fills an array by one `memcpy` after the other, each at an offset that it keeps count
of. What it does to the array is a list of writes. The list stays inside the array when each of its
writes does, and then performing it never fails; when the writes lie end to end it amounts to a
single one.

## Main definitions

* `Write` — where a write starts and what it writes
* `StaysIn n` — no write of a list leaves an array of size `n`
* `Buf.writeAll` — the writes one after the other, `none` as soon as one leaves the array
* `endToEnd` — pieces written one behind the other

## Main results

* `Buf.writeAll_isSome_iff` — what stays inside does not fail, and the other way round
* `Buf.writeAll_endToEnd` — pieces that are written end to end are one write
* `Buf.writeAll_below`, `Buf.writeAll_gap` — a write in front of what was written
-/

/-- A write: where it starts and what it writes. -/
abbrev Write := ℕ × List UInt8

/-- No write of the list leaves an array of size `n`. -/
def StaysIn (n : ℕ) (writes : List Write) : Prop := ∀ write ∈ writes, write.1 + write.2.length ≤ n

instance (n : ℕ) (writes : List Write) : Decidable (StaysIn n writes) :=
  inferInstanceAs (Decidable (∀ write ∈ writes, _))

/-- The bytes that a list of writes writes. -/
def bytesWritten (writes : List Write) : ℕ := (writes.map fun write => write.2.length).sum

/-- The pieces written one behind the other, from `off` on. -/
def endToEnd : (off : ℕ) → List (List UInt8) → List Write
  | _, [] => []
  | off, piece :: pieces => (off, piece) :: endToEnd (off + piece.length) pieces

theorem StaysIn.append {n : ℕ} {writes writes' : List Write} (h : StaysIn n writes)
    (h' : StaysIn n writes') : StaysIn n (writes ++ writes') := by
  intro write hmem
  exact (List.mem_append.mp hmem).elim (h write) (h' write)

theorem staysIn_endToEnd {n : ℕ} (pieces : List (List UInt8)) {off : ℕ}
    (h : off + pieces.flatten.length ≤ n) : StaysIn n (endToEnd off pieces) := by
  induction pieces generalizing off with
  | nil => exact List.forall_mem_nil _
  | cons piece pieces ih =>
    rw [List.flatten_cons, List.length_append, ← Nat.add_assoc] at h
    refine List.forall_mem_cons.mpr ⟨?_, ih h⟩
    show off + piece.length ≤ n
    omega

@[simp] theorem bytesWritten_append (writes writes' : List Write) :
    bytesWritten (writes ++ writes') = bytesWritten writes + bytesWritten writes' := by
  simp [bytesWritten]

@[simp] theorem bytesWritten_singleton (write : Write) :
    bytesWritten [write] = write.2.length := by
  simp [bytesWritten]

@[simp] theorem bytesWritten_endToEnd (pieces : List (List UInt8)) (off : ℕ) :
    bytesWritten (endToEnd off pieces) = pieces.flatten.length := by
  induction pieces generalizing off with
  | nil => rfl
  | cons piece pieces ih =>
    rw [endToEnd, List.flatten_cons, List.length_append, ← ih (off + piece.length)]
    rfl

namespace Buf

variable {n : ℕ}

/-- The writes one after the other, as far as they stay inside the array. -/
def writeAll : List Write → Buf n → Option (Buf n)
  | [], b => some b
  | write :: writes, b => (b.storeAt write.1 write.2).bind (writeAll writes)

theorem writeAll_append (writes writes' : List Write) (b : Buf n) :
    writeAll (writes ++ writes') b = (writeAll writes b).bind (writeAll writes') := by
  induction writes generalizing b with
  | nil => rfl
  | cons write writes ih =>
    rw [List.cons_append, writeAll, writeAll, Option.bind_assoc]
    congr
    funext b'
    exact ih b'

/-- What stays inside the array does not fail. What does not fail stays inside. -/
theorem writeAll_isSome_iff (writes : List Write) (b : Buf n) :
    (writeAll writes b).isSome ↔ StaysIn n writes := by
  induction writes generalizing b with
  | nil => exact ⟨fun _ => List.forall_mem_nil _, fun _ => rfl⟩
  | cons write writes ih =>
    rw [writeAll, StaysIn, List.forall_mem_cons]
    by_cases hfits : write.1 + write.2.length ≤ n
    · rw [storeAt_of_le b hfits, Option.bind_some, ih]
      exact ⟨fun h => ⟨hfits, h⟩, And.right⟩
    · have hnone : b.storeAt write.1 write.2 = none := if_neg hfits
      rw [hnone, Option.bind_none]
      exact ⟨fun h => absurd h Bool.false_ne_true, fun h => absurd h.1 hfits⟩

/-- Pieces that are written end to end are one write. -/
theorem writeAll_endToEnd (pieces : List (List UInt8)) {off : ℕ} (b : Buf n)
    (h : off + pieces.flatten.length ≤ n) :
    writeAll (endToEnd off pieces) b = some (b.store off pieces.flatten) := by
  induction pieces generalizing off b with
  | nil => exact congrArg some (b.store_nil off).symm
  | cons piece pieces ih =>
    rw [List.flatten_cons, List.length_append, ← Nat.add_assoc] at h
    have hfits : off + piece.length ≤ n := (Nat.le_add_right ..).trans h
    rw [endToEnd, writeAll, storeAt_of_le b hfits, Option.bind_some, ih _ h,
      store_store_append b rfl h, List.flatten_cons]

/-- A write right in front of what was written makes one write with it. -/
theorem store_store_below (b : Buf n) {off off' : ℕ} {xs ys : List UInt8}
    (hoff : off' = off + xs.length) (h : off + xs.length + ys.length ≤ n) :
    (b.store off' ys).store off xs = b.store off (xs ++ ys) := by
  subst hoff
  have htake : ((b.bytes.take (off + xs.length)).take off) = b.bytes.take off := by
    rw [List.take_take, Nat.min_eq_left (Nat.le_add_right ..)]
  have hlen : (b.bytes.take (off + xs.length)).length = off + xs.length := by
    rw [List.length_take, length_bytes]
    omega
  ext1
  rw [bytes_store _ (by omega), bytes_store b h, bytes_store b (by rw [List.length_append]; omega),
    List.append_assoc, List.append_assoc, List.take_append_of_le_length (by omega), htake,
    List.drop_append_of_le_length hlen.ge, List.drop_of_length_le hlen.le, List.nil_append,
    List.length_append, Nat.add_assoc]
  simp only [List.append_assoc]

/-- A write in front of pieces that were written end to end. -/
theorem writeAll_below (pieces : List (List UInt8)) {off off' : ℕ} {xs : List UInt8} (b : Buf n)
    (hoff : off' = off + xs.length) (h : off' + pieces.flatten.length ≤ n) :
    writeAll (endToEnd off' pieces ++ [(off, xs)]) b
      = some (b.store off (xs ++ pieces.flatten)) := by
  subst hoff
  have hfits : off + xs.length ≤ n := (Nat.le_add_right ..).trans h
  rw [writeAll_append, writeAll_endToEnd pieces b h, Option.bind_some, writeAll,
    storeAt_of_le _ hfits, Option.bind_some, writeAll, store_store_below b rfl h]

/-- Pieces written end to end, then more of them behind a gap, then what fills the gap. -/
theorem writeAll_gap (front pieces : List (List UInt8)) {gap : List UInt8}
    {off off' : ℕ} (b : Buf n) (hoff : off = front.flatten.length) (hoff' : off' = off + gap.length)
    (h : off' + pieces.flatten.length ≤ n) :
    writeAll (endToEnd 0 front ++ (endToEnd off' pieces ++ [(off, gap)])) b
      = some (b.store 0 (front.flatten ++ (gap ++ pieces.flatten))) := by
  have hfront : 0 + front.flatten.length ≤ n := by omega
  rw [writeAll_append, writeAll_endToEnd front b hfront, Option.bind_some,
    writeAll_below pieces _ hoff' h, store_store_append b (by omega)]
  rw [List.length_append]
  omega

end Buf
