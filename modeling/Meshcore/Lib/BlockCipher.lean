import Meshcore.Lib.Buf

/-!
# Block ciphers

A text goes through a block cipher block by block, and its last block is filled up with zeros. What
comes back is the text with these zeros behind it, so a receiver that does not know the length of
the text must find it in the text.

## Main definitions

* `mapBlocks f n src` — the first `n` blocks of `src`, each of them through `f`
* `BlockCipher` — a cipher that decrypts what it encrypted
* `blockCount k len` — how many blocks a text of this length takes

## Main results

* `mapBlocks_mapBlocks`, `mapBlocks_id`
* `BlockCipher.decrypt_text` — decryption gives the text and the zeros
-/

variable {k : ℕ}

/-- The first block of a text, filled up with zeros. -/
def Buf.ofList (k : ℕ) (src : List UInt8) : Buf k := (Buf.zero k).store 0 (src.take k)

theorem Buf.bytes_ofList (src : List UInt8) :
    (Buf.ofList k src).bytes = src.take k ++ List.replicate (k - src.length) 0 := by
  have hfits : 0 + (src.take k).length ≤ k := by
    rw [Nat.zero_add]
    exact List.length_take_le ..
  have hgap : k - min k src.length = k - src.length := by omega
  rw [Buf.ofList, Buf.bytes_store _ hfits, List.take_zero, List.nil_append, Nat.zero_add, Buf.zero,
    List.drop_replicate, List.length_take, hgap]

/-- A block at the front of a text is the first block. -/
theorem Buf.ofList_append (b : Buf k) (rest : List UInt8) : Buf.ofList k (b.bytes ++ rest) = b := by
  rw [Buf.ext_iff, Buf.bytes_ofList, List.take_left' b.length_bytes, List.length_append,
    b.length_bytes, Nat.sub_eq_zero_of_le (Nat.le_add_right ..), List.replicate_zero,
    List.append_nil]

/-- The first `n` blocks of a text, each of them through `f`. -/
def mapBlocks (f : Buf k → Buf k) : ℕ → List UInt8 → List UInt8
  | 0, _ => []
  | n + 1, src => (f (Buf.ofList k src)).bytes ++ mapBlocks f n (src.drop k)

section

variable (f g : Buf k → Buf k) (m n : ℕ) (src : List UInt8)

@[simp] theorem length_mapBlocks : (mapBlocks f n src).length = n * k := by
  induction n generalizing src with
  | zero => rw [mapBlocks, List.length_nil, Nat.zero_mul]
  | succ n ih =>
    rw [mapBlocks, List.length_append, Buf.length_bytes, ih, Nat.succ_mul, Nat.add_comm]

theorem mapBlocks_add :
    mapBlocks f (m + n) src = mapBlocks f m src ++ mapBlocks f n (src.drop (m * k)) := by
  induction m generalizing src with
  | zero => rw [Nat.zero_add, Nat.zero_mul, List.drop_zero, mapBlocks, List.nil_append]
  | succ m ih =>
    rw [Nat.succ_add, mapBlocks, mapBlocks, ih, List.append_assoc, List.drop_drop, Nat.succ_mul,
      Nat.add_comm k]

/-- Block ciphers compose. -/
theorem mapBlocks_mapBlocks :
    mapBlocks g n (mapBlocks f n src) = mapBlocks (g ∘ f) n src := by
  induction n generalizing src with
  | zero => rfl
  | succ n ih =>
    rw [mapBlocks, mapBlocks, mapBlocks, Buf.ofList_append,
      List.drop_left' (Buf.length_bytes _), ih, Function.comp_apply]

end

/-- A text that goes through its blocks unchanged gets its last block filled up. -/
theorem mapBlocks_id {n : ℕ} {src : List UInt8} (h : src.length ≤ n * k) :
    mapBlocks (id : Buf k → Buf k) n src = src ++ List.replicate (n * k - src.length) 0 := by
  induction n generalizing src with
  | zero =>
    rw [Nat.zero_mul, Nat.le_zero, List.length_eq_zero_iff] at h
    rw [h, mapBlocks, Nat.zero_mul]
    rfl
  | succ n ih =>
    rw [Nat.succ_mul] at h ⊢
    have hrest : (src.drop k).length ≤ n * k := by
      rw [List.length_drop]
      omega
    rw [mapBlocks, id, Buf.bytes_ofList, ih hrest, List.length_drop]
    rcases le_or_gt k src.length with hfull | hshort
    · have hgap : n * k - (src.length - k) = n * k + k - src.length := by omega
      rw [Nat.sub_eq_zero_of_le hfull, List.replicate_zero, List.append_nil, ← List.append_assoc,
        List.take_append_drop, hgap]
    · have hgap : n * k + k - src.length = (k - src.length) + (n * k - (src.length - k)) := by omega
      rw [List.take_of_length_le hshort.le, List.drop_of_length_le hshort.le, List.nil_append,
        List.append_assoc, hgap, List.replicate_add]

/-- How many blocks a text of this length takes. -/
def blockCount (k len : ℕ) : ℕ := (len + k - 1) / k

theorem le_blockCount_mul {k : ℕ} (hk : 0 < k) (len : ℕ) : len ≤ blockCount k len * k := by
  have hdiv := Nat.div_add_mod (len + k - 1) k
  have hmod := Nat.mod_lt (len + k - 1) hk
  rw [Nat.mul_comm] at hdiv
  rw [blockCount]
  omega

/-- A cipher on blocks of `k` bytes. -/
structure BlockCipher (κ : Type*) (k : ℕ) where
  encrypt : κ → Buf k → Buf k
  decrypt : κ → Buf k → Buf k
  decrypt_encrypt : ∀ key block, decrypt key (encrypt key block) = block

/-- Decryption gives the text, with its last block filled up. -/
theorem BlockCipher.decrypt_text {κ : Type*} (c : BlockCipher κ k) (key : κ) {n : ℕ}
    {src : List UInt8} (h : src.length ≤ n * k) :
    mapBlocks (c.decrypt key) n (mapBlocks (c.encrypt key) n src)
      = src ++ List.replicate (n * k - src.length) 0 := by
  have hinverse : c.decrypt key ∘ c.encrypt key = id := funext (c.decrypt_encrypt key)
  rw [mapBlocks_mapBlocks, hinverse, mapBlocks_id h]
