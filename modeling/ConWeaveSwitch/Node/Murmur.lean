import ConWeaveSwitch.Node.Routing
import ConWeaveSwitch.Header.CreditFeedback

/-!
# `EcmpHash` is MurmurHash3_x86_32

`murmurHash3X86_32` is the reference hash as described, blocks read by index; `EcmpHash` walks the
key with a word pointer, computes `5h` as `h + (h << 2)` and builds its tail from the last byte
down. On a little-endian host the two agree on every key and seed (`ecmp_hash_eq_reference`).
-/

namespace ConWeaveSwitch

set_option autoImplicit false

def rotl32 (x r : UInt32) : UInt32 := (x <<< r) ||| (x >>> (32 - r))

def getblock32 (key : List UInt8) (i : Nat) : UInt32 :=
  UInt32.ofNat ((key.getD (4 * i) 0).toNat + 2 ^ 8 * (key.getD (4 * i + 1) 0).toNat +
    2 ^ 16 * (key.getD (4 * i + 2) 0).toNat + 2 ^ 24 * (key.getD (4 * i + 3) 0).toNat)

def murmurMix (k1 : UInt32) : UInt32 := rotl32 (k1 * 0xcc9e2d51) 15 * 0x1b873593

def murmurBlock (h1 k1 : UInt32) : UInt32 := rotl32 (h1 ^^^ murmurMix k1) 13 * 5 + 0xe6546b64

def tailWord (tail : List UInt8) : UInt32 :=
  ((tail.getD 2 0).toUInt32 <<< 16) ||| ((tail.getD 1 0).toUInt32 <<< 8) ||| (tail.getD 0 0).toUInt32

def fmix32 (h : UInt32) : UInt32 :=
  let h := h ^^^ (h >>> 16)
  let h := h * 0x85ebca6b
  let h := h ^^^ (h >>> 13)
  let h := h * 0xc2b2ae35
  h ^^^ (h >>> 16)

/-- `MurmurHash3_x86_32(key, len, seed)` with `len` the length of `key`: the blocks by index, the
tail when `len & 3` is not zero, then `h1 ^= len` and `fmix32`. -/
def murmurHash3X86_32 (key : List UInt8) (seed : UInt32) : UInt32 :=
  let nblocks := key.length / 4
  let h1 := (List.range nblocks).foldl (fun h1 i => murmurBlock h1 (getblock32 key i)) seed
  let h1 := if key.length % 4 = 0 then h1
    else h1 ^^^ murmurMix (tailWord (key.drop (4 * nblocks)))
  fmix32 (h1 ^^^ UInt32.ofNat key.length)

def leValue : List UInt8 → Nat
  | [] => 0
  | b :: rest => b.toNat + 2 ^ 8 * leValue rest

theorem le_value_lt : ∀ bytes : List UInt8, leValue bytes < 2 ^ (8 * bytes.length)
  | [] => by decide
  | b :: rest => by
    have byte := u8_toNat_lt b
    have below := le_value_lt rest
    rw [leValue, List.length_cons, Nat.mul_succ, Nat.pow_add]
    have step : 2 ^ 8 * leValue rest + 2 ^ 8 ≤ 2 ^ 8 * 2 ^ (8 * rest.length) := by
      rw [← Nat.mul_succ]
      exact Nat.mul_le_mul_left _ below
    omega

theorem le_word_toNat : ∀ bytes : List UInt8, bytes.length ≤ 4 → (leWord bytes).toNat = leValue bytes
  | [], _ => rfl
  | b :: rest, short => by
    have shorter : rest.length ≤ 3 := by
      rw [List.length_cons] at short
      omega
    have below : leValue rest < 2 ^ 24 :=
      lt_of_lt_of_le (le_value_lt rest) (Nat.pow_le_pow_right (by norm_num) (by omega))
    have shift : (8 : UInt32).toNat % 32 = 8 := rfl
    show ((leWord rest <<< 8) ||| b.toUInt32).toNat = b.toNat + 2 ^ 8 * leValue rest
    rw [u32_toNat_or, u32_toNat_shiftLeft, u8_toNat_toUInt32, shift,
      shift_or_byte _ _ 32 (by norm_num) (u8_toNat_lt b), Nat.shiftLeft_eq,
      le_word_toNat rest (by omega)]
    omega

theorem le_word_block (b0 b1 b2 b3 : UInt8) (rest : List UInt8) :
    leWord [b0, b1, b2, b3] = getblock32 (b0 :: b1 :: b2 :: b3 :: rest) 0 := by
  have byte0 := u8_toNat_lt b0
  have byte1 := u8_toNat_lt b1
  have byte2 := u8_toNat_lt b2
  have byte3 := u8_toNat_lt b3
  have block : getblock32 (b0 :: b1 :: b2 :: b3 :: rest) 0 =
      UInt32.ofNat (b0.toNat + 2 ^ 8 * b1.toNat + 2 ^ 16 * b2.toNat + 2 ^ 24 * b3.toNat) := rfl
  apply UInt32.toNat.inj
  rw [le_word_toNat _ (by simp), block, UInt32.toNat_ofNat_of_lt (show _ < 4294967296 by omega)]
  simp only [leValue]
  ring

theorem getblock32_cons (b0 b1 b2 b3 : UInt8) (rest : List UInt8) (i : Nat) :
    getblock32 (b0 :: b1 :: b2 :: b3 :: rest) (i + 1) = getblock32 rest i := by
  have shift : ∀ j, 4 * (i + 1) + j = 4 * i + j + 1 + 1 + 1 + 1 := fun j => by ring
  rw [getblock32, getblock32, shift 1, shift 2, shift 3, ← Nat.add_zero (4 * (i + 1)), shift 0,
    Nat.add_zero]
  rfl

theorem or_eq_add_of_low {x y k : Nat} (aligned : 2 ^ k ∣ x) (low : y < 2 ^ k) : x ||| y = x + y := by
  obtain ⟨q, rfl⟩ := aligned
  exact (Nat.mul_add_lt_is_or low q).symm

theorem tail_word_bytes (t0 t1 t2 : UInt8) :
    ((t2.toUInt32 <<< 16) ||| (t1.toUInt32 <<< 8) ||| t0.toUInt32).toNat =
      t0.toNat + 2 ^ 8 * t1.toNat + 2 ^ 16 * t2.toNat := by
  have byte0 := u8_toNat_lt t0
  have byte1 := u8_toNat_lt t1
  have byte2 := u8_toNat_lt t2
  have sixteen : (16 : UInt32).toNat % 32 = 16 := rfl
  have eight : (8 : UInt32).toNat % 32 = 8 := rfl
  have high : t2.toNat * 2 ^ 16 % 2 ^ 32 = t2.toNat * 2 ^ 16 := Nat.mod_eq_of_lt (by omega)
  have middle : t1.toNat * 2 ^ 8 % 2 ^ 32 = t1.toNat * 2 ^ 8 := Nat.mod_eq_of_lt (by omega)
  have inner : t2.toNat * 2 ^ 16 ||| t1.toNat * 2 ^ 8 = t2.toNat * 2 ^ 16 + t1.toNat * 2 ^ 8 :=
    or_eq_add_of_low (Nat.dvd_mul_left _ _) (by omega)
  have outer : t2.toNat * 2 ^ 16 + t1.toNat * 2 ^ 8 ||| t0.toNat =
      t2.toNat * 2 ^ 16 + t1.toNat * 2 ^ 8 + t0.toNat :=
    or_eq_add_of_low (k := 8) ⟨2 ^ 8 * t2.toNat + t1.toNat, by ring⟩ byte0
  simp only [u32_toNat_or, u32_toNat_shiftLeft, u8_toNat_toUInt32, sixteen, eight,
    Nat.shiftLeft_eq, high, middle, inner, outer]
  ring

theorem tail_word_toNat (tail : List UInt8) :
    (tailWord tail).toNat =
      (tail.getD 0 0).toNat + 2 ^ 8 * (tail.getD 1 0).toNat + 2 ^ 16 * (tail.getD 2 0).toNat :=
  tail_word_bytes _ _ _

theorem le_word_tail (tail : List UInt8) (short : tail.length < 4) : leWord tail = tailWord tail := by
  apply UInt32.toNat.inj
  rw [le_word_toNat tail (by omega), tail_word_toNat]
  match tail, short with
  | [], _ => rfl
  | [_], _ => simp [leValue]
  | [_, _], _ => simp [leValue]
  | [_, _, _], _ => simp [leValue]; ring

theorem scramble_block_eq_mix (k : UInt32) : scrambleBlock k = murmurMix k := rfl

theorem add_shift_two (h c : UInt32) : h + ((h <<< 2) + c) = h * 5 + c := by
  have two : (2 : UInt32).toNat % 32 = 2 := rfl
  have five : (5 : UInt32).toNat = 5 := rfl
  apply UInt32.toNat.inj
  simp only [u32_toNat_add, u32_toNat_shiftLeft, u32_toNat_mul, two, five, Nat.shiftLeft_eq]
  omega

/-- One step of the block loop is the reference block. Both sides are unfolded before they are
compared: compared as applications of `hashBlocks`, the hash states `h` and `… + 0xe6546b64` would
first be unfolded down to `Nat` successors. -/
theorem hash_blocks_cons (h : UInt32) (b0 b1 b2 b3 : UInt8) (rest : List UInt8) :
    hashBlocks h (b0 :: b1 :: b2 :: b3 :: rest) =
      hashBlocks (murmurBlock h (leWord [b0, b1, b2, b3])) rest := by
  have step : murmurBlock h (leWord [b0, b1, b2, b3]) =
      let h := h ^^^ scrambleBlock (leWord [b0, b1, b2, b3])
      let h := (h <<< 13) ||| (h >>> 19)
      h + ((h <<< 2) + 0xe6546b64) := by
    dsimp only
    rw [add_shift_two]
    rfl
  rw [step]
  delta hashBlocks
  exact rfl

theorem hash_blocks_eq : ∀ (h : UInt32) (key : List UInt8),
    hashBlocks h key =
      ((List.range (key.length / 4)).foldl (fun h i => murmurBlock h (getblock32 key i)) h,
        key.drop (4 * (key.length / 4)))
  | h, b0 :: b1 :: b2 :: b3 :: rest => by
    have blocks : (rest.length + 1 + 1 + 1 + 1) / 4 = rest.length / 4 + 1 := by omega
    rw [hash_blocks_cons, hash_blocks_eq, List.length_cons, List.length_cons, List.length_cons,
      List.length_cons, blocks, List.range_succ_eq_map, List.foldl_cons, List.foldl_map,
      le_word_block b0 b1 b2 b3 rest, Nat.mul_succ]
    simp only [Nat.succ_eq_add_one, getblock32_cons]
    rfl
  | h, [] => rfl
  | h, [a] => (show hashBlocks h [a] = (h, [a]) from rfl).trans (by simp)
  | h, [a, b] => (show hashBlocks h [a, b] = (h, [a, b]) from rfl).trans (by simp)
  | h, [a, b, c] => (show hashBlocks h [a, b, c] = (h, [a, b, c]) from rfl).trans (by simp)

/-- On a little-endian host `EcmpHash(key, len, seed)` is `MurmurHash3_x86_32(key, len, seed)`
for every key and seed. -/
theorem ecmp_hash_eq_reference (key : List UInt8) (seed : UInt32) :
    ecmpHash key seed = murmurHash3X86_32 key seed := by
  have tailLength : (key.drop (4 * (key.length / 4))).length = key.length % 4 := by
    rw [List.length_drop]
    omega
  have tail : leWord (key.drop (4 * (key.length / 4))) = tailWord (key.drop (4 * (key.length / 4))) :=
    le_word_tail _ (by omega)
  have empty : (key.drop (4 * (key.length / 4))).isEmpty = true ↔ key.length % 4 = 0 := by
    rw [List.isEmpty_iff, ← List.length_eq_zero, tailLength]
  unfold ecmpHash murmurHash3X86_32
  rw [hash_blocks_eq]
  dsimp only
  by_cases whole : key.length % 4 = 0
  · rw [if_pos (empty.mpr whole), if_pos whole]
    rfl
  · rw [if_neg (mt empty.mp whole), if_neg whole, tail, scramble_block_eq_mix]
    rfl

end ConWeaveSwitch
