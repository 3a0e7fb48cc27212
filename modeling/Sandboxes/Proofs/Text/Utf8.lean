import Mathlib.Tactic.Lemma
import Mathlib.Tactic.SplitIfs
import Sandboxes.Text.Utf8

/-!
# Reading what was written

The reading machine takes the bytes of a text back to its characters, so that decoding a text that was
encoded gives the text. The cases follow the number of bytes that a character takes.
-/

namespace Sandboxes.Text

/-! ### Bytes of a text -/

lemma toList_loop (bs : ByteArray) (i : Nat) (r : List UInt8) :
    ByteArray.toList.loop bs i r = r.reverse ++ bs.data.toList.drop i := by
  fun_induction ByteArray.toList.loop bs i r with
  | case1 i r h ih =>
    have inside : i < bs.data.toList.length := h
    rw [ih, List.drop_eq_getElem_cons inside, List.reverse_cons, List.append_assoc]
    simp [ByteArray.get!, getElem!_pos bs.data i h]
  | case2 i r h =>
    have outside : bs.data.toList.length ≤ i := Nat.le_of_not_lt h
    rw [List.drop_of_length_le outside, List.append_nil]

/-- The bytes of a text are those of its characters. -/
lemma encode_ofList (cs : List Char) : encode (.ofList cs) = cs.flatMap String.utf8EncodeChar := by
  simp [encode, ByteArray.toList, toList_loop, List.utf8Encode]

lemma encode_append (s t : String) : encode (s ++ t) = encode s ++ encode t := by
  rw [← String.ofList_toList (s := s), ← String.ofList_toList (s := t), ← String.ofList_append,
    encode_ofList, encode_ofList, encode_ofList, List.flatMap_append]

@[simp] lemma encode_empty : encode "" = [] :=
  encode_ofList []

/-! ### The reading machine -/

namespace Reading

variable {rest : Bytes} {n value used : Nat} {low high : UInt8}

lemma run_cons (r : Reading) (b : UInt8) (rest : Bytes) :
    r.run (b :: rest) = (r.step b).1 ++ (r.step b).2.run rest := by
  cases r <;> rfl

lemma toNat_ofNat (h : n < 0x100) : (UInt8.ofNat n).toNat = n := by
  simpa using Nat.mod_eq_of_lt h

/-- The last byte of a character completes it. -/
lemma run_inside_last (byte : n < 0x100) (h : low.toNat ≤ n ∧ n ≤ high.toNat) :
    (inside 1 low high value used).run (.ofNat n :: rest) =
      .char (.ofNat (value * 64 + n % 64)) :: start.run rest := by
  have fits : low ≤ .ofNat n ∧ .ofNat n ≤ high := by
    simpa only [UInt8.le_iff_toNat_le, toNat_ofNat byte] using h
  simp [run_cons, step, fits, toNat_ofNat byte]

lemma run_inside_more {owed : Nat} (byte : n < 0x100) (h : low.toNat ≤ n ∧ n ≤ high.toNat) :
    (inside (owed + 2) low high value used).run (.ofNat n :: rest) =
      (inside (owed + 1) 0x80 0xBF (value * 64 + n % 64) (used + 1)).run rest := by
  have fits : low ≤ .ofNat n ∧ .ofNat n ≤ high := by
    simpa only [UInt8.le_iff_toNat_le, toNat_ofNat byte] using h
  simp [run_cons, step, fits, toNat_ofNat byte]

lemma run_start_one (h : n < 0x80) :
    start.run (.ofNat n :: rest) = .char (.ofNat n) :: start.run rest := by
  simp [run_cons, step, opening, toNat_ofNat (show n < 0x100 by omega), h]

lemma run_start_two (h : 0xC2 ≤ n ∧ n < 0xE0) :
    start.run (.ofNat n :: rest) = (inside 1 0x80 0xBF (n - 0xC0) 1).run rest := by
  have hn := toNat_ofNat (show n < 0x100 by omega)
  simp only [run_cons, step, opening, hn]
  grind

lemma run_start_three (h : 0xE0 ≤ n ∧ n < 0xF0) :
    start.run (.ofNat n :: rest) =
      (inside 2 (if n = 0xE0 then 0xA0 else 0x80) (if n = 0xED then 0x9F else 0xBF)
        (n - 0xE0) 1).run rest := by
  have hn := toNat_ofNat (show n < 0x100 by omega)
  simp only [run_cons, step, opening, hn]
  grind

lemma run_start_four (h : 0xF0 ≤ n ∧ n < 0xF5) :
    start.run (.ofNat n :: rest) =
      (inside 3 (if n = 0xF0 then 0x90 else 0x80) (if n = 0xF4 then 0x8F else 0xBF)
        (n - 0xF0) 1).run rest := by
  have hn := toNat_ofNat (show n < 0x100 by omega)
  simp only [run_cons, step, opening, hn]
  grind

/-- The machine reads a character from its bytes. -/
lemma run_utf8EncodeChar (c : Char) (rest : Bytes) :
    start.run (String.utf8EncodeChar c ++ rest) = .char c :: start.run rest := by
  have valid : c.toNat < 0xD800 ∨ 0xDFFF < c.toNat ∧ c.toNat < 0x110000 := c.valid
  have back : Char.ofNat c.toNat = c := Char.ofNat_toNat c
  have number : ∀ v, c.val.toNat = v → c.toNat = v := fun _ h => h
  unfold String.utf8EncodeChar
  generalize c.val.toNat = v at number
  rw [number v rfl] at valid back
  dsimp only
  split_ifs with one two three
  · rw [List.singleton_append, run_start_one (by omega), back]
  · have value : (v / 64 % 32 + 192 - 192) * 64 + (v % 64 + 128) % 64 = v := by omega
    rw [List.cons_append, run_start_two (by omega)]
    rw [List.singleton_append, run_inside_last (by omega) (by simp; omega), value, back]
  · have value : ((v / 4096 % 16 + 224 - 224) * 64 + (v / 64 % 64 + 128) % 64) * 64 +
        (v % 64 + 128) % 64 = v := by omega
    rw [List.cons_append, run_start_three (by omega)]
    rw [List.cons_append, run_inside_more (by omega) (by split_ifs <;> simp <;> omega)]
    rw [List.singleton_append, run_inside_last (by omega) (by simp; omega), value, back]
  · have value : (((v / 262144 % 8 + 240 - 240) * 64 + (v / 4096 % 64 + 128) % 64) * 64 +
        (v / 64 % 64 + 128) % 64) * 64 + (v % 64 + 128) % 64 = v := by omega
    rw [List.cons_append, run_start_four (by omega)]
    rw [List.cons_append, run_inside_more (by omega) (by split_ifs <;> simp <;> omega)]
    rw [List.cons_append, run_inside_more (by omega) (by simp; omega)]
    rw [List.singleton_append, run_inside_last (by omega) (by simp; omega), value, back]

end Reading

/-! ### Texts -/

/-- The pieces of a text are its characters. -/
lemma pieces_encode (s : String) : pieces (encode s) = s.toList.map .char := by
  rw [← String.ofList_toList (s := s), encode_ofList, String.toList_ofList, pieces]
  induction s.toList with
  | nil => rfl
  | cons c cs ih => rw [List.flatMap_cons, Reading.run_utf8EncodeChar, ih, List.map_cons]

lemma collect_map_char (index : Nat) (cs : List Char) : collect index (cs.map .char) = .ok cs := by
  induction cs generalizing index with
  | nil => rfl
  | cons c cs ih =>
    rw [List.map_cons, collect, ih]
    rfl

theorem decode_encode (s : String) : decode (encode s) = .ok s := by
  rw [decode, pieces_encode, collect_map_char]
  simp [Except.map]

theorem decodeLenient_encode (s : String) : decodeLenient (encode s) = s := by
  have lenient : Piece.lenient ∘ Piece.char = id := rfl
  rw [decodeLenient, pieces_encode, List.map_map, lenient, List.map_id, String.ofList_toList]

end Sandboxes.Text
