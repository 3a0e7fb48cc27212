import Mathlib.Tactic.Lemma
import Mathlib.Tactic.SplitIfs
import Sandboxes.Json.Printer
import Sandboxes.Json.Source
import Sandboxes.Proofs.Text.Utf8

/-!
# Strings in quotes

A text that is written in quotes is one token of a JSON text, and reading the token gives the text.
Both are shown character by character: a character is written as its own bytes, with a backslash in
front of a letter, or as a code unit in digits.
-/

namespace Sandboxes.Json

variable {c : Char} {bs rest : Bytes} {raw : Bytes} {done : List Token}

/-! ### Characters -/

/-- A byte that may stand in a string as it is. -/
def IsOrdinary (b : UInt8) : Prop :=
  b ≠ 0x22 ∧ b ≠ 0x5C ∧ 0x20 ≤ b

instance (b : UInt8) : Decidable (IsOrdinary b) :=
  inferInstanceAs (Decidable (_ ∧ _ ∧ _))

/-- The bytes that a character is written as in a string. -/
inductive WrittenAs (c : Char) : Bytes → Prop
  | ordinary (h : ∀ b ∈ String.utf8EncodeChar c, IsOrdinary b) : WrittenAs c (String.utf8EncodeChar c)
  | letter (b : UInt8) (known : "\"\\/bfnrt".toList.contains (Char.ofNat b.toNat) = true)
      (value : [Source.shortEscape b] = String.utf8EncodeChar c) : WrittenAs c [0x5C, b]
  | digits (d₁ d₂ d₃ d₄ : UInt8) (value : Source.unit? d₁ d₂ d₃ d₄ = some c.toNat)
      (small : c.toNat < 0x20) : WrittenAs c [0x5C, 0x75, d₁, d₂, d₃, d₄]

lemma le_of_mem_utf8EncodeChar {b : UInt8} (long : 0x80 ≤ c.toNat)
    (h : b ∈ String.utf8EncodeChar c) : 0x80 ≤ b.toNat := by
  have long : 0x80 ≤ c.val.toNat := long
  unfold String.utf8EncodeChar at h
  generalize c.val.toNat = v at long h
  dsimp only at h
  split_ifs at h with one two three
  · omega
  · simp only [List.mem_cons, List.not_mem_nil, or_false] at h
    rcases h with rfl | rfl <;> simp <;> omega
  · simp only [List.mem_cons, List.not_mem_nil, or_false] at h
    rcases h with rfl | rfl | rfl <;> simp <;> omega
  · simp only [List.mem_cons, List.not_mem_nil, or_false] at h
    rcases h with rfl | rfl | rfl | rfl <;> simp <;> omega

lemma isOrdinary_of_mem {b : UInt8} (quote : c ≠ '"') (backslash : c ≠ '\\') (low : 0x20 ≤ c.toNat)
    (h : b ∈ String.utf8EncodeChar c) : IsOrdinary b := by
  by_cases ascii : c.toNat < 0x80
  · have all : ∀ n < 0x80, 0x20 ≤ n → Char.ofNat n ≠ '"' → Char.ofNat n ≠ '\\' →
        (String.utf8EncodeChar (Char.ofNat n)).all (IsOrdinary ·) = true := by decide +kernel
    rw [← Char.ofNat_toNat c] at h quote backslash
    exact of_decide_eq_true (List.all_eq_true.mp (all c.toNat ascii low quote backslash) b h)
  · -- Every byte of a longer character is beyond ASCII.
    have high : 0x80 ≤ b.toNat := le_of_mem_utf8EncodeChar (Nat.le_of_not_lt ascii) h
    refine ⟨?_, ?_, UInt8.le_iff_toNat_le.mpr (Nat.le_trans (by decide) high)⟩ <;>
    · rintro rfl
      exact absurd high (by decide)

/-- The value of four digits. -/
def digitsValue? : Bytes → Option Nat
  | [d₁, d₂, d₃, d₄] => Source.unit? d₁ d₂ d₃ d₄
  | _ => none

/-- The bytes of the code unit of a character below the blank. -/
lemma writtenAs_digits (small : c.toNat < 0x20) : WrittenAs c
    (('\\' :: 'u' :: Text.hexPadded 4 c.toNat).flatMap String.utf8EncodeChar) := by
  have all : ∀ n < 0x20, digitsValue? ((Text.hexPadded 4 n).flatMap String.utf8EncodeChar) = some n := by
    decide +kernel
  have digits := all c.toNat small
  rw [List.flatMap_cons, List.flatMap_cons]
  generalize (Text.hexPadded 4 c.toNat).flatMap String.utf8EncodeChar = ds at digits
  match ds, digits with
  | [d₁, d₂, d₃, d₄], value => exact .digits d₁ d₂ d₃ d₄ value small

/-- The bytes of a character between quotes. -/
def written (c : Char) : Bytes :=
  (escape c).flatMap String.utf8EncodeChar

lemma writtenAs_written (c : Char) : WrittenAs c (written c) := by
  unfold written escape
  split_ifs with quote backslash newline carriage tab backspace feed low
  · subst quote
    exact .letter 0x22 (by decide) (by decide)
  · subst backslash
    exact .letter 0x5C (by decide) (by decide)
  · subst newline
    exact .letter 0x6E (by decide) (by decide)
  · subst carriage
    exact .letter 0x72 (by decide) (by decide)
  · subst tab
    exact .letter 0x74 (by decide) (by decide)
  · obtain rfl : c = Char.ofNat 0x08 := by rw [← backspace, Char.ofNat_toNat]
    exact .letter 0x62 (by decide) (by decide)
  · obtain rfl : c = Char.ofNat 0x0C := by rw [← feed, Char.ofNat_toNat]
    exact .letter 0x66 (by decide) (by decide)
  · exact writtenAs_digits low
  · rw [List.flatMap_singleton]
    exact .ordinary fun b => isOrdinary_of_mem quote backslash (Nat.le_of_not_lt low)

/-! ### Tokens -/

lemma Source.isSome_of_unit? {d₁ d₂ d₃ d₄ : UInt8} {n : Nat} (h : unit? d₁ d₂ d₃ d₄ = some n) :
    ∀ d ∈ [d₁, d₂, d₃, d₄], (Text.hexValue? (Char.ofNat d.toNat)).isSome = true := by
  simp only [unit?, Option.pure_def, Option.bind_eq_bind, Option.bind_eq_some_iff] at h
  obtain ⟨v₁, h₁, v₂, h₂, v₃, h₃, v₄, h₄, -⟩ := h
  simp [h₁, h₂, h₃, h₄]

namespace Lexing

lemma run_cons {l next : Lexing} {b : UInt8} {ts : List Token} (h : l.step b = some (ts, next)) :
    l.run done (b :: rest) = next.run (ts.reverse ++ done) rest := by
  have unfolded : l.run done (b :: rest) =
      (l.step b).bind fun x => x.2.run (x.1.reverse ++ done) rest := by
    cases l <;> rfl
  rw [unfolded, h, Option.bind_some]

lemma run_ordinary (h : ∀ b ∈ bs, IsOrdinary b) : (inString raw).run done (bs ++ rest) =
    (inString (bs.reverse ++ raw)).run done rest := by
  induction bs generalizing raw with
  | nil => rfl
  | cons b bs ih =>
    obtain ⟨⟨quote, backslash, low⟩, others⟩ := List.forall_mem_cons.mp h
    have step : (inString raw).step b = some ([], inString (b :: raw)) := by
      simp [Lexing.step, quote, backslash, low]
    rw [List.cons_append, run_cons step, List.reverse_nil, List.nil_append, ih others,
      List.reverse_cons, List.append_assoc, List.singleton_append]

lemma run_digit {owed : Nat} {d : UInt8} (h : (Text.hexValue? (Char.ofNat d.toNat)).isSome = true) :
    (inUnit (owed + 2) raw).run done (d :: rest) = (inUnit (owed + 1) (d :: raw)).run done rest := by
  have step : (inUnit (owed + 2) raw).step d = some ([], inUnit (owed + 1) (d :: raw)) := if_pos h
  exact run_cons step

lemma run_last_digit {d : UInt8} (h : (Text.hexValue? (Char.ofNat d.toNat)).isSome = true) :
    (inUnit 1 raw).run done (d :: rest) = (inString (d :: raw)).run done rest := by
  have step : (inUnit 1 raw).step d = some ([], inString (d :: raw)) := if_pos h
  exact run_cons step

lemma run_writtenAs (h : WrittenAs c bs) : (inString raw).run done (bs ++ rest) =
    (inString (bs.reverse ++ raw)).run done rest := by
  have escape : (inString raw).step 0x5C = some ([], afterBackslash (0x5C :: raw)) := rfl
  cases h with
  | ordinary h => exact run_ordinary h
  | letter b known value =>
    have taken : (afterBackslash (0x5C :: raw)).step b = some ([], inString (b :: 0x5C :: raw)) :=
      if_pos known
    rw [List.cons_append, run_cons escape, List.cons_append, run_cons taken]
    rfl
  | digits d₁ d₂ d₃ d₄ value small =>
    have unit : (afterBackslash (0x5C :: raw)).step 0x75 = some ([], inUnit 4 (0x75 :: 0x5C :: raw)) :=
      rfl
    have digit := Source.isSome_of_unit? value
    simp only [List.cons_append, List.nil_append]
    rw [run_cons escape, run_cons unit, run_digit (digit d₁ (by simp)),
      run_digit (digit d₂ (by simp)), run_digit (digit d₃ (by simp)),
      run_last_digit (digit d₄ (by simp))]
    rfl

end Lexing

/-! ### Values -/

namespace Source

lemma unescape?_ordinary (h : ∀ b ∈ bs, IsOrdinary b) :
    unescape? (bs ++ rest) = (unescape? rest).map (bs ++ ·) := by
  induction bs with
  | nil => simp
  | cons b bs ih =>
    obtain ⟨⟨quote, backslash, low⟩, others⟩ := List.forall_mem_cons.mp h
    rw [List.cons_append, unescape?, ih others]
    · rw [Option.map_map]
      rfl
    all_goals
      intros
      simp_all

lemma unescape?_unit {d₁ d₂ d₃ d₄ : UInt8} {n : Nat} (value : unit? d₁ d₂ d₃ d₄ = some n)
    (small : n < 0xD800) : unescape? (0x5C :: 0x75 :: d₁ :: d₂ :: d₃ :: d₄ :: rest) =
      (unescape? rest).map (charBytes n ++ ·) := by
  by_cases pair : ∃ e f g h more, rest = 0x5C :: 0x75 :: e :: f :: g :: h :: more
  · obtain ⟨e, f, g, h, more, rfl⟩ := pair
    rw [unescape?, value]
    dsimp only [Bind.bind, Option.bind]
    rw [if_pos (.inl small)]
    cases unescape? (0x5C :: 0x75 :: e :: f :: g :: h :: more) <;> rfl
  · rw [unescape?, value]
    · dsimp only [Bind.bind, Option.bind]
      rw [if_pos (.inl small)]
      cases unescape? rest <;> rfl
    · rintro e f g h more rfl
      exact pair ⟨e, f, g, h, more, rfl⟩

lemma unescape?_writtenAs (h : WrittenAs c bs) :
    unescape? (bs ++ rest) = (unescape? rest).map (String.utf8EncodeChar c ++ ·) := by
  cases h with
  | ordinary h => exact unescape?_ordinary h
  | letter b known value =>
    have letter : b ≠ 0x75 := by
      rintro rfl
      exact absurd known (by decide)
    rw [List.cons_append, List.cons_append, List.nil_append, unescape?, ← value]
    · rfl
    · intros
      contradiction
    · intros
      contradiction
  | digits d₁ d₂ d₃ d₄ value small =>
    have bytes : charBytes c.toNat = String.utf8EncodeChar c := by
      rw [charBytes, Char.ofNat_toNat, String.singleton_eq_ofList, Text.encode_ofList,
        List.flatMap_singleton]
    rw [← bytes]
    exact unescape?_unit value (by omega)

end Source

/-! ### Texts -/

/-- The bytes of a text between quotes. -/
def quoted (s : String) : Bytes :=
  s.toList.flatMap written

lemma encode_quote (s : String) : Text.encode (quote s) = 0x22 :: (quoted s ++ [0x22]) := by
  have sign : Text.encode "\"" = [0x22] := Text.encode_ofList ['"']
  rw [quote, Text.encode_append, Text.encode_append, sign, Text.encode_ofList, List.flatMap_assoc]
  rfl

lemma run_written (cs : List Char) : (Lexing.inString raw).run done (cs.flatMap written ++ 0x22 :: rest) =
    Lexing.between.run (.string (raw.reverse ++ cs.flatMap written) :: done) rest := by
  induction cs generalizing raw with
  | nil =>
    rw [List.flatMap_nil, List.append_nil]
    rfl
  | cons c cs ih =>
    rw [List.flatMap_cons, List.append_assoc, Lexing.run_writtenAs (writtenAs_written c), ih,
      List.reverse_append, List.reverse_reverse, List.append_assoc]

/-- A text in quotes is one token. -/
lemma run_quote (s : String) : Lexing.between.run done (Text.encode (quote s) ++ rest) =
    Lexing.between.run (.string (quoted s) :: done) rest := by
  have opening : Lexing.between.step 0x22 = some ([], .inString []) := rfl
  rw [encode_quote, List.cons_append, List.append_assoc, Lexing.run_cons opening]
  exact run_written s.toList

lemma unescape?_flatMap_written (cs : List Char) :
    Source.unescape? (cs.flatMap written) = some (cs.flatMap String.utf8EncodeChar) := by
  induction cs with
  | nil => rfl
  | cons c cs ih =>
    rw [List.flatMap_cons, Source.unescape?_writtenAs (writtenAs_written c), ih, Option.map_some,
      List.flatMap_cons]

lemma text?_quoted (s : String) : Source.text? (quoted s) = some s := by
  rw [Source.text?, quoted, unescape?_flatMap_written, ← Text.encode_ofList, String.ofList_toList,
    Option.bind_some, Text.decode?, Text.decode_encode]
  rfl

/-- A document with a single text is read as a record with that field. -/
theorem readRecord?_text (name s : String) :
    readRecord? [name] (Text.encode (compact (.obj [(name, .str s)]))) =
      some (.obj [(name, .str s)]) := by
  have written : Text.encode (compact (.obj [(name, .str s)])) =
      0x7B :: (Text.encode (quote name) ++ 0x3A :: (Text.encode (quote s) ++ [0x7D])) := by
    have opening : Text.encode "\x7b" = [0x7B] := Text.encode_ofList ['{']
    have colon : Text.encode ":" = [0x3A] := Text.encode_ofList [':']
    have closing : Text.encode "\x7d" = [0x7D] := Text.encode_ofList ['}']
    simp only [compact, compactMembers, compactMember, Text.encode_append, opening, colon, closing,
      List.append_assoc, List.cons_append, List.nil_append]
  have tokens : tokens? (Text.encode (compact (.obj [(name, .str s)]))) =
      some [.openObject, .string (quoted name), .colon, .string (quoted s), .closeObject] := by
    have opening : Lexing.between.step 0x7B = some ([.openObject], .between) := rfl
    have colon : Lexing.between.step 0x3A = some ([.colon], .between) := rfl
    have closing : Lexing.between.step 0x7D = some ([.closeObject], .between) := rfl
    rw [tokens?, written, Lexing.run_cons opening, run_quote, Lexing.run_cons colon, run_quote,
      Lexing.run_cons closing]
    rfl
  have tree : Source.ofBytes? (Text.encode (compact (.obj [(name, .str s)]))) =
      some (.object [(quoted name, .string (quoted s))]) := by
    rw [Source.ofBytes?, tokens]
    rfl
  rw [readRecord?, tree, Option.bind_some]
  simp [Source.record?, Source.keep?, Source.value?, text?_quoted]

end Sandboxes.Json
