import Sandboxes.Proofs.Net.Percent
import Sandboxes.Proofs.Text.Pieces

/-!
# Form fields

The name and the value of a form field are read back from what they are written as, whatever they are.
What is known of a single byte is found by trying all of them.
-/

namespace Sandboxes.Net

variable {s name value : String} {b : UInt8}

/-! ### Bytes -/

/-- The characters for a byte in a form field. -/
def formByte (b : UInt8) : List Char :=
  if isPlain b then [Char.ofNat b.toNat] else if b == 0x20 then ['+'] else percentByte b

/-- The bytes of these characters. -/
def formBytes (b : UInt8) : Bytes :=
  (formByte b).flatMap String.utf8EncodeChar

lemma formEncode_eq (s : String) : formEncode s = .ofList ((Text.encode s).flatMap formByte) := rfl

/-- A plus sign stands for a blank. -/
def unplus (b : UInt8) : UInt8 :=
  if b == 0x2B then 0x20 else b

/-- The bytes for a byte in a form field stand for it. They separate no fields and end no target. -/
lemma standsFor_formBytes (b : UInt8) : StandsFor b ((formBytes b).map unplus) ∧
    '#' ∉ formByte b ∧ ∀ c ∈ formBytes b, c ∉ [0x26, 0x3D] := by
  have all : ∀ n < 256, StandsFor (.ofNat n) ((formBytes (.ofNat n)).map unplus) ∧
      '#' ∉ formByte (.ofNat n) ∧ (formBytes (.ofNat n)).all (· ∉ [0x26, 0x3D]) = true := by
    decide +kernel
  obtain ⟨stands, ends, separators⟩ := all b.toNat b.toNat_lt
  rw [UInt8.ofNat_toNat] at stands ends separators
  exact ⟨stands, ends, fun c mem => of_decide_eq_true (List.all_eq_true.mp separators c mem)⟩

/-! ### Fields -/

lemma encode_formEncode (s : String) :
    Text.encode (formEncode s) = (Text.encode s).flatMap formBytes := by
  rw [formEncode_eq, Text.encode_ofList, List.flatMap_assoc]
  rfl

lemma formDecode_formEncode (s : String) : formDecode (Text.encode (formEncode s)) = s := by
  have read : percentDecode (((Text.encode s).flatMap formBytes).map unplus) = Text.encode s := by
    have each : ∀ b ∈ Text.encode s, StandsFor b ((formBytes b).map unplus) :=
      fun b _ => (standsFor_formBytes b).1
    rw [List.map_flatMap]
    simpa [percentDecode] using percentDecode_flatMap each []
  change Text.decodeLenient (percentDecode ((Text.encode (formEncode s)).map unplus)) = s
  rw [encode_formEncode, read, Text.decodeLenient_encode]

/-- No name and no value ends the target that it is part of. -/
lemma not_mem_formEncode : '#' ∉ (formEncode s).toList := by
  rw [formEncode_eq, String.toList_ofList]
  intro mem
  obtain ⟨b, -, mem⟩ := List.mem_flatMap.mp mem
  exact (standsFor_formBytes b).2.1 mem

/-- No separator of fields is written for a name or a value. -/
lemma not_mem_encode_formEncode (h : b ∈ [0x26, 0x3D]) : b ∉ Text.encode (formEncode s) := by
  rw [encode_formEncode]
  intro mem
  obtain ⟨c, -, mem⟩ := List.mem_flatMap.mp mem
  exact (standsFor_formBytes c).2.2 b mem h

/-- A field as it is written. -/
def formField (name value : String) : String :=
  formEncode name ++ "=" ++ formEncode value

lemma not_mem_formField : '#' ∉ (formField name value).toList := by
  rw [formField, String.toList_append, String.toList_append, List.mem_append, List.mem_append]
  rintro ((h | h) | h)
  · exact not_mem_formEncode h
  · exact absurd h (by decide)
  · exact not_mem_formEncode h

lemma encode_formField : Text.encode (formField name value) =
    Text.encode (formEncode name) ++ 0x3D :: Text.encode (formEncode value) := by
  have sign : Text.encode "=" = [0x3D] := Text.encode_ofList ['=']
  rw [formField, Text.encode_append, Text.encode_append, sign, List.append_assoc,
    List.singleton_append]

/-- A single field is read back. -/
theorem formFields_formField (name value : String) :
    formFields (formField name value) = [(name, value)] := by
  have whole : Text.fields 0x26 (Text.encode (formField name value)) =
      [Text.encode (formField name value)] := by
    refine Text.fields_of_not_mem ?_
    rw [encode_formField, List.mem_append, List.mem_cons, not_or, not_or]
    exact ⟨not_mem_encode_formEncode (by decide), by decide, not_mem_encode_formEncode (by decide)⟩
  have nonempty : Text.encode (formField name value) ≠ [] := by simp [encode_formField]
  rw [formFields, whole, List.filter_cons_of_pos (by simpa using nonempty), encode_formField]
  have split : Text.splitFirst? 0x3D
      (Text.encode (formEncode name) ++ 0x3D :: Text.encode (formEncode value)) = _ :=
    Text.splitFirst?_append_cons (not_mem_encode_formEncode (by decide))
  simp only [List.filter_nil, List.map_cons, List.map_nil, split, formDecode_formEncode]

end Sandboxes.Net
