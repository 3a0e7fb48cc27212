import Sandboxes.Control.Envelope
import Sandboxes.Proofs.Json.Record
import Sandboxes.Proofs.Json.Settle

/-!
# Reading and writing envelopes

`Spells` says which trees spell an envelope, and which one: objects and arrays in which every field has
the right form and none is given twice. Reading accepts exactly those, and what is written of an
envelope is one that spells it.
-/

namespace Sandboxes.Control.Envelope

open Json (Given HasOne Lacks)

variable {j : Json} {e : Envelope} {members members' : Members}

/-! ### What trees spell -/

/-- The message that a field holds. Null stands for none. -/
inductive IsMessage : Option Json → Option String → Prop
  | absent : IsMessage none none
  | null : IsMessage (some .null) none
  | text (s : String) : IsMessage (some (.str s)) (some s)

/-- The payload that a field holds, as free-form data. Null stands for none. -/
inductive IsPayload : Option Json → Option Json → Prop
  | absent : IsPayload none none
  | null : IsPayload (some .null) none
  | value {value : Json} (nonnull : value ≠ .null) : IsPayload (some value) (some value.settle)

/-- A tree that spells an envelope. Other members of an object may be there, and be given twice. -/
inductive Spells : Json → Envelope → Prop
  | object {members : Members} {success : Bool} {m d : Option Json} {message : Option String}
      {data : Option Json} (one : HasOne "success" (.bool success) members)
      (given : Given "message" members m) (isMessage : IsMessage m message)
      (given' : Given "data" members d) (isPayload : IsPayload d data) :
      Spells (.obj members) ⟨success, message, data⟩
  | array {items : List Json} {success : Bool} {message : Option String} {data : Option Json}
      (fits : items.length ≤ 3) (first : items[0]? = some (.bool success))
      (isMessage : IsMessage items[1]? message) (isPayload : IsPayload items[2]? data) :
      Spells (.arr items) ⟨success, message, data⟩

/-! ### Reading fields -/

lemma needed_bool? {given : Option Json} {b : Bool} :
    Json.needed Json.bool? given = some b ↔ given = some (.bool b) := by
  cases given with
  | none => simp [Json.needed]
  | some j => cases j <;> simp [Json.needed, Json.bool?]

lemma fieldOr_string? {given : Option Json} {message : Option String} :
    Json.fieldOr none (Json.optional? Json.string?) given = some message ↔
      IsMessage given message := by
  constructor
  · intro h
    cases given with
    | none =>
      cases h
      exact .absent
    | some j =>
      cases j with
      | null =>
        cases h
        exact .null
      | str s =>
        cases h
        exact .text s
      | _ => cases h
  · intro h
    cases h <;> rfl

lemma fieldOr_payload? {given data : Option Json} :
    Json.fieldOr none payload? given = some data ↔ IsPayload given data := by
  constructor
  · intro h
    cases given with
    | none =>
      cases h
      exact .absent
    | some j =>
      cases j with
      | null =>
        cases h
        exact .null
      | _ =>
        cases h
        exact .value nofun
  · intro h
    cases h with
    | absent => rfl
    | null => rfl
    | @value value nonnull =>
      cases value with
      | null => exact absurd rfl nonnull
      | _ => rfl

/-- Reading takes three fields, and each of them by itself. -/
lemma ofJson?_eq_some : ofJson? j = some e ↔ ∃ success message data,
    Json.fields? memberNames j = some [success, message, data] ∧
      success = some (.bool e.success) ∧ IsMessage message e.message ∧ IsPayload data e.data := by
  simp only [← needed_bool?, ← fieldOr_string?, ← fieldOr_payload?]
  constructor
  · intro h
    obtain ⟨fields, hfields, h⟩ := Option.bind_eq_some_iff.mp h
    split at h
    · obtain ⟨success, hsuccess, h⟩ := Option.bind_eq_some_iff.mp h
      obtain ⟨message, hmessage, h⟩ := Option.bind_eq_some_iff.mp h
      obtain ⟨data, hdata, h⟩ := Option.bind_eq_some_iff.mp h
      cases h
      exact ⟨_, _, _, hfields, hsuccess, hmessage, hdata⟩
    · cases h
  · rintro ⟨success, message, data, hfields, hsuccess, hmessage, hdata⟩
    simp [ofJson?, hfields, hsuccess, hmessage, hdata]

lemma fields?_obj {success message data : Option Json} :
    Json.fields? memberNames (.obj members) = some [success, message, data] ↔
      Given "success" members success ∧ Given "message" members message ∧
        Given "data" members data := by
  simp only [← Json.field?_eq_some, Json.fields?, memberNames, List.mapM_cons, List.mapM_nil]
  simp [Option.bind_eq_some_iff]

lemma fields?_arr {items : List Json} {success message data : Option Json} :
    Json.fields? memberNames (.arr items) = some [success, message, data] ↔
      items.length ≤ 3 ∧ items[0]? = success ∧ items[1]? = message ∧ items[2]? = data := by
  match items with
  | [] => simp [Json.fields?, memberNames, List.replicate]
  | [a] => simp [Json.fields?, memberNames, List.replicate]
  | [a, b] => simp [Json.fields?, memberNames]
  | [a, b, c] => simp [Json.fields?, memberNames]
  | a :: b :: c :: d :: rest => simp [Json.fields?, memberNames]

/-- Reading accepts exactly the trees that spell an envelope, and gives that one. -/
lemma ofJson?_iff_spells : ofJson? j = some e ↔ Spells j e := by
  rw [ofJson?_eq_some]
  constructor
  · rintro ⟨success, message, data, hfields, rfl, isMessage, isPayload⟩
    cases j with
    | obj members =>
      obtain ⟨one, given, given'⟩ := fields?_obj.mp hfields
      cases one with
      | once one => exact .object one given isMessage given' isPayload
    | arr items =>
      obtain ⟨fits, first, rfl, rfl⟩ := fields?_arr.mp hfields
      exact .array fits first isMessage isPayload
    | _ => cases hfields
  · intro h
    cases h with
    | object one given isMessage given' isPayload =>
      exact ⟨_, _, _, fields?_obj.mpr ⟨.once one, given, given'⟩, rfl, isMessage, isPayload⟩
    | array fits first isMessage isPayload =>
      exact ⟨_, _, _, fields?_arr.mpr ⟨fits, first, rfl, rfl⟩, rfl, isMessage, isPayload⟩

/-- The order of members makes no difference. -/
lemma ofJson?_perm (h : members.Perm members') :
    ofJson? (.obj members) = ofJson? (.obj members') := by
  have fields : Json.fields? memberNames (.obj members) =
      Json.fields? memberNames (.obj members') :=
    congrArg (List.mapM · memberNames) (funext fun _ => Json.field?_perm h)
  rw [ofJson?, ofJson?, fields]

/-! ### Writing -/

/-- The payload is free-form data: members are in order, and none is given twice. -/
def IsPlain (e : Envelope) : Prop :=
  ∀ payload, e.data = some payload → payload.settle = payload

lemma IsPayload.of_plain {data : Option Json} (plain : ∀ payload, data = some payload →
    payload.settle = payload) (nonnull : data ≠ some .null) :
    IsPayload (some (data.getD .null)) data := by
  cases data with
  | none => exact .null
  | some payload =>
    have value := IsPayload.value fun null => nonnull (congrArg some null)
    rwa [plain payload rfl] at value

/-- What is written of an envelope spells it. -/
lemma spells_toJson (plain : e.IsPlain) (nonnull : e.data ≠ some .null) : Spells e.toJson e := by
  obtain ⟨success, message, data⟩ := e
  have isPayload := IsPayload.of_plain plain nonnull
  cases message with
  | none =>
    refine .object ⟨[("data", data.getD .null)], [], rfl, ?_, ?_⟩ (.absent ?_) .absent
      (.once ⟨[], [("success", .bool success)], rfl, ?_, ?_⟩) isPayload <;> simp [Lacks]
  | some text =>
    refine .object ⟨[("data", data.getD .null), ("message", .str text)], [], rfl, ?_, ?_⟩
      (.once ⟨[("data", data.getD .null)], [("success", .bool success)], rfl, ?_, ?_⟩) (.text text)
      (.once ⟨[], [("message", .str text), ("success", .bool success)], rfl, ?_, ?_⟩)
      isPayload <;> simp [Lacks]

lemma settle_eq_null : j.settle = .null ↔ j = .null := by
  cases j <;> simp [Json.settle]

/-- What was read is free-form data, and its payload is not null. -/
lemma Spells.isPlain (h : Spells j e) : e.IsPlain ∧ e.data ≠ some .null := by
  have ofPayload {given data : Option Json} (h : IsPayload given data) :
      (∀ payload, data = some payload → payload.settle = payload) ∧ data ≠ some .null := by
    cases h with
    | absent => exact ⟨nofun, nofun⟩
    | null => exact ⟨nofun, nofun⟩
    | value nonnull =>
      refine ⟨?_, fun null => nonnull (settle_eq_null.mp (Option.some.inj null))⟩
      rintro _ ⟨⟩
      exact Json.settle_settle _
  cases h with
  | object _ _ _ _ isPayload => exact ofPayload isPayload
  | array _ _ _ isPayload => exact ofPayload isPayload

/-- Reading what was written of an envelope gives the envelope back, but for a payload that is null, of
which nothing comes back. Reading accepts exactly the trees that spell an envelope, whatever the order
of members, and what is read stays the same when it is written and read again. -/
theorem ofJson?_toJson :
    (∀ e : Envelope, e.IsPlain →
      (e.data ≠ some .null → ofJson? e.toJson = some e) ∧
      (e.data = some .null → ofJson? e.toJson = some { e with data := none })) ∧
    (∀ j e, ofJson? j = some e ↔ Spells j e) ∧
    (∀ members members' : Members, members.Perm members' →
      ofJson? (.obj members) = ofJson? (.obj members')) ∧
    ∀ j e, ofJson? j = some e → ofJson? e.toJson = some e := by
  refine ⟨fun e plain => ⟨fun nonnull => ?_, fun null => ?_⟩, fun j e => ofJson?_iff_spells,
    fun _ _ => ofJson?_perm, fun j e read => ?_⟩
  · exact ofJson?_iff_spells.mpr (spells_toJson plain nonnull)
  · have same : e.toJson = toJson { e with data := none } := by
      rw [toJson, toJson, null]
      rfl
    rw [same]
    exact ofJson?_iff_spells.mpr (spells_toJson nofun nofun)
  · obtain ⟨plain, nonnull⟩ := (ofJson?_iff_spells.mp read).isPlain
    exact ofJson?_iff_spells.mpr (spells_toJson plain nonnull)

/-- The failure to read a file, with what is known of it. -/
def unreadable : Envelope where
  success := false
  message := some "no such file"
  data := some (.obj [("code", .ofNat 2), ("path", .str "/a")])

/-- A failure with an object as its payload comes back, and a null payload does not. An object with
unknown members given twice is read in any order. What an array spells stays the same. -/
theorem ofJson?_toJson_unreadable :
    (unreadable.IsPlain ∧ unreadable.data ≠ some .null ∧
      ofJson? unreadable.toJson = some unreadable) ∧
    (IsPlain ⟨true, none, some .null⟩ ∧
      ofJson? (toJson ⟨true, none, some .null⟩) = some ⟨true, none, none⟩) ∧
    ofJson? (.obj [("id", .null), ("success", .bool true), ("id", .null)]) =
      ofJson? (.obj [("success", .bool true), ("id", .null), ("id", .null)]) ∧
    ofJson? (.arr [.bool true, .null, .obj [("b", .null), ("a", .str "x")]]) =
      some ⟨true, none, some (.obj [("a", .str "x"), ("b", .null)])⟩ ∧
    ofJson? (toJson ⟨true, none, some (.obj [("a", .str "x"), ("b", .null)])⟩) =
      some ⟨true, none, some (.obj [("a", .str "x"), ("b", .null)])⟩ := by
  obtain ⟨back, spells, ordered, again⟩ := ofJson?_toJson
  have plain : unreadable.IsPlain := by
    rintro _ ⟨⟩
    rfl
  have plainNull : IsPlain ⟨true, none, some .null⟩ := by
    rintro _ ⟨⟩
    rfl
  have swapped := List.Perm.swap ("success", Json.bool true) ("id", Json.null) [("id", Json.null)]
  have read := (spells (.arr [.bool true, .null, .obj [("b", .null), ("a", .str "x")]]) _).mpr
    (.array (by decide) rfl .null (.value nofun))
  exact ⟨⟨plain, nofun, (back _ plain).1 nofun⟩, ⟨plainNull, (back _ plainNull).2 rfl⟩,
    ordered _ _ swapped, read, again _ _ read⟩

end Sandboxes.Control.Envelope
