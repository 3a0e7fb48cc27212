import Sandboxes.Proofs.Handle.Ending
import Sandboxes.Proofs.Profile
import Sandboxes.Proofs.Text.Digits

/-!
# Which containers a profile owns

A profile gives names that end in eight digits, but owns every name that begins with its stem and a
hyphen. Those are the containers that go with their handles.
-/

namespace Sandboxes

open Program Container

namespace Profile

variable {p : Profile} {name : String}

/-- The name has the form of those that the profile gives: the stem, a hyphen and eight hexadecimal
digits. -/
def Gives (p : Profile) (name : String) : Prop :=
  ∃ digits : List Char, name.toList = p.stem.toList ++ '-' :: digits ∧ digits.length = 8 ∧
    ∀ c ∈ digits, Text.IsHexDigit c

lemma gives_containerName (number : UInt32) : p.Gives (p.containerName number) :=
  ⟨_, toList_containerName, Text.length_hexPadded, fun _ => Text.isHexDigit_of_mem_hexPadded⟩

/-- Every name of that form is given for some number. -/
lemma gives_iff : p.Gives name ↔ ∃ number, name = p.containerName number := by
  constructor
  · rintro ⟨digits, hname, length, hex⟩
    obtain ⟨n, hn, hdigits⟩ := Text.exists_hexPadded hex
    rw [length] at hn hdigits
    have small : (UInt32.ofNat n).toNat = n := UInt32.toNat_ofNat_of_lt' hn
    refine ⟨.ofNat n, String.toList_inj.mp ?_⟩
    rw [hname, toList_containerName, small, hdigits]
  · rintro ⟨number, rfl⟩
    exact gives_containerName number

lemma owns_iff_toList : p.owns name = true ↔
    ∃ rest, name.toList = p.stem.toList ++ '-' :: rest := by
  constructor
  · intro h
    unfold owns at h
    split at h
    case h_1 rest hrest => exact ⟨rest, Text.dropFront?_eq_some.mp hrest⟩
    case h_2 => cases h
  · rintro ⟨rest, hname⟩
    simp [owns, hname, Text.dropFront?_append]

lemma owns_iff : p.owns name = true ↔ ∃ rest, name = p.stem ++ "-" ++ rest := by
  rw [owns_iff_toList]
  constructor
  · rintro ⟨rest, hname⟩
    refine ⟨.ofList rest, String.toList_inj.mp ?_⟩
    simp [hname]
  · rintro ⟨rest, rfl⟩
    exact ⟨rest.toList, by simp⟩

end Profile

namespace Handle

variable {p : Profile} {e : Endpoint} {number : Nat} {name : String} {m m' : Memory} {log : Log}
  {done : Bool}

/-- A handle of the container runtime outside has the container removed that goes with it. -/
lemma log_of_runs_tearDown (run : (ofEndpoint p .delegated e number).tearDown.Runs m log done m') :
    (teardownOf p e = none ∧ log = []) ∨
      ∃ name out, teardownOf p e = some name ∧ log = [⟨.remove name, out⟩] := by
  unfold tearDown at run
  cases h : teardownOf p e with
  | none =>
    simp only [ofEndpoint, h] at run
    obtain ⟨rfl, -, -⟩ := runs_pure.mp run
    exact .inl ⟨rfl, rfl⟩
  | some name =>
    simp only [ofEndpoint, h] at run
    obtain ⟨out, run, -⟩ := runs_bind_pure.mp run
    obtain ⟨rfl, -⟩ := runs_query.mp run
    exact .inr ⟨name, out, rfl, rfl⟩

/-- Destroying a handle has a container removed if the handle was open and the container goes with
it. -/
lemma removes_iff (run : (ofEndpoint p .delegated e number).destroy.Runs m log done m') :
    (∃ out, ⟨.remove name, out⟩ ∈ log) ↔ number ∉ m.closed ∧ teardownOf p e = some name := by
  by_cases closed : number ∈ m.closed
  · obtain ⟨rfl, -, -⟩ := (runs_destroy_closed closed).mp run
    simp [closed]
  · rw [runs_destroy_open closed] at run
    obtain ⟨none, rfl⟩ | ⟨other, out, some, rfl⟩ := log_of_runs_tearDown run
    · simp [none]
    · rw [some, and_iff_right closed]
      constructor
      · rintro ⟨out', hmem⟩
        cases List.mem_singleton.mp hmem
        rfl
      · intro same
        cases same
        exact ⟨out, List.mem_singleton.mpr rfl⟩

end Handle

/-- A profile owns a name if it begins with the stem and a hyphen, whatever follows; the names of the
form that it gives are among those, and each is given for some number. Destroying an open handle has
exactly the container removed that was created or found under a name that is owned. -/
theorem removes_iff_stem (p : Profile) (name : String) :
    (p.owns name = true ↔ ∃ rest, name = p.stem ++ "-" ++ rest) ∧
    (p.Gives name ↔ ∃ number, name = p.containerName number) ∧
    (p.Gives name → p.owns name = true) ∧
    ∀ (e : Endpoint) (number : Nat) (m : Memory) (log : Log) (done : Bool) (m' : Memory),
      (Handle.ofEndpoint p .delegated e number).destroy.Runs m log done m' →
      ((∃ out, ⟨.remove name, out⟩ ∈ log) ↔ number ∉ m.closed ∧ e.ownership ≠ .external ∧
        e.name = some name ∧ ∃ rest, name = p.stem ++ "-" ++ rest) := by
  refine ⟨Profile.owns_iff, Profile.gives_iff, ?_, ?_⟩
  · rintro ⟨digits, hname, -⟩
    exact Profile.owns_iff_toList.mpr ⟨digits, hname⟩
  · intro e number m log done m' run
    rw [Handle.removes_iff run, Handle.teardownOf_eq_some, Profile.owns_iff]

/-- A container that was found by a name which only begins like those of the profile is removed. -/
theorem removes_iff_stem_postgres :
    let h := Handle.ofEndpoint (.legacy .usual) .delegated
      ⟨some "sandbox-postgres", "10.0.0.7", .attached⟩ 0
    ∃ log done m', h.destroy.Runs (.empty 4 4) log done m' ∧
      ∃ out, ⟨.remove "sandbox-postgres", out⟩ ∈ log := by
  intro h
  have run := runs_answering (fun _ _ => default) h.destroy (.empty 4 4)
  refine ⟨_, _, _, run, ?_⟩
  obtain ⟨-, -, -, removes⟩ := removes_iff_stem (.legacy .usual) "sandbox-postgres"
  refine (removes _ _ _ _ _ _ run).mpr ⟨List.not_mem_nil, ?_, rfl, "postgres", ?_⟩
  · decide
  · decide

/-- Not every name that a profile owns has the form of those that it gives. -/
theorem owns_not_gives :
    (Profile.legacy .usual).owns "sandbox-postgres" = true ∧
      ¬ (Profile.legacy .usual).Gives "sandbox-postgres" := by
  refine ⟨by decide, ?_⟩
  rintro ⟨digits, hname, -, hex⟩
  -- The stem is fixed, so the digits could only be what follows the hyphen.
  have tail : digits = "postgres".toList := by
    have front : "sandbox-postgres".toList = "sandbox".toList ++ '-' :: "postgres".toList := by decide
    rw [front] at hname
    exact (List.cons.inj (List.append_cancel_left hname)).2.symm
  have p := hex 'p' (by rw [tail]; decide)
  revert p
  decide

end Sandboxes
