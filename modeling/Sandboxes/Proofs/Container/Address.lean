import Mathlib.Data.List.Nodup
import Mathlib.Tactic.Tauto
import Sandboxes.Container.Address
import Sandboxes.Proofs.Json.Record
import Sandboxes.Proofs.Json.Settle
import Sandboxes.Proofs.Text.Order

/-!
# Where a container is reached

The address of a container is its default one, or else that of the first network, by the bytes of its
name, that gives it one. Only the entries matter for that and not their order, nor networks that give
no address or come after one that does.
-/

namespace Sandboxes.Container.Networks

variable {n n' : Networks} {name address : String} {e x : String × String}
  {es : List (String × String)}

/-! ### First entries -/

lemma earlier_eq (a b : String × String) : earlier a b = a ∨ earlier a b = b := by
  unfold earlier
  split
  · exact .inr rfl
  · exact .inl rfl

lemma earlier_le (a b : String × String) : (earlier a b).1 ≤ a.1 ∧ (earlier a b).1 ≤ b.1 := by
  unfold earlier
  split
  case isTrue h => exact ⟨le_of_lt h, le_rfl⟩
  case isFalse h => exact ⟨le_rfl, le_of_not_gt h⟩

lemma foldl_earlier_mem : es.foldl earlier e ∈ e :: es := by
  induction es generalizing e with
  | nil => exact List.mem_singleton.mpr rfl
  | cons x es ih =>
    rcases List.mem_cons.mp (ih (e := earlier e x)) with h | h
    · rw [List.foldl_cons, h]
      rcases earlier_eq e x with h | h <;> simp [h]
    · exact List.mem_cons_of_mem _ (List.mem_cons_of_mem _ h)

lemma foldl_earlier_le (h : x ∈ e :: es) : (es.foldl earlier e).1 ≤ x.1 := by
  induction es generalizing e x with
  | nil => rw [List.mem_singleton.mp h, List.foldl_nil]
  | cons y es ih =>
    obtain ⟨left, right⟩ := earlier_le e y
    have first := ih (e := earlier e y) List.mem_cons_self
    rcases List.mem_cons.mp h with rfl | h
    · exact first.trans left
    · rcases List.mem_cons.mp h with rfl | h
      · exact first.trans right
      · exact ih (List.mem_cons_of_mem _ h)

lemma first?_eq_none : first? es = none ↔ es = [] := by
  cases es <;> simp [first?]

/-- Where no name is given twice, the first entry is the one with the least name. -/
lemma first?_eq_some (distinct : (es.map (·.1)).Nodup) :
    first? es = some e ↔ e ∈ es ∧ ∀ x ∈ es, e.1 ≤ x.1 := by
  cases es with
  | nil => simp [first?]
  | cons a es =>
    have mem : es.foldl earlier a ∈ a :: es := foldl_earlier_mem
    have least : ∀ x ∈ a :: es, (es.foldl earlier a).1 ≤ x.1 := fun x => foldl_earlier_le
    rw [first?, Option.some.injEq]
    constructor
    · rintro rfl
      exact ⟨mem, least⟩
    · rintro ⟨hmem, hleast⟩
      exact List.inj_on_of_nodup_map distinct mem hmem (le_antisymm (least e hmem) (hleast _ mem))

/-! ### Addresses -/

lemma given_eq_some {given' : Option String} :
    given given' = some address ↔ given' = some address ∧ address ≠ "" := by
  cases given' <;> simp [given, Option.filter_eq_some_iff]

lemma given_eq_none {given' : Option String} :
    given given' = none ↔ given' = none ∨ given' = some "" := by
  cases given' <;> simp [given]

lemma mem_addressed :
    (name, address) ∈ n.addressed ↔ (name, some address) ∈ n.networks ∧ address ≠ "" := by
  simp only [addressed, List.mem_filterMap, Option.map_eq_some_iff, given_eq_some]
  constructor
  · rintro ⟨⟨_, _⟩, h, _, ⟨rfl, given⟩, ⟨⟩⟩
    exact ⟨h, given⟩
  · rintro ⟨h, given⟩
    exact ⟨_, h, address, ⟨rfl, given⟩, rfl⟩

/-- Every network is known once, by its name. -/
def Keyed (n : Networks) : Prop :=
  (n.networks.map (·.1)).Nodup

instance (n : Networks) : Decidable n.Keyed :=
  inferInstanceAs (Decidable (List.Nodup _))

lemma Keyed.addressed (keyed : n.Keyed) : (n.addressed.map (·.1)).Nodup := by
  refine List.pairwise_map.mpr ((List.pairwise_map.mp keyed).filterMap _ ?_)
  rintro ⟨name, a⟩ ⟨name', a'⟩ distinct _ h _ h'
  obtain ⟨_, -, rfl⟩ := Option.map_eq_some_iff.mp h
  obtain ⟨_, -, rfl⟩ := Option.map_eq_some_iff.mp h'
  exact distinct

/-- The network of that name gives that address, and none whose name comes before, by its bytes, gives
one. -/
structure First (n : Networks) (name address : String) : Prop where
  mem : (name, some address) ∈ n.networks
  given : address ≠ ""
  least : ∀ other address', (other, some address') ∈ n.networks → address' ≠ "" →
    ¬ Text.encode other < Text.encode name

/-- There is no default address. -/
def Bare (n : Networks) : Prop :=
  n.address = none ∨ n.address = some ""

instance (n : Networks) : Decidable n.Bare :=
  inferInstanceAs (Decidable (_ ∨ _))

lemma reachable?_of_address (h : n.address = some address) (given : address ≠ "") :
    n.reachable? = some address := by
  rw [reachable?, given_eq_some.mpr ⟨h, given⟩]

lemma reachable?_of_bare (bare : n.Bare) : n.reachable? = (first? n.addressed).map (·.2) := by
  rw [reachable?, given_eq_none.mpr bare]

lemma reachable?_eq_some (keyed : n.Keyed) (bare : n.Bare) :
    n.reachable? = some address ↔ ∃ name, n.First name address := by
  simp only [reachable?_of_bare bare, Option.map_eq_some_iff, first?_eq_some keyed.addressed]
  constructor
  · rintro ⟨⟨name, _⟩, ⟨mem, least⟩, rfl⟩
    obtain ⟨mem, given⟩ := mem_addressed.mp mem
    refine ⟨name, mem, given, fun other address' hother given' => ?_⟩
    rw [Text.encode_lt_encode]
    exact not_lt_of_ge (least (other, address') (mem_addressed.mpr ⟨hother, given'⟩))
  · rintro ⟨name, mem, given, least⟩
    refine ⟨(name, address), ⟨mem_addressed.mpr ⟨mem, given⟩, fun (other, address') hother => ?_⟩, rfl⟩
    obtain ⟨hother, given'⟩ := mem_addressed.mp hother
    have first := least other address' hother given'
    rw [Text.encode_lt_encode] at first
    exact le_of_not_gt first

/-- A container is out of reach if it has no default address and no network gives one. -/
lemma reachable?_eq_none : n.reachable? = none ↔ n.Bare ∧
    ∀ name address, (name, some address) ∈ n.networks → address = "" := by
  by_cases bare : n.Bare
  · rw [reachable?_of_bare bare, Option.map_eq_none_iff, first?_eq_none, List.eq_nil_iff_forall_not_mem]
    simp only [Prod.forall, mem_addressed, not_and_or, not_not, bare, true_and]
    exact forall₂_congr fun name address => imp_iff_not_or.symm
  · obtain ⟨address, h⟩ := Option.ne_none_iff_exists'.mp fun none => bare (.inl none)
    have given : address ≠ "" := fun empty => bare (.inr (h.trans (congrArg some empty)))
    simp [reachable?_of_address h given, bare]

/-! ### Other networks -/

/-- The networks of `n'` are those of `n` and others that make no difference: ones that give no
address, or whose name comes, by its bytes, after that of one in `n` that does. -/
structure Extends (n n' : Networks) : Prop where
  address : n'.address = n.address
  kept : ∀ entry ∈ n.networks, entry ∈ n'.networks
  added : ∀ entry ∈ n'.networks, entry ∉ n.networks → given entry.2 = none ∨
    ∃ name address, (name, some address) ∈ n.networks ∧ address ≠ "" ∧
      Text.encode name < Text.encode entry.1

lemma First.of_extends (h : n.Extends n') (first : n'.First name address) : n.First name address := by
  have kept : (name, some address) ∈ n.networks := by
    by_contra added
    rcases h.added _ first.mem added with none | ⟨other, address', mem, given, before⟩
    · rw [given_eq_some.mpr ⟨rfl, first.given⟩] at none
      cases none
    · exact first.least other address' (h.kept _ mem) given before
  exact ⟨kept, first.given, fun other address' hother => first.least other address' (h.kept _ hother)⟩

lemma reachable?_of_extends (keyed : n.Keyed) (keyed' : n'.Keyed) (h : n.Extends n') :
    n'.reachable? = n.reachable? := by
  by_cases bare : n.Bare
  · have bare' : n'.Bare := by rwa [Bare, h.address]
    cases reached : n'.reachable? with
    | some address =>
      obtain ⟨name, first⟩ := (reachable?_eq_some keyed' bare').mp reached
      exact ((reachable?_eq_some keyed bare).mpr ⟨name, first.of_extends h⟩).symm
    | none =>
      have empty := (reachable?_eq_none.mp reached).2
      exact (reachable?_eq_none.mpr ⟨bare, fun name address mem =>
        empty name address (h.kept _ mem)⟩).symm
  · obtain ⟨address, default⟩ := Option.ne_none_iff_exists'.mp fun none => bare (.inl none)
    have given : address ≠ "" := fun empty => bare (.inr (default.trans (congrArg some empty)))
    rw [reachable?_of_address default given, reachable?_of_address (h.address.trans default) given]

/-! ### Documents -/

lemma keyed_entries? {j : Json} {entries : List (String × Option String)}
    (h : entries? j.settle = some entries) : (entries.map (·.1)).Nodup := by
  obtain ⟨members, hmembers, read⟩ := Option.bind_eq_some_iff.mp h
  have names : members.map (·.1) = entries.map (·.1) := by
    refine Json.map_eq_map_of_mapM (fun (name, network) entry read => ?_) read
    obtain ⟨address, -, made⟩ := Option.bind_eq_some_iff.mp read
    cases made
    rfl
  rw [← names]
  cases j with
  | obj given =>
    cases hmembers
    exact List.pairwise_map.mpr (Json.pairwise_settleMembers.imp ne_of_lt)
  | _ => cases hmembers

/-- What is read from a document knows every network once. -/
lemma keyed_of_ofJson? {document : Json} (h : ofJson? document.settle = some n) : n.Keyed := by
  unfold ofJson? at h
  split at h
  · cases h
  · rw [Json.get_settle] at h
    split at h
    · cases h
      exact List.nodup_nil
    · split at h
      · cases h
      · obtain ⟨address, -, h⟩ := Option.bind_eq_some_iff.mp h
        obtain ⟨networks, hnetworks, made⟩ := Option.bind_eq_some_iff.mp h
        cases made
        rw [member?, Json.get_settle, Json.optional?.eq_def] at hnetworks
        split at hnetworks
        · cases hnetworks
          exact List.nodup_nil
        · obtain ⟨entries, read, rfl⟩ := Option.map_eq_some_iff.mp hnetworks
          exact keyed_entries? read

/-- The address of a container is its default one, or else that of the first network by the bytes of
its name, and there is none only if neither gives one. Neither the order of the networks matters nor
further ones that give no address or come after one that does. -/
theorem reachable?_first :
    (∀ (document : Json) n, ofJson? document.settle = some n → n.Keyed) ∧
    ∀ n : Networks, n.Keyed →
      (∀ address, n.address = some address → address ≠ "" → n.reachable? = some address) ∧
      (n.Bare → ∀ address, n.reachable? = some address ↔ ∃ name, n.First name address) ∧
      (n.reachable? = none ↔
        n.Bare ∧ ∀ name address, (name, some address) ∈ n.networks → address = "") ∧
      (∀ n' : Networks, n'.Keyed → n'.address = n.address →
        (∀ entry, entry ∈ n'.networks ↔ entry ∈ n.networks) → n'.reachable? = n.reachable?) ∧
      ∀ n' : Networks, n'.Keyed → n.Extends n' → n'.reachable? = n.reachable? := by
  refine ⟨fun document n => keyed_of_ofJson?, fun n keyed => ⟨?_, ?_, reachable?_eq_none, ?_, ?_⟩⟩
  · exact fun address => reachable?_of_address
  · exact fun bare address => reachable?_eq_some keyed bare
  · intro n' keyed' address same
    refine reachable?_of_extends keyed keyed' ⟨address, fun entry => (same entry).mpr, ?_⟩
    exact fun entry mem absent => absurd ((same entry).mp mem) absent
  · exact fun n' keyed' => reachable?_of_extends keyed keyed'

/-- A container on three networks, the first of which gives no address. -/
def onThree : Networks where
  address := some ""
  networks := [("zürich", some "10.0.2.2"), ("a-net", some ""), ("b-net", some "10.0.1.2")]

/-- A document that tells of them. -/
def threeDocument : Json :=
  .obj [("NetworkSettings", .obj [("Networks", .obj [
    ("zürich", .obj [("IPAddress", .str "10.0.2.2")]), ("a-net", .obj [("IPAddress", .str "")]),
    ("b-net", .obj [("IPAddress", .str "10.0.1.2")])]), ("IPAddress", .str "")])]

/-- The address does not depend on the order of the networks, nor on one more that comes last. -/
theorem reachable?_first_onThree :
    onThree.Keyed ∧ onThree.Bare ∧ onThree.First "b-net" "10.0.1.2" ∧
    onThree.reachable? = some "10.0.1.2" ∧
    (ofJson? threeDocument.settle).bind reachable? = some "10.0.1.2" ∧
    { onThree with networks := onThree.networks.reverse }.reachable? = some "10.0.1.2" ∧
    { onThree with networks := ("c", some "10.0.3.3") :: onThree.networks }.reachable? =
      some "10.0.1.2" := by
  have keyed : onThree.Keyed := by decide +kernel
  have keyed' : Keyed { onThree with networks := onThree.networks.reverse } := by decide +kernel
  have keyed'' : Keyed { onThree with networks := ("c", some "10.0.3.3") :: onThree.networks } := by
    decide +kernel
  have bare : onThree.Bare := by decide +kernel
  have first : onThree.First "b-net" "10.0.1.2" := by
    refine ⟨by decide +kernel, by decide +kernel, fun other address' mem given => ?_⟩
    simp only [onThree, List.mem_cons, List.not_mem_nil, Prod.mk.injEq, or_false] at mem
    rcases mem with ⟨rfl, -⟩ | ⟨-, h⟩ | ⟨rfl, -⟩
    · decide +kernel
    · exact absurd (Option.some.inj h) given
    · decide +kernel
  have read : ofJson? threeDocument.settle = some { onThree with networks :=
      [("a-net", some ""), ("b-net", some "10.0.1.2"), ("zürich", some "10.0.2.2")] } := by
    decide +kernel
  obtain ⟨ofDocument, ofMap⟩ := reachable?_first
  obtain ⟨-, reached, -, ordered, extended⟩ := ofMap onThree keyed
  have found := (reached bare _).mpr ⟨_, first⟩
  refine ⟨keyed, bare, first, found, ?_, ?_, ?_⟩
  · rw [read, Option.bind_some, ordered _ (ofDocument _ _ read) rfl, found]
    intro entry
    simp only [onThree, List.mem_cons, List.not_mem_nil, or_false]
    tauto
  · rw [ordered _ keyed' rfl fun entry => List.mem_reverse, found]
  · rw [extended _ keyed'' ⟨rfl, fun _ => List.mem_cons_of_mem _, ?_⟩, found]
    intro entry mem absent
    obtain rfl := (List.mem_cons.mp mem).resolve_right absent
    exact .inr ⟨"b-net", "10.0.1.2", first.mem, first.given, by decide +kernel⟩

end Sandboxes.Container.Networks
