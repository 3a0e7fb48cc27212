import Sandboxes.Command.Arguments
import Sandboxes.Proofs.Program.Runs

/-!
# Reading arguments

Words lead to a command before anything is given to it. From there on reading only adds: the command
stays the same, and a value that was given to it is not replaced by a later one.
-/

namespace Sandboxes.Command

open Program

/-! ### Commands -/

/-- What holds of every command within a grammar in which no word asks for help. -/
inductive Grammar.Every {α : Type} (P : Form → Prop) : Grammar α → Prop
  | command {form : Form} {build : Given → Option α} (h : P form) : Every P (.command form build)
  | group {members : List (String × Grammar α)} (names : ∀ m ∈ members, m.1 ≠ helpWord)
      (h : ∀ m ∈ members, Every P m.2) : Every P (.group members)

/-- It holds wherever words lead. -/
lemma Grammar.Every.member {α : Type} {P : Form → Prop} {g g' : Grammar α} {words : List String}
    (h : g.Every P) (leads : g.member? words = some g') : g'.Every P ∧ helpWord ∉ words := by
  induction words generalizing g with
  | nil =>
    have same : g = g' := by simpa [Grammar.member?] using leads
    exact ⟨same ▸ h, List.not_mem_nil⟩
  | cons word words ih =>
    cases h with
    | command h => cases leads
    | group names h =>
      rw [Grammar.member?, Option.bind_eq_some_iff] at leads
      obtain ⟨inner, found, leads⟩ := leads
      obtain ⟨before, after, rfl, -⟩ := List.lookup_eq_some_iff.mp found
      have mem : (word, inner) ∈ before ++ (word, inner) :: after := by simp
      obtain ⟨there, others⟩ := ih (h _ mem) leads
      have plain : helpWord ≠ word := Ne.symm (names _ mem)
      exact ⟨there, List.not_mem_cons_of_ne_of_not_mem plain others⟩

namespace Reading

variable {α : Type} {r r' : Reading α} {shared : List Flag} {f : Flag} {kind : Kind} {value : String}

/-! ### Words -/

/-- Nothing was given yet, neither to the command or group where reading stands nor on the way. -/
structure Fresh (r : Reading α) : Prop where
  given : r.given = .nothing
  outer : ∀ g ∈ r.outer, g = .nothing
  isOpen : r.literal = false

lemma fresh_start (g : Grammar α) : (start g).Fresh :=
  ⟨rfl, fun _ h => absurd h List.not_mem_nil, rfl⟩

lemma Fresh.enter {word : String} {g : Grammar α} (fresh : r.Fresh) : (r.enter word g).Fresh :=
  ⟨rfl, List.forall_mem_cons.mpr ⟨fresh.given, fresh.outer⟩, rfl⟩

lemma run_word {members : List (String × Grammar α)} {word : String} {g : Grammar α}
    {args : List String} (fresh : r.Fresh) (group : r.grammar = .group members)
    (member : members.lookup word = some g) (plain : word ≠ helpWord) :
    r.run shared none (word :: args) = (r.enter word g).run shared none args := by
  rw [run, fresh.isOpen, if_neg Bool.false_ne_true, group]
  dsimp only
  rw [if_neg plain, member]

variable (shared) in
/-- Words that lead to a grammar are read up to it. -/
lemma exists_run_words {words : List String} {g : Grammar α} (fresh : r.Fresh)
    (leads : r.grammar.member? words = some g) (plain : helpWord ∉ words) :
    ∃ r' : Reading α, r'.Fresh ∧ r'.grammar = g ∧
      ∀ args, r.run shared none (words ++ args) = r'.run shared none args := by
  induction words generalizing r with
  | nil =>
    have same : r.grammar = g := by simpa [Grammar.member?] using leads
    exact ⟨r, fresh, same, fun args => rfl⟩
  | cons word words ih =>
    simp only [List.mem_cons, not_or] at plain
    cases grammar : r.grammar with
    | command form build => simp [grammar, Grammar.member?] at leads
    | group members =>
      rw [grammar, Grammar.member?, Option.bind_eq_some_iff] at leads
      obtain ⟨inner, member, leads⟩ := leads
      obtain ⟨r', fresh', there, run⟩ := ih (r := r.enter word inner) fresh.enter leads plain.2
      refine ⟨r', fresh', there, fun args => ?_⟩
      rw [List.cons_append, run_word fresh grammar member (Ne.symm plain.1), run]

/-! ### What was given stays -/

/-- The reading goes on from another one in the same command: what was given there is still given. -/
structure Extends (r' r : Reading α) : Prop where
  grammar : r'.grammar = r.grammar
  value? : ∀ name value, r.given.value? name = some value → r'.given.value? name = some value

lemma Extends.refl (r : Reading α) : r.Extends r :=
  ⟨rfl, fun _ _ h => h⟩

lemma Extends.trans {r'' : Reading α} (h' : r''.Extends r') (h : r'.Extends r) : r''.Extends r :=
  ⟨h'.grammar.trans h.grammar, fun name value given => h'.value? name value (h.value? name value given)⟩

lemma extends_give (h : r.give f kind value = .ok r') : r'.Extends r := by
  rw [give] at h
  split at h
  case isTrue => cases h
  case isFalse unfit =>
    cases h
    refine ⟨rfl, fun name old given => ?_⟩
    -- The flag itself was not given before.
    have other : (name == f.name) = false := by
      refine beq_eq_false_iff_ne.mpr ?_
      rintro rfl
      simp [Given.has, given] at unfit
    exact (List.lookup_cons ..).trans (by rw [other]; exact given)

lemma extends_takeOperand (h : r.takeOperand value = .ok r') : r'.Extends r := by
  unfold takeOperand at h
  dsimp only at h
  split at h
  · cases h
  · split at h <;> split at h <;> cases h <;> exact ⟨rfl, fun _ _ given => given⟩

lemma extends_takeValue (h : r.takeValue f value = .ok r') : r'.Extends r := by
  unfold takeValue at h
  split at h
  · exact extends_give h
  · cases h

variable {awaiting : Option Flag}

lemma extends_takeFlag (h : r.takeFlag f = .ok (r', awaiting)) : r'.Extends r := by
  unfold takeFlag at h
  split at h
  · cases h
  · cases h
  · obtain ⟨given, hgive, hr⟩ := bind_eq_ok.mp h
    cases hr
    exact extends_give hgive
  · cases h
    exact .refl _

lemma extends_takeLong {text : List Char} (h : r.takeLong shared text = .ok (r', awaiting)) :
    r'.Extends r := by
  unfold takeLong at h
  dsimp only at h
  split at h
  · cases h
  · exact extends_takeFlag h
  · obtain ⟨given, hvalue, hr⟩ := bind_eq_ok.mp h
    cases hr
    exact extends_takeValue hvalue

lemma extends_takeLetters {letters : List Char}
    (h : takeLetters shared r letters = .ok (r', awaiting)) : r'.Extends r := by
  induction letters generalizing r with
  | nil =>
    cases h
    exact .refl _
  | cons c letters ih =>
    rw [takeLetters] at h
    split at h
    · cases h
    · obtain ⟨⟨given, waiting⟩, hflag, hrest⟩ := bind_eq_ok.mp h
      have first := extends_takeFlag hflag
      dsimp only at hrest
      split at hrest
      · exact (ih hrest).trans first
      · cases hrest
        exact first
      all_goals
        obtain ⟨valued, hvalue, hr⟩ := bind_eq_ok.mp hrest
        cases hr
        exact (extends_takeValue hvalue).trans first

lemma extends_takeArgument {arg : String} (h : r.takeArgument shared arg = .ok (r', awaiting)) :
    r'.Extends r := by
  unfold takeArgument at h
  split at h
  · cases h
    exact ⟨rfl, fun _ _ given => given⟩
  · exact extends_takeLong h
  · exact extends_takeLetters h
  · obtain ⟨given, hoperand, hr⟩ := bind_eq_ok.mp h
    cases hr
    exact extends_takeOperand hoperand

/-- A command that was reached is read to its end. -/
lemma extends_run {form : Form} {build : Given → Option α} {args : List String}
    (command : r.grammar = .command form build) (h : r.run shared awaiting args = .ok r') :
    r'.Extends r := by
  induction args generalizing r awaiting with
  | nil =>
    cases awaiting with
    | some f => cases h
    | none =>
      rw [run] at h
      split at h
      · cases h
        exact .refl _
      · cases h
  | cons arg args ih =>
    have further {given : Reading α} {waiting : Option Flag} (first : given.Extends r)
        (h : given.run shared waiting args = .ok r') : r'.Extends r :=
      (ih (first.grammar.trans command) h).trans first
    cases awaiting with
    | some f =>
      rw [run] at h
      split at h
      · cases h
      · obtain ⟨given, hvalue, hrest⟩ := bind_eq_ok.mp h
        exact further (extends_takeValue hvalue) hrest
    | none =>
      rw [run] at h
      split at h
      · obtain ⟨given, hoperand, hrest⟩ := bind_eq_ok.mp h
        exact further (extends_takeOperand hoperand) hrest
      · rw [command] at h
        obtain ⟨⟨given, waiting⟩, hargument, hrest⟩ := bind_eq_ok.mp h
        exact further (extends_takeArgument hargument) hrest

lemma shared?_of_absent {name : String} (h : ∀ g ∈ r.given :: r.outer, g.value? name = none) :
    r.shared? name kind none = .ok none := by
  have absent : (r.given :: r.outer).findSome? (·.value? name) = none :=
    List.findSome?_eq_none_iff.mpr h
  rw [shared?, absent, Option.any_none, Bool.and_false]
  rfl

end Reading

end Sandboxes.Command
