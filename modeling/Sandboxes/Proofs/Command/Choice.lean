import Sandboxes.Command.Grammar
import Sandboxes.Proofs.Command.Reading
import Sandboxes.Proofs.Variant

/-!
# Choosing a variant among the arguments

Commands that are about sandboxes take the tag of a variant as the value of a flag. Reading goes on with
the variant of a tag that names one, and ends with a misuse for every other value.
-/

namespace Sandboxes.Command

variable {s : String}

/-- What names a variant does not look like a flag. -/
lemma not_spells_of_looksLikeFlag (h : looksLikeFlag s = true) (v : Variant) : ¬ v.Spells s := by
  rintro ⟨front, word, back, whole, hfront, -, hword⟩
  unfold looksLikeFlag at h
  split at h
  case h_1 c rest dash =>
    rw [dash] at whole
    cases front with
    | cons d front =>
      obtain rfl : '-' = d := (List.cons.inj whole).1
      exact absurd (hfront '-' (List.mem_cons_self ..)) (by decide)
    | nil =>
      cases word with
      | nil => cases v <;> cases hword
      | cons d word =>
        obtain rfl : '-' = d := (List.cons.inj whole).1
        cases v <;> exact absurd (List.cons.inj hword).1 (by decide)
  case h_2 => cases h

/-- The arguments that give a tag: it follows the flag, in its long form or as a letter, or stands behind
an equals sign. -/
def waysToChoose (tag : String) : List (List String) :=
  [["--type", tag], ["--type=" ++ tag], ["-t", tag]]

namespace Reading

variable {r : Reading Command} {f : Flag} {arg : String} {args : List String}

/-- The reading stands in a command with a flag for the variant, which was not given yet and may still
come. -/
structure MayChoose (r : Reading Command) : Prop where
  command : ∃ form build rest, r.grammar = .command form build ∧ form.flags = variantFlag :: rest
  fresh : r.given.has variantFlag.name = false
  isOpen : r.literal = false

/-- The reading with a tag as the value of that flag. -/
def choose (r : Reading Command) (tag : String) : Reading Command :=
  { r with given := { r.given with flags := (variantFlag.name, tag) :: r.given.flags } }

lemma value?_choose : (r.choose s).given.value? variantFlag.name = some s :=
  List.lookup_cons_self ..

/-- What is given is the variant of the tag. -/
lemma chosen_choose : (r.choose s).given.chosen = Variant.ofTag? s := by
  rw [Given.chosen, Given.variant?, value?_choose, Option.bind_some]

/-- How reading goes on with a tag. -/
def afterTag (r : Reading Command) (tag : String) : Except Ending (Reading Command) :=
  match Variant.parse tag with
  | .ok _ => .ok (r.choose tag)
  | .error _ => .error .misuse

lemma takeValue_variantFlag (h : r.MayChoose) : r.takeValue variantFlag s = r.afterTag s := by
  have give : r.takeValue variantFlag s = r.give variantFlag .variant s := rfl
  rw [give, Reading.give, h.fresh, afterTag, Variant.parse, Kind.accepts]
  cases Variant.ofTag? s <;> rfl

lemma flags_eq (h : r.MayChoose) :
    ∃ rest, r.flags sharedFlags = common sharedFlags ++ variantFlag :: rest := by
  obtain ⟨form, build, rest, grammar, flags⟩ := h.command
  exact ⟨rest, by rw [Reading.flags, grammar, ← flags]⟩

lemma find?_name (h : r.MayChoose) :
    (r.flags sharedFlags).find? (·.name.toList = variantFlag.name.toList) = some variantFlag := by
  obtain ⟨rest, flags⟩ := flags_eq h
  rw [flags]
  rfl

lemma find?_letter (h : r.MayChoose) :
    (r.flags sharedFlags).find? (·.letter = some 't') = some variantFlag := by
  obtain ⟨rest, flags⟩ := flags_eq h
  rw [flags]
  rfl

lemma run_cons (h : r.MayChoose) : r.run sharedFlags none (arg :: args) =
    (r.takeArgument sharedFlags arg).bind fun x => x.1.run sharedFlags x.2 args := by
  obtain ⟨form, build, rest, grammar, -⟩ := h.command
  rw [run, h.isOpen, if_neg Bool.false_ne_true, grammar]
  rfl

/-- The value of a flag that awaits one is the next argument. -/
lemma run_awaiting (h : r.MayChoose) : r.run sharedFlags (some variantFlag) (s :: args) =
    (r.afterTag s).bind fun r => r.run sharedFlags none args := by
  rw [run]
  split
  case isTrue looks =>
    have unknown := Variant.parse_of_not_spells (not_spells_of_looksLikeFlag looks)
    rw [afterTag, unknown]
    rfl
  case isFalse => rw [takeValue_variantFlag h]; rfl

lemma run_choice (h : r.MayChoose) {given : List String} (mem : given ∈ waysToChoose s) :
    r.run sharedFlags none (given ++ args) =
      (r.afterTag s).bind fun r => r.run sharedFlags none args := by
  simp only [waysToChoose, List.mem_cons, List.not_mem_nil, or_false] at mem
  obtain rfl | rfl | rfl := mem
  · have taken : r.takeArgument sharedFlags "--type" = .ok (r, some variantFlag) := by
      change r.takeLong sharedFlags variantFlag.name.toList = _
      have bare : Text.splitFirst? '=' variantFlag.name.toList = none := rfl
      simp only [takeLong, bare, find?_name h]
      rfl
    rw [List.cons_append, run_cons h, taken]
    exact run_awaiting h
  · have taken : r.takeArgument sharedFlags ("--type=" ++ s) =
        (r.afterTag s).bind fun r => .ok (r, none) := by
      have split : Text.splitFirst? '=' ("type".toList ++ '=' :: s.toList) =
          some (variantFlag.name.toList, s.toList) := Text.splitFirst?_append_cons (by decide)
      have whole : ("--type=" ++ s).toList = '-' :: '-' :: ("type".toList ++ '=' :: s.toList) := by
        rw [String.toList_append]
        rfl
      have long : r.takeArgument sharedFlags ("--type=" ++ s) =
          r.takeLong sharedFlags ("type".toList ++ '=' :: s.toList) := by
        rw [takeArgument, whole]
        rfl
      rw [long, takeLong, split]
      simp only [find?_name h, String.ofList_toList, takeValue_variantFlag h]
      cases r.afterTag s <;> rfl
    rw [List.cons_append, run_cons h, taken]
    cases r.afterTag s <;> rfl
  · have taken : r.takeArgument sharedFlags "-t" = .ok (r, some variantFlag) := by
      change takeLetters sharedFlags r ['t'] = _
      rw [takeLetters, find?_letter h]
      rfl
    rw [List.cons_append, run_cons h, taken]
    exact run_awaiting h

end Reading

/-! ### Whole invocations -/

variable {r : Reading Command} {args words : List String} {config : Option String}
  {form : Form} {build : Given → Option Command}

/-- What becomes of a reading with the arguments that are left, with the usual file of settings. -/
def Reading.conclude (r : Reading Command) (config : Option String) (args : List String) :
    Except Ending Invocation := do
  let reading ← r.run sharedFlags none args
  let config ← reading.shared? configFlag.name .path config
  return { config, command := ← reading.result }

/-- If the command has a flag for the variant, it is the first. -/
def Form.LeadsWithVariant (form : Form) : Prop :=
  variantFlag ∈ form.flags → form.flags.head? = some variantFlag

instance (form : Form) : Decidable form.LeadsWithVariant :=
  inferInstanceAs (Decidable (_ → _))

lemma every_shell : shell.Every Form.LeadsWithVariant := by
  refine .group (by simp [helpWord]) ?_
  simp only [List.forall_mem_cons, List.not_mem_nil, false_implies, implies_true, and_true]
  refine ⟨.command ?_, .command ?_, .command ?_, .command ?_⟩ <;> decide

lemma every_file : file.Every Form.LeadsWithVariant := by
  refine .group (by simp [helpWord]) ?_
  simp only [List.forall_mem_cons, List.not_mem_nil, false_implies, implies_true, and_true]
  refine ⟨.command ?_, .command ?_, .command ?_, .command ?_, .command ?_, .command ?_, .command ?_,
    .command ?_, .command ?_, .command ?_⟩ <;> decide

lemma every_grammar : grammar.Every Form.LeadsWithVariant := by
  refine .group (by simp [helpWord]) ?_
  simp only [List.forall_mem_cons, List.not_mem_nil, false_implies, implies_true, and_true]
  refine ⟨.command ?_, .command ?_, .command ?_, .command ?_, .command ?_, every_shell, every_file,
    .command ?_, .command ?_, .command ?_⟩ <;> decide

lemma Reading.Fresh.mayChoose (fresh : r.Fresh) (command : r.grammar = .command form build)
    (flag : form.flags.head? = some variantFlag) : r.MayChoose := by
  obtain ⟨rest, flags⟩ := List.head?_eq_some_iff.mp flag
  exact ⟨⟨form, build, rest, command, flags⟩, by rw [fresh.given]; rfl, fresh.isOpen⟩

/-- Words that lead to a command with a flag for the variant may be followed by a tag. -/
lemma exists_read_choice (leads : grammar.member? words = some (.command form build))
    (flag : variantFlag ∈ form.flags) :
    ∃ r : Reading Command, r.Fresh ∧ r.grammar = .command form build ∧
      ∀ s, ∀ given ∈ waysToChoose s, ∀ config args,
        Invocation.read config (words ++ (given ++ args)) =
          (r.afterTag s).bind fun r => r.conclude config args := by
  obtain ⟨every, plain⟩ := every_grammar.member leads
  have first : form.LeadsWithVariant := by
    cases every with
    | command first => exact first
  obtain ⟨r, fresh, command, run⟩ :=
    Reading.exists_run_words sharedFlags (Reading.fresh_start grammar) leads plain
  refine ⟨r, fresh, command, fun s given mem config args => ?_⟩
  rw [Invocation.read, run, Reading.run_choice (fresh.mayChoose command (first flag)) mem]
  cases r.afterTag s <;> rfl

/-- The variant of the tag is the one that the command is given. -/
lemma chosen_of_conclude {inv : Invocation} (command : r.grammar = .command form build)
    (h : (r.choose s).conclude config args = .ok inv) :
    ∃ g, g.chosen = Variant.ofTag? s ∧ build g = some inv.command := by
  unfold Reading.conclude at h
  obtain ⟨r', run, h⟩ := Program.bind_eq_ok.mp h
  obtain ⟨file, -, h⟩ := Program.bind_eq_ok.mp h
  obtain ⟨made, result, h⟩ := Program.bind_eq_ok.mp h
  cases h
  have kept : r'.Extends (r.choose s) := Reading.extends_run command run
  have given : r'.given.value? variantFlag.name = some s :=
    kept.value? variantFlag.name s Reading.value?_choose
  refine ⟨r'.given, by rw [Given.chosen, Given.variant?, given, Option.bind_some], ?_⟩
  have there : r'.grammar = .command form build := kept.grammar.trans command
  rw [Reading.result, there] at result
  dsimp only at result
  split at result
  case h_1 c built =>
    cases result
    exact built
  case h_2 => cases result

/-- A command that needs nothing else is complete with a tag. -/
lemma conclude_choose {build : Option Variant → Command} (fresh : r.Fresh)
    (command : r.grammar = bare [variantFlag] fun g => build g.chosen) :
    (r.choose s).conclude none [] = .ok ⟨none, build (Variant.ofTag? s)⟩ := by
  have grammar : (r.choose s).grammar = .command (formOf [variantFlag] []) fun g =>
    some (build g.chosen) := command
  have run : (r.choose s).run sharedFlags none [] = .ok (r.choose s) := by
    rw [Reading.run, Reading.isComplete, grammar]
    rfl
  have file : (r.choose s).shared? configFlag.name .path none = .ok none := by
    refine Reading.shared?_of_absent (List.forall_mem_cons.mpr ⟨?_, fun g mem => ?_⟩)
    · rw [Reading.choose, fresh.given]
      rfl
    · rw [fresh.outer g mem]
      rfl
  have result : (r.choose s).result = .ok (build (Variant.ofTag? s)) := by
    rw [Reading.result, grammar, ← Reading.chosen_choose]
  rw [Reading.conclude, run]
  dsimp only [Bind.bind, Except.bind]
  rw [file]
  dsimp only
  rw [result]
  rfl

end Sandboxes.Command
