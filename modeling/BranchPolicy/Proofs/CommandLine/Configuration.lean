import BranchPolicy.CommandLine.Parser
import BranchPolicy.CommandLine.Session
import BranchPolicy.Proofs.Workflow.Sources

/-!
# Reporting a wrong configuration

The keys and values of a config file may be of any kind, in any mixture.  The names of the inputs are texts,
so a key of another kind names none, and it should be reported like every other key that names none.  But the
report is a line of sorted names, and it is written for texts alone.  Likewise a number that is too long to be
written is no report of its own, wherever it stands for an input.

* `HasUnknown`, `HasWrongFlag`, `HasOverlong` — what can be wrong with a mapping.
* `mapM_text?_eq_some_iff` — keys can be written as names exactly when they are texts.
* `Reads` — how a mapping is read, one way for each of the five outcomes.
* `Reads.exists_error_iff` — it is read with a failure exactly if something is wrong with it.
* `reads_ofMapping`, `ofMapping_eq_of_reads` — a mapping is read in one of these ways and in no other.
* `Command.IsConfigured`, `run_of_isConfigured` — a command line with a config file, and how it ends if the
  file is wrong.
* **`configuration_reported`** — a wrong configuration is reported unless a key that names no input is
  of another kind than a text, or a number is too long to be written.
-/

namespace BranchPolicy

/-! ## What can be wrong -/

namespace InputMapping

/-- A key of a mapping that names no input. -/
def HasUnknown (m : InputMapping) (key : InputValue) : Prop :=
  (∃ v, (key, v) ∈ m) ∧ ∀ input : InputName, key ≠ .text input.text

/-- A mapping gives for the flag a value that stands for none. -/
def HasWrongFlag (m : InputMapping) (v : InputValue) : Prop :=
  m.given? .failWhenNotValid = some v ∧ ¬ v.IsFlagLike

/-- A mapping gives for an input a value that cannot be written. -/
def HasOverlong (m : InputMapping) (input : InputName) : Prop :=
  input.convert (m.given? input) = .error .overlong

lemma mem_unknownKeys {m : InputMapping} {key : InputValue} :
    key ∈ m.unknownKeys ↔ m.HasUnknown key := by
  have hknown : InputName.all.any (key == .text ·.text) = false ↔
      ∀ input : InputName, key ≠ .text input.text := by
    simp only [List.any_eq_false, beq_iff_eq]
    exact ⟨fun h input => h input input.mem_all, fun h input _ => h input⟩
  simp only [unknownKeys, List.mem_filter, Bool.not_eq_true', hknown, HasUnknown]
  exact and_congr_left fun _ => by simp

lemma unknownKeys_eq_nil_iff_forall {m : InputMapping} :
    m.unknownKeys = [] ↔ ∀ key, ¬ m.HasUnknown key := by
  simp only [List.eq_nil_iff_forall_not_mem, mem_unknownKeys]

end InputMapping

/-! ## Keys as names -/

/-- **Keys can be written as names exactly when they are texts.** -/
lemma mapM_text?_eq_some_iff {keys : List InputValue} {names : List Text} :
    keys.mapM InputValue.text? = some names ↔ keys = names.map .text := by
  induction keys generalizing names with
  | nil => cases names <;> simp
  | cons key keys ih =>
      rw [List.mapM_cons]
      cases key with
      | text t =>
          cases names with
          | nil => cases hkeys : keys.mapM InputValue.text? <;> simp [InputValue.text?]
          | cons name names =>
              cases hkeys : keys.mapM InputValue.text? <;> simp [InputValue.text?, ← ih, hkeys]
      | _ => cases names <;> simp [InputValue.text?]

/-- Keys that are all texts are the values of some names. -/
lemma exists_names {keys : List InputValue} (h : ∀ key ∈ keys, ∃ t, key = .text t) :
    ∃ names : List Text, keys = names.map .text := by
  induction keys with
  | nil => exact ⟨[], rfl⟩
  | cons key keys ih =>
      obtain ⟨⟨t, rfl⟩, hkeys⟩ := List.forall_mem_cons.mp h
      obtain ⟨names, rfl⟩ := ih hkeys
      exact ⟨t :: names, rfl⟩

/-! ## Reading a mapping -/

/-- **How a mapping is read.**  Keys that name no input are reported first, all of them, each once and in
increasing order, if they are texts.  Otherwise every value that is to be written must have a text, then what
is given for the flag must stand for one, and each input is read from what is given for it. -/
inductive InputMapping.Reads (m : InputMapping) : Except ConfigError RunInputs → Prop where
  | inputs {i : RunInputs} (known : ∀ key, ¬ m.HasUnknown key)
      (read : ∀ input : InputName, input.convert (m.given? input) = .ok (i.value input)) :
      m.Reads (.ok i)
  | wrongFlag {v : InputValue} {t : Text} (known : ∀ key, ¬ m.HasUnknown key)
      (short : ∀ input, ¬ m.HasOverlong input) (wrong : m.HasWrongFlag v) (written : v.render = .ok t) :
      m.Reads (.error (.input (.notFlag InputName.failWhenNotValid.text t)))
  | overlong {input : InputName} (known : ∀ key, ¬ m.HasUnknown key) (long : m.HasOverlong input) :
      m.Reads (.error .overlong)
  | unknownInputs {names : List Text} (nonempty : names ≠ []) (sorted : names.Pairwise (· < ·))
      (members : ∀ key, m.HasUnknown key ↔ ∃ t ∈ names, key = .text t) :
      m.Reads (.error (.input (.unknownInputs names)))
  | keyNotText {key : InputValue} (unknown : m.HasUnknown key) (notText : ∀ t, key ≠ .text t) :
      m.Reads (.error .keyNotText)

/-- A mapping is read with a failure exactly if something is wrong with it. -/
lemma InputMapping.Reads.exists_error_iff {m : InputMapping} {reading : Except ConfigError RunInputs}
    (h : m.Reads reading) :
    (∃ e, reading = .error e) ↔
      (∃ key, m.HasUnknown key) ∨ (∃ v, m.HasWrongFlag v) ∨ ∃ input, m.HasOverlong input := by
  cases h with
  | inputs known read =>
      have hshort : ∀ input, ¬ m.HasOverlong input := by
        intro input hlong
        exact absurd (hlong.symm.trans (read input)) (by simp)
      have hflag : ∀ v, ¬ m.HasWrongFlag v := by
        rintro v ⟨hv, hlike⟩
        obtain ⟨e, he⟩ := exists_parseFlag_eq_error hlike
        have hread := read .failWhenNotValid
        rw [InputName.convert, hv, flagFrom, he] at hread
        exact absurd hread (by simp [Except.map])
      simp [known, hflag, hshort]
  | wrongFlag known short wrong written => exact ⟨fun _ => .inr (.inl ⟨_, wrong⟩), fun _ => ⟨_, rfl⟩⟩
  | overlong known long => exact ⟨fun _ => .inr (.inr ⟨_, long⟩), fun _ => ⟨_, rfl⟩⟩
  | unknownInputs nonempty sorted members =>
      obtain ⟨t, ht⟩ := List.exists_mem_of_ne_nil _ nonempty
      exact ⟨fun _ => .inl ⟨_, (members _).mpr ⟨t, ht, rfl⟩⟩, fun _ => ⟨_, rfl⟩⟩
  | keyNotText unknown notText => exact ⟨fun _ => .inl ⟨_, unknown⟩, fun _ => ⟨_, rfl⟩⟩

namespace RunInputs

variable {m : InputMapping}

/-- Unknown keys that are texts are reported. -/
lemma ofMapping_of_names {names : List Text} (hnames : m.unknownKeys = names.map .text)
    (hne : names ≠ []) : ofMapping m = .error (.input (.unknownInputs (increasing names))) := by
  obtain ⟨name, rest, rfl⟩ := List.exists_cons_of_ne_nil hne
  have hwritten := mapM_text?_eq_some_iff.mpr hnames
  rw [List.map_cons] at hnames
  rw [hnames] at hwritten
  simp only [ofMapping, hnames, hwritten]

/-- An unknown key that is no text keeps them all from being reported. -/
lemma ofMapping_of_not_text {key : InputValue} (hkey : key ∈ m.unknownKeys)
    (hkind : ∀ t, key ≠ .text t) : ofMapping m = .error .keyNotText := by
  obtain ⟨first, rest, hkeys⟩ := List.exists_cons_of_ne_nil (List.ne_nil_of_mem hkey)
  have hunwritten : (first :: rest).mapM InputValue.text? = none := by
    rw [Option.eq_none_iff_forall_ne_some]
    intro names hnames
    rw [hkeys, mapM_text?_eq_some_iff.mp hnames] at hkey
    obtain ⟨t, -, ht⟩ := List.mem_map.mp hkey
    exact hkind t ht.symm
  simp only [ofMapping, hkeys, hunwritten]

/-- The names of the unknown keys. -/
lemma mem_names_iff {names : List Text} (hnames : m.unknownKeys = names.map .text) (key : InputValue) :
    m.HasUnknown key ↔ ∃ t ∈ names, key = .text t := by
  rw [← InputMapping.mem_unknownKeys, hnames, List.mem_map]
  simp only [eq_comm]

/-- **Every mapping is read in one of the ways.** -/
lemma reads_ofMapping (m : InputMapping) : m.Reads (ofMapping m) := by
  by_cases hknown : m.unknownKeys = []
  · have hnone := InputMapping.unknownKeys_eq_nil_iff_forall.mp hknown
    cases hread : ofMapping m with
    | ok i => exact .inputs hnone ((ofMapping_eq_ok_iff hknown).mp hread)
    | error e =>
        rcases (ofMapping_eq_error_iff hknown).mp hread with
          ⟨⟨input, hlong⟩, rfl⟩ | ⟨hshort, v, t, hv, ht, hlike, rfl⟩
        · exact .overlong hnone hlong
        · exact .wrongFlag hnone hshort ⟨hv, hlike⟩ ht
  · by_cases htexts : ∀ key ∈ m.unknownKeys, ∃ t, key = .text t
    · obtain ⟨names, hnames⟩ := exists_names htexts
      have hne : names ≠ [] := by
        rintro rfl
        exact hknown hnames
      obtain ⟨t, ht⟩ := List.exists_mem_of_ne_nil _ hne
      rw [ofMapping_of_names hnames hne]
      refine .unknownInputs (List.ne_nil_of_mem (mem_increasing.mpr ht)) (pairwise_increasing names)
        fun key => ?_
      simp only [mem_increasing]
      exact mem_names_iff hnames key
    · simp only [not_forall, not_exists] at htexts
      obtain ⟨key, hkey, hkind⟩ := htexts
      rw [ofMapping_of_not_text hkey hkind]
      exact .keyNotText (InputMapping.mem_unknownKeys.mp hkey) hkind

/-- **A mapping is read in no two ways.** -/
lemma ofMapping_eq_of_reads {reading : Except ConfigError RunInputs} (h : m.Reads reading) :
    ofMapping m = reading := by
  cases h with
  | inputs known read =>
      exact (ofMapping_eq_ok_iff (InputMapping.unknownKeys_eq_nil_iff_forall.mpr known)).mpr read
  | wrongFlag known short wrong written =>
      refine (ofMapping_eq_error_iff (InputMapping.unknownKeys_eq_nil_iff_forall.mpr known)).mpr ?_
      exact .inr ⟨short, _, _, wrong.1, written, wrong.2, rfl⟩
  | overlong known long =>
      refine (ofMapping_eq_error_iff (InputMapping.unknownKeys_eq_nil_iff_forall.mpr known)).mpr ?_
      exact .inl ⟨⟨_, long⟩, rfl⟩
  | @unknownInputs names nonempty sorted members =>
      obtain ⟨names', hnames⟩ : ∃ names' : List Text, m.unknownKeys = names'.map .text := by
        refine exists_names fun key hkey => ?_
        obtain ⟨t, -, ht⟩ := (members key).mp (InputMapping.mem_unknownKeys.mp hkey)
        exact ⟨t, ht⟩
      have hmem : ∀ t, t ∈ names' ↔ t ∈ names := by
        intro t
        have ht := (mem_names_iff hnames (.text t)).symm.trans (members _)
        simpa using ht
      obtain ⟨t, ht⟩ := List.exists_mem_of_ne_nil _ nonempty
      rw [ofMapping_of_names hnames (List.ne_nil_of_mem ((hmem t).mpr ht)),
        increasing_eq sorted fun t => (hmem t).symm]
  | keyNotText unknown notText =>
      exact ofMapping_of_not_text (InputMapping.mem_unknownKeys.mpr unknown) notText

/-- **The ways to read a mapping say what reading it gives.** -/
lemma ofMapping_eq_iff {reading : Except ConfigError RunInputs} :
    ofMapping m = reading ↔ m.Reads reading := by
  refine ⟨?_, ofMapping_eq_of_reads⟩
  rintro rfl
  exact reads_ofMapping m

end RunInputs

/-! ## The command -/

namespace Command

/-- A command line validates with a config file whose entries are those of a mapping, and asks for no log. -/
def IsConfigured (parser : CommandParser) (line : List Text) (host : Host) (m : InputMapping) : Prop :=
  ∃ options path contents, parser.parse line = .ok { command := .validate options } ∧
    options.config = some path ∧ host.file? path = some contents ∧
    host.readConfig contents = some (.mapping m)

/-- How a command ends whose config file is wrong. -/
def endOfConfig (host : Host) : ConfigError → Transcript × Ending
  | .input e => endWithMessage host e.message {}
  | e => ({}, .failed (.config e))

/-- A config file must be right on its own, whatever the options and the environment give. -/
lemma run_of_isConfigured {parser : CommandParser} {line : List Text} {host : Host} {m : InputMapping}
    {e : ConfigError} (h : IsConfigured parser line host m) (he : RunInputs.ofMapping m = .error e) :
    CommandLine.run parser line host = .ok (endOfConfig host e) := by
  obtain ⟨options, path, contents, hline, hpath, hfile, hentries⟩ := h
  have hread : RunInputs.ofFile host.readConfig path contents = .error e := by
    rw [RunInputs.ofFile, hentries]
    exact he
  have hinputs : options.inputs host (some (path, contents)) = .error e := by
    rw [ValidateOptions.inputs, RunInputs.ofSources.eq_def]
    simp only [hread]
    rfl
  have hrun : runValidate options host (some (path, contents)) = endOfConfig host e := by
    rw [runValidate, hinputs]
    cases e <;> rfl
  have hconfig : (Command.validate options).configFile? = some path := hpath
  rw [CommandLine.run, hline]
  simp only [bind, Except.bind, hconfig, hfile]
  exact congrArg Except.ok hrun

/-- **A wrong configuration is reported, unless a key that names no input is of another kind than a text, or
a number is too long to be written.**  A mapping is read in exactly one way, and reading it fails exactly if
it has a key that names no input, gives for the flag a value that stands for none, or gives for an input a
value that cannot be written.  If the keys that name no input are texts, the failure is a fault of the
inputs, and every command line with such a config file ends with status 1 and the message of the fault on
the standard error; only if there are none of them can a value that cannot be written keep it from that.  If
one of them is of another kind, or if a value cannot be written, the command fails without a report. -/
theorem configuration_reported (m : InputMapping) :
    (∀ reading, RunInputs.ofMapping m = reading ↔ m.Reads reading) ∧
      ((∃ e, RunInputs.ofMapping m = .error e) ↔
        (∃ key, m.HasUnknown key) ∨ (∃ v, m.HasWrongFlag v) ∨ ∃ input, m.HasOverlong input) ∧
      ((∀ key, m.HasUnknown key → ∃ t, key = .text t) →
        (∃ key, m.HasUnknown key) ∨ (∀ input, ¬ m.HasOverlong input) →
        ∀ e, RunInputs.ofMapping m = .error e →
          ∃ fault : InputError, e = .input fault ∧ ∀ parser line host, IsConfigured parser line host m →
            CommandLine.run parser line host = .ok (endWithMessage host fault.message {})) ∧
      (∀ key, m.HasUnknown key → (∀ t, key ≠ .text t) →
        RunInputs.ofMapping m = .error .keyNotText ∧ ∀ parser line host, IsConfigured parser line host m →
          CommandLine.run parser line host = .ok ({}, .failed (.config .keyNotText))) ∧
      ∀ input, (∀ key, ¬ m.HasUnknown key) → m.HasOverlong input →
        RunInputs.ofMapping m = .error .overlong ∧ ∀ parser line host, IsConfigured parser line host m →
          CommandLine.run parser line host = .ok ({}, .failed (.config .overlong)) := by
  refine ⟨fun reading => RunInputs.ofMapping_eq_iff, (RunInputs.reads_ofMapping m).exists_error_iff,
    ?reported, ?unreported, ?unwritten⟩
  case reported =>
    intro htexts hshort e he
    cases RunInputs.ofMapping_eq_iff.mp he with
    | wrongFlag => exact ⟨_, rfl, fun parser line host h => run_of_isConfigured h he⟩
    | unknownInputs => exact ⟨_, rfl, fun parser line host h => run_of_isConfigured h he⟩
    | overlong known long =>
        rcases hshort with ⟨key, hkey⟩ | hshort
        · exact absurd hkey (known key)
        · exact absurd long (hshort _)
    | keyNotText unknown notText =>
        obtain ⟨t, rfl⟩ := htexts _ unknown
        exact absurd rfl (notText t)
  case unreported =>
    intro key hkey hkind
    have he := RunInputs.ofMapping_eq_of_reads (.keyNotText hkey hkind)
    exact ⟨he, fun parser line host h => run_of_isConfigured h he⟩
  case unwritten =>
    intro input hknown hlong
    have he := RunInputs.ofMapping_eq_of_reads (.overlong hknown hlong)
    exact ⟨he, fun parser line host h => run_of_isConfigured h he⟩

/-- A config file whose values are numbers, one of them for the flag. -/
def numbersFile : Text :=
  "branch-name: 7\nfail-when-not-valid: 2".toList

/-- A command line that reads a config file and gives a value for the flag itself. -/
def overridingLine : List Text :=
  ["validate".toList, "--no-fail-when-not-valid".toList, "--config".toList, "inputs.yml".toList]

/-- A place with one config file, whose streams are no terminals. -/
def hostWith (contents : Text) : Host where
  file? := fun _ => some contents
  readConfig := ConfigFile.parse
  out := .piped
  err := .piped

/-- The flag of the config file is reported even where an option overrides it. -/
theorem configuration_reported_overridden :
    ∃ fault : InputError,
      fault.message = "The 'fail-when-not-valid' action input must be 'true' or 'false', got '2'." ∧
      CommandLine.run .standard overridingLine (hostWith numbersFile)
        = .ok (endWithMessage (hostWith numbersFile) fault.message {}) := by
  let m : InputMapping := [(.text InputName.branchName.text, .integer 7),
    (.text InputName.failWhenNotValid.text, .integer 2)]
  have hknown : ∀ key, ¬ m.HasUnknown key := InputMapping.unknownKeys_eq_nil_iff_forall.mp (by decide)
  have hread : RunInputs.ofMapping m
      = .error (.input (.notFlag InputName.failWhenNotValid.text "2".toList)) := by decide +kernel
  have hshort : ∀ input, ¬ m.HasOverlong input := by
    have hall : ∀ input ∈ InputName.all, input.convert (m.given? input) ≠ .error .overlong := by
      decide +kernel
    exact fun input => hall input input.mem_all
  obtain ⟨fault, hfault, hrun⟩ := (configuration_reported m).2.2.1
    (fun key hkey => absurd hkey (hknown key)) (.inr hshort) _ hread
  have hconfigured : IsConfigured .standard overridingLine (hostWith numbersFile) m :=
    ⟨_, "inputs.yml".toList, numbersFile, rfl, rfl, rfl, by decide +kernel⟩
  refine ⟨fault, ?_, hrun _ _ _ hconfigured⟩
  obtain rfl := ConfigError.input.inj hfault
  decide

/-- **A config file with a number for a key is not reported**: reading it fails with no fault of the inputs,
and the command ends without a status, having written nothing. -/
theorem number_key_not_reported :
    RunInputs.ofFile ConfigFile.parse "inputs.yml".toList "1: x".toList = .error .keyNotText ∧
      CommandLine.run .standard ["validate".toList, "--config".toList, "inputs.yml".toList]
        (hostWith "1: x".toList) = .ok ({}, .failed (.config .keyNotText)) := by
  constructor <;> decide +kernel

end Command

end BranchPolicy
