import Triage.Program
import Triage.Proofs.CommandLine.Reading

namespace Triage

/-!
# Options, variables and defaults

A setting takes its value from its option, else from its variable in the environment, else from its
default.

* `layered` — the value of a setting by option and variable.
* `IsUsable` — when options and environment lead to a configuration.
* `ofCommandLine_eq_ok_iff` — to which one they lead.
* `ofCommandLine_eq_ok_of_perm` — the order of the options does not matter.
* `OnlyFaults` — what does not lead to one is a fault, which ends the program in the same way whatever
  it is.
* `ofCommandLine_argumentsOf` — all of this together.
-/

/-! ### Layers -/

/-- The value of a setting: that of its option, else that of its variable. -/
def layered (options : Assignment) (environment : String → Option String) (setting : Setting) :
    Option String :=
  (options.lookup setting).or (environment setting.variableName)

/-- The options and the environment lead to a configuration: no option is given twice, what a run
cannot do without is there, every value that counts is taken, and the ending of script names comes
with a directory. -/
structure IsUsable (options : Assignment) (environment : String → Option String) : Prop where
  once : (options.map (·.1)).Nodup
  repository : (layered options environment .repository).isSome
  token : (layered options environment .token).isSome
  eventPath : (layered options environment .eventPath).isSome
  taken : ∀ setting value, layered options environment setting = some value → setting.Takes value
  ending : (layered options environment .scriptEnding).isSome →
    (layered options environment .scriptsDirectory).isSome

variable {options : Assignment} {environment : String → Option String}

/-- The list of settings leaves out none. -/
theorem Setting.mem_all (setting : Setting) : setting ∈ Setting.all := by
  cases setting <;> decide

/-- The values that count are taken if those of the options and those of the needed variables are. -/
theorem forall_layered_takes_iff (honce : (options.map (·.1)).Nodup) :
    (∀ setting value, layered options environment setting = some value → setting.Takes value) ↔
      (∀ option ∈ options, option.1.Takes option.2) ∧ ∀ setting ∈ Setting.all, ∀ value,
        needed? environment options setting = some value → setting.Takes value := by
  constructor
  · intro h
    constructor
    · rintro ⟨setting, value⟩ hmem
      apply h
      rw [layered, (lookup_eq_some_iff_mem honce).2 hmem, Option.some_or]
    · intro setting _ value hneeded
      obtain ⟨hnew, hvariable⟩ := needed?_eq_some_iff.1 hneeded
      apply h
      rw [layered, hnew, Option.none_or, hvariable]
  · rintro ⟨hoptions, hvariables⟩ setting value hlayered
    -- What counts is the option's own value, if it has one, and the variable's otherwise.
    cases hlookup : options.lookup setting with
    | some own =>
      rw [layered, hlookup, Option.some_or, Option.some.injEq] at hlayered
      exact hlayered ▸ hoptions _ ((lookup_eq_some_iff_mem honce).1 hlookup)
    | none =>
      rw [layered, hlookup, Option.none_or] at hlayered
      exact hvariables setting setting.mem_all value (needed?_eq_some_iff.2 ⟨hlookup, hlayered⟩)

/-- **A command line of options leads to a configuration exactly if it is usable**, and then to the
one that its values make. -/
theorem ofCommandLine_eq_ok_iff {config : Config} :
    Config.ofCommandLine (argumentsOf options) environment = .ok config ↔
      IsUsable options environment ∧ config.IsOf (layered options environment) := by
  -- Once the variables are added, every setting has the value of its layers.
  have hlookup : ∀ {given}, addVariables environment options Setting.all = .ok given →
      (given.lookup ·) = layered options environment := by
    intro given hgiven
    funext setting
    rw [lookup_addVariables hgiven, if_pos setting.mem_all, layered]
  simp only [Config.ofCommandLine, bind_eq_ok_iff, readArguments_eq_ok_iff]
  constructor
  · rintro ⟨_, ⟨hproper, rfl⟩, given, hgiven, hconfig⟩
    have hlayers := congrFun (hlookup hgiven)
    obtain ⟨hof, hending⟩ := ofAssignment_eq_ok_iff.1 hconfig
    rw [hlookup hgiven] at hof
    rw [hlayers, hlayers] at hending
    have htaken := (forall_layered_takes_iff hproper.once).2
      ⟨hproper.taken, exists_addVariables_eq_ok_iff.1 ⟨given, hgiven⟩⟩
    refine ⟨⟨hproper.once, ?_, ?_, ?_, htaken, hending⟩, hof⟩
    · exact Option.isSome_of_eq_some hof.repository
    · exact Option.isSome_of_eq_some hof.token
    · exact Option.isSome_of_eq_some hof.eventPath
  · rintro ⟨h, hof⟩
    obtain ⟨hoptions, hvariables⟩ := (forall_layered_takes_iff h.once).1 h.taken
    obtain ⟨given, hgiven⟩ := exists_addVariables_eq_ok_iff.2 hvariables
    have hlayers := congrFun (hlookup hgiven)
    refine ⟨options, ⟨⟨h.once, hoptions⟩, rfl⟩, given, hgiven, ofAssignment_eq_ok_iff.2 ⟨?_, ?_⟩⟩
    · rw [hlookup hgiven]
      exact hof
    · rw [hlayers, hlayers]
      exact h.ending

/-- A setting whose value is taken comes to some number, if only to the default. -/
theorem exists_isNumber {value? : Option String} (default : Nat)
    (h : ∀ value, value? = some value → ∃ n, IsPositiveWord value n) :
    ∃ n, IsNumber value? default n := by
  cases value? with
  | some value => exact h value rfl
  | none => exact ⟨default, rfl⟩

/-- The values of a usable command line make a configuration. -/
theorem IsUsable.exists_isOf (h : IsUsable options environment) :
    ∃ config : Config, config.IsOf (layered options environment) := by
  obtain ⟨repository, hrepository⟩ := Option.isSome_iff_exists.1 h.repository
  obtain ⟨token, htoken⟩ := Option.isSome_iff_exists.1 h.token
  obtain ⟨eventPath, heventPath⟩ := Option.isSome_iff_exists.1 h.eventPath
  obtain ⟨timeout, htimeout⟩ := exists_isNumber 30000 (h.taken .requestTimeout)
  obtain ⟨attempts, hattempts⟩ := exists_isNumber 1 (h.taken .retryAttempts)
  obtain ⟨delay, hdelay⟩ := exists_isNumber 500 (h.taken .retryDelay)
  exact ⟨⟨repository, _, token, eventPath, timeout, attempts, delay, _, _⟩,
    ⟨hrepository, htoken, heventPath, rfl, htimeout, hattempts, hdelay, rfl, rfl⟩⟩

/-! ### The order of the options -/

/-- In another order, settings that are given once each have the same values. -/
theorem lookup_eq_of_perm {options' : Assignment} (hperm : options'.Perm options)
    (honce : (options.map (·.1)).Nodup) (setting : Setting) :
    options'.lookup setting = options.lookup setting := by
  have honce' : (options'.map (·.1)).Nodup := (hperm.map _).nodup_iff.2 honce
  apply Option.ext
  intro value
  rw [lookup_eq_some_iff_mem honce', lookup_eq_some_iff_mem honce, hperm.mem_iff]

/-- In another order the same options lead to the same configuration, if to any. -/
theorem ofCommandLine_eq_ok_of_perm {options' : Assignment} (hperm : options'.Perm options)
    {config : Config}
    (h : Config.ofCommandLine (argumentsOf options) environment = .ok config) :
    Config.ofCommandLine (argumentsOf options') environment = .ok config := by
  obtain ⟨husable, hof⟩ := ofCommandLine_eq_ok_iff.1 h
  -- An order does not show in the layers, and they are all that a configuration is made of.
  have hlayered : layered options' environment = layered options environment := by
    funext setting
    rw [layered, lookup_eq_of_perm hperm husable.once, layered]
  refine ofCommandLine_eq_ok_iff.2 ⟨?_, hlayered ▸ hof⟩
  obtain ⟨honce, hrepository, htoken, heventPath, htaken, hending⟩ := husable
  rw [← hlayered] at hrepository htoken heventPath htaken hending
  exact ⟨(hperm.map _).nodup_iff.2 honce, hrepository, htoken, heventPath, htaken, hending⟩

/-! ### Faults -/

/-- What is no success is a fault of the command line: no request for help or for the version. -/
def OnlyFaults {α : Type} (result : Except UsageStop α) : Prop :=
  ∀ stop, result = .error stop → stop.finish = ⟨2, none⟩

/-- A success is no failure at all. -/
theorem OnlyFaults.ok {α : Type} (value : α) : OnlyFaults (.ok value) := fun _ h => by cases h

/-- A failure that ends the program as a fault is one. -/
theorem OnlyFaults.error {α : Type} {stop : UsageStop} (h : stop.finish = ⟨2, none⟩) :
    OnlyFaults (.error stop : Except UsageStop α) := by
  rintro _ ⟨rfl⟩
  exact h

/-- One step after another has only faults if both have. -/
theorem OnlyFaults.bind {α β : Type} {x : Except UsageStop α} {f : α → Except UsageStop β}
    (hx : OnlyFaults x) (hf : ∀ value, OnlyFaults (f value)) : OnlyFaults (x >>= f) := by
  cases x with
  | error stop => exact fun _ h => hx _ (congrArg Except.error (Except.error.inj h))
  | ok value => exact hf value

/-- A number fails only by what it is. -/
theorem onlyFaults_readPositive (text : String) : OnlyFaults (readPositive text) := by
  unfold readPositive
  split
  · exact .error rfl
  · exact .error rfl
  · exact .ok _

/-- A value fails only by what it is. -/
theorem onlyFaults_check (setting : Setting) (value : String) :
    OnlyFaults (setting.check value) := by
  unfold Setting.check
  split
  · exact .ok _
  · split
    · exact .error rfl
    · exact .ok _
  · exact (onlyFaults_readPositive value).bind fun _ => .ok _

/-- Taking in a setting fails only if it is there already, or by its value. -/
theorem onlyFaults_assign (given : Assignment) (setting : Setting) (value : String) :
    OnlyFaults (assign given setting value) := by
  unfold assign
  split
  · exact .error rfl
  · exact (onlyFaults_check setting value).bind fun _ => .ok _

/-- Reading options fails only by one of them. -/
theorem onlyFaults_readArguments (options : Assignment) :
    OnlyFaults (readArguments (argumentsOf options)) := by
  rw [readArguments_argumentsOf]
  -- Whatever is taken in already, by induction on the options that are left.
  generalize ([] : Assignment) = given
  induction options generalizing given with
  | nil => exact .ok _
  | cons option rest ih =>
    rw [List.foldlM_cons]
    exact (onlyFaults_assign given option.1 option.2).bind ih

/-- Adding variables fails only by one of them. -/
theorem onlyFaults_addVariables (given : Assignment) (settings : List Setting) :
    OnlyFaults (addVariables environment given settings) := by
  induction settings generalizing given with
  | nil => exact .ok _
  | cons first rest ih =>
    rw [addVariables_cons]
    split
    · exact ih given
    · exact (onlyFaults_check _ _).bind fun _ => ih _

/-- Making a configuration fails only by what is missing or no number. -/
theorem onlyFaults_ofAssignment (given : Assignment) : OnlyFaults (Config.ofAssignment given) := by
  have hrequired : ∀ setting, OnlyFaults (required given setting) := by
    intro setting
    unfold required
    split
    · exact .ok _
    · exact .error rfl
  have hnumber : ∀ setting default, OnlyFaults (number given setting default) := by
    intro setting default
    unfold number
    split
    · exact onlyFaults_readPositive _
    · exact .ok _
  -- Three values are required, and three are numbers; the ending is looked at last.
  refine (hrequired _).bind fun _ => (hrequired _).bind fun _ => (hrequired _).bind fun _ =>
    (hnumber _ _).bind fun _ => (hnumber _ _).bind fun _ => (hnumber _ _).bind fun _ => ?_
  split
  · exact .error rfl
  · exact .ok _

/-- A command line of options never asks for help or for the version. -/
theorem onlyFaults_ofCommandLine (options : Assignment) (environment : String → Option String) :
    OnlyFaults (Config.ofCommandLine (argumentsOf options) environment) :=
  (onlyFaults_readArguments options).bind fun given =>
    (onlyFaults_addVariables given Setting.all).bind onlyFaults_ofAssignment

/-- Where one order of the options leads to a fault, so does every other one. -/
theorem runProgram_of_perm {options' : Assignment} (hperm : options'.Perm options)
    (surroundings : Surroundings) :
    runProgram (argumentsOf options') environment surroundings
      = runProgram (argumentsOf options) environment surroundings := by
  cases h : Config.ofCommandLine (argumentsOf options) environment with
  | ok config => rw [runProgram, runProgram, h, ofCommandLine_eq_ok_of_perm hperm h]
  | error stop =>
    cases h' : Config.ofCommandLine (argumentsOf options') environment with
    | ok config =>
      rw [ofCommandLine_eq_ok_of_perm hperm.symm h'] at h
      cases h
    | error stop' =>
      -- The faults may differ, but the program ends alike.
      rw [runProgram, runProgram, h, h']
      simp only [onlyFaults_ofCommandLine _ _ _ h, onlyFaults_ofCommandLine _ _ _ h']

/-- **An option comes before a variable, a variable before the default.**  A command line of options
with their values leads to a configuration exactly if it is usable together with the environment, and
each part of the configuration is then what the layers say.  The variable of a setting that has an
option is not looked at, whether it could be taken or not.  In another order the same options lead to
the same configuration, or again to none, and the program does the same. -/
theorem ofCommandLine_argumentsOf (options : Assignment) (environment : String → Option String) :
    ((∃ config, Config.ofCommandLine (argumentsOf options) environment = .ok config) ↔
      IsUsable options environment) ∧
    (∀ config, Config.ofCommandLine (argumentsOf options) environment = .ok config →
      config.IsOf (layered options environment)) ∧
    (∀ environment' : String → Option String,
      (∀ setting, options.lookup setting = none →
        environment' setting.variableName = environment setting.variableName) →
      Config.ofCommandLine (argumentsOf options) environment'
        = Config.ofCommandLine (argumentsOf options) environment) ∧
    ∀ options' : Assignment, options'.Perm options →
      (Config.ofCommandLine (argumentsOf options') environment).toOption
          = (Config.ofCommandLine (argumentsOf options) environment).toOption ∧
        ∀ surroundings, runProgram (argumentsOf options') environment surroundings
          = runProgram (argumentsOf options) environment surroundings := by
  refine ⟨⟨?_, ?_⟩, fun config h => (ofCommandLine_eq_ok_iff.1 h).2, ?_, ?_⟩
  · rintro ⟨config, h⟩
    exact (ofCommandLine_eq_ok_iff.1 h).1
  · intro h
    obtain ⟨config, hof⟩ := h.exists_isOf
    exact ⟨config, ofCommandLine_eq_ok_iff.2 ⟨h, hof⟩⟩
  · intro environment' hsame
    unfold Config.ofCommandLine
    cases hread : readArguments (argumentsOf options) with
    | error stop => rfl
    | ok given =>
      obtain ⟨-, rfl⟩ := readArguments_eq_ok_iff.1 hread
      exact congrArg (· >>= Config.ofAssignment) (addVariables_congr hsame)
  · intro options' hperm
    refine ⟨?_, runProgram_of_perm hperm⟩
    apply Option.ext
    intro config
    have htoOption : ∀ result : Except UsageStop Config,
        result.toOption = some config ↔ result = .ok config := by
      rintro (_ | _) <;> simp [Except.toOption]
    rw [htoOption, htoOption]
    exact ⟨ofCommandLine_eq_ok_of_perm hperm.symm, ofCommandLine_eq_ok_of_perm hperm⟩

/-- Four options, one of them a number with a sign and with zeros in front. -/
def fourOptions : Assignment :=
  [(.repository, "o/r"), (.retryAttempts, "+003"), (.token, "t"), (.eventPath, "/e")]

/-- An environment with an address, and with something that is no number of attempts. -/
def busyEnvironment (attempts : String) (name : String) : Option String :=
  [("GITHUB_API_URL", "http://h"), ("ISSUEBOT_RETRY_MAX_ATTEMPTS", attempts)].lookup name

/-- The configuration that they lead to. -/
def layeredConfig : Config :=
  ⟨"o/r", "http://h", "t", "/e", 30000, 3, 500, none, ".py"⟩

/-- The variable that is no number does not matter, another value in its place neither, nor does the
order of the options. -/
theorem ofCommandLine_argumentsOf_fourOptions :
    IsUsable fourOptions (busyEnvironment "many") ∧
      layeredConfig.IsOf (layered fourOptions (busyEnvironment "many")) ∧
      Config.ofCommandLine (argumentsOf fourOptions) (busyEnvironment "7") = .ok layeredConfig ∧
      (Config.ofCommandLine (argumentsOf fourOptions.reverse) (busyEnvironment "many")).toOption
        = some layeredConfig := by
  have hconfig : Config.ofCommandLine (argumentsOf fourOptions) (busyEnvironment "many")
      = .ok layeredConfig := by decide
  have hunseen : ∀ setting, fourOptions.lookup setting = none →
      busyEnvironment "7" setting.variableName = busyEnvironment "many" setting.variableName := by
    intro setting
    cases setting <;> decide
  obtain ⟨husable, hof, hshadowed, horder⟩ :=
    ofCommandLine_argumentsOf fourOptions (busyEnvironment "many")
  refine ⟨husable.1 ⟨_, hconfig⟩, hof _ hconfig, ?_, ?_⟩
  · rw [hshadowed _ hunseen, hconfig]
  · rw [(horder _ (List.reverse_perm _)).1, hconfig]
    rfl

end Triage
