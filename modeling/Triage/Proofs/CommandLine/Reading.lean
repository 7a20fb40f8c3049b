import Triage.CommandLine
import Triage.Proofs.Text.Decimal
import Triage.Proofs.Text.Search
import Mathlib.Data.List.Nodup

namespace Triage

/-!
# The way to a configuration

A configuration is made in three steps: the options are read, the variables of the environment are
added, and the values are put in their places.  Each step is described by when it succeeds and by what
it then comes to.

* `Setting.argument` — the argument that gives a setting its value; `argumentsOf` — a command line of
  such arguments.
* `Setting.Takes` — the values that a setting takes; `IsProper` — settings that are given once each,
  with a value that they take.
* `readArguments_eq_ok_iff` — the options.
* `needed?` — the value of a variable that is looked at; `exists_addVariables_eq_ok_iff`,
  `lookup_addVariables` — the variables.
* `Config.IsOf` — a configuration by the values of its settings; `ofAssignment_eq_ok_iff` — the
  configuration.
-/

/-- The argument that gives a setting its value. -/
def Setting.argument (setting : Setting) (value : String) : String :=
  "--" ++ setting.optionName ++ "=" ++ value

/-- The command line that gives these settings their values. -/
def argumentsOf (options : Assignment) : List String :=
  options.map fun option => option.1.argument option.2

/-! ### Values that are taken -/

/-- The text stands for a positive number of 64 bits. -/
def IsPositiveWord (text : String) (n : Nat) : Prop :=
  Text.Denotes text.toList n ∧ 1 ≤ n ∧ n ≤ 18446744073709551615

/-- Just the positive numbers of 64 bits are read. -/
theorem readPositive_eq_ok_iff {text : String} {n : Nat} :
    readPositive text = .ok n ↔ IsPositiveWord text n := by
  have hword : ∀ n, Text.readWord text.toList = .ok n ↔
      Text.Denotes text.toList n ∧ n ≤ 18446744073709551615 := fun n => Text.readWord_eq_ok_iff
  rw [IsPositiveWord, and_left_comm, ← hword, readPositive]
  cases Text.readWord text.toList with
  | error cause => simp
  | ok m =>
    -- Zero can be read, but is refused.
    cases m with
    | zero => simp; omega
    | succ m => simp; omega

/-- The values that a setting takes: a path holds something, a number is a positive one of 64 bits. -/
def Setting.Takes (setting : Setting) (value : String) : Prop :=
  match setting with
  | .eventPath | .scriptsDirectory => value ≠ ""
  | .requestTimeout | .retryAttempts | .retryDelay => ∃ n, IsPositiveWord value n
  | .repository | .token | .apiBase | .scriptEnding => True

/-- A value passes its check exactly if the setting takes it. -/
theorem Setting.check_eq_ok_iff {setting : Setting} {value : String} :
    setting.check value = .ok () ↔ setting.Takes value := by
  have hpath : (if value.isEmpty then .error .missingValue else .ok () : Except UsageStop Unit)
      = .ok () ↔ value ≠ "" := by
    by_cases h : value.isEmpty = true <;> simp_all
  have hpositive : (readPositive value).map (fun _ => ()) = .ok () ↔ ∃ n, IsPositiveWord value n := by
    simp only [← readPositive_eq_ok_iff]
    cases readPositive value <;> simp [Except.map]
  cases setting with
  | eventPath | scriptsDirectory => exact hpath
  | requestTimeout | retryAttempts | retryDelay => exact hpositive
  | repository | token | apiBase | scriptEnding => exact iff_of_true rfl trivial

/-! ### The options -/

/-- Each setting is given once at most, and takes the value it is given. -/
structure IsProper (given : Assignment) : Prop where
  once : (given.map (·.1)).Nodup
  taken : ∀ option ∈ given, option.1.Takes option.2

/-- Nothing given is proper. -/
theorem IsProper.nil : IsProper [] := ⟨List.nodup_nil, by simp⟩

/-- The first ones of settings that are proper are proper. -/
theorem IsProper.left {first second : Assignment} (h : IsProper (first ++ second)) :
    IsProper first where
  once := by
    have honce := h.once
    rw [List.map_append] at honce
    exact honce.of_append_left
  taken := fun option hmem => h.taken option (List.mem_append_left _ hmem)

/-- One more setting keeps them proper exactly if it is new and takes its value. -/
theorem isProper_concat_iff {given : Assignment} {setting : Setting} {value : String} :
    IsProper (given ++ [(setting, value)]) ↔
      IsProper given ∧ setting ∉ given.map (·.1) ∧ setting.Takes value := by
  -- Given once each, the new one is none of the others.
  have honce_iff : ((given ++ [(setting, value)]).map (·.1)).Nodup ↔
      setting ∉ given.map (·.1) ∧ (given.map (·.1)).Nodup := by
    rw [List.map_append, List.map_singleton, ← List.concat_eq_append, List.nodup_concat]
  constructor
  · intro h
    exact ⟨h.left, (honce_iff.1 h.once).1, h.taken _ List.mem_concat_self⟩
  · rintro ⟨⟨honce, htaken⟩, hnew, hvalue⟩
    constructor
    · exact honce_iff.2 ⟨hnew, honce⟩
    · rw [List.forall_mem_append]
      exact ⟨htaken, List.forall_mem_singleton.2 hvalue⟩

/-- A setting is given exactly if it has a value. -/
theorem any_eq_isSome_lookup (given : Assignment) (setting : Setting) :
    given.any (·.1 == setting) = (given.lookup setting).isSome := by
  induction given with
  | nil => rfl
  | cons option rest ih =>
    obtain ⟨first, value⟩ := option
    rw [List.any_cons, List.lookup_cons, ih]
    by_cases h : setting = first
    · simp [h]
    · simp [beq_eq_false_iff_ne.2 h, beq_eq_false_iff_ne.2 (Ne.symm h)]

/-- A setting has no value exactly if it is not given. -/
theorem lookup_eq_none_iff_not_mem {given : Assignment} {setting : Setting} :
    given.lookup setting = none ↔ setting ∉ given.map (·.1) := by
  rw [List.lookup_eq_none_iff]
  simp only [bne_iff_ne, ne_eq, List.mem_map, not_exists, not_and]
  exact forall₂_congr fun _ _ => not_congr eq_comm

/-- Given once, a setting has the value that it is given. -/
theorem lookup_eq_some_iff_mem {given : Assignment} (h : (given.map (·.1)).Nodup)
    {setting : Setting} {value : String} :
    given.lookup setting = some value ↔ (setting, value) ∈ given := by
  constructor
  · intro hlookup
    obtain ⟨first, rest, rfl, -⟩ := List.lookup_eq_some_iff.1 hlookup
    exact List.mem_append_right _ List.mem_cons_self
  · intro hmem
    obtain ⟨first, rest, rfl⟩ := List.append_of_mem hmem
    have hnew : setting ∉ first.map (·.1) := by
      rw [List.map_append, List.map_cons, List.nodup_append] at h
      exact fun hfirst => h.2.2 setting hfirst setting List.mem_cons_self rfl
    rw [List.lookup_append, lookup_eq_none_iff_not_mem.2 hnew]
    simp

/-- Steps that may fail lead to a value exactly if each of them does. -/
theorem bind_eq_ok_iff {ε α β : Type} {x : Except ε α} {f : α → Except ε β} {result : β} :
    (x >>= f) = .ok result ↔ ∃ value, x = .ok value ∧ f value = .ok result := by
  cases x <;> simp [bind, Except.bind]

/-- A setting is taken in exactly if it is new and takes its value, and then at the end. -/
theorem assign_eq_ok_iff {given result : Assignment} {setting : Setting} {value : String} :
    assign given setting value = .ok result ↔
      (setting ∉ given.map (·.1) ∧ setting.Takes value) ∧ result = given ++ [(setting, value)] := by
  rw [assign, any_eq_isSome_lookup, ← lookup_eq_none_iff_not_mem]
  cases given.lookup setting with
  | some _ => simp
  | none =>
    rw [← Setting.check_eq_ok_iff]
    simp only [Option.isSome_none, Bool.false_eq_true, if_false, bind_eq_ok_iff, true_and]
    exact ⟨fun ⟨(), hcheck, hresult⟩ => ⟨hcheck, (Except.ok.inj hresult).symm⟩,
      fun ⟨hcheck, hresult⟩ => ⟨(), hcheck, congrArg Except.ok hresult.symm⟩⟩

/-- The argument that gives a setting its value is read as that option with that value. -/
theorem ofString_argument (setting : Setting) (value : String) :
    Argument.ofString (setting.argument value) = .long setting.optionName (some value) := by
  have hname : '=' ∉ setting.optionName.toList ∧ setting.optionName.toList ≠ [] := by
    cases setting <;> decide
  obtain ⟨c, name, hc⟩ := List.exists_cons_of_ne_nil hname.2
  -- The first sign of equality ends the name, for no name has one.
  have htext : (setting.argument value).toList
      = '-' :: '-' :: (setting.optionName.toList ++ '=' :: value.toList) := by
    simp [Setting.argument]
  have hcut := Text.cutAt_append hname.1 value.toList
  rw [hc, List.cons_append] at hcut htext
  rw [Argument.ofString, htext]
  simp only [hcut, ← hc, String.ofList_toList]

/-- An option with its value is taken in at once. -/
theorem step_option (given : Assignment) (setting : Setting) (value : String) :
    (ArgumentReader.mk given none).step (.long setting.optionName (some value))
      = (assign given setting value).map (⟨·, none⟩) := by
  have hoption : Setting.ofOption? setting.optionName = some setting := by
    cases setting <;> decide
  have hrun : setting.optionName ≠ "help" ∧ setting.optionName ≠ "version" := by
    cases setting <;> decide
  rw [ArgumentReader.step, ArgumentReader.long, if_neg hrun.1, if_neg hrun.2, hoption]
  simp only [ArgumentReader.settle, bind, Except.bind]
  cases assign given setting value <;> rfl

/-- Options with their values are taken in one after the other. -/
theorem read_options (options given : Assignment) :
    (ArgumentReader.mk given none).read
        (options.map fun option => .long option.1.optionName (some option.2))
      = options.foldlM (fun given option => assign given option.1 option.2) given := by
  induction options generalizing given with
  | nil => rfl
  | cons option rest ih =>
    rw [List.map_cons, ArgumentReader.read, step_option, List.foldlM_cons]
    · cases assign given option.1 option.2 with
      | error stop => rfl
      | ok given => exact ih given
    · exact fun h => by cases h
    · exact fun h => by cases h

/-- Settings are taken in one after the other exactly if, with those given before, they are proper. -/
theorem foldlM_assign_eq_ok_iff {options given result : Assignment} (h : IsProper given) :
    options.foldlM (fun given option => assign given option.1 option.2) given = .ok result ↔
      IsProper (given ++ options) ∧ result = given ++ options := by
  induction options generalizing given with
  | nil => simp [h, pure, Except.pure, eq_comm]
  | cons option rest ih =>
    obtain ⟨setting, value⟩ := option
    -- The first one goes over to those given.
    have hsplit : given ++ (setting, value) :: rest = given ++ [(setting, value)] ++ rest := by simp
    rw [List.foldlM_cons, bind_eq_ok_iff, hsplit]
    constructor
    · rintro ⟨given', hassign, hrest⟩
      obtain ⟨hnew, rfl⟩ := assign_eq_ok_iff.1 hassign
      exact (ih (isProper_concat_iff.2 ⟨h, hnew⟩)).1 hrest
    · rintro ⟨hproper, hresult⟩
      have hconcat := isProper_concat_iff.1 hproper.left
      exact ⟨_, assign_eq_ok_iff.2 ⟨hconcat.2, rfl⟩, (ih hproper.left).2 ⟨hproper, hresult⟩⟩

/-- A command line of options with their values is read by taking these in. -/
theorem readArguments_argumentsOf (options : Assignment) :
    readArguments (argumentsOf options)
      = options.foldlM (fun given option => assign given option.1 option.2) [] := by
  have hforms : (argumentsOf options).map Argument.ofString
      = options.map fun option => .long option.1.optionName (some option.2) := by
    rw [argumentsOf, List.map_map]
    exact List.map_congr_left fun option _ => ofString_argument ..
  rw [readArguments, hforms, ArgumentReader.start, read_options]

/-- **Options with their values are read exactly if they are proper**, and then as they stand. -/
theorem readArguments_eq_ok_iff {options given : Assignment} :
    readArguments (argumentsOf options) = .ok given ↔ IsProper options ∧ given = options := by
  rw [readArguments_argumentsOf, foldlM_assign_eq_ok_iff IsProper.nil, List.nil_append]

/-! ### The variables -/

/-- The value of a variable, if it is needed: the setting is not given. -/
def needed? (environment : String → Option String) (given : Assignment) (setting : Setting) :
    Option String :=
  if (given.lookup setting).isSome then none else environment setting.variableName

/-- A variable is needed exactly if its setting is not given, and it is set. -/
theorem needed?_eq_some_iff {environment : String → Option String} {given : Assignment}
    {setting : Setting} {value : String} :
    needed? environment given setting = some value ↔
      given.lookup setting = none ∧ environment setting.variableName = some value := by
  unfold needed?
  cases given.lookup setting <;> simp

/-- A setting at the end counts if it was not given before. -/
theorem lookup_concat (given : Assignment) (first : Setting) (value : String) (setting : Setting) :
    (given ++ [(first, value)]).lookup setting
      = (given.lookup setting).or (if setting = first then some value else none) := by
  rw [List.lookup_append, List.lookup_cons, List.lookup_nil]
  by_cases h : setting = first
  · simp [h]
  · simp [h, beq_eq_false_iff_ne.2 h]

section Variables

variable {environment : String → Option String} {given result : Assignment}
  {settings : List Setting}

/-- One setting after the other takes the value of its variable, if that is needed. -/
theorem addVariables_cons (first : Setting) (rest : List Setting) :
    addVariables environment given (first :: rest) =
      match needed? environment given first with
      | none => addVariables environment given rest
      | some value =>
        first.check value >>= fun _ => addVariables environment (given ++ [(first, value)]) rest := by
  rw [addVariables, any_eq_isSome_lookup, needed?]
  split
  · rfl
  · cases environment first.variableName <;> rfl

/-- A setting that is given keeps its value, any other one has that of its variable. -/
theorem lookup_addVariables (h : addVariables environment given settings = .ok result)
    (setting : Setting) :
    result.lookup setting = (given.lookup setting).or
      (if setting ∈ settings then environment setting.variableName else none) := by
  induction settings generalizing given with
  | nil =>
    obtain rfl := Except.ok.inj h
    simp
  | cons first rest ih =>
    rw [addVariables_cons] at h
    cases hneeded : needed? environment given first with
    | none =>
      rw [hneeded] at h
      rw [ih h]
      by_cases heq : setting = first
      · -- The setting is given already, or its variable is not set.
        subst heq
        simp only [needed?] at hneeded
        cases hlookup : given.lookup setting with
        | some value => simp
        | none =>
          rw [hlookup] at hneeded
          simp [show environment setting.variableName = none from hneeded]
      · simp [heq]
    | some value =>
      obtain ⟨hnew, hvariable⟩ := needed?_eq_some_iff.1 hneeded
      rw [hneeded, bind_eq_ok_iff] at h
      obtain ⟨-, -, hrest⟩ := h
      rw [ih hrest, lookup_concat]
      by_cases heq : setting = first
      · simp [heq, hnew, hvariable]
      · simp [heq]

/-- Variables are added exactly if those that are needed have a value that is taken. -/
theorem exists_addVariables_eq_ok_iff :
    (∃ result, addVariables environment given settings = .ok result) ↔
      ∀ setting ∈ settings, ∀ value, needed? environment given setting = some value →
        setting.Takes value := by
  induction settings generalizing given with
  | nil => simp [addVariables]
  | cons first rest ih =>
    rw [addVariables_cons, List.forall_mem_cons]
    cases hneeded : needed? environment given first with
    | none => simp [ih]
    | some value =>
      -- The other variables are needed as before, and that of the first setting no more.
      have hlater : ∀ setting later, needed? environment (given ++ [(first, value)]) setting
          = some later ↔ setting ≠ first ∧ needed? environment given setting = some later := by
        intro setting later
        rw [needed?_eq_some_iff, needed?_eq_some_iff, lookup_concat]
        by_cases heq : setting = first <;> simp [heq]
      have hsteps : (∃ result, (first.check value >>= fun _ =>
            addVariables environment (given ++ [(first, value)]) rest) = .ok result) ↔
          first.Takes value ∧
            ∃ result, addVariables environment (given ++ [(first, value)]) rest = .ok result := by
        simp only [bind_eq_ok_iff, ← Setting.check_eq_ok_iff]
        exact ⟨fun ⟨result, (), hcheck, hrest⟩ => ⟨hcheck, result, hrest⟩,
          fun ⟨hcheck, result, hrest⟩ => ⟨result, (), hcheck, hrest⟩⟩
      refine hsteps.trans ((and_congr_right fun htakes => ih.trans ?_).trans
        (and_congr_left fun _ => by simp))
      refine forall₃_congr fun setting _ later => ?_
      rw [hlater]
      by_cases heq : setting = first
      · have hfirst : some value = some later → first.Takes later := by
          rintro ⟨rfl⟩
          exact htakes
        simpa [heq, hneeded] using hfirst
      · simp [heq]

/-- Only the variables of settings that are not given are looked at. -/
theorem addVariables_congr {environment' : String → Option String}
    (h : ∀ setting, given.lookup setting = none →
      environment' setting.variableName = environment setting.variableName) :
    addVariables environment' given settings = addVariables environment given settings := by
  induction settings generalizing given with
  | nil => rfl
  | cons first rest ih =>
    have hneeded : needed? environment' given first = needed? environment given first := by
      unfold needed?
      cases hlookup : given.lookup first with
      | some value => rfl
      | none => exact h first hlookup
    rw [addVariables_cons, addVariables_cons, hneeded]
    cases needed? environment given first with
    | none => exact ih h
    | some value =>
      refine congrArg (first.check value >>= ·) (funext fun _ => ih fun setting hlookup => ?_)
      rw [lookup_concat, Option.or_eq_none_iff] at hlookup
      exact h setting hlookup.1

end Variables

/-! ### The configuration -/

/-- The number that a setting comes to: what its value stands for, or the default without a value. -/
def IsNumber (value? : Option String) (default n : Nat) : Prop :=
  match value? with
  | some value => IsPositiveWord value n
  | none => n = default

/-- Each part of the configuration is the value of its setting, or the default without a value. -/
structure Config.IsOf (value? : Setting → Option String) (config : Config) : Prop where
  repository : value? .repository = some config.repository
  token : value? .token = some config.token
  eventPath : value? .eventPath = some config.eventPath
  apiBase : config.apiBase = (value? .apiBase).getD "https://api.github.com"
  requestTimeout : IsNumber (value? .requestTimeout) 30000 config.requestTimeout
  retryAttempts : IsNumber (value? .retryAttempts) 1 config.retryAttempts
  retryDelay : IsNumber (value? .retryDelay) 500 config.retryDelay
  scriptsDirectory : config.scriptsDirectory = value? .scriptsDirectory
  scriptEnding : config.scriptEnding = (value? .scriptEnding).getD ".py"

/-- What a run cannot do without is the value that is given for it. -/
theorem required_eq_ok_iff {given : Assignment} {setting : Setting} {value : String} :
    required given setting = .ok value ↔ given.lookup setting = some value := by
  unfold required
  cases given.lookup setting <;> simp

/-- A number is read from its value, and is the default without one. -/
theorem number_eq_ok_iff {given : Assignment} {setting : Setting} {default n : Nat} :
    number given setting default = .ok n ↔ IsNumber (given.lookup setting) default n := by
  unfold number IsNumber
  cases given.lookup setting with
  | some value => exact readPositive_eq_ok_iff
  | none => simp [eq_comm]

/-- A configuration is made exactly of what the settings have for values.  An ending of script names
needs a directory. -/
theorem ofAssignment_eq_ok_iff {given : Assignment} {config : Config} :
    Config.ofAssignment given = .ok config ↔ config.IsOf (given.lookup ·) ∧
      ((given.lookup .scriptEnding).isSome → (given.lookup .scriptsDirectory).isSome) := by
  have hending : ∀ ending directory : Option String,
      (ending.isSome && directory.isNone) = true ↔ ¬ (ending.isSome → directory.isSome) := by
    rintro (_ | _) (_ | _) <;> simp
  simp only [Config.ofAssignment, bind_eq_ok_iff, required_eq_ok_iff, number_eq_ok_iff, hending]
  constructor
  · rintro ⟨repository, hrepository, token, htoken, path, hpath, timeout, htimeout, attempts,
      hattempts, delay, hdelay, hresult⟩
    -- All values are there; what is left to fail is an ending without a directory.
    by_cases hdirectory : (given.lookup .scriptEnding).isSome →
        (given.lookup .scriptsDirectory).isSome
    · rw [if_neg (not_not_intro hdirectory)] at hresult
      obtain rfl := Except.ok.inj hresult
      exact ⟨⟨hrepository, htoken, hpath, rfl, htimeout, hattempts, hdelay, rfl, rfl⟩, hdirectory⟩
    · rw [if_pos hdirectory] at hresult
      cases hresult
  · rintro ⟨h, hdirectory⟩
    refine ⟨_, h.repository, _, h.token, _, h.eventPath, _, h.requestTimeout, _, h.retryAttempts, _,
      h.retryDelay, ?_⟩
    rw [if_neg (not_not_intro hdirectory), ← h.apiBase, ← h.scriptsDirectory, ← h.scriptEnding]
    rfl

end Triage
