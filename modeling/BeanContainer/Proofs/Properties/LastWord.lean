/-
This file says which call decides a setting after any number of calls: the last one that says
anything of its key. Where that call takes the local setting away, and where there is no such call and
no local setting at first, the environment decides.
-/

import BeanContainer.Properties.Store

namespace BeanContainer

/-- A call that writes local settings. Nothing stands for a file that cannot be opened. -/
inductive SettingCall where
  | set (key : String) (value : Option String)
  | setFlag (key : String)
  | reset
  | reload (path : String) (content : Option ByteArray)

namespace SettingCall

/-- A reload that fails leaves the settings as they were. -/
def after (properties : ContainerProperties) : SettingCall → ContainerProperties
  | .set key value => properties.set key value
  | .setFlag key => properties.setFlag key
  | .reset => properties.reset
  | .reload path content => (properties.reload path content).toOption.getD properties

def run (properties : ContainerProperties) (calls : List SettingCall) : ContainerProperties :=
  calls.foldl after properties

/-- Calls on another key and reloads that fail do not concern the key. -/
def concerns (key : String) : SettingCall → Bool
  | .set other _ => other == key
  | .setFlag other => other == key
  | .reset => true
  | .reload path content => (LocalProperties.ofFile path content).toOption.isSome

/-! What the calls say of a key. -/

/-- There is no table in a file that is missing, in bytes that are no text and in a text that is
malformed. -/
def table? (content : Option ByteArray) : Option Toml.Table :=
  content >>= String.fromUTF8? >>= Toml.read

/-- Of two settings of a file with the same key the later one counts. -/
def fileValue? (table : Toml.Table) (key : String) : Option String :=
  (Settings.flatten "" table).reverse.lookup key

/-- A call that says nothing in place of a value takes the local setting away. -/
def word? (key : String) : SettingCall → Option (Option String)
  | .set other value => if other = key then some value else none
  | .setFlag other => if other = key then some (some "true") else none
  | .reset => some none
  | .reload _ content => (table? content).map (fileValue? · key)

def lastWord? (key : String) (calls : List SettingCall) : Option (Option String) :=
  (calls.filterMap (word? key)).getLast?

/-- The variable of the key's own name goes before the one of its derived name, and one that cannot be
read counts as missing. -/
def environmentValue? (environment : Environment) (key : String) : Option String :=
  if key = "" ∨ Char.ofNat 0 ∈ key.toList ∨ '=' ∈ key.toList then none
  else
    (environment.settings.get? key >>= String.fromUTF8?).or
      (environment.settings.get? (Environment.variableName key) >>= String.fromUTF8?)

section Words

variable {key : String} {call : SettingCall}

/-- A file is read just if it holds a table, and its path is kept. -/
theorem ofFile_eq (path : String) (content : Option ByteArray) :
    (LocalProperties.ofFile path content).toOption =
      (table? content).map fun table =>
        { LocalProperties.ofTable table with origin := some path } := by
  unfold LocalProperties.ofFile table?
  cases content >>= String.fromUTF8? with
  | none => rfl
  | some text =>
      change (((LocalProperties.ofText text).map _).toOption) = (Toml.read text).map _
      unfold LocalProperties.ofText
      cases Toml.read text <;> rfl

/-- The settings of a table are those that its file says. -/
theorem get?_ofTable (table : Toml.Table) (key : String) :
    (LocalProperties.ofTable table).get? key = fileValue? table key :=
  Keyed.lookup_ofPairs _ key

/-- A call concerns a key just if it says something of it. -/
theorem concerns_eq : concerns key call = (word? key call).isSome := by
  cases call with
  | set other value =>
      by_cases same : other = key <;> simp [concerns, word?, same]
  | setFlag other =>
      by_cases same : other = key <;> simp [concerns, word?, same]
  | reset => rfl
  | reload path content => simp [concerns, word?, ofFile_eq]

/-- A reload that succeeds puts the settings of the file in place of all local ones. -/
theorem reload_eq (properties : ContainerProperties) (path : String) (content : Option ByteArray) :
    (properties.reload path content).toOption =
      (table? content).map fun table =>
        { properties with
          localTier := { LocalProperties.ofTable table with origin := some path } } := by
  have files := ofFile_eq path content
  unfold ContainerProperties.reload
  cases loaded : LocalProperties.ofFile path content with
  | error fault =>
      rw [loaded] at files
      cases found : table? content with
      | none => rfl
      | some table => simp [found, Except.toOption] at files
  | ok tier =>
      rw [loaded] at files
      cases found : table? content with
      | none => simp [found, Except.toOption] at files
      | some table =>
          rw [found] at files
          obtain rfl : tier = _ := Option.some.inj files
          rfl

/-- No call reaches the environment. -/
theorem systemTier_after (properties : ContainerProperties) (call : SettingCall) :
    (after properties call).systemTier = properties.systemTier := by
  cases call with
  | reload path content =>
      rw [after, reload_eq]
      cases table? content <;> rfl
  | _ => rfl

/-- A call either says what the local setting of the key is, or leaves it. -/
theorem local_after (properties : ContainerProperties) (call : SettingCall) (key : String) :
    (after properties call).localTier.get? key =
      (word? key call).getD (properties.localTier.get? key) := by
  have written (other : String) (value : Option String) :
      (properties.set other value).localTier.get? key =
        (if other = key then some value else none).getD (properties.localTier.get? key) := by
    cases value with
    | none =>
        refine (SortedMap.get?_erase _ other key).trans ?_
        by_cases same : key = other
        · simp [same]
        · rw [if_neg same, if_neg (Ne.symm same)]
          rfl
    | some value =>
        refine (SortedMap.get?_insert _ other key value).trans ?_
        by_cases same : key = other
        · simp [same]
        · rw [if_neg same, if_neg (Ne.symm same)]
          rfl
  cases call with
  | set other value => exact written other value
  | setFlag other => exact written other (some "true")
  | reset => rfl
  | reload path content =>
      rw [after, reload_eq, word?]
      cases table? content with
      | none => rfl
      | some table => exact get?_ofTable table key

/-- The first call has the last word only if no later one says anything. -/
theorem lastWord?_cons (key : String) (call : SettingCall) (rest : List SettingCall) :
    lastWord? key (call :: rest) = (lastWord? key rest).or (word? key call) := by
  unfold lastWord?
  cases found : word? key call with
  | none => rw [List.filterMap_cons_none found, Option.or_none]
  | some word =>
      rw [List.filterMap_cons_some found, List.getLast?_cons]
      cases (rest.filterMap (word? key)).getLast? <;> rfl

/-- Calls that do not concern a key have no part in the last word on it. -/
theorem lastWord?_filter (key : String) (calls : List SettingCall) :
    lastWord? key (calls.filter (concerns key)) = lastWord? key calls := by
  unfold lastWord?
  rw [List.filterMap_filter]
  congr 2
  funext call
  rw [concerns_eq]
  cases word? key call <;> rfl

end Words

/-- No run of calls reaches the environment. -/
theorem systemTier_run (properties : ContainerProperties) (calls : List SettingCall) :
    (run properties calls).systemTier = properties.systemTier := by
  induction calls generalizing properties with
  | nil => rfl
  | cons call rest inductionHypothesis =>
      exact (inductionHypothesis (after properties call)).trans (systemTier_after properties call)

/-- After any calls the local setting is what the last word on it says. -/
theorem local_run (properties : ContainerProperties) (calls : List SettingCall) (key : String) :
    (run properties calls).localTier.get? key =
      (lastWord? key calls).getD (properties.localTier.get? key) := by
  induction calls generalizing properties with
  | nil => rfl
  | cons call rest inductionHypothesis =>
      calc (run (after properties call) rest).localTier.get? key
          = (lastWord? key rest).getD ((after properties call).localTier.get? key) :=
            inductionHypothesis _
        _ = (lastWord? key rest).getD ((word? key call).getD (properties.localTier.get? key)) := by
            rw [local_after]
        _ = (lastWord? key (call :: rest)).getD (properties.localTier.get? key) := by
            rw [lastWord?_cons]
            cases lastWord? key rest <;> rfl

/-- The local setting comes first, and the environment stands in where there is none. -/
theorem get?_run (properties : ContainerProperties) (calls : List SettingCall) (key : String) :
    (run properties calls).get? key =
      ((lastWord? key calls).getD (properties.localTier.get? key)).or
        (properties.systemTier key) := by
  unfold ContainerProperties.get?
  rw [local_run, systemTier_run]

/-- No variable of the environment can be empty or hold a zero or an equals sign. -/
theorem isImpossibleName_iff (key : String) :
    Environment.isImpossibleName key = true ↔
      key = "" ∨ Char.ofNat 0 ∈ key.toList ∨ '=' ∈ key.toList := by
  have isZero (character : Char) : character.toNat = 0 ↔ character = Char.ofNat 0 :=
    ⟨fun zero => Char.ext (UInt32.toNat_inj.mp zero), fun same => same ▸ rfl⟩
  simp [Environment.isImpossibleName, isZero, exists_or, and_or_left]

/-- The system setting of a key is what the environment has for it. -/
theorem property?_eq (environment : Environment) (key : String) :
    environment.property? key = environmentValue? environment key := by
  simp only [Environment.property?, environmentValue?, isImpossibleName_iff]
  rfl

/-- The last call that says anything of a key decides its setting: the value it gives, or else that of
the environment. Calls that do not concern the key may be left out or put in, and among them are the
reloads that find no table. -/
theorem last_word_decides (environment : Environment) (tier : LocalProperties)
    (calls : List SettingCall) (key : String) :
    (run { localTier := tier, systemTier := environment.property? } calls).get? key =
        ((lastWord? key calls).getD (tier.get? key)).or (environmentValue? environment key) ∧
      (∀ others : List SettingCall,
        others.filter (concerns key) = calls.filter (concerns key) →
          (run { localTier := tier, systemTier := environment.property? } others).get? key =
            (run { localTier := tier, systemTier := environment.property? } calls).get? key) ∧
      ∀ path content, concerns key (.reload path content) = (table? content).isSome := by
  have decided (calls : List SettingCall) :
      (run { localTier := tier, systemTier := environment.property? } calls).get? key =
        ((lastWord? key calls).getD (tier.get? key)).or (environmentValue? environment key) := by
    rw [get?_run, ← property?_eq]
  refine ⟨decided calls, fun others same => ?_, fun path content => ?_⟩
  · rw [decided others, decided calls, ← lastWord?_filter key others, same, lastWord?_filter]
  · rw [concerns_eq, word?, Option.isSome_map]

/-- The second reload fails. The last call takes the local setting away, so that the variable decides. -/
def crossedCalls : List SettingCall :=
  [.reload "lorn-di.toml" (some "lorn.di.fail-fast = false".toUTF8),
    .set ContainerProperties.failFastKey (some "true"),
    .setFlag ContainerProperties.allowOverridingKey,
    .reload "lorn-di.toml" (some "broken = [".toUTF8),
    .set ContainerProperties.failFastKey none]

def loudEnvironment : Environment := .ofPairs [("LORN_DI_FAIL_FAST", "TRUE".toUTF8)]

/-- The variable decides where the setting was removed, with or without a call on another key. -/
theorem removed_setting_left_to_variable :
    (crossedCalls.eraseIdx 3).filter (concerns ContainerProperties.failFastKey) =
        crossedCalls.filter (concerns ContainerProperties.failFastKey) ∧
      (run { systemTier := loudEnvironment.property? } crossedCalls).get?
          ContainerProperties.failFastKey = some "TRUE" ∧
      (run { systemTier := loudEnvironment.property? } (crossedCalls.eraseIdx 3)).get?
          ContainerProperties.failFastKey = some "TRUE" := by
  have broken : concerns ContainerProperties.failFastKey
      (.reload "lorn-di.toml" (some "broken = [".toUTF8)) = false := by
    decide +kernel
  have same : (crossedCalls.eraseIdx 3).filter (concerns ContainerProperties.failFastKey) =
      crossedCalls.filter (concerns ContainerProperties.failFastKey) := by
    simp only [crossedCalls, List.eraseIdx, List.filter_cons, broken, Bool.false_eq_true, if_false]
  obtain ⟨decided, others, _⟩ :=
    last_word_decides loudEnvironment {} crossedCalls ContainerProperties.failFastKey
  have answer : (run { systemTier := loudEnvironment.property? } crossedCalls).get?
      ContainerProperties.failFastKey = some "TRUE" := by
    rw [decided]
    decide +kernel
  exact ⟨same, answer, (others _ same).trans answer⟩

end SettingCall

end BeanContainer
