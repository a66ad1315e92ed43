import ShapeGraph.Settings.Basic

namespace ShapeGraph

theorem LogLevel.ofText?_eq_some_iff {s : String} {level : LogLevel} :
    ofText? s = some level ↔ level.name = Text.upper (Text.trim s) := by
  rw [ofText?]
  constructor
  · intro h
    simpa using List.find?_some h
  · intro h
    rw [← h]
    cases level <;> rfl

theorem LogLevel.ofText?_eq_none_iff {s : String} :
    ofText? s = none ↔ ∀ level : LogLevel, level.name ≠ Text.upper (Text.trim s) := by
  simp only [Option.eq_none_iff_forall_ne_some, ne_eq, ofText?_eq_some_iff]

namespace Settings

variable {env : Environment} {places : Files.Places}

inductive Unreadable (valueOf : String → Option String) (places : Files.Places) : Prop
  | level {s : String} : valueOf Variable.logLevel.key = some s →
      (∀ level : LogLevel, level.name ≠ Text.upper (Text.trim s)) → Unreadable valueOf places
  | logFile {path : String} : valueOf Variable.logFile.key = some path → path ≠ "" →
      places (valueOf "HOME") path = none → Unreadable valueOf places
  | modelPath : places (valueOf "HOME") ((valueOf Variable.modelPath.key).getD defaultModelPath)
      = none → Unreadable valueOf places

theorem level?_eq_none_iff : level? env = none
    ↔ ∃ s, env.get? Variable.logLevel.key = some s
      ∧ ∀ level : LogLevel, level.name ≠ Text.upper (Text.trim s) := by
  rw [level?]
  cases env.get? Variable.logLevel.key <;> simp [LogLevel.ofText?_eq_none_iff]

theorem logFile?_eq_none_iff : logFile? env places = none
    ↔ ∃ path, env.get? Variable.logFile.key = some path ∧ path ≠ ""
      ∧ places (env.get? "HOME") path = none := by
  rw [logFile?]
  cases env.get? Variable.logFile.key with
  | none => simp
  | some path => by_cases hpath : path = "" <;> simp [hpath]

theorem ofEnvironment?_eq_none_iff :
    ofEnvironment? env places = none ↔ Unreadable env.get? places := by
  have hparts : ofEnvironment? env places = none
      ↔ logFile? env places = none ∨ modelPath? env places = none ∨ level? env = none := by
    rw [ofEnvironment?]
    cases logFile? env places <;> cases modelPath? env places <;> simp
  rw [hparts, logFile?_eq_none_iff, modelPath?, level?_eq_none_iff]
  constructor
  · rintro (⟨path, hpath, hne, hplace⟩ | hplace | ⟨s, hs, hlevel⟩)
    · exact .logFile hpath hne hplace
    · exact .modelPath hplace
    · exact .level hs hlevel
  · rintro (⟨hs, hlevel⟩ | ⟨hpath, hne, hplace⟩ | hplace)
    · exact .inr (.inr ⟨_, hs, hlevel⟩)
    · exact .inl ⟨_, hpath, hne, hplace⟩
    · exact .inr (.inl hplace)

inductive ReadsLevel : Option String → LogLevel → Prop
  | default : ReadsLevel none defaultLevel
  | given {s : String} {level : LogLevel} : level.name = Text.upper (Text.trim s) →
      ReadsLevel (some s) level

inductive ReadsLogFile (places : Files.Places) (home : Option String) :
    Option String → Option String → Prop
  | default : ReadsLogFile places home none none
  | empty : ReadsLogFile places home (some "") none
  | given {path place : String} : path ≠ "" → places home path = some place →
      ReadsLogFile places home (some path) (some place)

inductive ReadsSwitch : Option String → Bool → Prop
  | default : ReadsSwitch none true
  | blank {s : String} : Text.trim s = "" → ReadsSwitch (some s) true
  | unknown {s : String} : Text.lower (Text.trim s) ∉ trueWords →
      Text.lower (Text.trim s) ∉ falseWords → ReadsSwitch (some s) true
  | on {s : String} : Text.lower (Text.trim s) ∈ trueWords → ReadsSwitch (some s) true
  | off {s : String} : Text.lower (Text.trim s) ∈ falseWords → ReadsSwitch (some s) false

structure ReadFrom (valueOf : String → Option String) (places : Files.Places) (x : Settings) :
    Prop where
  level : ReadsLevel (valueOf Variable.logLevel.key) x.level
  logFile : ReadsLogFile places (valueOf "HOME") (valueOf Variable.logFile.key) x.logFile
  references : ReadsSwitch (valueOf Variable.checkReferences.key) x.checks.references
  traits : ReadsSwitch (valueOf Variable.validateTraits.key) x.checks.traits
  memberTraits : ReadsSwitch (valueOf Variable.validateMemberTraits.key) x.checks.memberTraits
  modelPath : places (valueOf "HOME") ((valueOf Variable.modelPath.key).getD defaultModelPath)
    = some x.modelPath

theorem level?_eq_some_iff {level : LogLevel} :
    level? env = some level ↔ ReadsLevel (env.get? Variable.logLevel.key) level := by
  rw [level?]
  cases env.get? Variable.logLevel.key with
  | none =>
    constructor
    · rintro ⟨⟩
      exact .default
    · rintro ⟨⟩
      rfl
  | some s =>
    rw [LogLevel.ofText?_eq_some_iff]
    constructor
    · exact .given
    · rintro ⟨h⟩
      assumption

theorem logFile?_eq_some_iff {logFile : Option String} :
    logFile? env places = some logFile
      ↔ ReadsLogFile places (env.get? "HOME") (env.get? Variable.logFile.key) logFile := by
  rw [logFile?]
  cases env.get? Variable.logFile.key with
  | none =>
    constructor
    · rintro ⟨⟩
      exact .default
    · rintro ⟨⟩
      rfl
  | some path =>
    dsimp only
    by_cases hpath : path = ""
    · rw [if_pos hpath, hpath]
      constructor
      · rintro ⟨⟩
        exact .empty
      · rintro (_ | _ | ⟨hne, -⟩)
        · rfl
        · exact absurd rfl hne
    · rw [if_neg hpath, Option.map_eq_some_iff]
      constructor
      · rintro ⟨place, hplace, rfl⟩
        exact .given hpath hplace
      · rintro (_ | _ | ⟨-, hplace⟩)
        · exact absurd rfl hpath
        · exact ⟨_, hplace, rfl⟩

theorem not_mem_trueWords {word : String} (h : word ∈ falseWords) : word ∉ trueWords := by
  revert word
  decide

theorem readsSwitch_iff {value : Option String} {b : Bool} :
    ReadsSwitch value b ↔ (value.bind truth?).getD true = b := by
  constructor
  · rintro (_ | h | ⟨hon, hoff⟩ | hon | hoff)
    · rfl
    · rw [Option.bind_some, truth?, h]
      decide +kernel
    · simp [truth?, hon, hoff]
    · simp [truth?, hon]
    · simp [truth?, hoff, not_mem_trueWords hoff]
  · rintro rfl
    cases value with
    | none => exact .default
    | some s =>
      simp only [Option.bind_some, truth?]
      split
      · next hon => exact .on hon
      · next hon =>
        split
        · next hoff => exact .off hoff
        · next hoff => exact .unknown hon hoff

theorem ofEnvironment?_eq_some_iff {x : Settings} :
    ofEnvironment? env places = some x ↔ x.ReadFrom env.get? places := by
  constructor
  · intro h
    obtain ⟨logFile, hlogFile, h⟩ := Option.bind_eq_some_iff.1 h
    obtain ⟨modelPath, hmodelPath, h⟩ := Option.bind_eq_some_iff.1 h
    obtain ⟨level, hlevel, rfl⟩ := Option.map_eq_some_iff.1 h
    exact ⟨level?_eq_some_iff.1 hlevel, logFile?_eq_some_iff.1 hlogFile, readsSwitch_iff.2 rfl,
      readsSwitch_iff.2 rfl, readsSwitch_iff.2 rfl, hmodelPath⟩
  · rintro ⟨hlevel, hlogFile, hreferences, htraits, hmemberTraits, hmodelPath⟩
    rw [ofEnvironment?, logFile?_eq_some_iff.2 hlogFile, Option.bind_some, modelPath?, hmodelPath,
      Option.bind_some, level?_eq_some_iff.2 hlevel, Option.map_some, switch, switch, switch,
      readsSwitch_iff.1 hreferences, readsSwitch_iff.1 htraits, readsSwitch_iff.1 hmemberTraits]

end Settings

end ShapeGraph
