import ShapeGraph.Proofs.Fields
import ShapeGraph.Proofs.Settings.Reading
import ShapeGraph.Settings.EnvFile

namespace ShapeGraph.Session

variable {s : Session} {env : Environment} {vars : Fields String}

theorem fillIn_cons (env : Environment) (key value : String) (vars : Fields String) :
    fillIn env ((key, value) :: vars)
      = fillIn (if Fields.has env key then env else Fields.set env key value) vars :=
  rfl

theorem get?_fillIn (env : Environment) (vars : Fields String) (key : String) :
    (fillIn env vars).get? key = (env.get? key).or (vars.get? key) := by
  induction vars generalizing env with
  | nil => exact (Option.or_none ..).symm
  | cons e vars ih =>
    obtain ⟨name, value⟩ := e
    rw [fillIn_cons, ih, Fields.get?_cons]
    by_cases hname : name = key
    · rw [hname, if_pos rfl]
      cases hkey : env.get? key <;> simp [Fields.has, hkey]
    · rw [if_neg hname]
      split
      · rfl
      · rw [Fields.get?_set_of_ne hname]

theorem fillIn_eq_self_iff : fillIn env vars = env ↔ ∀ key ∈ vars.keys, env.has key := by
  constructor
  · intro h key hkey
    by_contra hnot
    have hnone : env.get? key = none := Option.not_isSome_iff_eq_none.1 hnot
    have hget := get?_fillIn env vars key
    rw [h, hnone, Option.none_or, eq_comm, Fields.get?_eq_none_iff] at hget
    exact hget hkey
  · intro h
    induction vars with
    | nil => rfl
    | cons e vars ih =>
      obtain ⟨hkey, hvars⟩ := List.forall_mem_cons.1 h
      rw [fillIn_cons, if_pos hkey, ih hvars]

def value? (s : Session) (vars : Fields String) (key : String) : Option String :=
  (s.env.get? key).or (vars.get? key)

theorem get?_fillIn_eq_value? (s : Session) (vars : Fields String) :
    (fillIn s.env vars).get? = s.value? vars :=
  funext fun key => get?_fillIn s.env vars key

theorem loadGiven_of_not_cached (h : s.cached = none) (vars : Fields String) :
    s.loadGiven vars = (⟨Settings.ofEnvironment? (fillIn s.env vars) s.places,
        Settings.warnings (fillIn s.env vars) s.places⟩,
      { s with
        env := fillIn s.env vars
        cached := Settings.ofEnvironment? (fillIn s.env vars) s.places }) := by
  rw [loadGiven, h]

theorem not_cached_of_failed (h : (s.loadGiven vars).1.settings = none) : s.cached = none := by
  rw [loadGiven] at h
  split at h
  · cases h
  · assumption

theorem loadGiven_of_failed (h : (s.loadGiven vars).1.settings = none) :
    (s.loadGiven vars).2 = { s with env := fillIn s.env vars } := by
  have hcached := not_cached_of_failed h
  rw [loadGiven_of_not_cached hcached] at h ⊢
  change Settings.ofEnvironment? _ _ = none at h
  simp only [h, hcached]

theorem failed_iff (h : s.cached = none) : (s.loadGiven vars).1.settings = none
    ↔ Settings.Unreadable (s.value? vars) s.places := by
  rw [loadGiven_of_not_cached h, Settings.ofEnvironment?_eq_none_iff, get?_fillIn_eq_value?]

theorem failed_of_level {level : String} (h : s.cached = none)
    (hlevel : s.env.get? Variable.logLevel.key = some level)
    (hnone : LogLevel.ofText? level = none) (vars : Fields String) :
    (s.loadGiven vars).1.settings = none := by
  have hvalue : s.value? vars Variable.logLevel.key = some level := by
    rw [value?, hlevel, Option.some_or]
  exact (failed_iff h).2 (.level hvalue (LogLevel.ofText?_eq_none_iff.1 hnone))

def withChanges (s : Session) (set : Fields String) (unset : List String) : Session :=
  (s.setVariables set).unsetVariables unset

theorem get?_foldl_erase {keys : List String} {key : String} (h : key ∉ keys) (env : Environment) :
    (keys.foldl Fields.erase env).get? key = env.get? key := by
  induction keys generalizing env with
  | nil => rfl
  | cons k keys ih =>
    rw [List.mem_cons, not_or] at h
    rw [List.foldl_cons, ih h.2, Fields.get?_erase_of_ne (Ne.symm h.1)]

theorem get?_withChanges {set : Fields String} {unset : List String} {key : String}
    (hset : key ∉ set.keys) (hunset : key ∉ unset) (s : Session) :
    (s.withChanges set unset).env.get? key = s.env.get? key := by
  have hnone : Fields.get? set.reverse key = none := by
    rw [Fields.get?_eq_none_iff, Fields.keys, List.map_reverse, List.mem_reverse]
    exact hset
  rw [withChanges, unsetVariables, get?_foldl_erase hunset, setVariables, Fields.get?_merge, hnone,
    Option.none_or]

/-- A load that fails leaves nothing but what is filled in from its file: nothing is remembered, and
each variable has the value that it had, or if it had none, the one that the file gives. What comes
of the next load is decided by the environment that there is then and by what the file then gives:
if the level was wrong, then while it is neither set nor unset, the next load fails again. -/
theorem failed_load_leaves_filled_in (h : (s.loadGiven vars).1.settings = none) :
    s.cached = none ∧ (s.loadGiven vars).2.cached = none ∧ (s.loadGiven vars).2.here = s.here
    ∧ (∀ key, (s.loadGiven vars).2.env.get? key = s.value? vars key)
    ∧ ((s.loadGiven vars).2 = s ↔ ∀ key ∈ vars.keys, s.env.has key)
    ∧ ∀ set unset vars',
      (∀ level, s.value? vars Variable.logLevel.key = some level → LogLevel.ofText? level = none →
        Variable.logLevel.key ∉ Fields.keys set → Variable.logLevel.key ∉ unset →
        (((s.loadGiven vars).2.withChanges set unset).loadGiven vars').1.settings = none)
      ∧ ∃ env, (((s.loadGiven vars).2.withChanges set unset).loadGiven vars').1.settings
          = Settings.ofEnvironment? env s.places
        ∧ ∀ key, env.get? key = ((s.loadGiven vars).2.withChanges set unset).value? vars' key := by
  have hcached := not_cached_of_failed h
  have hload := loadGiven_of_failed h
  have hget (key : String) : (s.loadGiven vars).2.env.get? key = s.value? vars key := by
    rw [hload]
    exact get?_fillIn s.env vars key
  refine ⟨hcached, by rw [hload, hcached], by rw [hload], hget, ?_, ?_⟩
  · rw [hload, ← fillIn_eq_self_iff]
    exact ⟨congrArg Session.env, fun henv => congrArg (fun env => { s with env }) henv⟩
  · intro set unset vars'
    have hnext : ((s.loadGiven vars).2.withChanges set unset).cached = none := by
      rw [hload]
      exact hcached
    constructor
    · intro level hlevel hnone hset hunset
      refine failed_of_level hnext ?_ hnone vars'
      rw [get?_withChanges hset hunset, hget, hlevel]
    · refine ⟨fillIn _ vars', ?_, get?_fillIn _ vars'⟩
      rw [loadGiven_of_not_cached hnext, hload]
      rfl

def moody : Session := startPlain ["srv"] [("MODE", "loud")]

def moodFile : String := "LOG_LEVEL=$\x7bMODE\x7d\n"

theorem failed_load_of_mood : (moody.load (some moodFile)).1.settings = none
    ∧ (moody.load (some moodFile)).2.env.get? "LOG_LEVEL" = some "loud"
    ∧ (((moody.load (some moodFile)).2.withChanges [("MODE", "debug")] []).load
        (some moodFile)).1.settings = none
    ∧ ∃ env, (((moody.load (some moodFile)).2.withChanges [] ["LOG_LEVEL"]).load
        (some "LOG_LEVEL=debug")).1.settings = Settings.ofEnvironment? env moody.places
      ∧ env.get? "LOG_LEVEL" = some "debug" := by
  have h : (moody.loadGiven (moody.given (some moodFile))).1.settings = none := by decide +kernel
  obtain ⟨-, -, -, hget, -, hnext⟩ := failed_load_leaves_filled_in h
  obtain ⟨env, hsettings, henv⟩ := (hnext [] ["LOG_LEVEL"] _).2
  have hlevel : moody.value? (moody.given (some moodFile)) Variable.logLevel.key = some "loud" := by
    decide +kernel
  refine ⟨h, ?_, (hnext [("MODE", "debug")] [] _).1 "loud" hlevel (by decide +kernel) (by decide)
    (by decide), env, hsettings, ?_⟩
  · rw [load, hget]
    exact hlevel
  · rw [henv]
    decide +kernel

theorem level_outlasts_failed_load : (moody.load (some moodFile)).1.settings = none
    ∧ (moody.load (some moodFile)).2.env ≠ moody.env
    ∧ ((moody.load (some moodFile)).2.load (some "LOG_LEVEL=debug")).1.settings = none
    ∧ (moody.load (some "LOG_LEVEL=debug")).1.settings.map Settings.level = some .debug
    ∧ (((moody.load (some moodFile)).2.setVariables [("MODE", "debug")]).load
        (some moodFile)).1.settings = none
    ∧ ((moody.setVariables [("MODE", "debug")]).load (some moodFile)).1.settings.map Settings.level
      = some .debug := by
  decide +kernel

end ShapeGraph.Session
