import ShapeGraph.Proofs.Settings.Failure

namespace ShapeGraph

/-- Where the course of a program has come to: its session, the text of the file of variables if
there is one, and what the loads have come to since the memory was last cleared. -/
structure Course where
  session : Session
  file : Option String
  loads : List Loaded

namespace Course

inductive Event
  | set (vars : Fields String)
  | unset (keys : List String)
  | write (file : Option String)
  /-- The program changes its directory, or links come to lead elsewhere. -/
  | move (here : List String) (places : Files.Places)
  | load
  | clear

def start (session : Session) (file : Option String) : Course := ⟨session, file, []⟩

def loaded (c : Course) : Loaded := (c.session.load c.file).1

def value? (c : Course) (key : String) : Option String :=
  c.session.value? (c.session.given c.file) key

def after (c : Course) : Event → Course
  | .set vars => { c with session := c.session.setVariables vars }
  | .unset keys => { c with session := c.session.unsetVariables keys }
  | .write file => { c with file }
  | .move here places => { c with session := { c.session with here, places } }
  | .load => { c with session := (c.session.load c.file).2, loads := c.loads ++ [c.loaded] }
  | .clear => { c with session := c.session.clear, loads := [] }

def through (c : Course) (events : List Event) : Course := events.foldl after c

variable {c : Course} {x : Settings}

theorem loaded_of_cached (h : c.session.cached = some x) : c.loaded = ⟨some x, []⟩ := by
  rw [loaded, Session.load, Session.loadGiven, h]

theorem session_load_of_cached (h : c.session.cached = some x) :
    (c.session.load c.file).2 = c.session := by
  rw [Session.load, Session.loadGiven, h]

theorem cached_load_of_not_cached (h : c.session.cached = none) :
    (c.session.load c.file).2.cached = c.loaded.settings := by
  rw [loaded, Session.load, Session.loadGiven_of_not_cached h]

theorem settings_of_cached (h : c.session.cached = some x) : c.loaded.settings = some x := by
  rw [loaded_of_cached h]

theorem not_cached_of_failed (h : c.loaded.settings = none) : c.session.cached = none := by
  cases hcached : c.session.cached with
  | none => rfl
  | some x =>
    rw [settings_of_cached hcached] at h
    cases h

theorem failed_iff : c.loaded.settings = none
    ↔ c.session.cached = none ∧ Settings.Unreadable c.value? c.session.places := by
  constructor
  · intro h
    have hcached := not_cached_of_failed h
    exact ⟨hcached, (Session.failed_iff hcached).1 h⟩
  · rintro ⟨hcached, h⟩
    exact (Session.failed_iff hcached).2 h

theorem settings_eq_some_iff (h : c.session.cached = none) :
    c.loaded.settings = some x ↔ x.ReadFrom c.value? c.session.places := by
  have hvalue : (Session.fillIn c.session.env (c.session.given c.file)).get? = c.value? :=
    Session.get?_fillIn_eq_value? _ _
  rw [loaded, Session.load, Session.loadGiven_of_not_cached h, Settings.ofEnvironment?_eq_some_iff,
    hvalue]

structure Remembers (c : Course) : Prop where
  cached : c.session.cached = c.loads.findSome? Loaded.settings
  agree : ∀ l ∈ c.loads, ∀ x, l.settings = some x → c.session.cached = some x

theorem remembers_start {session : Session} (h : session.cached = none) (file : Option String) :
    (start session file).Remembers where
  cached := h
  agree _ hl := absurd hl List.not_mem_nil

namespace Remembers

variable (h : c.Remembers)

include h

theorem load : (c.after .load).Remembers := by
  have hfirst : (c.loads ++ [c.loaded]).findSome? Loaded.settings
      = c.session.cached.or c.loaded.settings := by
    rw [List.findSome?_append, ← h.cached, List.findSome?_singleton]
  cases hcached : c.session.cached with
  | none =>
    rw [hcached, Option.none_or] at hfirst
    have hsession := cached_load_of_not_cached hcached
    refine ⟨hsession.trans hfirst.symm, fun l hl x hx => hsession.trans ?_⟩
    obtain hl | hl := List.mem_append.1 hl
    · have hremembered := h.agree l hl x hx
      rw [hcached] at hremembered
      cases hremembered
    · rw [← hx, List.mem_singleton.1 hl]
  | some x =>
    rw [hcached, Option.some_or] at hfirst
    have hsession : (c.after .load).session = c.session := session_load_of_cached hcached
    refine ⟨by rw [hsession, hcached]; exact hfirst.symm, fun l hl y hy => ?_⟩
    rw [hsession]
    obtain hl | hl := List.mem_append.1 hl
    · exact h.agree l hl y hy
    · rw [List.mem_singleton.1 hl, loaded_of_cached hcached] at hy
      exact hcached.trans hy

theorem after (e : Event) : (c.after e).Remembers := by
  cases e with
  | set | unset | write | move => exact ⟨h.cached, h.agree⟩
  | load => exact h.load
  | clear => exact remembers_start rfl c.file

theorem through (events : List Event) : (c.through events).Remembers := by
  induction events generalizing c with
  | nil => exact h
  | cons e events ih => exact ih (h.after e)

theorem settings_eq_findSome? {l : Loaded} (hl : l ∈ c.loads) (hx : l.settings = some x) :
    c.loads.findSome? Loaded.settings = some x :=
  h.cached.symm.trans (h.agree l hl x hx)

end Remembers

/-- Whatever has been set, unset, written, moved, loaded and cleared: the loads since the last
clearing that succeeded came to what the first of them came to, and that is remembered, and so
loaded again. A load fails where nothing is remembered and the variables cannot be read, and then
nothing is remembered after it either. Where nothing is remembered, a load comes to what is read from
the variables, each with its value in the environment, or else in the file. -/
theorem settings_last_until_cleared {session : Session} {file : Option String}
    {events : List Event} (hnew : session.cached = none)
    (h : (start session file).through events = c) :
    (∀ l ∈ c.loads, ∀ x, l.settings = some x → c.loads.findSome? Loaded.settings = some x)
    ∧ c.session.cached = c.loads.findSome? Loaded.settings
    ∧ (∀ x, c.session.cached = some x → c.loaded.settings = some x)
    ∧ (c.loaded.settings = none
      ↔ c.session.cached = none ∧ Settings.Unreadable c.value? c.session.places)
    ∧ (c.loaded.settings = none → (c.after .load).session.cached = none)
    ∧ (c.session.cached = none → ∀ x,
      c.loaded.settings = some x ↔ x.ReadFrom c.value? c.session.places) := by
  have hremembers : c.Remembers := by
    rw [← h]
    exact (remembers_start hnew file).through events
  refine ⟨fun l hl x hx => hremembers.settings_eq_findSome? hl hx, hremembers.cached,
    fun x => settings_of_cached, failed_iff, fun hfailed => ?_, fun hcached x => ?_⟩
  · exact (cached_load_of_not_cached (not_cached_of_failed hfailed)).trans hfailed
  · exact settings_eq_some_iff hcached

def office : Course :=
  start (.startPlain ["srv"] [("LOG_LEVEL", "loud"), ("LOG_FILE", "app.log")])
    (some "SMITHY_CHECK_REFERENCES=no")

def morning : List Event :=
  [.load, .set [("LOG_LEVEL", " debug ")],
    .write (some "SMITHY_CHECK_REFERENCES=yes\nSMITHY_VALIDATE_TRAITS=maybe")]

def evening : List Event :=
  morning ++ [.load, .set [("LOG_LEVEL", "loud")], .unset ["LOG_FILE"], .write none, .load]

def night : List Event :=
  evening ++ [.clear, .move ["srv"] fun _ _ => none, .set [("LOG_LEVEL", "info")]]

def officeSettings : Settings :=
  ⟨.debug, some "/srv/app.log", ⟨false, true, true⟩, "/srv/models"⟩

theorem settings_last_until_cleared_in_office : office.session.cached = none
    ∧ (office.through evening).loads.map Loaded.settings
      = [none, some officeSettings, some officeSettings]
    ∧ (office.through evening).loads.findSome? Loaded.settings = some officeSettings
    ∧ (office.through evening).loaded.settings = some officeSettings
    ∧ officeSettings.ReadFrom (office.through morning).value? office.session.places
    ∧ (office.through night).loaded.settings = none
    ∧ Settings.Unreadable (office.through night).value? (fun _ _ => none)
    ∧ ((office.through night).after .load).session.cached = none := by
  have hloads : (office.through evening).loads.map Loaded.settings
      = [none, some officeSettings, some officeSettings] := by
    decide +kernel
  have hmorning : (office.through morning).session.cached = none := by decide +kernel
  have hread : (office.through morning).loaded.settings = some officeSettings := by decide +kernel
  have hnight : (office.through night).loaded.settings = none := by decide +kernel
  have hmem : some officeSettings ∈ (office.through evening).loads.map Loaded.settings := by
    rw [hloads]
    decide
  obtain ⟨l, hl, hsettings⟩ := List.mem_map.1 hmem
  obtain ⟨-, -, -, -, -, hreads⟩ :=
    settings_last_until_cleared (c := office.through morning) rfl rfl
  obtain ⟨hagree, hcached, hagain, -⟩ :=
    settings_last_until_cleared (c := office.through evening) rfl rfl
  obtain ⟨-, -, -, hfails, hforgets, -⟩ :=
    settings_last_until_cleared (c := office.through night) rfl rfl
  have hfirst := hagree l hl officeSettings hsettings
  exact ⟨rfl, hloads, hfirst, hagain officeSettings (hcached.trans hfirst),
    (hreads hmorning officeSettings).1 hread, hnight, (hfails.1 hnight).2, hforgets hnight⟩

def homeless : Course :=
  start (.startPlain ["srv"] [("HOME", "~"), ("LOG_FILE", "~/app.log")]) none

theorem load_fails_for_home : homeless.loaded.settings = none
    ∧ ¬ (homeless.loaded.settings = none ↔ homeless.session.cached = none
      ∧ ∃ s, homeless.value? Variable.logLevel.key = some s
        ∧ ∀ level : LogLevel, level.name ≠ Text.upper (Text.trim s)) := by
  have hfailed : homeless.loaded.settings = none := by decide +kernel
  have hlevel : homeless.value? Variable.logLevel.key = none := by decide +kernel
  refine ⟨hfailed, fun h => ?_⟩
  obtain ⟨-, s, hs, -⟩ := h.1 hfailed
  rw [hlevel] at hs
  cases hs

end Course

end ShapeGraph
