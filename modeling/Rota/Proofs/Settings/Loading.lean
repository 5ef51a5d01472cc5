import Rota.Proofs.Text.Blank
import Rota.Proofs.Text.Numeral
import Rota.Settings

/-!
Settings that are read from an environment. Main statement: the environments that are refused are
those without a database and those in which a variable is set to a value that it does not accept,
and the first such variable is named; from all others each setting is drawn from its own variable,
or has its default.
-/

namespace Rota

namespace Environment

/-- The bytes of the variable are those of the text. -/
def Sets (environment : Environment) (name text : String) : Prop :=
  environment name = some text.toUTF8

/-- There is no value, or one whose bytes are those of no text. -/
def LeavesUnset (environment : Environment) (name : String) : Prop :=
  ∀ text, ¬ environment.Sets name text

variable {environment : Environment} {name text : String}

theorem fromUTF8?_eq_some_iff {bytes : ByteArray} :
    String.fromUTF8? bytes = some text ↔ bytes = text.toUTF8 := by
  unfold String.fromUTF8?
  constructor
  · intro found
    split at found
    · cases found
      rfl
    · cases found
  · rintro rfl
    exact dif_pos text.isValidUTF8

theorem text?_eq_some_iff : environment.text? name = some text ↔ environment.Sets name text := by
  simp [text?, Option.bind_eq_some_iff, fromUTF8?_eq_some_iff, Sets]

theorem text?_eq_none_iff : environment.text? name = none ↔ environment.LeavesUnset name := by
  simp only [Option.eq_none_iff_forall_ne_some, ne_eq, text?_eq_some_iff, LeavesUnset]

theorem Sets.unique {other : String} (sets : environment.Sets name text)
    (alsoSets : environment.Sets name other) : text = other := by
  rw [← text?_eq_some_iff] at sets alsoSets
  exact Option.some.inj (sets.symm.trans alsoSets)

/-- The value comes from the variable if that is set, and is the default otherwise. -/
def Draws {α : Type} (environment : Environment) (name : String) (reads : String → α → Prop)
    (default value : α) : Prop :=
  (∃ text, environment.Sets name text ∧ reads text value) ∨
    environment.LeavesUnset name ∧ value = default

end Environment

namespace Settings

/-- Between blanks, a numeral for a positive number below 2^64. -/
def IsSeconds (text : String) (number : Nat) : Prop :=
  ∃ core, Text.Encloses text.toList core ∧ Text.Denotes core number ∧ 0 < number ∧
    number < Decimal.wordLimit

def spellings : Bool → List String
  | true => ["true", "1", "yes"]
  | false => ["false", "0", "no"]

/-- Between blanks, a spelling of the value, in letters of either case. -/
def IsBoolean (text : String) (value : Bool) : Prop :=
  ∃ core, Text.Encloses text.toList core ∧ String.ofList (core.map Char.toLower) ∈ spellings value

theorem seconds?_eq_some_iff {text : String} {number : Nat} :
    seconds? text = some number ↔ IsSeconds text number := by
  have positive : 0 < Decimal.wordLimit := by decide
  rw [seconds?, Option.filter_eq_some_iff, Text.natural?_eq_some_iff positive, IsSeconds,
    Text.exists_encloses_iff, decide_eq_true_iff, and_assoc, and_comm (b := 0 < number)]

theorem boolean?_eq_some_iff {text : String} {value : Bool} :
    boolean? text = some value ↔ IsBoolean text value := by
  rw [IsBoolean, Text.exists_encloses_iff, boolean?]
  generalize String.ofList ((Text.trimmed text.toList).map Char.toLower) = word
  have apart (yes : word ∈ spellings true) : word ∉ spellings false := by
    simp only [spellings, List.mem_cons, List.not_mem_nil, or_false] at yes
    rcases yes with rfl | rfl | rfl <;> decide
  change (if (spellings true).contains word = true then some true
    else if (spellings false).contains word = true then some false else none) = some value ↔ _
  simp only [List.contains_iff_mem]
  by_cases yes : word ∈ spellings true
  · have no := apart yes
    cases value <;> simp [yes, no]
  · by_cases no : word ∈ spellings false <;> cases value <;> simp [yes, no]

/-! What is asked of the variables. -/

structure Requirement where
  name : String
  expected : String
  Accepts : String → Prop

def Requirement.seconds (name : String) : Requirement where
  name
  expected := "a positive number of seconds"
  Accepts text := ∃ number, IsSeconds text number

def Requirement.boolean (name : String) : Requirement where
  name
  expected := "true or false"
  Accepts text := ∃ value, IsBoolean text value

/-- In the order in which they are looked at. -/
def requirements : List Requirement :=
  [.seconds "APIGW_ELECTION_RETRY_SECS", .seconds "APIGW_ELECTION_SESSION_TTL_SECS",
    .boolean "APIGW_SCHEDULER_LEADER_ONLY", .boolean "APIGW_DEMO_MODE"]

def Requirement.IsViolated (requirement : Requirement) (environment : Environment) : Prop :=
  ∃ text, environment.Sets requirement.name text ∧ ¬ requirement.Accepts text

inductive FirstViolated (environment : Environment) : List Requirement → Requirement → Prop where
  | here {requirement : Requirement} {others : List Requirement}
      (violated : requirement.IsViolated environment) :
      FirstViolated environment (requirement :: others) requirement
  | later {first requirement : Requirement} {others : List Requirement}
      (met : ¬ first.IsViolated environment)
      (violated : FirstViolated environment others requirement) :
      FirstViolated environment (first :: others) requirement

theorem FirstViolated.unique {environment : Environment} {all : List Requirement}
    {requirement other : Requirement} (first : FirstViolated environment all requirement)
    (alsoFirst : FirstViolated environment all other) : requirement = other := by
  induction first with
  | here violated =>
      cases alsoFirst with
      | here => rfl
      | later met => exact absurd violated met
  | later met _ ih =>
      cases alsoFirst with
      | here violated => exact absurd violated met
      | later _ others => exact ih others

theorem FirstViolated.exists_violated {environment : Environment} {all : List Requirement}
    {requirement : Requirement} (first : FirstViolated environment all requirement) :
    ∃ violated ∈ all, violated.IsViolated environment := by
  induction first with
  | here violated => exact ⟨_, List.mem_cons_self, violated⟩
  | later _ _ ih =>
      obtain ⟨violated, member, isViolated⟩ := ih
      exact ⟨violated, List.mem_cons_of_mem _ member, isViolated⟩

def Gives {α : Type} (environment : Environment) (name : String) (reads : String → α → Prop) :
    Option α → Prop
  | some value => ∃ text, environment.Sets name text ∧ reads text value
  | none => environment.LeavesUnset name

section

variable {environment : Environment} {name : String} {α β : Type} {reads : String → α → Prop}

theorem Gives.draws {value? : Option α} (gives : Gives environment name reads value?)
    (fallback : α) : environment.Draws name reads fallback (value?.getD fallback) := by
  cases value? with
  | none => exact .inr ⟨gives, rfl⟩
  | some value => exact .inl gives

theorem Gives.map {value? : Option α} (gives : Gives environment name reads value?)
    {convert : α → β} {readsToo : String → β → Prop}
    (converts : ∀ text value, reads text value → readsToo text (convert value)) :
    Gives environment name readsToo (value?.map convert) := by
  cases value? with
  | none => exact gives
  | some value =>
      obtain ⟨text, sets, read⟩ := gives
      exact ⟨text, sets, converts text value read⟩

theorem gives_text? (environment : Environment) (name : String) :
    Gives environment name (· = ·) (environment.text? name) := by
  cases found : environment.text? name with
  | none => exact Environment.text?_eq_none_iff.mp found
  | some text => exact ⟨text, Environment.text?_eq_some_iff.mp found, rfl⟩

/-- A variable is refused where it violates its requirement, and gives its value otherwise. -/
inductive Decides (environment : Environment) (requirement : Requirement)
    (reads : String → α → Prop) : Except SettingsError (Option α) → Prop where
  | refused (violated : requirement.IsViolated environment) :
      Decides environment requirement reads
        (.error (.invalid requirement.name requirement.expected))
  | accepted {value? : Option α} (met : ¬ requirement.IsViolated environment)
      (gives : Gives environment requirement.name reads value?) :
      Decides environment requirement reads (.ok value?)

theorem optional_decides (requirement : Requirement) {accept : String → Option α}
    (accepts : ∀ text value, accept text = some value ↔ reads text value)
    (asks : ∀ text, requirement.Accepts text ↔ ∃ value, reads text value) :
    Decides environment requirement reads
      (optional environment requirement.name requirement.expected accept) := by
  have given := gives_text? environment requirement.name
  unfold optional
  cases found : environment.text? requirement.name with
  | none =>
      rw [found] at given
      exact .accepted (fun ⟨text, sets, _⟩ => given text sets) given
  | some text =>
      have sets := Environment.text?_eq_some_iff.mp found
      dsimp only
      cases accepted : accept text with
      | some value =>
          have read := (accepts text value).mp accepted
          refine .accepted ?_ ⟨text, sets, read⟩
          rintro ⟨other, alsoSets, refused⟩
          obtain rfl := sets.unique alsoSets
          exact refused ((asks text).mpr ⟨value, read⟩)
      | none =>
          refine .refused ⟨text, sets, fun accepting => ?_⟩
          obtain ⟨value, read⟩ := (asks text).mp accepting
          rw [(accepts text value).mpr read] at accepted
          cases accepted

theorem secondsSetting_decides (environment : Environment) (name : String) :
    Decides environment (.seconds name) IsSeconds (secondsSetting environment name) :=
  optional_decides (.seconds name) (fun _ _ => seconds?_eq_some_iff) fun _ => Iff.rfl

theorem booleanSetting_decides (environment : Environment) (name : String) :
    Decides environment (.boolean name) IsBoolean (booleanSetting environment name) :=
  optional_decides (.boolean name) (fun _ _ => boolean?_eq_some_iff) fun _ => Iff.rfl

end

/-! The settings. -/

def GivesDatabase (environment : Environment) (url : String) : Prop :=
  environment.Sets "APIGW_DATABASE_URL" url ∨
    environment.LeavesUnset "APIGW_DATABASE_URL" ∧ environment.Sets "DATABASE_URL" url

theorem databaseUrl?_eq_some_iff {environment : Environment} {url : String} :
    databaseUrl? environment = some url ↔ GivesDatabase environment url := by
  rw [GivesDatabase, ← Environment.text?_eq_some_iff, ← Environment.text?_eq_some_iff,
    ← Environment.text?_eq_none_iff, databaseUrl?]
  cases environment.text? "APIGW_DATABASE_URL" <;> simp

theorem databaseUrl?_eq_none_iff {environment : Environment} : databaseUrl? environment = none ↔
    environment.LeavesUnset "APIGW_DATABASE_URL" ∧ environment.LeavesUnset "DATABASE_URL" := by
  rw [← Environment.text?_eq_none_iff, ← Environment.text?_eq_none_iff, databaseUrl?]
  cases environment.text? "APIGW_DATABASE_URL" <;> simp

theorem GivesDatabase.not_unset {environment : Environment} {url : String}
    (gives : GivesDatabase environment url) :
    ¬ (environment.LeavesUnset "APIGW_DATABASE_URL" ∧ environment.LeavesUnset "DATABASE_URL") := by
  rw [← databaseUrl?_eq_none_iff, databaseUrl?_eq_some_iff.mpr gives]
  simp

/-- In milliseconds. -/
def IsDuration (text : String) (duration : Election.Duration) : Prop :=
  ∃ seconds, IsSeconds text seconds ∧ seconds * 1000 = duration

structure DrawnFrom (environment : Environment) (settings : Settings) : Prop where
  databaseUrl : GivesDatabase environment settings.databaseUrl
  name : environment.Draws "APIGW_ELECTION_NAME" (· = ·) "apigw" settings.election.name
  retry : environment.Draws "APIGW_ELECTION_RETRY_SECS" IsDuration 5000 settings.election.retry
  lifetime : environment.Draws "APIGW_ELECTION_SESSION_TTL_SECS" IsDuration 60000
    settings.election.lifetime
  endpoints : environment.Draws "APIGW_ETCD_ENDPOINTS" (parseEndpoints · = ·) []
    settings.election.endpoints
  reloadCron : environment.Draws "APIGW_SCHEDULER_RELOAD_CRON" (· = ·) "*/5 * * * *"
    settings.schedule.reloadCron
  leaderOnly : environment.Draws "APIGW_SCHEDULER_LEADER_ONLY" IsBoolean true
    settings.schedule.leaderOnly
  demoMode : environment.Draws "APIGW_DEMO_MODE" IsBoolean false settings.demo.enabled
  warning : environment.Draws "APIGW_DEMO_MODE_WARN_MSG" (· = ·)
    "operation not allowed in demo mode" settings.demo.warning
  protectedIds : environment.Draws "APIGW_DEMO_PROTECT_RESOURCES"
    (Resource.Demo.parseProtected · = ·) [] settings.demo.protectedIds

inductive Loads (environment : Environment) : Except SettingsError Settings → Prop where
  | missing (unset : environment.LeavesUnset "APIGW_DATABASE_URL")
      (alsoUnset : environment.LeavesUnset "DATABASE_URL") :
      Loads environment (.error (.missing "APIGW_DATABASE_URL or DATABASE_URL"))
  | invalid {url : String} {requirement : Requirement} (given : GivesDatabase environment url)
      (first : FirstViolated environment requirements requirement) :
      Loads environment (.error (.invalid requirement.name requirement.expected))
  | loaded {settings : Settings}
      (met : ∀ requirement ∈ requirements, ¬ requirement.IsViolated environment)
      (drawn : DrawnFrom environment settings) : Loads environment (.ok settings)

theorem loads_ofEnvironment (environment : Environment) :
    Loads environment (ofEnvironment environment) := by
  unfold ofEnvironment
  cases found : databaseUrl? environment with
  | none =>
      obtain ⟨unset, alsoUnset⟩ := databaseUrl?_eq_none_iff.mp found
      exact .missing unset alsoUnset
  | some url =>
      have given := databaseUrl?_eq_some_iff.mp found
      -- The four variables are decided one after the other, and the first refusal is the answer.
      have retryDecided := secondsSetting_decides environment "APIGW_ELECTION_RETRY_SECS"
      have lifetimeDecided := secondsSetting_decides environment "APIGW_ELECTION_SESSION_TTL_SECS"
      have leaderDecided := booleanSetting_decides environment "APIGW_SCHEDULER_LEADER_ONLY"
      have demoDecided := booleanSetting_decides environment "APIGW_DEMO_MODE"
      generalize secondsSetting environment "APIGW_ELECTION_RETRY_SECS" = retry
        at retryDecided ⊢
      generalize secondsSetting environment "APIGW_ELECTION_SESSION_TTL_SECS" = lifetime
        at lifetimeDecided ⊢
      generalize booleanSetting environment "APIGW_SCHEDULER_LEADER_ONLY" = leaderOnly
        at leaderDecided ⊢
      generalize booleanSetting environment "APIGW_DEMO_MODE" = demoMode at demoDecided ⊢
      cases retryDecided with
      | refused violated => exact .invalid given (.here violated)
      | accepted retryMet retryGiven =>
      cases lifetimeDecided with
      | refused violated => exact .invalid given (.later retryMet (.here violated))
      | accepted lifetimeMet lifetimeGiven =>
      cases leaderDecided with
      | refused violated =>
          exact .invalid given (.later retryMet (.later lifetimeMet (.here violated)))
      | accepted leaderMet leaderGiven =>
      cases demoDecided with
      | refused violated =>
          exact .invalid given
            (.later retryMet (.later lifetimeMet (.later leaderMet (.here violated))))
      | accepted demoMet demoGiven =>
      have durations (text : String) (seconds : Nat) (read : IsSeconds text seconds) :
          IsDuration text (seconds * 1000) := ⟨seconds, read, rfl⟩
      refine .loaded (by simp [requirements, retryMet, lifetimeMet, leaderMet, demoMet]) {
        databaseUrl := given
        name := (gives_text? environment _).draws _
        retry := (retryGiven.map durations).draws _
        lifetime := (lifetimeGiven.map durations).draws _
        endpoints := ((gives_text? environment _).map (by simp)).draws _
        reloadCron := (gives_text? environment _).draws _
        leaderOnly := leaderGiven.draws _
        demoMode := demoGiven.draws _
        warning := (gives_text? environment _).draws _
        protectedIds := ((gives_text? environment _).map (by simp)).draws _
      }

/-- Loading fails for want of a database exactly if neither of its variables is set; otherwise it
names the first variable, in their order, that is set to a value that it does not accept, and
succeeds exactly if there is none, each setting being drawn from its own variable. -/
theorem loads_exactly_valid_environments (environment : Environment) :
    (∀ name, ofEnvironment environment = .error (.missing name) ↔
      name = "APIGW_DATABASE_URL or DATABASE_URL" ∧
        environment.LeavesUnset "APIGW_DATABASE_URL" ∧ environment.LeavesUnset "DATABASE_URL") ∧
    (∀ name expected, ofEnvironment environment = .error (.invalid name expected) ↔
      (∃ url, GivesDatabase environment url) ∧
        ∃ requirement, FirstViolated environment requirements requirement ∧
          requirement.name = name ∧ requirement.expected = expected) ∧
    ((∃ settings, ofEnvironment environment = .ok settings) ↔
      (∃ url, GivesDatabase environment url) ∧
        ∀ requirement ∈ requirements, ¬ requirement.IsViolated environment) ∧
    ∀ settings, ofEnvironment environment = .ok settings → DrawnFrom environment settings := by
  have loads := loads_ofEnvironment environment
  generalize ofEnvironment environment = result at loads ⊢
  cases loads with
  | missing unset alsoUnset =>
      have noDatabase : ¬ ∃ url, GivesDatabase environment url := fun ⟨_, gives⟩ =>
        gives.not_unset ⟨unset, alsoUnset⟩
      simp [unset, alsoUnset, noDatabase, eq_comm]
  | @invalid url requirement given first =>
      have violated := first.exists_violated
      refine ⟨?_, ?_, ?_, ?_⟩
      · simp [given.not_unset]
      · intro name expected
        simp only [Except.error.injEq, SettingsError.invalid.injEq]
        constructor
        · intro named
          exact ⟨⟨url, given⟩, requirement, first, named⟩
        · rintro ⟨_, other, alsoFirst, named⟩
          rwa [first.unique alsoFirst]
      · simpa using fun _ _ => violated
      · simp
  | @loaded settings met drawn =>
      have given := drawn.databaseUrl
      have noneViolated : ¬ ∃ requirement, FirstViolated environment requirements requirement := by
        rintro ⟨_, first⟩
        obtain ⟨requirement, member, violated⟩ := first.exists_violated
        exact met requirement member violated
      refine ⟨?_, ?_, ?_, ?_⟩
      · simp [given.not_unset]
      · intro name expected
        simp only [reduceCtorEq, false_iff, not_and]
        rintro _ ⟨requirement, first, _⟩
        exact noneViolated ⟨requirement, first⟩
      · exact ⟨fun _ => ⟨⟨_, given⟩, met⟩, fun _ => ⟨settings, rfl⟩⟩
      · rintro _ ⟨⟩
        exact drawn

/-- Bytes that are no text stand where the database is looked for first. -/
def patchwork : Environment := fun name =>
  if name = "APIGW_DATABASE_URL" then some ⟨#[0xFF]⟩
  else Environment.ofTexts [("DATABASE_URL", "sqlite::memory:"),
    ("APIGW_ELECTION_RETRY_SECS", "\u3000+007\t"), ("APIGW_DEMO_MODE", " YES ")] name

/-- Of two values that are refused the lifetime is named, which is out of bounds by one. -/
theorem patchwork_loads :
    let settings : Settings := {
      databaseUrl := "sqlite::memory:", election := { retry := 7000 }, schedule := {}
      demo := { enabled := true }
    }
    let overlong : Environment := fun name =>
      if name = "APIGW_ELECTION_SESSION_TTL_SECS" then some "18446744073709551616".toUTF8
      else if name = "APIGW_DEMO_MODE" then some "maybe".toUTF8 else patchwork name
    ofEnvironment patchwork = .ok settings ∧ DrawnFrom patchwork settings ∧
      ofEnvironment overlong = .error
        (.invalid "APIGW_ELECTION_SESSION_TTL_SECS" "a positive number of seconds") := by
  intro settings overlong
  have loaded : ofEnvironment patchwork = .ok settings := by decide +kernel
  obtain ⟨_, _, _, drawn⟩ := loads_exactly_valid_environments patchwork
  obtain ⟨_, refuses, _⟩ := loads_exactly_valid_environments overlong
  have given : GivesDatabase overlong "sqlite::memory:" :=
    databaseUrl?_eq_some_iff.mp (by decide +kernel)
  have retryMet : ¬ (Requirement.seconds "APIGW_ELECTION_RETRY_SECS").IsViolated overlong := by
    rintro ⟨text, sets, refused⟩
    have seven : overlong.Sets "APIGW_ELECTION_RETRY_SECS" "\u3000+007\t" := rfl
    obtain rfl := seven.unique sets
    exact refused ⟨7, seconds?_eq_some_iff.mp (by decide)⟩
  have lifetimeViolated :
      (Requirement.seconds "APIGW_ELECTION_SESSION_TTL_SECS").IsViolated overlong := by
    refine ⟨"18446744073709551616", rfl, ?_⟩
    rintro ⟨number, isSeconds⟩
    have refused : seconds? "18446744073709551616" = none := by decide
    rw [seconds?_eq_some_iff.mpr isSeconds] at refused
    cases refused
  exact ⟨loaded, drawn settings loaded,
    (refuses _ _).mpr ⟨⟨_, given⟩, _, .later retryMet (.here lifetimeViolated), rfl, rfl⟩⟩

end Settings

end Rota
