import Rota.Proofs.Election.Resignation
import Rota.Proofs.Replica.Workday
import Rota.Proofs.Schedule.Dismissal

/-!
Replicas that run on one service, as one of them sees it: its own work and run loop, and the
electors of all. Main statement: what holds of such a fleet in every state that the replica can
come to after it was launched.
-/

namespace Rota

open Rota.Election Rota.Schedule Rota.Task

namespace Workday

variable {workday next : Workday} {doing : Doing}

theorem Rostered.unbroken (rostered : workday.Rostered)
    {entry : Entry Cron.Pattern Duty} (member : entry ∈ workday.replica.engine.timetable.entries) :
    workday.replica.mechanism.breaks entry.duty = false := by
  have stands : workday.replica.engine.timetable.duty? entry.id = some entry.duty :=
    congrArg (Option.map Entry.duty) (rostered.timetable.find?_of_mem member)
  cases duty : entry.duty with
  | work work => exact absurd (stands.trans (congrArg some duty)) (rostered.entries entry.id work)
  | _ => rfl

theorem Wrought.lone (wrought : workday.Wrought doing next) (unrun : ∀ loop, doing ≠ .run loop)
    (rostered : workday.Rostered) (lone : workday.replica.engine.Lone) :
    next.replica.engine.Lone := by
  cases wrought with
  | stepped found stepped => exact lone.step found stepped fun _ => rostered.unbroken
  | began _ deals => exact lone.touches deals.roster.engine
  | dealt _ _ deals => exact lone.touches deals.roster.engine
  | woken _ _ _ touches => exact lone.touches touches
  | ran => exact absurd rfl (unrun _)
  | dismissed => exact lone.dismiss.1.lone
  | _ => exact lone

end Workday

/-- A replica at work, the campaign calls of all electors that share the service with it, and the
sessions that were given to them. -/
structure Fleet where
  workday : Workday
  calls : List (Nat × Call) := []
  given : List (Nat × Lease) := []
  /-- The moves that the elector may still make before it looks whether it was told to stop. -/
  late : Nat := 0

namespace Fleet

inductive Act where
  | day (doing : Doing)
  | elect (occasion : Occasion)

def Act.isOwn : Act → Bool
  | day (.step _) => true
  | elect occasion => occasion.mover? == some Replica.self
  | _ => false

def cluster (fleet : Fleet) : Cluster := fleet.workday.replica.cluster

def engine (fleet : Fleet) : Engine Cron.Pattern Duty := fleet.workday.replica.engine

def own? (fleet : Fleet) : Option Elector := fleet.cluster.elector? Replica.self

def assembly (fleet : Fleet) : Assembly := { cluster := fleet.cluster, calls := fleet.calls }

def estate (fleet : Fleet) : Estate := { cluster := fleet.cluster, given := fleet.given }

/-- An elector that was told to stop does as it was told, and does not wait for its call. -/
def isPrompt (fleet : Fleet) (elector : Elector) : Occasion → Bool
  | .move now replica move => replica != Replica.self || !elector.cancelled ||
      decide (fleet.cluster.Heeds now elector move)
  | .attend _ replica => replica != Replica.self || !elector.cancelled
  | _ => true

/-- A move that is not prompt is one of those that come too late to be held back. -/
def spend? (fleet : Fleet) (occasion : Occasion) : Option Nat :=
  if fleet.own?.all (fleet.isPrompt · occasion) then some fleet.late
  else if fleet.late = 0 then none
  else some (fleet.late - 1)

def gather (fleet : Fleet) (assembly : Assembly) (mover? : Option Nat) (late : Nat) : Fleet :=
  { workday := { fleet.workday with
      replica := { fleet.workday.replica with cluster := assembly.cluster } }
    calls := assembly.calls
    given := (fleet.estate.gain assembly.cluster mover?).given
    late }

/-- No loop is run on the engine but the one that was there from the start. -/
def perform? (fleet : Fleet) : Act → Option Fleet
  | .day (.run _) => none
  | .day doing => (fleet.workday.perform? doing).map fun workday => { fleet with workday }
  | .elect occasion => do
    let assembly ← fleet.assembly.happen? occasion
    let late ← fleet.spend? occasion
    return fleet.gather assembly occasion.mover? late

def follow? (fleet : Fleet) (acts : List Act) : Option Fleet := acts.foldlM perform? fleet

/-- A replica that has not begun, beside others that share its service. -/
def opening (plan : Replica.Plan) (store : Store) (registry : Registry)
    (others : List Elector) : Replica where
  origin := plan.origin
  offset := plan.offset
  store := store
  registry := registry
  cluster := Cluster.ofElectors
    ({ candidate := plan.candidate, settings := plan.election } :: others)
  roster := { settings := plan.schedule, gated := plan.schedule.leaderOnly }

/-- The definitions are loaded once, the elector is started and the loop is about to run. -/
def begin (ready : Replica) : Replica :=
  let loaded := ready.reloadLogged .firstLoadFailed
  let started := { loaded with cluster := (loaded.cluster.start loaded.now Replica.self).2 }
  started.withEngine (started.engine.run Replica.mainLoop)

/-- The others start when they like. -/
def launch? (plan : Replica.Plan) (others : List Elector) : Option Fleet := do
  let store ← plan.store
  let registry ← plan.registry
  let ready ← (opening plan store registry others).initialise.toOption
  return { workday := { replica := begin ready } }

def shut (fleet : Fleet) (late : Nat) : Fleet :=
  { fleet with
    workday := { fleet.workday with replica := fleet.workday.replica.shutDown }
    late }

def HasEnded (fleet : Fleet) : Prop :=
  fleet.own?.any Elector.hasStopped = true ∧ fleet.engine.loops = []

/-! What becomes of a fleet. -/

inductive Acted (fleet : Fleet) : Act → Fleet → Prop
  | worked {doing workday} : (∀ loop, doing ≠ .run loop) → fleet.workday.Wrought doing workday →
      Acted fleet (.day doing) { fleet with workday }
  | elected {occasion assembly late} : fleet.assembly.happen? occasion = some assembly →
      fleet.spend? occasion = some late →
      Acted fleet (.elect occasion) (fleet.gather assembly occasion.mover? late)

variable {fleet next last first : Fleet} {act : Act} {acts later : List Act} {elector : Elector}
  {occasion : Occasion} {assembly : Assembly} {late : Nat}

theorem perform?_acted (performed : fleet.perform? act = some next) : fleet.Acted act next := by
  cases act with
  | day doing =>
      by_cases runs : ∃ loop, doing = .run loop
      · obtain ⟨loop, rfl⟩ := runs
        cases performed
      · have unrun (loop : Nat) : doing ≠ .run loop := fun same => runs ⟨loop, same⟩
        have worked : (fleet.workday.perform? doing).map (fun workday =>
            { fleet with workday }) = some next := by
          cases doing with
          | run loop => exact absurd rfl (unrun loop)
          | _ => exact performed
        obtain ⟨workday, wrought, rfl⟩ := Option.map_eq_some_iff.mp worked
        exact .worked unrun (Workday.perform?_wrought wrought)
  | elect occasion =>
      simp only [perform?, bind, Option.bind_eq_some_iff, pure, Option.some.injEq] at performed
      obtain ⟨assembly, happened, late, spent, rfl⟩ := performed
      exact .elected happened spent

structure Sound (fleet : Fleet) : Prop where
  assembly : fleet.assembly.Sound
  owned : fleet.estate.Owned
  own : ∃ elector, fleet.own? = some elector ∧ elector.hasStarted = true ∧ elector.Counts
  rostered : fleet.workday.Rostered
  crew : fleet.workday.replica.crew.Sound
  lone : fleet.engine.Lone

theorem gather_sees (happened : fleet.assembly.happen? occasion = some assembly)
    (found : fleet.own? = some elector) : ∃ moved,
      (fleet.gather assembly occasion.mover? late).own? = some moved ∧
        elector.Sees (occasion.mover? = some Replica.self) moved :=
  Assembly.happen?_sees happened found

theorem Sound.acted (sound : fleet.Sound) (acted : fleet.Acted act next) : next.Sound := by
  cases acted with
  | @worked doing workday unrun wrought =>
      have same : ({ fleet with workday } : Fleet).cluster = fleet.cluster := wrought.cluster
      refine ⟨?_, ?_, ?_, wrought.rostered sound.rostered, wrought.crew sound.crew,
        wrought.lone unrun sound.rostered sound.lone⟩
      · rw [Fleet.assembly, same]
        exact sound.assembly
      · rw [estate, same]
        exact sound.owned
      · rw [own?, same]
        exact sound.own
  | elected happened =>
      obtain ⟨elector, found, started, counts⟩ := sound.own
      obtain ⟨moved, stands, sees⟩ := gather_sees happened found
      refine ⟨sound.assembly.happen? happened, sound.owned.gain rfl happened,
        ⟨moved, stands, sees.hasStarted started, sees.counts counts⟩, ?_, sound.crew, sound.lone⟩
      exact ⟨sound.rostered.timetable, sound.rostered.entries, sound.rostered.waiting⟩

/-! Launches. -/

variable {plan : Replica.Plan} {others : List Elector}

/-- A replica that is launched alone is what it begins with, once that has settled. -/
theorem launch_settled (shared : plan.coordinator = some {}) : (Replica.launch plan).toOption =
    (launch? plan []).map fun fleet => fleet.workday.replica.settle := by
  simp only [Replica.launch, launch?, shared]
  cases plan.store with
  | none => rfl
  | some store =>
      cases plan.registry with
      | none => rfl
      | some registry =>
          change Except.toOption ((opening plan store registry []).initialise.mapError
              Replica.LaunchError.schedule >>= fun ready => .ok (begin ready).settle) =
            ((opening plan store registry []).initialise.toOption >>= fun ready =>
              some ({ workday := { replica := begin ready } } : Fleet)).map
                fun fleet => fleet.workday.replica.settle
          cases (opening plan store registry []).initialise <;> rfl

theorem sound_of_launch? (new : ∀ elector ∈ others, elector.IsNew)
    (launched : launch? plan others = some first) : first.Sound := by
  simp only [launch?, bind, Option.bind_eq_some_iff, pure, Option.some.injEq] at launched
  obtain ⟨store, _, registry, _, ready, initialised, rfl⟩ := launched
  replace initialised : (opening plan store registry others).initialise = .ok ready := by
    cases tried : (opening plan store registry others).initialise with
    | error error => simp [tried, Except.toOption] at initialised
    | ok replica => simpa [tried, Except.toOption] using initialised
  let own : Elector := { candidate := plan.candidate, settings := plan.election }
  have all : ∀ elector ∈ own :: others, elector.IsNew :=
    List.forall_mem_cons.mpr ⟨⟨rfl, rfl⟩, new⟩
  have deals : (opening plan store registry others).Deals (fun _ => True)
      (ready.reloadLogged .firstLoadFailed) :=
    (Replica.deals_initialise _ initialised).trans
      (Replica.deals_reloadLogged ready _ fun _ _ => trivial)
  have touches := deals.roster.engine
  -- What is loaded concerns the roster alone: the electors are those of the opening.
  have shared : (ready.reloadLogged .firstLoadFailed).cluster =
      Cluster.ofElectors (own :: others) := deals.cluster
  have crew : (begin ready).crew = {} :=
    (ready.reloadLogged_crew _).trans (Replica.initialise_crew initialised)
  have idle : (ready.reloadLogged .firstLoadFailed).engine.loops = [] := touches.idle rfl
  have begun : (Assembly.ofElectors (own :: others)).happen?
      (.start (ready.reloadLogged .firstLoadFailed).now Replica.self) =
        some { cluster := (begin ready).cluster } := by
    change _ = some ({ cluster := (Cluster.start _ _ _).2 } : Assembly)
    rw [shared]
    rfl
  have initial : ({ cluster := .ofElectors (own :: others) } : Estate).Owned :=
    @Estate.owned_of_follow? _ _ all [] rfl
  refine ⟨?_, ?_, ?_, ⟨?_, ?_, ?_⟩, ?_, ?_⟩
  · exact (Assembly.sound_ofElectors all).happen? begun
  · exact initial.gain rfl begun
  · refine ⟨own.hear (ready.reloadLogged .firstLoadFailed).now .started, ?_, rfl, ?_⟩
    · change (Cluster.start _ _ _).2.elector? Replica.self = _
      rw [shared]
      rfl
    · exact (own.hear_reigns _ _).counts (Career.start_termed _ _).counts
  · exact touches.sound Timetable.empty_sound
  · intro number work stands
    rcases touches.duty? Timetable.empty_sound stands with none | ⟨_, comes⟩
    · cases none
    · exact comes
  · rintro firing waits
    cases waits
  · exact crew ▸ Crew.start_sound
  · exact .going _ (congrArg (· ++ _) idle)

theorem sound_of_follow? (sound : first.Sound) (followed : first.follow? acts = some fleet) :
    fleet.Sound :=
  run_induction (fun _ _ _ _ performed sound => sound.acted (perform?_acted performed)) followed
    sound

end Fleet

end Rota
