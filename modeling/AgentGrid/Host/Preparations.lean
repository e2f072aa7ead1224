import AgentGrid.Host.Books

/-!
# The life cycle of repository preparations

A preparation only moves forward: each transition raises its revision by one, a retry
raises the generation of its worker, and an available preparation stays as it is.  The
creation intents and the preparations are in one-to-one correspondence, which makes
creation idempotent.
-/

namespace AgentGrid.Host

open AgentGrid.Lib List GoMap

variable {D : Type} {env : Env D} {d : Draw} {s s' : State D} {ev : Event D} {e : EvRepository}
  {effs : List (Effect D)} {p p' : RepositoryPreparation}

/-! ## One preparation -/

/-- The clone survives a restart and it is known where it is. -/
def RepositoryPreparation.Durable (p : RepositoryPreparation) : Prop :=
  p.cloneDurable = true ∧ p.clonePath ≠ ""

/-- The record of a preparation is consistent: what its stage promises is in its fields. -/
structure RepositoryPreparation.Sound (p : RepositoryPreparation) : Prop where
  cloned : p.stage = .cloneReady → p.Durable
  relaunchable : p.retryOrigin = .launch → p.Durable
  named : p.stage = .available → p.sessionID ≠ ""

theorem RepositoryPreparation.Sound.interrupted (sound : p.Sound)
    (origin : interruptedOrigin p = .launch) : p.Durable := by
  unfold interruptedOrigin at origin
  split at origin
  · rename_i ready
    exact sound.cloned ready
  · cases origin

theorem confirmedPrep_sound (e : EvRepository) : (confirmedPrep e).Sound :=
  ⟨nofun, nofun, nofun⟩

namespace Transition

section

variable (transition : Transition e p p')

include transition

theorem revision : p'.revision = p.revision + 1 := by cases transition <;> rfl

theorem id_eq : p'.id = p.id := by cases transition <;> rfl

theorem intentID_eq : p'.intentID = p.intentID := by cases transition <;> rfl

theorem generation : p'.lastOwnedWorkerGeneration = p.lastOwnedWorkerGeneration ∨
      e.kind = .retry ∧ p'.lastOwnedWorkerGeneration = p.lastOwnedWorkerGeneration + 1 := by
  cases transition with
  | relaunch kind | reclone kind => exact .inr ⟨kind, rfl⟩
  | _ => exact .inl rfl

theorem sound (sound : p.Sound) : p'.Sound := by
  cases transition with
  | cloneStarted | quarantined | reclone => exact ⟨nofun, nofun, nofun⟩
  | cloneReady _ _ path => exact ⟨fun _ => ⟨rfl, path⟩, nofun, nofun⟩
  | failed | cancelled | interrupted => exact ⟨nofun, sound.interrupted, nofun⟩
  | relaunch _ _ origin => exact ⟨fun _ => sound.relaunchable origin, nofun, nofun⟩
  | available _ _ _ _ named => exact ⟨nofun, nofun, fun _ => named⟩
  | abandoned => exact ⟨nofun, sound.relaunchable, nofun⟩

theorem not_available (sound : p.Sound) : p.stage ≠ .available := by
  intro available
  cases transition with
  | cloneStarted _ stage | interrupted _ stage | relaunch _ stage | reclone _ stage =>
    rw [available] at stage
    revert stage
    decide
  | cloneReady _ stage | available _ stage => cases available.symm.trans stage
  | failed _ stage | cancelled _ stage =>
    rw [available] at stage
    cases stage
  | quarantined _ stage =>
    have closed : p.isSessionAvailable = true := by
      simp [available, PreparationStage.isSessionAvailable, sound.named available]
    cases closed.symm.trans stage
  | abandoned _ stage => exact stage available

end

end Transition

/-! ## All preparations -/

/-- Every preparation is stored under its id and sound, and preparations and creation intents
correspond to each other. -/
structure State.PreparationsSound (s : State D) : Prop where
  keyed : ∀ id p, s.repositoryPreparations.get? id = some p → p.id = id
  sound : ∀ id p, s.repositoryPreparations.get? id = some p → p.Sound
  intended : ∀ id p, s.repositoryPreparations.get? id = some p → s.creationIntents.get? p.intentID ≠ none
  prepared : ∀ iid, s.creationIntents.get? iid ≠ none →
    ∃ id p, s.repositoryPreparations.get? id = some p ∧ p.intentID = iid
  onePerIntent : ∀ id id' p p', s.repositoryPreparations.get? id = some p →
    s.repositoryPreparations.get? id' = some p' → p.intentID = p'.intentID → id = id'

namespace State.PreparationsSound

theorem new (cfg : Config) : (State.new cfg : State D).PreparationsSound := by
  have bare : ∀ id p, (State.new cfg : State D).repositoryPreparations.get? id ≠ some p := by rintro id p ⟨⟩
  exact ⟨fun id p found => absurd found (bare id p), fun id p found => absurd found (bare id p),
    fun id p found => absurd found (bare id p), fun _ known => absurd rfl known,
    fun id _ p _ found => absurd found (bare id p)⟩

section

variable (sound : s.PreparationsSound)

include sound

theorem congr (preps : s'.repositoryPreparations = s.repositoryPreparations)
    (intents : s'.creationIntents = s.creationIntents) : s'.PreparationsSound := by
  constructor
  · rw [preps]
    exact sound.keyed
  · rw [preps]
    exact sound.sound
  · rw [preps, intents]
    exact sound.intended
  · rw [preps, intents]
    exact sound.prepared
  · rw [preps]
    exact sound.onePerIntent

theorem findPrepByIntent_eq {id : PreparationID} (stored : s.repositoryPreparations.get? id = some p) :
    findPrepByIntent d s p.intentID = some p := by
  refine findSome?_order_of_unique (a := (id, p)) (mem_entries.mpr stored) (if_pos rfl) ?_
  rintro ⟨id', q⟩ mem q' hit
  have stored' := mem_entries.mp mem
  split at hit <;> cases hit
  rename_i same
  have here := sound.onePerIntent id' id q p stored' stored same
  rw [here, stored] at stored'
  exact (Option.some.inj stored').symm

theorem unseen (unprepared : ∀ intent, s.creationIntents.get? e.intentID = some intent →
      findPrepByIntent d s e.intentID = none) : s.creationIntents.get? e.intentID = none := by
  cases known : s.creationIntents.get? e.intentID with
  | none => rfl
  | some intent =>
    have seen : s.creationIntents.get? e.intentID ≠ none := by simp [known]
    obtain ⟨id, p, stored, same⟩ := sound.prepared _ seen
    have found := sound.findPrepByIntent_eq (d := d) stored
    rw [same, unprepared intent known] at found
    cases found

/-- A sound record is stored under its id, in the place of no other intent's, along with its intent. -/
theorem put {q : RepositoryPreparation} (preps : s'.repositoryPreparations = s.repositoryPreparations.set q.id q)
    (intents : ∀ iid, s'.creationIntents.get? iid ≠ none ↔ s.creationIntents.get? iid ≠ none ∨ iid = q.intentID)
    (own : ∀ id p, s.repositoryPreparations.get? id = some p → (id = q.id ↔ p.intentID = q.intentID))
    (fine : q.Sound) : s'.PreparationsSound := by
  have stored : ∀ {id p}, s'.repositoryPreparations.get? id = some p →
      id = q.id ∧ p = q ∨ s.repositoryPreparations.get? id = some p :=
    fun found => get?_of_set (preps ▸ found)
  have here : s'.repositoryPreparations.get? q.id = some q := by rw [preps, get?_set_self]
  constructor
  · intro id p found
    rcases stored found with ⟨rfl, rfl⟩ | old
    · rfl
    · exact sound.keyed id p old
  · intro id p found
    rcases stored found with ⟨rfl, rfl⟩ | old
    · exact fine
    · exact sound.sound id p old
  · intro id p found
    rcases stored found with ⟨rfl, rfl⟩ | old
    · exact (intents _).mpr (.inr rfl)
    · exact (intents _).mpr (.inl (sound.intended id p old))
  · intro iid known
    rcases (intents iid).mp known with known | rfl
    · obtain ⟨id, p, old, rfl⟩ := sound.prepared iid known
      by_cases same : id = q.id
      · exact ⟨_, _, here, ((own id p old).mp same).symm⟩
      · exact ⟨id, p, by rwa [preps, get?_set, if_neg same], rfl⟩
    · exact ⟨_, _, here, rfl⟩
  · intro id id' p p' found found' same
    rcases stored found with ⟨rfl, rfl⟩ | old <;> rcases stored found' with ⟨rfl, rfl⟩ | old'
    · rfl
    · exact ((own _ _ old').mpr same.symm).symm
    · exact (own _ _ old).mpr same
    · exact sound.onePerIntent id id' p p' old old' same

theorem created (fresh : s.creationIntents.get? e.intentID = none)
    (free : s.repositoryPreparations.get? e.preparationID = none) :
    (putPreparation (putCreationIntent s (intendedCreation e)) (confirmedPrep e)).PreparationsSound := by
  refine sound.put rfl (fun iid => ?_) (fun id p stored => ?_) (confirmedPrep_sound e)
  · show (s.creationIntents.set e.intentID _).get? iid ≠ none ↔ _ ∨ iid = e.intentID
    rw [get?_set]
    split <;> simp [*]
  · constructor
    · rintro rfl
      cases free.symm.trans stored
    · intro same
      exact absurd (same ▸ fresh) (sound.intended _ _ stored)

theorem moved {id : PreparationID}
    (found : s.repositoryPreparations.get? id = some p) (transition : Transition e p p') :
    (putPreparation s p').PreparationsSound := by
  have key := sound.keyed id p found
  refine sound.put rfl (fun iid => ?_) (fun id' q stored => ?_) (transition.sound (sound.sound id p found))
  · rw [transition.intentID_eq]
    exact (or_iff_left_of_imp fun same => same ▸ sound.intended id p found).symm
  · rw [transition.id_eq, transition.intentID_eq, key]
    constructor
    · rintro rfl
      cases found.symm.trans stored
      rfl
    · exact sound.onePerIntent id' id q p stored found

end

end State.PreparationsSound

/-! ## Steps -/

/-- The lifecycle command behind an event: a repository event, or a client's request to create. -/
def Event.preparation : Event D → Option EvRepository
  | .repository e => some e
  | .event connID reqID (.createRepositorySession (.ok p)) =>
    some
      { connID := connID, reqID := reqID, kind := .create, intentID := p.intentID
        preparationID := p.preparationID, serverID := p.serverID, repository := p.repository
        fingerprint := p.fingerprint, command := p.command }
  | _ => none

/-- The event is a repository event or a client's request to create or get a preparation. -/
def Event.onPreparations : Event D → Bool
  | .repository _ | .event _ _ (.createRepositorySession _)
  | .event _ _ (.getRepositoryPreparation _) => true
  | _ => false

section

variable (step : Step env s (ev, effs) s')

include step

theorem Step.reduceRepository_eq (asked : ev.preparation = some e) (running : s.lifecycle = .running) :
    ∃ d : Draw, reduceRepository d s e = (s', effs) := by
  obtain ⟨d, _, reduced⟩ := step
  unfold reduce at reduced
  rw [running] at reduced
  refine ⟨d, ?_⟩
  cases ev with
  | repository =>
    cases asked
    exact Except.ok.inj reduced
  | event connID reqID call =>
    cases call with
    | createRepositorySession payload =>
      cases payload with
      | error => cases asked
      | ok =>
        cases asked
        exact Except.ok.inj reduced
    | _ => cases asked
  | _ => cases asked

theorem Step.unasked (on : ev.onPreparations = true)
    (idle : ev.preparation = none ∨ s.lifecycle = .quiescing) : s' = s := by
  obtain ⟨d, _, reduced⟩ := step
  unfold reduce at reduced
  cases ev with
  | repository =>
    rcases idle with none | quiescing
    · cases none
    · rw [quiescing] at reduced
      cases reduced
  | event connID reqID call =>
    cases phase : s.lifecycle with
    | quiescing =>
      rw [phase] at reduced
      cases call with
      | createRepositorySession payload | getRepositoryPreparation payload =>
        cases reduced
        rfl
      | _ => cases on
    | running =>
      rw [phase] at reduced idle
      cases call with
      | createRepositorySession payload =>
        cases payload with
        | error =>
          cases reduced
          rfl
        | ok => rcases idle with idle | idle <;> cases idle
      | getRepositoryPreparation =>
        rcases decoded_cases reduced with ⟨_, same, _⟩ | ⟨id, _, handled⟩
        · exact same
        · unfold reduceRepositoryPreparationEvent at handled
          split at handled <;> exact (congrArg Prod.fst handled).symm
      | _ => cases on
  | _ => cases on

theorem Step.prepared (on : ev.onPreparations = true) :
    s' = s ∨ ∃ d e, ev.preparation = some e ∧ Prepared d s e (s', effs) := by
  cases phase : s.lifecycle with
  | quiescing => exact .inl (step.unasked on (.inr phase))
  | running =>
    cases asked : ev.preparation with
    | none => exact .inl (step.unasked on (.inl asked))
    | some e =>
      obtain ⟨d, reduced⟩ := step.reduceRepository_eq asked phase
      have prepared : Prepared d s e (reduceRepository d s e) := reduceRepository_prepared
      rw [reduced] at prepared
      exact .inr ⟨d, e, rfl, prepared⟩

end

theorem Event.onPreparations_of_preparation (asked : ev.preparation = some e) : ev.onPreparations = true := by
  cases ev with
  | repository => rfl
  | event connID reqID call =>
    cases call with
    | createRepositorySession => rfl
    | _ => cases asked
  | _ => cases asked

theorem Step.preparations_eq (step : Step env s (ev, effs) s') (unasked : ev.preparation = none) :
    s'.repositoryPreparations = s.repositoryPreparations ∧ s'.creationIntents = s.creationIntents := by
  obtain ⟨d, _, booking⟩ := step.booking
  cases booking with
  | routine booked => exact ⟨booked.preparations, booked.intents⟩
  | @subscribe e _ _ =>
    have confined := reduceSurfaceSubscribe_surfacesOnly (s := s) (e := e)
    exact ⟨confined.preparations, confined.intents⟩
  | @unsubscribe e _ =>
    have confined := reduceSurfaceUnsubscribe_surfacesOnly (s := s) (e := e)
    exact ⟨confined.preparations, confined.intents⟩
  | closed => exact ⟨rfl, rfl⟩
  | repository asked | creation asked =>
    subst asked
    cases unasked
  | capsuleDone _ _ _ booked | jobDone _ _ _ booked => exact ⟨booked.preparations, booked.intents⟩
  | spawned _ unreported booked =>
    exact ⟨booked.preparations.trans unreported.preparations, booked.intents.trans unreported.intents⟩

/-! ## What a repository event does -/

theorem get?_of_findPreparation {id : PreparationID} (found : findPreparation s id = some p) :
    s.repositoryPreparations.get? id = some p := by
  unfold findPreparation at found
  split at found
  · cases found
  · exact found

/-- The event took the preparation it names, which was not available, one transition further. -/
structure Moved (e : EvRepository) (p p' : RepositoryPreparation) : Prop where
  named : e.preparationID = p.id
  notAvailable : p.stage ≠ .available
  revision : p'.revision = p.revision + 1
  generation : p'.lastOwnedWorkerGeneration = p.lastOwnedWorkerGeneration ∨
    e.kind = .retry ∧ p'.lastOwnedWorkerGeneration = p.lastOwnedWorkerGeneration + 1

/-- The event takes the preparation it names, at the revision it observed, through a transition. -/
structure Takes (e : EvRepository) (p p' : RepositoryPreparation) : Prop where
  named : e.preparationID = p.id
  fence : e.kind ≠ .interrupted → e.observedRevision = p.revision
  transition : Transition e p p'

theorem Takes.moved (takes : Takes e p p') (sound : p.Sound) : Moved e p p' :=
  ⟨takes.named, takes.transition.not_available sound, takes.transition.revision, takes.transition.generation⟩

/-- What an event makes of the record stored under one id. -/
inductive Changes (ev : Event D) (before after : Option RepositoryPreparation) : Prop where
  | kept (same : after = before)
  | created {e : EvRepository} (absent : before = none) (fresh : after = some (confirmedPrep e))
  | taken {e : EvRepository} {p p' : RepositoryPreparation} (asked : ev.preparation = some e)
      (stored : before = some p) (moved : after = some p') (takes : Takes e p p')

/-- A session is published by the event that makes a preparation with a ready clone available, on
evidence of the clone and of the launch. -/
def Published (e : EvRepository) (s s' : State D) (sid : SessionID) : Prop :=
  e.kind = .commitAvailable ∧ e.cloneDurable = true ∧ e.launchSucceeded = true ∧
    ∃ p p', s.repositoryPreparations.get? e.preparationID = some p ∧ p.stage = .cloneReady ∧
      s'.repositoryPreparations.get? e.preparationID = some p' ∧ p'.stage = .available ∧ p'.sessionID = sid

namespace Prepared

theorem preparationsSound (prepared : Prepared d s e (s', effs)) (sound : s.PreparationsSound) :
    s'.PreparationsSound := by
  cases prepared with
  | answered => exact sound
  | created _ _ unprepared free => exact sound.created (sound.unseen unprepared) free
  | moved found _ transition => exact sound.moved (get?_of_findPreparation found) transition
  | published found _ transition => exact (sound.moved (get?_of_findPreparation found) transition).congr rfl rfl

section

variable (prepared : Prepared d s e (s', effs))

include prepared

theorem changes (asked : ev.preparation = some e) (sound : s.PreparationsSound) (id : PreparationID) :
    Changes ev (s.repositoryPreparations.get? id) (s'.repositoryPreparations.get? id) := by
  have put : ∀ {p p'}, findPreparation s e.preparationID = some p →
      (e.kind ≠ .interrupted → e.observedRevision = p.revision) → Transition e p p' →
      Changes ev (s.repositoryPreparations.get? id) ((s.repositoryPreparations.set p'.id p').get? id) := by
    intro p p' found fence transition
    have before := get?_of_findPreparation found
    have keyed := sound.keyed _ _ before
    rw [transition.id_eq, keyed, get?_set]
    split
    · rename_i here
      exact .taken asked (here ▸ before) rfl ⟨keyed.symm, fence, transition⟩
    · exact .kept rfl
  cases prepared with
  | answered => exact .kept rfl
  | created _ _ _ free =>
    show Changes ev _ ((s.repositoryPreparations.set e.preparationID _).get? id)
    rw [get?_set]
    split
    · rename_i here
      exact .created (here ▸ free) rfl
    · exact .kept rfl
  | moved found fence transition => exact put found fence transition
  | published found fence transition => exact put found (fun _ => fence) transition

theorem refused {connID : ConnID}
    {reqID code message : String} (told : errResp connID reqID code message ∈ effs) : s' = s := by
  have unrefused : ∀ {p} {extra}, extra.all Effect.preparing = true →
      errResp connID reqID code message ∉ (storePrep s p e.connID e.reqID extra).2 := by
    intro p extra asks told
    simp only [storePrep, append_assoc, mem_append, mem_singleton] at told
    rcases told with first | told | last
    · cases first
    · cases all_eq_true.mp asks _ told
    · cases last
  cases prepared with
  | answered => rfl
  | created => exact absurd told (unrefused rfl)
  | moved _ _ _ _ asks | published _ _ _ _ _ asks => exact absurd told (unrefused asks)

/-- An event that observed another revision than the present one is without effect, unless it is
the daemon's own report of an interruption, which observes none. -/
theorem stale (stored : s.repositoryPreparations.get? e.preparationID = some p)
    (reported : e.kind ≠ .interrupted) (other : e.observedRevision ≠ p.revision) : s' = s := by
  cases prepared with
  | answered => rfl
  | created _ _ _ free => cases free.symm.trans stored
  | moved found fence =>
    rw [get?_of_findPreparation found] at stored
    cases stored
    exact absurd (fence reported) other
  | published found fence =>
    rw [get?_of_findPreparation found] at stored
    cases stored
    exact absurd fence other

theorem publishes (sound : s.PreparationsSound)
    {sid : SessionID} (absent : s.sessions.get? sid = none) (added : s'.sessions.get? sid ≠ none) :
    Published e s s' sid := by
  cases prepared with
  | answered | created | moved => exact absurd absent added
  | @published p p' _ found _ transition available _ _ =>
    have stored := get?_of_findPreparation found
    have key := transition.id_eq.trans (sound.keyed _ _ stored)
    have here : sid = e.sessionID := by
      by_contra other
      have kept := added
      rw [get?_set, if_neg other] at kept
      exact kept absent
    have after : (s.repositoryPreparations.set p'.id p').get? e.preparationID = some p' := by rw [key, get?_set_self]
    cases transition with
    | available kind stage durable launched =>
      exact ⟨kind, durable, launched, p, _, stored, stage, after, rfl, here.symm⟩
    | _ kind => cases available.symm.trans kind

end

end Prepared

/-- Creating again with the intent and the fingerprint of a stored preparation changes nothing and
returns that preparation. -/
theorem reduceRepositoryCreate_again (sound : s.PreparationsSound) {id : PreparationID}
    {intent : CreationIntent} (known : s.creationIntents.get? e.intentID = some intent)
    (same : intent.fingerprint = e.fingerprint)
    (stored : s.repositoryPreparations.get? id = some p) (its : p.intentID = e.intentID) :
    (reduceRepositoryCreate d s e).1 = s ∧ (e.complete = true → (reduceRepositoryCreate d s e).2 =
          [okResp e.connID e.reqID (.repositoryPreparation (prepSnapshot p))]) := by
  have found : findPrepByIntent d s e.intentID = some p := its ▸ sound.findPrepByIntent_eq stored
  unfold reduceRepositoryCreate
  split
  · rename_i missing
    refine ⟨rfl, fun complete => absurd missing ?_⟩
    simpa [and_assoc] using complete
  · rw [known]
    simp [same, found]

/-! ## Runs -/

theorem Step.preparationsSound (step : Step env s (ev, effs) s') (sound : s.PreparationsSound) :
    s'.PreparationsSound := by
  cases asked : ev.preparation with
  | none =>
    obtain ⟨preps, intents⟩ := step.preparations_eq asked
    exact sound.congr preps intents
  | some =>
    rcases step.prepared (Event.onPreparations_of_preparation asked) with
      same | ⟨d, e', _, prepared⟩
    · exact sound.congr (congrArg _ same) (congrArg _ same)
    · exact prepared.preparationsSound sound

theorem Step.changes (step : Step env s (ev, effs) s') (sound : s.PreparationsSound) (id : PreparationID) :
    Changes ev (s.repositoryPreparations.get? id) (s'.repositoryPreparations.get? id) := by
  cases asked : ev.preparation with
  | none => exact .kept (by rw [(step.preparations_eq asked).1])
  | some =>
    rcases step.prepared (Event.onPreparations_of_preparation asked) with same | ⟨d, e, asked', prepared⟩
    · exact .kept (by rw [same])
    · exact prepared.changes asked' sound id

theorem Step.kept_or_moved (step : Step env s (ev, effs) s') (sound : s.PreparationsSound)
    {id : PreparationID} (stored : s.repositoryPreparations.get? id = some p) :
    s'.repositoryPreparations.get? id = some p ∨
      ∃ p' e, s'.repositoryPreparations.get? id = some p' ∧ ev.preparation = some e ∧ Moved e p p' := by
  cases step.changes sound id with
  | kept same => exact .inl (same.trans stored)
  | created absent => cases absent.symm.trans stored
  | taken asked before after takes =>
    cases before.symm.trans stored
    exact .inr ⟨_, _, after, asked, takes.moved (sound.sound _ _ stored)⟩

theorem HostRun.preparationsSound {cfg : Config} {labels : List (Event D × List (Effect D))}
    (run : HostRun env cfg labels s) : s.PreparationsSound :=
  run.invariant State.PreparationsSound (.new cfg) fun _ _ _ sound step => Step.preparationsSound step sound

/-- The life cycle of preparations over whole runs: the records are sound and match the intents one
to one, a step moves a preparation by one revision or not at all, refused and stale events change
nothing, creation is idempotent, sessions appear on evidence only, and an available preparation
stays as it is for ever. -/
theorem preparation_lifecycle {cfg : Config} {labels : List (Event D × List (Effect D))}
    (run : HostRun env cfg labels s) : s.PreparationsSound ∧ (∀ ev effs s', Step env s (ev, effs) s' →
        (∀ id p, s.repositoryPreparations.get? id = some p → s'.repositoryPreparations.get? id = some p ∨
            ∃ p' e, s'.repositoryPreparations.get? id = some p' ∧ ev.preparation = some e ∧ Moved e p p') ∧
        (∀ connID reqID code message, ev.onPreparations = true → errResp connID reqID code message ∈ effs → s' = s) ∧
        (∀ e p, ev.preparation = some e → e.kind ≠ .interrupted →
          s.repositoryPreparations.get? e.preparationID = some p → e.observedRevision ≠ p.revision → s' = s) ∧
        (∀ e intent id p, ev.preparation = some e → e.kind = .create →
          s.creationIntents.get? e.intentID = some intent → intent.fingerprint = e.fingerprint →
          s.repositoryPreparations.get? id = some p → p.intentID = e.intentID →
          s' = s ∧ (s.lifecycle = .running → e.complete = true →
            effs = [okResp e.connID e.reqID (.repositoryPreparation (prepSnapshot p))])) ∧
        ∀ e sid, ev.preparation = some e → s.sessions.get? sid = none →
          s'.sessions.get? sid ≠ none → Published e s s' sid) ∧ ∀ later s'' id p, Run (Step env) s later s'' →
        s.repositoryPreparations.get? id = some p → p.stage = .available →
          s''.repositoryPreparations.get? id = some p := by
  have sound := run.preparationsSound
  have on : ∀ {ev : Event D} {e}, ev.preparation = some e →
      ev.onPreparations = true := Event.onPreparations_of_preparation
  refine ⟨sound, ?_, ?_⟩
  · intro ev effs s' step
    refine ⟨fun id p stored => step.kept_or_moved sound stored, ?_, ?_, ?_, ?_⟩
    · intro connID reqID code message onPreparations told
      rcases step.prepared onPreparations with same | ⟨d, e, _, prepared⟩
      · exact same
      · exact prepared.refused told
    · intro e p asked reported stored other
      rcases step.prepared (on asked) with same | ⟨d, e', asked', prepared⟩
      · exact same
      cases asked.symm.trans asked'
      exact prepared.stale stored reported other
    · intro e intent id p asked kind known same stored its
      cases phase : s.lifecycle with
      | quiescing => exact ⟨step.unasked (on asked) (.inr phase), nofun⟩
      | running =>
        obtain ⟨d, reduced⟩ := step.reduceRepository_eq asked phase
        have again := reduceRepositoryCreate_again (d := d) sound known same stored its
        rw [reduceRepository, kind] at reduced
        dsimp only at reduced
        rw [reduced] at again
        exact ⟨again.1, fun _ => again.2⟩
    · intro e sid asked absent added
      rcases step.prepared (on asked) with same | ⟨d, e', asked', prepared⟩
      · rw [same] at added
        exact absurd absent added
      cases asked.symm.trans asked'
      exact prepared.publishes sound absent added
  · intro later s'' id p more stored available
    have kept := more.invariant
      (fun t => t.PreparationsSound ∧ t.repositoryPreparations.get? id = some p) ⟨sound, stored⟩
      (fun t label t' held step => by
        refine ⟨Step.preparationsSound step held.1, ?_⟩
        rcases Step.kept_or_moved step held.1 held.2 with kept | ⟨_, _, _, _, moved⟩
        · exact kept
        · exact absurd available moved.notAvailable)
    exact kept.2

def Event.prepares : Event Unit :=
  .repository
    { kind := .create, intentID := "i", preparationID := "p", serverID := "v"
      repository := ⟨"1", "o", "n"⟩, command := "x" }

/-- An event for the preparation that `prepares` asks for. -/
def Event.moves (kind : RepositoryEventKind) (observedRevision : Nat) : Event Unit :=
  .repository { kind, preparationID := "p", observedRevision, clonePath := "c" }

/-- A repository is cloned, launched and committed, and its preparation is never touched again. -/
theorem committed_preparation_stays : ∃ (labels : List (Event Unit × List (Effect Unit))) (s : State Unit)
      (p : RepositoryPreparation), HostRun Env.inert {} labels s ∧ s.repositoryPreparations.get? "p" = some p ∧
        p.stage = .available ∧ p.revision = 4 ∧ s.sessions.get? "s" ≠ none ∧
        ∀ later s'', Run (Step Env.inert) s later s'' → s''.repositoryPreparations.get? "p" = some p := by
  have run := replay_hostRun Env.inert {} [('a', .prepares), ('b', .moves .cloneStarted 1),
      ('c', .moves .cloneReady 2), ('d', .repository
        { kind := .commitAvailable, preparationID := "p", observedRevision := 3
          clonePath := "c", sessionID := "s", cloneDurable := true, launchSucceeded := true })] rfl
  exact ⟨_, _, _, run, rfl, rfl, rfl, nofun,
    fun later s'' more => (preparation_lifecycle run).2.2 later s'' _ _ more rfl rfl⟩

/-! ## Terminal stages -/

/-- Nothing but a quarantine and an abandonment leads on from a terminal stage. -/
theorem Transition.terminal (transition : Transition e p p') (terminal : p.stage.isTerminal = true) :
    e.kind = .quarantined ∧ p'.stage = .internalCorruption ∨ e.kind = .abandon ∧ p'.stage = .abandoned := by
  cases transition with
  | quarantined kind => exact .inl ⟨kind, rfl⟩
  | abandoned kind => exact .inr ⟨kind, rfl⟩
  | _ => grind [PreparationStage.isTerminal]

/-- A preparation in a terminal stage stays in it unless it is quarantined after having been abandoned
or abandoned after having been quarantined. -/
theorem terminal_stage_absorbing {cfg : Config} {labels later : List (Event D × List (Effect D))}
    {s'' : State D} {id : PreparationID} (run : HostRun env cfg labels s) (more : Run (Step env) s later s'')
    (stored : s.repositoryPreparations.get? id = some p) (terminal : p.stage.isTerminal = true)
    (spared : ∀ label ∈ later, ∀ e, label.1.preparation = some e → e.preparationID = id →
      ¬(p.stage = .abandoned ∧ e.kind = .quarantined) ∧ ¬(p.stage = .internalCorruption ∧ e.kind = .abandon)) :
    ∃ p', s''.repositoryPreparations.get? id = some p' ∧ p'.stage = p.stage := by
  have kept := (more.restrict _ fun label mem _ => spared label mem).invariant
    (fun t => t.PreparationsSound ∧ ∃ p', t.repositoryPreparations.get? id = some p' ∧ p'.stage = p.stage)
    ⟨run.preparationsSound, p, stored, rfl⟩ (by
      rintro t label t' ⟨sound, q, held, stage⟩ ⟨step, spared⟩
      refine ⟨Step.preparationsSound step sound, ?_⟩
      cases Step.changes step sound id with
      | kept same => exact ⟨q, same.trans held, stage⟩
      | created absent => cases absent.symm.trans held
      | taken asked before after takes =>
        cases before.symm.trans held
        refine ⟨_, after, ?_⟩
        have open_ := takes.transition.not_available (sound.sound _ _ held)
        obtain ⟨quarantine, abandon⟩ := spared _ asked (takes.named.trans (sound.keyed _ _ held))
        rw [← stage] at terminal quarantine abandon ⊢
        rcases takes.transition.terminal terminal with ⟨kind, led⟩ | ⟨kind, led⟩
        all_goals simp_all [PreparationStage.isTerminal])
  exact kept.2

theorem abandoned_unless_quarantined : ∃ s : State Unit, Reachable Env.inert s ∧
        (∃ p, s.repositoryPreparations.get? "p" = some p ∧ p.stage = .abandoned) ∧
        ∀ later s'', Run (Step Env.inert) s later s'' →
          (∀ label ∈ later, ∀ e, label.1.preparation = some e → e.kind ≠ .quarantined) →
          ∃ p', s''.repositoryPreparations.get? "p" = some p' ∧ p'.stage = .abandoned := by
  have run := replay_hostRun Env.inert {} [('a', .prepares), ('b', .moves .abandon 1)] rfl
  refine ⟨_, ⟨_, _, run⟩, ⟨_, rfl, rfl⟩, fun later s'' more spared => ?_⟩
  exact terminal_stage_absorbing (p := { confirmedPrep _ with stage := .abandoned, revision := 2 }) run more rfl rfl
    fun label mem e asked _ => ⟨fun both => spared label mem e asked both.2, nofun⟩

theorem abandoned_then_quarantined : ∃ (later : List _) (s s'' : State Unit) (p p' : RepositoryPreparation),
      Reachable Env.inert s ∧ Run (Step Env.inert) s later s'' ∧
        s.repositoryPreparations.get? "p" = some p ∧ p.stage.isTerminal = true ∧
        s''.repositoryPreparations.get? "p" = some p' ∧ p'.stage ≠ p.stage :=
  ⟨_, _, _, _, _, replay_reachable Env.inert {} [('a', .prepares), ('b', .moves .abandon 1)] rfl,
    replay_run (Option.some_get (x := replay Env.inert _ [('c', .moves .quarantined 2)]) rfl).symm,
    rfl, rfl, rfl, nofun⟩

/-! ## Retries -/

/-- The preparation stopped short and can be retried. -/
def PreparationStage.stopped : List PreparationStage := [.failed, .cancelled, .interrupted]

/-- A preparation to be cloned has no clone, and the retry origin of one that stopped short tells
whether it has one. -/
structure RepositoryPreparation.Truthful (p : RepositoryPreparation) : Prop where
  uncloned : p.stage = .confirmed ∨ p.stage = .cloneInProgress → ¬p.Durable
  origin : p.stage ∈ PreparationStage.stopped → (p.retryOrigin = .launch ↔ p.Durable)

/-- The event fails or cancels no preparation that stopped short with a clone. -/
def Event.Timely (ev : Event D) (s : State D) : Prop :=
  ∀ e p, ev.preparation = some e → e.kind = .failed ∨ e.kind = .cancelled →
    s.repositoryPreparations.get? e.preparationID = some p → e.observedRevision = p.revision →
    p.stage ∈ PreparationStage.stopped → ¬p.Durable

theorem RepositoryPreparation.Truthful.stops (truthful : p.Truthful) (sound : p.Sound)
    (live : p.stage.isTerminal = false) (timely : p.stage ∈ PreparationStage.stopped → ¬p.Durable) :
    interruptedOrigin p = .launch ↔ p.Durable := by
  have cloned := sound.cloned
  have uncloned := truthful.uncloned
  unfold interruptedOrigin
  split
  · simp_all
  · cases stage : p.stage <;> simp_all [PreparationStage.isTerminal, PreparationStage.stopped]

theorem Transition.truthful (transition : Transition e p p') (sound : p.Sound) (truthful : p.Truthful)
    (timely : e.kind = .failed ∨ e.kind = .cancelled → p.stage ∈ PreparationStage.stopped → ¬p.Durable) :
    p'.Truthful := by
  cases transition with
  | cloneStarted _ stage origin =>
    refine ⟨fun _ durable => ?_, nofun⟩
    rcases mem_cons.mp stage with confirmed | stopped
    · exact truthful.uncloned (.inl confirmed) durable
    · have launch := (truthful.origin stopped).mpr durable
      simp [launch] at origin
  | failed kind live => exact ⟨nofun, fun _ => truthful.stops sound live (timely (.inl kind))⟩
  | cancelled kind live => exact ⟨nofun, fun _ => truthful.stops sound live (timely (.inr kind))⟩
  | interrupted _ stage =>
    refine ⟨nofun, fun _ => truthful.stops sound ?_ fun stopped => ?_⟩
    all_goals cases at_ : p.stage <;> simp_all [PreparationStage.isTerminal, PreparationStage.stopped]
  | reclone => exact ⟨fun _ durable => Bool.noConfusion durable.1, nofun⟩
  | _ => exact ⟨nofun, nofun⟩

/-- Unless a failure or a cancellation reaches a preparation that has stopped short already and has a
clone, the retry origin tells whether there is a clone, and a retry launches in the clone if there is
one and clones anew otherwise. -/
theorem retry_origin_truthful {cfg : Config} {labels : List (Event D × List (Effect D))} {id : PreparationID}
    (run : Run (fun s label s' => Step env s label s' ∧ label.1.Timely s) (State.new cfg) labels s)
    (stored : s.repositoryPreparations.get? id = some p) (stopped : p.stage ∈ PreparationStage.stopped) :
    (p.retryOrigin = .launch ↔ p.Durable) ∧
      ∀ ev effs s' e p', Step env s (ev, effs) s' → ev.preparation = some e → e.kind = .retry →
        s'.repositoryPreparations.get? id = some p' → p' ≠ p →
          p.Durable ∧ p'.stage = .cloneReady ∧ p'.clonePath = p.clonePath ∨
            ¬p.Durable ∧ p'.stage = .confirmed ∧ ¬p'.Durable := by
  obtain ⟨sound, truthful⟩ := run.invariant
    (fun t => t.PreparationsSound ∧ ∀ id p, t.repositoryPreparations.get? id = some p → p.Truthful)
    ⟨.new cfg, by rintro _ _ ⟨⟩⟩ (by
      rintro t label t' ⟨sound, truthful⟩ ⟨step, timely⟩
      refine ⟨Step.preparationsSound step sound, fun id p found => ?_⟩
      cases Step.changes step sound id with
      | kept same => exact truthful id p (same ▸ found)
      | created _ fresh =>
        cases fresh.symm.trans found
        exact ⟨fun _ durable => Bool.noConfusion durable.1, nofun⟩
      | taken asked before after takes =>
        cases after.symm.trans found
        have keyed := takes.named.trans (sound.keyed _ _ before)
        exact takes.transition.truthful (sound.sound _ _ before) (truthful _ _ before) fun kind =>
          timely _ _ asked kind (keyed ▸ before) (takes.fence (by rcases kind with kind | kind <;> simp [kind])))
  have origin := (truthful _ _ stored).origin stopped
  refine ⟨origin, fun ev effs s' e p' step asked kind after other => ?_⟩
  cases step.changes sound id with
  | kept same => exact absurd (Option.some.inj (after.symm.trans (same.trans stored))) other
  | created absent => cases absent.symm.trans stored
  | taken asked' before after' takes =>
    cases asked.symm.trans asked'
    cases before.symm.trans stored
    cases after'.symm.trans after
    cases takes.transition with
    | relaunch _ _ launch => exact .inl ⟨origin.mp launch, rfl, rfl⟩
    | reclone _ _ clone => exact .inr ⟨fun durable => clone (origin.mpr durable), rfl, nofun⟩
    | _ => simp_all

/-- A ready clone survives an interruption, and the retry is to launch in it. -/
theorem interrupted_clone_relaunched : ∃ (s : State Unit) (p : RepositoryPreparation),
      Reachable Env.inert s ∧ s.repositoryPreparations.get? "p" = some p ∧ p.stage = .interrupted ∧ p.Durable ∧
        (p.retryOrigin = .launch ↔ p.Durable) := by
  have run := replay_hostRun Env.inert {} [('a', .prepares), ('b', .moves .cloneStarted 1),
    ('c', .moves .cloneReady 2), ('d', .moves .interrupted 3)] rfl
  have timely : ∀ k n, k ∉ [.failed, .cancelled] → ∀ s, (Event.moves k n).Timely s := by
    intro k n other s e p asked kind
    cases asked
    exact absurd kind (by simpa using other)
  have each := run.restrict (fun s label => label.1.Timely s) (forall_mem_cons.mpr
    ⟨fun s e p asked kind => by cases asked; simp at kind, forall_mem_cons.mpr ⟨timely _ _ (by decide),
      forall_mem_cons.mpr ⟨timely _ _ (by decide), forall_mem_cons.mpr
        ⟨timely _ _ (by decide), forall_mem_nil _⟩⟩⟩⟩)
  exact ⟨_, _, ⟨_, _, run⟩, rfl, rfl, ⟨rfl, nofun⟩,
    (retry_origin_truthful each (show GoMap.get? _ "p" = some _ from rfl) (by decide)).1⟩

/-- The clone is ready when the preparation fails, and the failure is reported once more: a retry
clones again. -/
theorem failed_twice_recloned : ∃ (s : State Unit) (p : RepositoryPreparation), Reachable Env.inert s ∧
      s.repositoryPreparations.get? "p" = some p ∧ p.stage = .failed ∧ p.Durable ∧ p.retryOrigin = .clone :=
  ⟨_, _, replay_reachable Env.inert {} [('a', .prepares), ('b', .moves .cloneStarted 1),
    ('c', .moves .cloneReady 2), ('d', .moves .failed 3), ('e', .moves .failed 4)] rfl, rfl, rfl, ⟨rfl, nofun⟩, rfl⟩

end AgentGrid.Host
