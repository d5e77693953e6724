import Mathlib.Data.List.TakeWhile
import Mathlib.Logic.Function.Basic
import StellarEduPay.JsString
import StellarEduPay.Runs

/-! # Migrations (`services/migrationRunner.js`)

Any number of replicas run `runMigrations` side by side.  The document of a version is the claim
on its migration, and it is what a later run finds of a completed one: whoever inserts it runs
`up`, and whoever finds it goes on with the next version.  A failed `up` deletes the document, a
crash leaves it.

Inserting, deleting and marking are one step each, any of which may fail with or without its effect.
-/
namespace StellarEduPay
open Runs Function

/-! ## The directory -/

/-- A file of the migrations directory: its name without `.js`, and the `version` it exports, where
that is a string. -/
structure MigrationFile where
  stem : String
  version : Option String
  deriving DecidableEq, Repr

def MigrationFile.file (m : MigrationFile) : String := m.stem ++ ".js"

/-- The line about a file in `validationErrors`. -/
def exportError (m : MigrationFile) : Option String :=
  match m.version.filter (jsTrim · ≠ "") with
  | none => some ("  • " ++ m.file ++ ": missing or empty \"version\" export " ++
      "(expected version: '" ++ m.stem ++ "')")
  | some version =>
    if version = m.stem then none
    else some ("  • " ++ m.file ++ ": version mismatch — " ++
      "exported '" ++ version ++ "' but filename requires '" ++ m.stem ++ "'")

/-- What `runMigrations` throws before its first store step; `dir` is none without a directory. -/
def preflight (path : String) (dir : Option (List MigrationFile)) : Except String (List String) :=
  match dir with
  | none => .error ("[Migration] Migrations directory not found at \"" ++ path ++ "\". " ++
      "The production image must include the migrations/ directory " ++
      "(see backend/Dockerfile). Refusing to continue.")
  | some files =>
    match files.filterMap exportError with
    | [] => .ok (files.filterMap (·.version))
    | errors => .error ("[Migration] One or more migration files fail the export contract. " ++
        "Every migration must export \x7b version, up, down \x7d where version === " ++
        "basename(file, \".js\").\n" ++ "\n".intercalate errors)

theorem version_of_exportError_eq_none {m : MigrationFile} (h : exportError m = none) :
    m.version = some m.stem := by
  unfold exportError at h
  split at h
  · cases h
  · rename_i version hversion
    split at h
    · rename_i hstem
      rw [(Option.filter_eq_some_iff.mp hversion).1, hstem]
    · cases h

/-- The versions a run goes through are the names of the files, in the order of the files. -/
theorem migrations_preflight_ok {path : String} {dir : Option (List MigrationFile)}
    {versions : List String}
    (h : preflight path dir = .ok versions) :
    ∃ files, dir = some files ∧ versions = files.map (·.stem) := by
  unfold preflight at h
  split at h
  · cases h
  · rename_i files
    split at h
    · rename_i hvalid
      cases h
      refine ⟨files, rfl, ?_⟩
      rw [← List.filterMap_eq_map]
      refine List.filterMap_congr fun m hm => ?_
      exact version_of_exportError_eq_none (List.filterMap_eq_nil_iff.mp hvalid m hm)
    · cases h

/-! ## The replicas -/

/-- A document of the migrations collection; `appliedAt` has a default, so it is set with the
claim and set again on completion. -/
structure MigrationDoc where
  lockedAt : Nat
  appliedAt : Nat
  deriving DecidableEq, Repr

/-- Where a replica is in `runMigrations`: about to claim a version, about to call its `up`, in
`up`, past it, or in the `catch`, with the versions that are left. -/
inductive MigrationPc
  | claiming (version : String) (rest : List String)
  | won (version : String) (rest : List String)
  | running (version : String) (rest : List String)
  | applying (version : String) (rest : List String)
  | undoing (version : String) (error : String)
  | returned
  | threw (error : String)
  deriving DecidableEq, Repr

/-- The head of the loop over the files. -/
def MigrationPc.loop : List String → MigrationPc
  | [] => .returned
  | version :: rest => .claiming version rest

/-- How a store step ends: done, done with an error for an answer, or not done. -/
inductive StoreOutcome
  | done
  | lost
  | failed
  deriving DecidableEq, Repr

/-- The collection by its unique key, and what each replica is doing, if it runs at all.
`completed` is a ghost: the versions whose `up` has returned. -/
structure MigrationSystem where
  store : String → Option MigrationDoc
  replica : Nat → Option MigrationPc
  completed : String → Bool

inductive MigrationAction
  | start (r : Nat)
  | claim (r now : Nat) (outcome : StoreOutcome)
  | up (r : Nat)
  | upEnds (r : Nat) (error : Option String)
  | apply (r now : Nat) (outcome : StoreOutcome)
  | undo (r : Nat) (outcome : StoreOutcome)
  | crash (r : Nat)
  deriving DecidableEq, Repr

/-- The error of a store step that failed. -/
def storeError : String := "MongoServerError"

namespace MigrationSystem

def goto (s : MigrationSystem) (r : Nat) (pc : MigrationPc) : MigrationSystem :=
  { s with replica := update s.replica r (some pc) }

/-- `findOneAndUpdate` with `$setOnInsert` and `upsert`, as far as the store goes. -/
def claim (s : MigrationSystem) (version : String) (now : Nat) : MigrationSystem :=
  { s with store := update s.store version (some ((s.store version).getD ⟨now, now⟩)) }

/-- `findOneAndUpdate` with `$set: { appliedAt }`. -/
def apply (s : MigrationSystem) (version : String) (now : Nat) : MigrationSystem :=
  let doc := (s.store version).map fun doc => { doc with appliedAt := now }
  { s with store := update s.store version doc }

/-- `deleteOne`. -/
def undo (s : MigrationSystem) (version : String) : MigrationSystem :=
  { s with store := update s.store version none }

/-- Nobody runs migrations, and those with a document have completed. -/
def idle (store : String → Option MigrationDoc) : MigrationSystem :=
  ⟨store, fun _ => none, fun version => (store version).isSome⟩

end MigrationSystem

/-- One step of a replica of `runMigrations`, over the given directory. -/
def migrationStep (path : String) (dir : Option (List MigrationFile)) (s : MigrationSystem) :
    MigrationAction → Option MigrationSystem
  | .start r =>
    match s.replica r with
    | none | some .returned | some (.threw _) =>
      match preflight path dir with
      | .ok versions => some (s.goto r (.loop versions))
      | .error error => some (s.goto r (.threw error))
    | _ => none
  | .claim r now outcome =>
    match s.replica r, outcome with
    | some (.claiming version rest), .done =>
      match s.store version with
      | some _ => some (s.goto r (.loop rest))
      | none => some ((s.claim version now).goto r (.won version rest))
    | some (.claiming version _), .lost => some ((s.claim version now).goto r (.threw storeError))
    | some (.claiming _ _), .failed => some (s.goto r (.threw storeError))
    | _, _ => none
  | .up r =>
    match s.replica r with
    | some (.won version rest) => some (s.goto r (.running version rest))
    | _ => none
  | .upEnds r error =>
    match s.replica r, error with
    | some (.running version rest), none =>
      some ({ s with completed := update s.completed version true }.goto r (.applying version rest))
    | some (.running version _), some e => some (s.goto r (.undoing version e))
    | _, _ => none
  | .apply r now outcome =>
    match s.replica r, outcome with
    | some (.applying version rest), .done => some ((s.apply version now).goto r (.loop rest))
    | some (.applying version _), .lost => some ((s.apply version now).goto r (.threw storeError))
    | some (.applying _ _), .failed => some (s.goto r (.threw storeError))
    | _, _ => none
  | .undo r outcome =>
    match s.replica r, outcome with
    | some (.undoing version e), .done => some ((s.undo version).goto r (.threw e))
    | some (.undoing version _), .lost => some ((s.undo version).goto r (.threw storeError))
    | some (.undoing _ _), .failed => some (s.goto r (.threw storeError))
    | _, _ => none
  | .crash r => some { s with replica := update s.replica r none }

/-! ## In order, once, completely -/

/-- The versions a directory lists before a version. -/
def earlier (dir : Option (List MigrationFile)) (version : String) : List String :=
  ((dir.getD []).map (·.stem)).takeWhile (· ≠ version)

/-- What the runner promises of every state. -/
structure RunsInOrder (dir : Option (List MigrationFile)) (s : MigrationSystem) : Prop where
  inOrder : ∀ r version rest, s.replica r = some (.running version rest) →
    ∀ u ∈ earlier dir version, s.completed u = true
  notAtOnce : ∀ r r' version rest rest', s.replica r = some (.running version rest) →
    s.replica r' = some (.running version rest') → r = r'
  notAgain : ∀ r version rest, s.replica r = some (.running version rest) →
    s.completed version = false
  completely : ∀ r, s.replica r = some .returned →
    ∀ m ∈ dir.getD [], s.completed m.stem = true

/-- A claim that finds the document of a migration finds that of a completed one. -/
def findsCompleted (s : MigrationSystem) : MigrationAction → Bool
  | .claim r _ .done =>
    match s.replica r with
    | some (.claiming version _) => (s.store version).isNone || s.completed version
    | _ => true
  | _ => true

/-- The condition on the steps of a run. -/
def FindsCompleted (s : MigrationSystem) (a : MigrationAction) : Prop := findsCompleted s a = true

instance (s : MigrationSystem) (a : MigrationAction) : Decidable (FindsCompleted s a) :=
  inferInstanceAs (Decidable (_ = true))

/-- What a replica at `pc` relies on.  One that holds a claim has its document, and the migration
has not completed; what lies behind a replica has. -/
def RelyAt (dir : Option (List MigrationFile)) (s : MigrationSystem) : MigrationPc → Prop
  | .claiming version rest => ∃ before, (dir.getD []).map (·.stem) = before ++ version :: rest ∧
      ∀ u ∈ before, s.completed u = true
  | .won version rest | .running version rest =>
      (s.store version).isSome = true ∧ s.completed version = false ∧
      ∃ before, (dir.getD []).map (·.stem) = before ++ version :: rest ∧
        ∀ u ∈ before, s.completed u = true
  | .applying version rest => ∃ before, (dir.getD []).map (·.stem) = before ++ version :: rest ∧
      (∀ u ∈ before, s.completed u = true) ∧ s.completed version = true
  | .undoing version _ => (s.store version).isSome = true ∧ s.completed version = false
  | .returned => ∀ u ∈ (dir.getD []).map (·.stem), s.completed u = true
  | .threw _ => True

/-- The version whose claim a replica holds. -/
def MigrationPc.holds : MigrationPc → Option String
  | won version _ | running version _ | undoing version _ => some version
  | _ => none

structure MigrationInv (dir : Option (List MigrationFile)) (s : MigrationSystem) : Prop where
  rely : ∀ r pc, s.replica r = some pc → RelyAt dir s pc
  holder : ∀ r r' pc pc' version, s.replica r = some pc → s.replica r' = some pc' →
    pc.holds = some version → pc'.holds = some version → r = r'
  documented : ∀ version, s.completed version = true → (s.store version).isSome = true

section
variable {path : String} {dir : Option (List MigrationFile)} {s s₁ : MigrationSystem}

theorem MigrationPc.holds_loop (versions : List String) : (loop versions).holds = none := by
  cases versions <;> rfl

/-- At the head of the loop everything before the rest has completed. -/
theorem relyAt_loop (before : List String) {rest : List String}
    (hdir : (dir.getD []).map (·.stem) = before ++ rest)
    (hbefore : ∀ u ∈ before, s.completed u = true) : RelyAt dir s (.loop rest) := by
  cases rest with
  | nil =>
    intro u hu
    rw [hdir, List.append_nil] at hu
    exact hbefore u hu
  | cons version rest => exact ⟨before, hdir, hbefore⟩

/-- The version at the head has completed, too. -/
theorem relyAt_next {before rest : List String} {version : String}
    (hdir : (dir.getD []).map (·.stem) = before ++ version :: rest)
    (hbefore : ∀ u ∈ before, s.completed u = true) (hdone : s.completed version = true) :
    RelyAt dir s (.loop rest) := by
  refine relyAt_loop (before ++ [version]) (by simpa using hdir) fun u hu => ?_
  rcases List.mem_append.mp hu with hu | hu
  · exact hbefore u hu
  · rw [List.mem_singleton.mp hu]
    exact hdone

/-- Completing more and keeping the claim a replica holds keeps what it relies on. -/
theorem RelyAt.mono {pc : MigrationPc} (h : RelyAt dir s pc)
    (hcompleted : ∀ u, s.completed u = true → s₁.completed u = true)
    (hheld : ∀ version, pc.holds = some version →
      (s₁.store version).isSome = true ∧ s₁.completed version = false) : RelyAt dir s₁ pc := by
  cases pc with
  | claiming version rest =>
    obtain ⟨before, hdir, hbefore⟩ := h
    exact ⟨before, hdir, fun u hu => hcompleted u (hbefore u hu)⟩
  | won version rest | running version rest =>
    obtain ⟨-, -, before, hdir, hbefore⟩ := h
    obtain ⟨hstore, hopen⟩ := hheld version rfl
    exact ⟨hstore, hopen, before, hdir, fun u hu => hcompleted u (hbefore u hu)⟩
  | applying version rest =>
    obtain ⟨before, hdir, hbefore, hdone⟩ := h
    exact ⟨before, hdir, fun u hu => hcompleted u (hbefore u hu), hcompleted version hdone⟩
  | undoing version error => exact hheld version rfl
  | returned => exact fun u hu => hcompleted u (h u hu)
  | threw error => trivial

/-- A replica that holds a claim has its document, and the migration has not completed. -/
theorem RelyAt.held {pc : MigrationPc} (h : RelyAt dir s pc) {version : String}
    (hholds : pc.holds = some version) :
    (s.store version).isSome = true ∧ s.completed version = false := by
  cases pc with
  | won v rest | running v rest =>
    obtain ⟨hstore, hopen, -⟩ := h
    cases hholds
    exact ⟨hstore, hopen⟩
  | undoing v error =>
    cases hholds
    exact h
  | claiming v rest | applying v rest => cases hholds
  | returned => cases hholds
  | threw error => cases hholds

namespace MigrationInv

theorem init (store : String → Option MigrationDoc) : MigrationInv dir (.idle store) where
  rely := by intro r pc h; cases h
  holder := by intro r r' pc pc' version h; cases h
  documented := fun _ h => h

/-- Replica `r` goes to `pc` after a step that leaves `s₁`. -/
theorem goto (hinv : MigrationInv dir s) {r : Nat} {pc : MigrationPc}
    (hreplica : s₁.replica = s.replica)
    (hcompleted : ∀ u, s.completed u = true → s₁.completed u = true)
    (hothers : ∀ q pc' version, q ≠ r → s.replica q = some pc' → pc'.holds = some version →
      pc.holds ≠ some version ∧ (s₁.store version).isSome = true ∧ s₁.completed version = false)
    (hself : RelyAt dir s₁ pc)
    (hdoc : ∀ u, s₁.completed u = true → (s₁.store u).isSome = true) :
    MigrationInv dir (s₁.goto r pc) where
  rely := by
    intro q pc' hq
    rcases update_some_iff.mp hq with ⟨rfl, rfl⟩ | ⟨hne, hq⟩
    · exact hself.mono (fun _ h => h) fun version hholds => hself.held hholds
    · rw [hreplica] at hq
      refine (hinv.rely q pc' hq).mono hcompleted fun version hholds => ?_
      exact (hothers q pc' version hne hq hholds).2
  holder := by
    intro q q' pc₁ pc₂ version hq hq' h₁ h₂
    rcases update_some_iff.mp hq with ⟨rfl, rfl⟩ | ⟨hne, hold⟩ <;>
      rcases update_some_iff.mp hq' with ⟨rfl, rfl⟩ | ⟨hne', hold'⟩
    · rfl
    · rw [hreplica] at hold'
      exact absurd h₁ (hothers q' pc₂ version hne' hold' h₂).1
    · rw [hreplica] at hold
      exact absurd h₂ (hothers q pc₁ version hne hold h₁).1
    · rw [hreplica] at hold hold'
      exact hinv.holder q q' pc₁ pc₂ version hold hold' h₁ h₂
  documented := hdoc

/-- A replica moves on without a claim in its hands, and the store keeps its documents. -/
theorem moves (hinv : MigrationInv dir s) {r : Nat} {pc : MigrationPc}
    (hreplica : s₁.replica = s.replica) (hcompleted : s₁.completed = s.completed)
    (hstore : ∀ u, (s.store u).isSome = true → (s₁.store u).isSome = true)
    (hnone : pc.holds = none) (hself : RelyAt dir s₁ pc) : MigrationInv dir (s₁.goto r pc) := by
  refine hinv.goto hreplica (fun u h => by rw [hcompleted]; exact h) ?_ hself ?_
  · intro q pc' version _ hq hholds
    obtain ⟨hsome, hopen⟩ := (hinv.rely q pc' hq).held hholds
    exact ⟨by simp [hnone], hstore version hsome, by rw [hcompleted]; exact hopen⟩
  · intro u hu
    rw [hcompleted] at hu
    exact hstore u (hinv.documented u hu)

/-- The replica that held a claim keeps it. -/
theorem keeps (hinv : MigrationInv dir s) {r : Nat} {pc pc' : MigrationPc}
    (hr : s.replica r = some pc) (hholds : pc'.holds = pc.holds) (hself : RelyAt dir s pc') :
    MigrationInv dir (s.goto r pc') := by
  refine hinv.goto rfl (fun _ h => h) ?_ hself hinv.documented
  intro q pc₁ version hne hq hheld
  refine ⟨fun hmine => hne ?_, (hinv.rely q pc₁ hq).held hheld⟩
  exact hinv.holder q r pc₁ pc version hq hr hheld (hholds ▸ hmine)

/-- A version nobody claimed is claimed. -/
theorem claims (hinv : MigrationInv dir s) {r now : Nat} {version : String} {rest : List String}
    (hr : s.replica r = some (.claiming version rest)) (hfree : s.store version = none) :
    MigrationInv dir ((s.claim version now).goto r (.won version rest)) := by
  have hopen : s.completed version = false := by
    cases hc : s.completed version with
    | false => rfl
    | true => simpa [hfree] using hinv.documented version hc
  have hgrows : ∀ u, (s.store u).isSome = true → ((s.claim version now).store u).isSome = true := by
    intro u hu
    by_cases h : u = version <;> simp [MigrationSystem.claim, h, hu]
  obtain ⟨before, hdir, hbefore⟩ := hinv.rely r _ hr
  refine hinv.goto rfl (fun _ h => h) ?_ ⟨?_, hopen, before, hdir, hbefore⟩ fun u hu =>
    hgrows u (hinv.documented u hu)
  · intro q pc u _ hq hholds
    obtain ⟨hsome, hopen⟩ := (hinv.rely q pc hq).held hholds
    refine ⟨fun hmine => ?_, hgrows u hsome, hopen⟩
    obtain rfl : version = u := Option.some.inj hmine
    simp [hfree] at hsome
  · simp [MigrationSystem.claim]

/-- A claim that failed, with or without the document. -/
theorem claim_fails (hinv : MigrationInv dir s) {r now : Nat} {version : String} :
    MigrationInv dir ((s.claim version now).goto r (.threw storeError)) := by
  refine hinv.moves rfl rfl (fun u hu => ?_) rfl trivial
  by_cases h : u = version <;> simp [MigrationSystem.claim, h, hu]

/-- `up` returned. -/
theorem completes (hinv : MigrationInv dir s) {r : Nat} {version : String} {rest : List String}
    (hr : s.replica r = some (.running version rest)) :
    MigrationInv dir
      ({ s with completed := update s.completed version true }.goto r (.applying version rest)) := by
  have hgrows : ∀ u, s.completed u = true → update s.completed version true u = true := by
    intro u hu
    by_cases h : u = version <;> simp [h, hu]
  obtain ⟨hsome, -, before, hdir, hbefore⟩ := hinv.rely r _ hr
  refine hinv.goto rfl hgrows ?_
    ⟨before, hdir, fun u hu => hgrows u (hbefore u hu), update_self ..⟩ ?_
  · intro q pc u hne hq hholds
    obtain ⟨hstore, hopen⟩ := (hinv.rely q pc hq).held hholds
    refine ⟨by simp [MigrationPc.holds], hstore, ?_⟩
    have hu : u ≠ version := by
      rintro rfl
      exact hne (hinv.holder q r pc _ u hq hr hholds rfl)
    simp [hu, hopen]
  · intro u hu
    by_cases h : u = version
    · rw [h]; exact hsome
    · exact hinv.documented u (by simpa [h] using hu)

/-- The claim of a failed `up` is deleted. -/
theorem undoes (hinv : MigrationInv dir s) {r : Nat} {version error e : String}
    (hr : s.replica r = some (.undoing version error)) :
    MigrationInv dir ((s.undo version).goto r (.threw e)) := by
  obtain ⟨-, hopen⟩ := hinv.rely r _ hr
  refine hinv.goto rfl (fun _ h => h) ?_ trivial ?_
  · intro q pc u hne hq hholds
    obtain ⟨hstore, hu⟩ := (hinv.rely q pc hq).held hholds
    refine ⟨by simp [MigrationPc.holds], ?_, hu⟩
    have hu : u ≠ version := by
      rintro rfl
      exact hne (hinv.holder q r pc _ u hq hr hholds rfl)
    simpa [MigrationSystem.undo, hu] using hstore
  · intro u hu
    have hne : u ≠ version := by
      rintro rfl
      rw [show s.completed u = true from hu] at hopen
      cases hopen
    simpa [MigrationSystem.undo, hne] using hinv.documented u hu

/-- A process is gone, and its claim stays. -/
theorem crashes (hinv : MigrationInv dir s) {r : Nat} :
    MigrationInv dir { s with replica := update s.replica r none } where
  rely := by
    intro q pc hq
    have h := hinv.rely q pc (update_none_iff.mp hq).2
    exact h.mono (fun _ h => h) fun version hholds => h.held hholds
  holder := fun q q' pc pc' version hq hq' =>
    hinv.holder q q' pc pc' version (update_none_iff.mp hq).2 (update_none_iff.mp hq').2
  documented := hinv.documented

/-- A run begins. -/
theorem start (hinv : MigrationInv dir s) {r : Nat} {s' : MigrationSystem}
    (hstep : migrationStep path dir s (.start r) = some s') : MigrationInv dir s' := by
  have hbegin : ∀ {s'}, (match preflight path dir with
      | .ok versions => some (s.goto r (.loop versions))
      | .error error => some (s.goto r (.threw error))) = some s' → MigrationInv dir s' := by
    intro s' h
    split at h <;> cases h
    · rename_i versions hok
      obtain ⟨files, rfl, rfl⟩ := migrations_preflight_ok hok
      refine hinv.moves rfl rfl (fun _ h => h) (MigrationPc.holds_loop _) ?_
      exact relyAt_loop [] (List.nil_append _).symm (by simp)
    · exact hinv.moves rfl rfl (fun _ h => h) rfl trivial
  unfold migrationStep at hstep
  dsimp only at hstep
  split at hstep
  · exact hbegin hstep
  · exact hbegin hstep
  · exact hbegin hstep
  · cases hstep

/-- A claim is made, found, or fails. -/
theorem claim (hinv : MigrationInv dir s) {r now : Nat} {outcome : StoreOutcome}
    {s' : MigrationSystem} (hok : FindsCompleted s (.claim r now outcome))
    (hstep : migrationStep path dir s (.claim r now outcome) = some s') : MigrationInv dir s' := by
  unfold migrationStep at hstep
  dsimp only at hstep
  split at hstep
  · rename_i version rest hr
    split at hstep <;> cases hstep
    · rename_i doc hdoc
      obtain ⟨before, hdir, hbefore⟩ := hinv.rely r _ hr
      have hdone : s.completed version = true := by
        simpa [FindsCompleted, findsCompleted, hr, hdoc] using hok
      refine hinv.moves rfl rfl (fun _ h => h) (MigrationPc.holds_loop _) ?_
      exact relyAt_next hdir hbefore hdone
    · rename_i hfree
      exact hinv.claims hr hfree
  · cases hstep
    exact hinv.claim_fails
  · cases hstep
    exact hinv.moves rfl rfl (fun _ h => h) rfl trivial
  · cases hstep

/-- A completed migration is marked, and the replica goes on. -/
theorem apply (hinv : MigrationInv dir s) {r now : Nat} {outcome : StoreOutcome}
    {s' : MigrationSystem}
    (hstep : migrationStep path dir s (.apply r now outcome) = some s') : MigrationInv dir s' := by
  have hkeeps : ∀ version u, (s.store u).isSome = true →
      ((s.apply version now).store u).isSome = true := by
    intro version u hu
    by_cases h : u = version
    · subst h
      simpa [MigrationSystem.apply] using hu
    · simp [MigrationSystem.apply, h, hu]
  unfold migrationStep at hstep
  dsimp only at hstep
  split at hstep <;> cases hstep
  · rename_i version rest hr
    obtain ⟨before, hdir, hbefore, hdone⟩ := hinv.rely r _ hr
    refine hinv.moves rfl rfl (hkeeps version) (MigrationPc.holds_loop _) ?_
    exact relyAt_next hdir hbefore hdone
  · exact hinv.moves rfl rfl (hkeeps _) rfl trivial
  · exact hinv.moves rfl rfl (fun _ h => h) rfl trivial

/-- **One step keeps the invariant.** -/
theorem step (hinv : MigrationInv dir s) {a : MigrationAction} {s' : MigrationSystem}
    (hok : FindsCompleted s a) (hstep : migrationStep path dir s a = some s') :
    MigrationInv dir s' := by
  cases a with
  | start r => exact hinv.start hstep
  | claim r now outcome => exact hinv.claim hok hstep
  | up r =>
    unfold migrationStep at hstep
    dsimp only at hstep
    split at hstep <;> cases hstep
    rename_i hr
    have hrely := hinv.rely r _ hr
    exact hinv.keeps hr rfl hrely
  | upEnds r error =>
    unfold migrationStep at hstep
    dsimp only at hstep
    split at hstep <;> cases hstep
    · rename_i hr
      exact hinv.completes hr
    · rename_i hr
      exact hinv.keeps hr rfl ((hinv.rely r _ hr).held rfl)
  | apply r now outcome => exact hinv.apply hstep
  | undo r outcome =>
    unfold migrationStep at hstep
    dsimp only at hstep
    split at hstep <;> cases hstep
    · rename_i hr
      exact hinv.undoes hr
    · rename_i hr
      exact hinv.undoes hr
    · exact hinv.moves rfl rfl (fun _ h => h) rfl trivial
  | crash r =>
    cases hstep
    exact hinv.crashes

end MigrationInv

theorem earlier_subset {version : String} {before rest : List String}
    (hdir : (dir.getD []).map (·.stem) = before ++ version :: rest) :
    ∀ u ∈ earlier dir version, u ∈ before := by
  intro u hu
  rw [earlier, hdir, List.takeWhile_append] at hu
  split at hu
  · simpa using hu
  · exact (List.takeWhile_sublist _).subset hu

/-- What replicas rely on is what the runner promises. -/
theorem MigrationInv.runsInOrder (hinv : MigrationInv dir s) : RunsInOrder dir s where
  inOrder := by
    intro r version rest hr u hu
    obtain ⟨-, -, before, hdir, hbefore⟩ := hinv.rely r _ hr
    exact hbefore u (earlier_subset hdir u hu)
  notAtOnce := fun r r' version rest rest' hr hr' =>
    hinv.holder r r' _ _ version hr hr' rfl rfl
  notAgain := by
    intro r version rest hr
    obtain ⟨-, hopen, -⟩ := hinv.rely r _ hr
    exact hopen
  completely := fun r hr m hm => hinv.rely r _ hr m.stem (List.mem_map_of_mem hm)

/-- **Migrations run in order, once, and completely**, over every run of any number of replicas with
failing migrations, failing store steps and crashes, as long as no replica finds the document of a
migration that has not completed. -/
theorem migrations_run_in_order (store : String → Option MigrationDoc)
    (h : Reach (migrationStep path dir) FindsCompleted (.idle store) s) : RunsInOrder dir s := by
  have hinv : MigrationInv dir s :=
    h.invariant (.init store) fun hinv hok hstep => hinv.step hok hstep
  exact hinv.runsInOrder

end

/-- Two migrations. -/
def twoMigrations : Option (List MigrationFile) :=
  some [⟨"001_backfill", some "001_backfill"⟩, ⟨"002_index", some "002_index"⟩]

/-- The second migration fails on one replica, and the next one takes it up again. -/
theorem migrations_run_in_order_retried : ∃ s,
    execOk (migrationStep "migrations" twoMigrations) FindsCompleted (.idle fun _ => none)
      [.start 0, .claim 0 1 .done, .up 0, .start 1, .upEnds 0 none, .apply 0 2 .done,
        .claim 0 3 .done, .up 0, .upEnds 0 (some "E"), .undo 0 .done, .claim 1 4 .done,
        .claim 1 5 .done, .up 1] = some s ∧
    s.replica 1 = some (.running "002_index" []) ∧ RunsInOrder twoMigrations s := by
  have hrun : (execOk (migrationStep "migrations" twoMigrations) FindsCompleted (.idle fun _ => none)
      [.start 0, .claim 0 1 .done, .up 0, .start 1, .upEnds 0 none, .apply 0 2 .done,
        .claim 0 3 .done, .up 0, .upEnds 0 (some "E"), .undo 0 .done, .claim 1 4 .done,
        .claim 1 5 .done, .up 1]).map (·.replica 1) = some (some (.running "002_index" [])) := by
    decide +kernel
  obtain ⟨s, hs, hpc⟩ := Option.map_eq_some_iff.mp hrun
  exact ⟨s, hs, hpc, migrations_run_in_order _ (.of_execOk hs)⟩

/-- A replica that finds the claim of a running migration goes on to the next one: it runs `002`
while `001` has not completed. -/
theorem migration_overtakes : ¬ ∀ (path : String) (dir : Option (List MigrationFile))
    (store : String → Option MigrationDoc) (s : MigrationSystem),
    Reach (migrationStep path dir) Free (.idle store) s → RunsInOrder dir s := by
  intro hclaim
  have hrun : (exec (migrationStep "migrations" twoMigrations) (.idle fun _ => none)
      [.start 0, .claim 0 1 .done, .up 0, .start 1, .claim 1 2 .done, .claim 1 3 .done, .up 1]).map
      (fun s => (s.replica 1, s.completed "001_backfill")) =
        some (some (.running "002_index" []), false) := by
    decide +kernel
  obtain ⟨s, hs, hview⟩ := Option.map_eq_some_iff.mp hrun
  obtain ⟨hpc, hopen⟩ := Prod.mk.inj hview
  have hdone := (hclaim _ _ _ s (reach_of_exec hs)).inOrder 1 "002_index" [] hpc "001_backfill"
    (by decide)
  rw [hopen] at hdone
  cases hdone

end StellarEduPay
