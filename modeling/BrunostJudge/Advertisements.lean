import BrunostJudge.Enrollment
import BrunostJudge.Inventory
import BrunostJudge.SharedRow

namespace BrunostJudge
open Python Relational Transition JudgeStore
set_option autoImplicit true

/-- The row tells what the calls so far have set last. -/
structure UpToDate (worker : WorkerRecord) (h : List InventoryEvent) (row : WorkerRecord) :
    Prop where
  draining : row.draining = (h.findSome? InventoryEvent.draining?).getD worker.draining
  status : row.status = (h.findSome? InventoryEvent.status?).getD worker.status
  capabilities : row.capabilities =
    (h.findSome? InventoryEvent.advertised?).getD worker.capabilities

/-- What an advertisement writes back is what stands in the row. -/
def Undisturbed (workerId : String) (s : Advertising) (e : InventoryEvent) : Prop :=
  ∀ request capabilities updated row, e = .write request capabilities →
    s.advertised request = some updated → s.store.workers.find? workerId = some row →
    updated.draining = row.draining ∧ updated.status = row.status

/-- No advertisement is under way. -/
structure Unadvertised (workerId : String) (worker : WorkerRecord) (s : Advertising) : Prop where
  row : s.store.workers.find? workerId = some worker
  advertised : ∀ request, s.advertised request = none

/-- A column that the other calls set. -/
inductive InventoryUpdate where
  | draining (draining : Bool)
  | status (status : String)

def InventoryUpdate.apply : InventoryUpdate → Bool × String → Bool × String
  | .draining d, kept => (d, kept.2)
  | .status st, kept => (kept.1, st)

def sortedLabels (capabilities : List String) : List String := capabilities.insertionSort (· ≤ ·)

def InventoryEvent.act? :
    InventoryEvent → Option (SharedRow.Act Nat InventoryUpdate (List String))
  | .read request capabilities => some (.read request (sortedLabels capabilities))
  | .write request capabilities => some (.write request (sortedLabels capabilities))
  | .heartbeat status => some (.update (.status status))
  | .drain draining => some (.update (.draining draining))
  | .elsewhere => none

/-- The row as its readers and writers share it. -/
def Advertising.shared (s : Advertising) (row : WorkerRecord) :
    SharedRow.State Nat (Bool × String) (List String) where
  kept := (row.draining, row.status)
  own := row.capabilities
  held request := (s.advertised request).map fun updated =>
    ((updated.draining, updated.status), sortedLabels updated.capabilities)

/-- The advertisements under way are the worker's own. -/
def OwnAdvertisements (workerId : String) (s : Advertising) : Prop :=
  ∀ request updated, s.advertised request = some updated → updated.workerId = workerId

section
variable {workerId : String} {s s' : Advertising} {e : InventoryEvent}
  {worker row row' : WorkerRecord} {h : List InventoryEvent} {now : Instant}

theorem advertisedWorker_ok (h : advertisedWorker admin capabilities worker = .ok updated) :
    updated.workerId = worker.workerId ∧ updated.draining = worker.draining ∧
      updated.status = worker.status := by
  rw [advertisedWorker] at h
  cases admin with
  | true =>
    cases pure_ok.1 h
    exact ⟨rfl, rfl, rfl⟩
  | false =>
    obtain ⟨_, _, h⟩ := bind_ok.1 h
    obtain ⟨_, h⟩ := check_ok.1 h
    cases pure_ok.1 h
    exact ⟨rfl, rfl, rfl⟩

theorem drainWorker_row (s : JudgeStore) (now : Instant) (draining : Bool)
    (hrow : s.workers.find? workerId = some row) :
    (s.drainWorker now workerId draining).workers.find? workerId =
      some { row with draining := draining, lastSeen := some now } := by
  have hkey : row.workerId = workerId := Table.key_of_find? hrow
  rw [JudgeStore.drainWorker, Table.find?_update, hrow, Option.map_some, if_pos]
  simp [hkey]

theorem OwnAdvertisements.update (hown : OwnAdvertisements workerId s)
    (hvalue : ∀ updated, value = some updated → updated.workerId = workerId) (request : Nat) :
    OwnAdvertisements workerId ⟨store, Function.update s.advertised request value⟩ := by
  intro other updated hother
  change Function.update s.advertised request value other = some updated at hother
  by_cases he : other = request
  · rw [he, Function.update_self] at hother
    exact hvalue updated hother
  · rw [Function.update_of_ne he] at hother
    exact hown other updated hother

theorem shared_update (s : Advertising) (store : JudgeStore) (request : Nat)
    (value : Option WorkerRecord) (row : WorkerRecord) :
    Advertising.shared ⟨store, Function.update s.advertised request value⟩ row =
      ⟨(row.draining, row.status), row.capabilities,
        Function.update (s.shared row).held request (value.map fun updated =>
          ((updated.draining, updated.status), sortedLabels updated.capabilities))⟩ := by
  have hheld := Function.comp_update (fun held : Option WorkerRecord => held.map fun updated =>
    ((updated.draining, updated.status), sortedLabels updated.capabilities))
      s.advertised request value
  exact congrArg (SharedRow.State.mk _ _) hheld

theorem step_shared (hs : InventoryStep workerId s e s')
    (hrow : s.store.workers.find? workerId = some row) (hown : OwnAdvertisements workerId s) :
    OwnAdvertisements workerId s' ∧ ∃ row', s'.store.workers.find? workerId = some row' ∧
      ((e.act? = none ∧ s'.shared row' = s.shared row) ∨
        ∃ a, e.act? = some a ∧
          SharedRow.Step InventoryUpdate.apply (s.shared row) a (s'.shared row')) := by
  cases hs with
  | @read request admin capabilities worker updated hworker hupdated =>
    cases Option.some.inj (hrow.symm.trans hworker)
    obtain ⟨hid, hdraining, hstatus⟩ := advertisedWorker_ok hupdated
    have hkey : updated.workerId = workerId := hid.trans (Table.key_of_find? hrow)
    refine ⟨hown.update (fun _ he => Option.some.inj he ▸ hkey) request, row, hrow,
      .inr ⟨_, rfl, ?_⟩⟩
    rw [shared_update, Option.map_some, hdraining, hstatus]
    exact .read
  | @write request now updated hupdated =>
    have hkey := hown request updated hupdated
    have hheld : (s.shared row).held request =
        some ((updated.draining, updated.status), sortedLabels updated.capabilities) := by
      rw [Advertising.shared]
      simp only [hupdated, Option.map_some]
    refine ⟨hown.update (fun _ he => by cases he) request, workerRow now updated,
      registerWorker_row s.store now hkey, .inr ⟨_, rfl, ?_⟩⟩
    rw [shared_update]
    exact .write hheld
  | heartbeat =>
    exact ⟨hown, _, heartbeatWorker_row s.store _ _ hrow, .inr ⟨_, rfl, .update⟩⟩
  | drain =>
    exact ⟨hown, _, drainWorker_row s.store _ _ hrow, .inr ⟨_, rfl, .update⟩⟩
  | elsewhere hsame =>
    exact ⟨hown, row, hsame.trans hrow, .inl ⟨rfl, rfl⟩⟩

theorem undisturbed_iff (hrow : s.store.workers.find? workerId = some row)
    (hs : InventoryStep workerId s e s') (hact : e.act? = some a) :
    SharedRow.Undisturbed (s.shared row) a ↔ Undisturbed workerId s e := by
  cases hs with
  | @write request now updated hupdated =>
    cases hact
    have hheld : (s.shared row).held request =
        some ((updated.draining, updated.status), sortedLabels updated.capabilities) := by
      rw [Advertising.shared]
      simp only [hupdated, Option.map_some]
    constructor
    · intro hundisturbed request' capabilities updated' row' he hupdated' hrow'
      cases he
      cases Option.some.inj (hupdated.symm.trans hupdated')
      cases Option.some.inj (hrow.symm.trans hrow')
      exact Prod.mk.inj (hundisturbed request _ _ rfl hheld)
    · intro hundisturbed request' k v he hheld'
      cases he
      cases Option.some.inj (hheld.symm.trans hheld')
      obtain ⟨hdraining, hstatus⟩ := hundisturbed request _ updated row rfl hupdated hrow
      exact Prod.ext hdraining hstatus
  | read | heartbeat | drain =>
    cases hact
    apply iff_of_true
    · intro _ _ _ he
      cases he
    · intro _ _ _ _ he
      cases he
  | elsewhere => cases hact

theorem updated_acts (kept : Bool × String) (h : List InventoryEvent) :
    SharedRow.updated InventoryUpdate.apply kept (h.filterMap InventoryEvent.act?) =
      ((h.findSome? InventoryEvent.draining?).getD kept.1,
        (h.findSome? InventoryEvent.status?).getD kept.2) := by
  induction h with
  | nil => rfl
  | cons e h ih =>
    cases e with
    | read => exact ih
    | write => exact ih
    | elsewhere => exact ih
    | heartbeat status => exact congrArg (InventoryUpdate.status status).apply ih
    | drain draining => exact congrArg (InventoryUpdate.draining draining).apply ih

theorem written_acts (own : List String) (h : List InventoryEvent) :
    SharedRow.written own (h.filterMap InventoryEvent.act?) =
      (h.findSome? InventoryEvent.advertised?).getD own := by
  induction h with
  | nil => rfl
  | cons e h ih =>
    cases e with
    | write => rfl
    | _ => exact ih

theorem current_iff : SharedRow.Current InventoryUpdate.apply (worker.draining, worker.status)
    worker.capabilities (h.filterMap InventoryEvent.act?) (s.shared row) ↔
      UpToDate worker h row := by
  constructor
  · rintro ⟨hkept, hown⟩
    rw [updated_acts] at hkept
    rw [written_acts] at hown
    obtain ⟨hdraining, hstatus⟩ := Prod.mk.inj hkept
    exact ⟨hdraining, hstatus, hown⟩
  · rintro ⟨hdraining, hstatus, hown⟩
    constructor
    · rw [updated_acts]
      exact Prod.ext hdraining hstatus
    · rw [written_acts]
      exact hown

theorem UpToDate.next_iff (hcurrent : UpToDate worker h row) (hs : InventoryStep workerId s e s')
    (hrow : s.store.workers.find? workerId = some row)
    (hrow' : s'.store.workers.find? workerId = some row') (hown : OwnAdvertisements workerId s) :
    UpToDate worker (e :: h) row' ↔ Undisturbed workerId s e := by
  obtain ⟨_, row'', hfound, hshared⟩ := step_shared hs hrow hown
  cases Option.some.inj (hfound.symm.trans hrow')
  have hcurrent' := current_iff (s := s) |>.2 hcurrent
  rw [← current_iff (s := s')]
  obtain ⟨hnone, hsame⟩ | ⟨a, hact, hstep⟩ := hshared
  · rw [List.filterMap_cons_none hnone, hsame]
    have hundisturbed : Undisturbed workerId s e := by
      intro _ _ _ _ he
      rw [he] at hnone
      cases hnone
    exact ⟨fun _ => hundisturbed, fun _ => hcurrent'⟩
  · rw [List.filterMap_cons_some hact, hcurrent'.next_iff hstep]
    exact undisturbed_iff hrow hs hact

/-- In a run whose calls are undisturbed the row is up to date. -/
theorem run_upToDate (hrun : Run (Unadvertised workerId worker)
      (fun s e s' => InventoryStep workerId s e s' ∧ Undisturbed workerId s e) h s) :
    OwnAdvertisements workerId s ∧
      ∃ row, s.store.workers.find? workerId = some row ∧ UpToDate worker h row := by
  induction hrun with
  | start hinit =>
    constructor
    · intro request updated hupdated
      cases (hinit.advertised request).symm.trans hupdated
    · exact ⟨worker, hinit.row, rfl, rfl, rfl⟩
  | next _ hs ih =>
    obtain ⟨hstep, hundisturbed⟩ := hs
    obtain ⟨hown, row, hrow, hcurrent⟩ := ih
    obtain ⟨hown', row', hrow', _⟩ := step_shared hstep hrow hown
    exact ⟨hown', row', hrow', (hcurrent.next_iff hstep hrow hrow' hown).2 hundisturbed⟩

/-- In a run whose advertisements write back what stands in the row, no update of the row is lost,
and a drained worker gets no work. Any other write loses an update. -/
theorem updates_kept (hrun : Run (Unadvertised workerId worker)
      (fun s e s' => InventoryStep workerId s e s' ∧ Undisturbed workerId s e) h s) :
    ∃ row, s.store.workers.find? workerId = some row ∧ UpToDate worker h row ∧
      (h.findSome? InventoryEvent.draining? = some true → ∀ parameterLimit now leaseSeconds,
        claimWorker s.store parameterLimit now workerId leaseSeconds = .ok (none, s.store)) ∧
      ∀ e s' row', InventoryStep workerId s e s' →
        s'.store.workers.find? workerId = some row' →
        (UpToDate worker (e :: h) row' ↔ Undisturbed workerId s e) := by
  obtain ⟨hown, row, hrow, hcurrent⟩ := run_upToDate hrun
  refine ⟨row, hrow, hcurrent, ?_, ?_⟩
  · intro hdrained parameterLimit now leaseSeconds
    have hdraining : row.draining = true := by
      rw [hcurrent.draining, hdrained]
      rfl
    rw [claimWorker, JudgeStore.getWorker, hrow]
    exact if_pos (.inl hdraining)
  · intro e s' row' hstep hrow'
    exact hcurrent.next_iff hstep hrow hrow' hown

/-- An advertisement that nothing comes between is its two calls, and it loses no update. -/
theorem advertise_path {store : JudgeStore} (request : Nat)
    (h : advertiseWorkerCapabilities s.store now admin workerId capabilities = .ok (reply, store)) :
    ∃ worker updated, s.store.getWorker workerId = some worker ∧
      advertisedWorker admin capabilities worker = .ok updated ∧
      store = s.store.registerWorker now updated ∧
      Path (fun s e s' => InventoryStep workerId s e s' ∧ Undisturbed workerId s e) s
        [.write request updated.capabilities, .read request updated.capabilities]
        ⟨store, Function.update s.advertised request none⟩ := by
  cases hworker : s.store.getWorker workerId with
  | none =>
    rw [advertiseWorkerCapabilities, hworker] at h
    exact (abort_ok.1 h).elim
  | some worker =>
    have hupdated : ∃ updated, advertisedWorker admin capabilities worker = .ok updated ∧
        s.store.registerWorker now updated = store := by
      rw [advertiseWorkerCapabilities, hworker] at h
      rw [advertisedWorker]
      cases admin with
      | true =>
        cases pure_ok.1 h
        exact ⟨_, rfl, rfl⟩
      | false =>
        obtain ⟨approved, happroved, h⟩ := bind_ok.1 h
        obtain ⟨hwithin, h⟩ := check_ok.1 h
        cases pure_ok.1 h
        exact ⟨_, bind_ok.2 ⟨approved, happroved, check_ok.2 ⟨hwithin, rfl⟩⟩, rfl⟩
    obtain ⟨updated, hupdated, hstore⟩ := hupdated
    let reading : Advertising := ⟨s.store, Function.update s.advertised request (some updated)⟩
    have hread : InventoryStep workerId s (.read request updated.capabilities) reading :=
      .read hworker hupdated
    have hheld : reading.advertised request = some updated := Function.update_self ..
    have hwrite : InventoryStep workerId reading (.write request updated.capabilities)
        ⟨s.store.registerWorker now updated, Function.update reading.advertised request none⟩ :=
      .write hheld
    rw [Function.update_idem, hstore] at hwrite
    have hundisturbed : Undisturbed workerId reading (.write request updated.capabilities) := by
      intro request' capabilities' updated' row he hupdated' hrow
      cases he
      cases Option.some.inj (hheld.symm.trans hupdated')
      cases Option.some.inj (hworker.symm.trans hrow)
      exact (advertisedWorker_ok hupdated).2
    have hfirst : Undisturbed workerId s (.read request updated.capabilities) := by
      intro _ _ _ _ he
      cases he
    exact ⟨worker, updated, rfl, hupdated, hstore.symm,
      (Path.single ⟨hread, hfirst⟩).next ⟨hwrite, hundisturbed⟩⟩

end

namespace Sample

def poolWorker : WorkerRecord where
  workerId := "w1"
  capabilities := ["gpu"]
  queues := ["default"]
  resourceClasses := ["cpu"]
  region := "eu-north"
  status := "ready"
  draining := false
  metadata := []
  lastSeen := some (clock 2)

/-- A worker and an execution for it. -/
def pool : Advertising :=
  ⟨(performAll sha256 .empty (queued ++ [(clock 2, .registerWorker poolWorker)])).2, fun _ => none⟩

/-- What the worker advertises. -/
def advertisement : WorkerRecord :=
  { poolWorker with metadata := [("detected_capabilities", texts ["gpu"])] }

def advertising : Advertising :=
  { pool with advertised := Function.update pool.advertised 0 (some advertisement) }

def drained (s : Advertising) (seconds : Nat) : Advertising :=
  { s with store := s.store.drainWorker (clock seconds) "w1" true }

def written (s : Advertising) (seconds : Nat) : Advertising :=
  ⟨s.store.registerWorker (clock seconds) advertisement, Function.update s.advertised 0 none⟩

theorem pool_unadvertised : Unadvertised "w1" poolWorker pool := by
  have hrow : pool.store.workers.find? "w1" = some poolWorker := by decide +kernel
  exact ⟨hrow, fun _ => rfl⟩

theorem read_step : InventoryStep "w1" pool (.read 0 ["gpu"]) advertising := by
  have hupdated : advertisedWorker false ["gpu"] poolWorker = .ok advertisement := by decide +kernel
  exact .read pool_unadvertised.row hupdated

theorem drain_step (s : Advertising) (seconds : Nat) :
    InventoryStep "w1" s (.drain true) (drained s seconds) := .drain

theorem write_step {s : Advertising} (hs : s.advertised 0 = some advertisement) (seconds : Nat) :
    InventoryStep "w1" s (.write 0 ["gpu"]) (written s seconds) := .write hs

theorem advertising_held : advertising.advertised 0 = some advertisement := by
  exact Function.update_self (0 : Nat) (some advertisement) pool.advertised

theorem drained_held (s : Advertising) (seconds : Nat) :
    (drained s seconds).advertised = s.advertised := rfl

end Sample

/-- A drain between the two calls of an advertisement is lost, and the worker gets work. -/
theorem lost_drain_sample : ∃ h s row claim store,
    Run (Unadvertised "w1" Sample.poolWorker) (InventoryStep "w1") h s ∧
    (∀ request, s.advertised request = none) ∧
    h.findSome? InventoryEvent.draining? = some true ∧
    s.store.workers.find? "w1" = some row ∧ row.draining = false ∧
    claimWorker s.store Sample.parameterLimit (Sample.clock 9) "w1" 60 =
      .ok (some claim, store) := by
  let s := Sample.written (Sample.drained Sample.advertising 3) 4
  have hheld : (Sample.drained Sample.advertising 3).advertised 0 = some Sample.advertisement := by
    rw [Sample.drained_held, Sample.advertising_held]
  have hrun : Run (Unadvertised "w1" Sample.poolWorker) (InventoryStep "w1")
      [.write 0 ["gpu"], .drain true, .read 0 ["gpu"]] s :=
    (((Run.start Sample.pool_unadvertised).next Sample.read_step).next
      (Sample.drain_step Sample.advertising 3)).next (Sample.write_step hheld 4)
  have hrow : (s.store.workers.find? "w1").any (fun row => row.draining = false) = true := by
    decide +kernel
  have hclaim : (claimWorker s.store Sample.parameterLimit (Sample.clock 9) "w1"
      60).toOption.any (fun p => p.1.isSome) = true := by
    decide +kernel
  obtain ⟨row, hrow, hdraining⟩ := (Option.any_eq_true _ _).1 hrow
  obtain ⟨⟨reply, store⟩, hclaimed, hsome⟩ := (Option.any_eq_true _ _).1 hclaim
  obtain ⟨claim, hsome⟩ := Option.isSome_iff_exists.1 hsome
  cases hsome
  refine ⟨_, s, row, claim, store, hrun, ?_, rfl, hrow, of_decide_eq_true hdraining,
    toOption_eq_some.1 hclaimed⟩
  intro request
  change Function.update (Sample.drained Sample.advertising 3).advertised 0 none request = none
  by_cases he : request = 0
  · rw [he, Function.update_self]
  · rw [Function.update_of_ne he, Sample.drained_held]
    exact Function.update_of_ne he _ _

theorem updates_kept_sample :
    ∃ row, (Sample.drained (Sample.written Sample.advertising 3) 4).store.workers.find? "w1" =
        some row ∧ row.draining = true ∧ row.capabilities = ["gpu"] ∧
      claimWorker (Sample.drained (Sample.written Sample.advertising 3) 4).store
          Sample.parameterLimit (Sample.clock 9) "w1" 60 =
        .ok (none, (Sample.drained (Sample.written Sample.advertising 3) 4).store) := by
  have hcall : (advertiseWorkerCapabilities Sample.pool.store (Sample.clock 3) false "w1"
      ["gpu"]).isOk = true := by
    decide +kernel
  obtain ⟨_, hcall⟩ := isOk_iff.1 hcall
  obtain ⟨worker, updated, hworker, hupdated, hstore, hpath⟩ := advertise_path 0 hcall
  cases Option.some.inj (hworker.symm.trans Sample.pool_unadvertised.row)
  have hadvertised : advertisedWorker false ["gpu"] Sample.poolWorker =
      .ok Sample.advertisement := by
    decide +kernel
  cases hupdated.symm.trans hadvertised
  rw [hstore] at hpath
  have hdrain (s : Advertising) : Undisturbed "w1" s (.drain true) := by
    intro _ _ _ _ he
    cases he
  obtain ⟨row, hrow, hcurrent, hdrained, _⟩ := updates_kept
    (((Run.start Sample.pool_unadvertised).append hpath).next ⟨.drain, hdrain _⟩)
  exact ⟨row, hrow, hcurrent.draining, hcurrent.capabilities, hdrained rfl _ _ _⟩

end BrunostJudge
