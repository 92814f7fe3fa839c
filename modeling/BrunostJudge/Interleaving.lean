import BrunostJudge.Postgres
import BrunostJudge.StoreRun

namespace BrunostJudge
open Python Transition ReadCommitted PostgresJudgeStore
set_option autoImplicit true

section
variable {bindResult : Encoder → ExecutionResult → Except PyError ResultColumns}
variable {capable : List PyStr → Execution → Bool}

/-- What a transaction has to keep up: the execution asks for a callback, and its entry in the
outbox follows when it is over. -/
abbrev Notifying : Transaction → Prop :=
  Program.Sound (fun r => r.callback?.isSome) (fun r => r.status.terminal) losesNotification

theorem notify_notes (hr : r.callback?.isSome) : (notify r next).Notes P := by
  rw [notify, if_pos hr]
  trivial

theorem notify_notifying (hnext : Notifying next) : Notifying (notify r next) := by
  rw [notify]
  split
  · exact hnext
  · exact hnext

theorem cancel_notifying : Notifying (PostgresJudgeStore.cancel now) := by
  intro existing hexisting
  have hsound : Notifying (if existing.status = .queued then notify existing .commit
      else .commit) := by
    split
    · exact notify_notifying trivial
    · trivial
  refine ⟨fun _ hr _ => hr, ?_, hsound, fun _ _ => hsound⟩
  intro r hr _ hlive hover hkept
  have hqueued : r.status = .queued := by
    cases hstatus : r.status with
    | queued => rfl
    | _ => simp_all [JudgeStore.cancelRow, Status.terminal]
  have hread : existing.status = .queued := by
    simpa [losesNotification, hqueued] using hkept
  rw [if_pos hread]
  exact notify_notes hexisting

theorem attempt_notifying {next : α → Transaction} (hnext : ∀ a, Notifying (next a)) :
    Notifying (attempt x next) := by
  cases x with
  | error => trivial
  | ok a => exact hnext a

theorem claimRow_notifying : Notifying (claimRow capable now request) := by
  apply attempt_notifying
  intro available
  refine ⟨trivial, fun _ _ => attempt_notifying ?_⟩
  intro lease
  apply attempt_notifying
  intro worker
  refine ⟨fun _ hr _ => hr, ?_, trivial, fun _ _ => trivial⟩
  intro r _ _ _ hover
  cases hover

theorem expireRunning_notifying (hexpired : ∀ r, expired = some r → r.callback?.isSome) :
    Notifying (expireRunning capable expired now request) := by
  have hrest : Notifying (notifyExpired expired (claimRow capable now request)) := by
    cases expired with
    | none => exact claimRow_notifying
    | some r => exact notify_notifying claimRow_notifying
  refine ⟨fun _ hr _ => hr, ?_, hrest, fun _ _ => hrest⟩
  intro r _ _ _ hover hkept
  cases expired with
  | none =>
    have hcancel : r.cancelRequested = false := hkept
    simp [JudgeStore.giveBack, hcancel, Status.terminal] at hover
  | some r => exact notify_notes (hexpired r rfl)

theorem expireRunning_notes (hr : r.callback?.isSome) :
    (expireRunning capable (some r) now request).Notes P :=
  ⟨notify_notes hr, fun _ _ => notify_notes hr⟩

theorem claimNext_notifying : Notifying (PostgresJudgeStore.claimNext capable now request) := by
  have hnone : Notifying (expireRunning capable none now request) := by
    apply expireRunning_notifying
    intro r hr
    cases hr
  refine ⟨fun _ hr _ => hr, ?_, hnone, ?_⟩
  · intro r hr _ _ _ _
    exact expireRunning_notes hr
  · intro r hr
    apply expireRunning_notifying
    intro r' hr'
    cases hr'
    exact hr

theorem finish_notifying :
    Notifying (PostgresJudgeStore.finish bindResult room started now result workerId) := by
  rw [PostgresJudgeStore.finish]
  split
  · trivial
  apply attempt_notifying
  intro status
  cases status with
  | none => trivial
  | some status =>
    intro existing _
    apply attempt_notifying
    intro _
    apply attempt_notifying
    intro columns
    refine ⟨fun _ hr _ => hr, ?_, trivial, ?_⟩
    · intro r _ _ _ _ _ v hv
      exact notify_notes hv
    · intro r _ v _
      exact notify_notifying trivial

theorem renewLease_notifying :
    Notifying (PostgresJudgeStore.renewLease now executionId workerId leaseSeconds) := by
  apply attempt_notifying
  intro lease
  refine ⟨fun _ hr _ => hr, ?_, trivial, fun _ _ => trivial⟩
  intro r _ _ hlive hover
  cases hlive.symm.trans hover

theorem code_notifying (hcode : Code bindResult capable p) : Notifying p := by
  obtain ⟨call, hcall⟩ := hcode
  subst hcall
  cases call with
  | cancel => exact cancel_notifying
  | claimNext => exact claimNext_notifying
  | finish => exact finish_notifying
  | renewLease => exact renewLease_notifying

/-- A terminal execution has its entry in the outbox, in whatever order the statements came. -/
theorem terminal_notified [DecidableEq ι] {d : Database Statement Execution ι}
    (hrun : PostgresRun bindResult capable h d) (hkept : ∀ e ∈ h, loses e.2 = false)
    (hover : d.row.status.terminal) : d.noted := by
  apply run_noted (fun _ => code_notifying) (fun _ => id) hrun _ hover
  intro e he statement found hwrite
  have hloses := hkept e he
  rw [hwrite] at hloses
  exact hloses

end

namespace Sample

inductive Session where
  | first
  | second
  | third
deriving DecidableEq

def database : Database Statement Execution Session :=
  .fresh (JudgeStore.submittedRow request task.manifest "e7" "a69c" (clock 1)) false

def everywhere (_ : List PyStr) (_ : Execution) : Bool := true

/-- A session calls the store, or makes some of its statements. -/
inductive Turn where
  | calls (session : Session) (call : Call)
  | goesOn (session : Session) (statements : Nat)

def Turn.expand : Turn → List (Session × Option Transaction)
  | .calls session call => [(session, some (call.transaction JudgeStore.bindResult everywhere))]
  | .goesOn session statements => List.replicate statements (session, none)

def schedule (turns : List Turn) :
    Option (List (Session × Move Statement Execution) × Database Statement Execution Session) :=
  database.perform (turns.flatMap Turn.expand)

/-- The worker `w1` claims the execution for a minute. -/
def claims : List Turn :=
  [.calls .first (.claimNext (clock 2) (Sample.claim "w1" 60)), .goesOn .first 6]

def finishes : List Turn :=
  [.calls .first (.finish room (clock 30) (clock 30) (result .completed 1) "w1"), .goesOn .first 6]

/-- The execution is canceled between the two statements that expire its lease. -/
def expiryRace : List Turn :=
  claims ++ [.calls .second (.claimNext (clock 90) (Sample.claim "w2" 60)), .goesOn .second 1,
    .calls .third (.cancel (clock 90)), .goesOn .third 4, .goesOn .second 4]

/-- The execution is read as running, requeued and then canceled. -/
def cancelRace : List Turn :=
  claims ++ [.calls .third (.cancel (clock 90)), .goesOn .third 1,
    .calls .second (.claimNext (clock 90) ⟨"w2", some [PyStr.ofString "other"], none, none, 60⟩),
    .goesOn .second 5, .goesOn .third 3]

end Sample

theorem schedule_run {turns : List Sample.Turn} (hp : Sample.schedule turns = some (h, d)) :
    PostgresRun JudgeStore.bindResult Sample.everywhere h d := by
  have hstart : PostgresRun JudgeStore.bindResult Sample.everywhere [] Sample.database :=
    .start ⟨_, ⟨by decide +kernel, rfl⟩, rfl⟩
  have hcode : ∀ t ∈ turns.flatMap Sample.Turn.expand, ∀ p, t.2 = some p →
      Code JudgeStore.bindResult Sample.everywhere p := by
    intro t ht p hprogram
    obtain ⟨turn, _, hturn⟩ := List.mem_flatMap.1 ht
    cases turn with
    | calls session call =>
      cases List.mem_singleton.1 hturn
      exact ⟨call, Option.some.inj hprogram⟩
    | goesOn session statements =>
      cases List.eq_of_mem_replicate hturn
      cases hprogram
  simpa using hstart.append (perform_path hcode hp)

theorem terminal_notified_sample : ∃ h, ∃ d : Database Statement Execution Sample.Session,
    PostgresRun JudgeStore.bindResult Sample.everywhere h d ∧
    d.row.status = .completed ∧ d.noted := by
  have hall : (Sample.schedule (Sample.claims ++ Sample.finishes)).any (fun p =>
      p.1.all (fun e => !loses e.2) && p.2.row.status = .completed) = true := by decide +kernel
  obtain ⟨⟨h, d⟩, hp, hall⟩ := (Option.any_eq_true _ _).1 hall
  obtain ⟨hkept, hstatus⟩ := Bool.and_eq_true_iff.1 hall
  have hcompleted : d.row.status = .completed := of_decide_eq_true hstatus
  have hrun := schedule_run hp
  refine ⟨h, d, hrun, hcompleted, terminal_notified hrun ?_ (by rw [hcompleted]; rfl)⟩
  intro e he
  exact Bool.not_eq_true' _ ▸ List.all_eq_true.1 hkept e he

/-- Every transaction of the schedule commits, and a canceled execution is left without its
notification. -/
def Sample.LosesNotification (turns : List Sample.Turn) : Prop :=
  ∃ h, ∃ d : Database Statement Execution Sample.Session,
    PostgresRun JudgeStore.bindResult Sample.everywhere h d ∧
    Sample.schedule turns = some (h, d) ∧
    (∀ e ∈ h, e.2.isRollback = false) ∧ (∀ i, d.txns i = none) ∧
    d.row.status = .canceled ∧ d.row.callbackUrl = some "https://example.org/results" ∧
    d.noted = false

theorem loses_notification
    (hall : (Sample.schedule turns).any (fun p =>
      p.1.all (fun e => !e.2.isRollback) && ((p.2.txns .first).isNone &&
      ((p.2.txns .second).isNone && ((p.2.txns .third).isNone &&
      (p.2.row.status = .canceled && (p.2.row.callbackUrl = some "https://example.org/results" &&
      !p.2.noted)))))) = true) : Sample.LosesNotification turns := by
  obtain ⟨⟨h, d⟩, hp, hall⟩ := (Option.any_eq_true _ _).1 hall
  simp only [Bool.and_eq_true, List.all_eq_true, Bool.not_eq_true', decide_eq_true_eq,
    Option.isNone_iff_eq_none] at hall
  obtain ⟨hcommits, hfirst, hsecond, hthird, hstatus, hurl, hnoted⟩ := hall
  refine ⟨h, d, schedule_run hp, hp, hcommits, ?_, hstatus, hurl, hnoted⟩
  intro i
  cases i with
  | first => exact hfirst
  | second => exact hsecond
  | third => exact hthird

/-- Both races lose a notification. -/
theorem lost_notification_sample :
    Sample.LosesNotification Sample.expiryRace ∧ Sample.LosesNotification Sample.cancelRace := by
  constructor
  · apply loses_notification
    decide +kernel
  · apply loses_notification
    decide +kernel

end BrunostJudge
