import BrunostJudge.Idempotency
import BrunostJudge.UniqueKey

namespace BrunostJudge
open Python UniqueKey
open Transition (Run)
set_option autoImplicit true

/-- What a call of `submit` goes on with once it has found the task: the task's manifest, the id it
drew and the time. -/
structure Submitting where
  request : ExecutionRequest
  manifest : Dict
  executionId : String
  now : Instant

def Submitting.row (s : Submitting) (fingerprint : String) : Submission :=
  (JudgeStore.submittedRow s.request s.manifest s.executionId fingerprint s.now).toSubmission

namespace PostgresJudgeStore

inductive SubmitError where
  | valueError (message : String)
  | runtimeError (message : String)

def keyTaken : SubmitError := .valueError "idempotency key is already used for a different request"

/-- `submit` from its `INSERT` on, over the columns that no other statement writes. -/
def submit (row : Submission) : Program Submission Submission SubmitError :=
  .insert row fun inserted =>
    if inserted then .answer row
    else .select fun
      | some existing =>
        if existing.requestFingerprint ≠ "" ∧
            existing.requestFingerprint ≠ row.requestFingerprint then .raise keyTaken
        else .answer existing
      | none =>
        .raise (.runtimeError "idempotent execution insert was lost before it could be read")

section
variable (sha256 : ByteArray → String)

/-- The calls under one idempotency key. -/
def SubmitCode (key : String) (s : Submitting)
    (p : Program Submission Submission SubmitError) : Prop :=
  s.request.idempotencyKey = key ∧
    ∃ fp, JudgeStore.requestFingerprint sha256 s.request = .ok fp ∧ p = submit (s.row fp)

/-- The transactions of any number of calls under one idempotency key, their statements in any
order. -/
abbrev SubmitRun (key : String) :
    List (Nat × Move Submission SubmitError Submitting) →
      Database Submission Submission SubmitError Submitting Nat → Prop :=
  Run Initial (Step (SubmitCode sha256 key))

/-- A call inserts its own row, answers with a row of its own fingerprint, and takes the key for
another request's only in view of another fingerprint. -/
def submitContract (key : String) (s : Submitting) :
    Contract Submission Submission SubmitError where
  inserts w := s.request.idempotencyKey = key ∧
    ∃ fp, JudgeStore.requestFingerprint sha256 s.request = .ok fp ∧ w = s.row fp
  answers w a := a = w ∧ (w.requestFingerprint = "" ∨
    JudgeStore.requestFingerprint sha256 s.request = .ok w.requestFingerprint)
  raises w e := e = keyTaken ∧
    JudgeStore.requestFingerprint sha256 s.request ≠ .ok w.requestFingerprint

end

section
variable {sha256 : ByteArray → String} {key : String}
  {h : List (Nat × Move Submission SubmitError Submitting)}
  {d : Database Submission Submission SubmitError Submitting Nat}

theorem submit_meets (s : Submitting) (p : Program Submission Submission SubmitError)
    (hcode : SubmitCode sha256 key s p) : p.Meets (submitContract sha256 key s) .nothing := by
  obtain ⟨hkey, fp, hfp, rfl⟩ := hcode
  refine ⟨⟨hkey, fp, hfp, rfl⟩, ⟨rfl, .inr hfp⟩, ?_⟩
  intro w
  change Program.Meets _ (.stored w) (if w.requestFingerprint ≠ "" ∧ w.requestFingerprint ≠ fp then
    .raise keyTaken else .answer w)
  split
  · next hdiffers =>
    refine ⟨rfl, ?_⟩
    intro hw
    exact hdiffers.2 (Except.ok.inj (hw.symm.trans hfp))
  · next hsame =>
    refine ⟨rfl, ?_⟩
    by_cases hempty : w.requestFingerprint = ""
    · exact .inl hempty
    · have hw : w.requestFingerprint = fp := not_not.1 fun hne => hsame ⟨hempty, hne⟩
      exact .inr (hw ▸ hfp)

/-- Calls of `submit` under one idempotency key, whatever the order of their statements, leave one
execution, which one of them made. All that are answered are answered with it, and asked for the
same; the others found a request that differs from theirs, and none loses its insert. -/
theorem submissions_serialized (hinj : Function.Injective sha256) (hdigest : ∀ b, sha256 b ≠ "")
    (hrun : SubmitRun sha256 key h d) :
    (∀ i s a, (i, .answer s a) ∈ h → d.row = some a ∧
      ∃ j first, (j, .answer first a) ∈ h ∧ first.request.idempotencyKey = key ∧
        (∃ fp, a = first.row fp) ∧ SameRequest s.request first.request) ∧
    (∀ i s e, (i, .raise s e) ∈ h → e = keyTaken ∧ ∃ j first w, (j, .answer first w) ∈ h ∧
      d.row = some w ∧ JudgeStore.requestFingerprint sha256 s.request ≠
        JudgeStore.requestFingerprint sha256 first.request) := by
  have hsettled := (run_settled submit_meets hrun).2
  have horigin : ∀ w, d.row = some w → w.requestFingerprint ≠ "" ∧ ∃ j first,
      (j, .answer first w) ∈ h ∧ first.request.idempotencyKey = key ∧ (∃ fp, w = first.row fp) ∧
        JudgeStore.requestFingerprint sha256 first.request = .ok w.requestFingerprint := by
    intro w hw
    obtain ⟨j, first, a, hmem, ⟨hkey, fp, hfp, rfl⟩, rfl, _⟩ := hsettled.origin w hw
    have hne : fp ≠ "" := digest_nonempty hdigest hfp
    exact ⟨hne, j, first, hmem, hkey, ⟨fp, rfl⟩, hfp⟩
  refine ⟨?_, ?_⟩
  · intro i s a hmem
    obtain ⟨w, hw, rfl, hfp⟩ := hsettled.answered i s a hmem
    obtain ⟨hne, j, first, hfirst, hkey, hrow, hfp'⟩ := horigin a hw
    have hsame := requestFingerprint_inj hinj (hfp.resolve_left hne) hfp'
    exact ⟨hw, j, first, hfirst, hkey, hrow, hsame⟩
  · intro i s e hmem
    obtain ⟨w, hw, rfl, hne⟩ := hsettled.raised i s e hmem
    obtain ⟨_, j, first, hfirst, _, _, hfp⟩ := horigin w hw
    exact ⟨rfl, j, first, w, hfirst, hw, fun heq => hne (heq.trans hfp)⟩

end

end PostgresJudgeStore

namespace Sample
open PostgresJudgeStore

/-- Two calls for one request, which draw their own ids. -/
def firstCall : Submitting := ⟨request, task.manifest, "e7", clock 1⟩

def secondCall : Submitting := ⟨request, task.manifest, "e8", clock 1⟩

/-- Both have found the task before one inserts its row, and then the other waits. -/
theorem calls_run {fp : String}
    (hfp : JudgeStore.requestFingerprint sha256 request = .ok fp) :
    ∃ h d, SubmitRun sha256 "key-7" h d ∧ (2, .answer secondCall (firstCall.row fp)) ∈ h := by
  have hstart : SubmitRun sha256 "key-7" [] ⟨none, none, fun _ => none⟩ :=
    .start ⟨rfl, rfl, fun _ => rfl⟩
  have hbegun := hstart.next (.begin (i := 1) (r := firstCall) ⟨rfl, fp, hfp, rfl⟩ rfl)
  have hboth := hbegun.next (.begin (i := 2) (r := secondCall) ⟨rfl, fp, hfp, rfl⟩ rfl)
  have hinserted := hboth.next (.insert (i := 1) rfl rfl rfl)
  have hanswered := hinserted.next (.answer (i := 1) rfl)
  have hconflict := hanswered.next (.conflict (i := 2) rfl rfl rfl)
  have hselected := hconflict.next (.select (i := 2) rfl)
  have hsame : (if fp ≠ "" ∧ fp ≠ fp then Program.raise keyTaken
      else Program.answer (V := Submission) (E := SubmitError) (firstCall.row fp)) =
        .answer (firstCall.row fp) :=
    if_neg fun h => h.2 rfl
  have hread := hselected.next
    (.answer (i := 2) (congrArg (fun p => some (secondCall, p)) hsame))
  exact ⟨_, _, hread, List.mem_cons_self⟩

theorem request_fingerprint : ∃ fp, JudgeStore.requestFingerprint sha256 request = .ok fp := by
  have hok : (match JudgeStore.requestFingerprint sha256 request with
      | .ok _ => true
      | .error _ => false) = true := by decide +kernel
  cases hfp : JudgeStore.requestFingerprint sha256 request with
  | ok fp => exact ⟨fp, rfl⟩
  | error err =>
    rw [hfp] at hok
    cases hok

end Sample

/-- The second call is answered with the execution of the first. -/
theorem submissions_serialized_sample : ∃ h d fp,
    PostgresJudgeStore.SubmitRun Sample.sha256 "key-7" h d ∧
      (2, .answer Sample.secondCall (Sample.firstCall.row fp)) ∈ h ∧
      d.row = some (Sample.firstCall.row fp) := by
  obtain ⟨fp, hfp⟩ := Sample.request_fingerprint
  obtain ⟨h, d, hrun, hmem⟩ := Sample.calls_run hfp
  have hserialized := PostgresJudgeStore.submissions_serialized Sample.sha256_injective
    Sample.sha256_nonempty hrun
  exact ⟨h, d, fp, hrun, hmem, (hserialized.1 2 _ _ hmem).1⟩

end BrunostJudge
