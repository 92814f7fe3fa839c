import BrunostJudge.Enrollment
import BrunostJudge.JoinRequests
import BrunostJudge.SingleUse

namespace BrunostJudge
open Python Relational Transition JudgeStore
set_option autoImplicit true

/-- The worker is the one that its join token is for, whatever its node reports about itself. -/
structure Carries (payload : EnrollmentPayload) (row : WorkerRecord) : Prop where
  workerId : row.workerId = payload.workerId
  queues : row.queues = payload.grantedQueues.insertionSort (· ≤ ·)
  region : row.region = payload.region
  nodeId : Dict.get row.metadata "node_id" = .text payload.nodeId

section
variable (sha256 : ByteArray → String)

/-- A request has used up the token with this digest. -/
def Consumed (h : List JoinCall) (i : Nat) (tokenHash : String) (now : Instant) : Prop :=
  ∃ token, .consume i token now ∈ h ∧ digestSecret sha256 token = tokenHash

/-- What a token that was issued is good for: one use, in time, and the worker that it names. -/
structure SingleUseToken (h : List JoinCall) (s : Joining) (token : String)
    (payload : EnrollmentPayload) (expiresAt : Instant) : Prop where
  inTime : ∀ i now, .read i token now ∈ h ∨ .consume i token now ∈ h → now < expiresAt
  usable : ∀ now, now < expiresAt →
    (s.store.getEnrollmentToken sha256 now token = some payload ↔
      ∀ i later, ¬Consumed sha256 h i (digestSecret sha256 token) later)
  consumable : ∀ now, now < expiresAt →
    ((s.store.consumeEnrollmentToken sha256 now token).1 = some payload ↔
      ∀ i later, ¬Consumed sha256 h i (digestSecret sha256 token) later)
  carried : ∀ i now s', JoinStep sha256 s (.register i token now) s' →
    ∃ row, s'.store.getWorker payload.workerId = some row ∧ Carries payload row

/-- The call as its request presents the digest of its token. -/
def JoinCall.act? : JoinCall → Option (SingleUse.Act Nat String)
  | .read i token _ => some (.present i (digestSecret sha256 token))
  | .refuse i _ _ => some (.leave i)
  | .consume i token _ => some (.take i (digestSecret sha256 token))
  | .miss i _ _ => some (.leave i)
  | .register i token _ => some (.act i (digestSecret sha256 token) 0)
  | .credential i token => some (.act i (digestSecret sha256 token) 1)
  | .fault .. => none
  | .elsewhere _ => none

/-- The store has issued this token. -/
def Grants (store : JudgeStore) (tokenHash : String) (payload : EnrollmentPayload)
    (expiresAt : Instant) : Prop :=
  ∃ t ∈ store.enrollmentTokens.rows,
    t.tokenHash = tokenHash ∧ t.payload = payload ∧ t.expiresAt = expiresAt

/-- The stage of a request as a client of its join token. -/
inductive Presents (store : JudgeStore) : JoinStage → SingleUse.Stage String → Prop
  | arrived : Presents store .arrived .idle
  | checked : Grants store (digestSecret sha256 request.joinToken) payload expiresAt →
      Presents store (.checked request payload) (.admitted (digestSecret sha256 request.joinToken))
  | consumed : Grants store (digestSecret sha256 request.joinToken) payload expiresAt →
      Presents store (.consumed request payload payload)
        (.holding (digestSecret sha256 request.joinToken) 0)
  | registered : Grants store (digestSecret sha256 request.joinToken) payload expiresAt →
      Presents store (.registered request payload payload)
        (.holding (digestSecret sha256 request.joinToken) 1)
  | answered : Presents store .answered stage

/-- The requests use the tokens of the store as tickets. -/
structure JoinSound (h : List JoinCall) (s : Joining) (a : SingleUse.State Nat String) : Prop where
  distinct : ∀ t ∈ s.store.enrollmentTokens.rows, ∀ u ∈ s.store.enrollmentTokens.rows,
    t.tokenHash = u.tokenHash → t = u
  used : ∀ t ∈ s.store.enrollmentTokens.rows, t.usedAt = none ↔ t.tokenHash ∉ a.taken
  known : ∀ d ∈ a.taken, ∃ t ∈ s.store.enrollmentTokens.rows, t.tokenHash = d
  stages : ∀ i, Presents sha256 s.store (s.stage i) (a.stage i)
  issued : ∀ tokenHash payload expiresAt, Issued h tokenHash payload expiresAt ↔
    Grants s.store tokenHash payload expiresAt
  presented : ∀ i token now, .read i token now ∈ h ∨ .consume i token now ∈ h →
    ∃ payload expiresAt, Grants s.store (digestSecret sha256 token) payload expiresAt ∧
      now < expiresAt

end

section
variable {sha256 : ByteArray → String} {store store' : JudgeStore} {s s' : Joining} {e : JoinCall}
  {h : List JoinCall} {a a' : SingleUse.State Nat String} {now : Instant}

theorem unusedToken_some (h : store.unusedToken tokenHash = some t) :
    t ∈ store.enrollmentTokens.rows ∧ t.tokenHash = tokenHash ∧ t.usedAt = none := by
  rw [JudgeStore.unusedToken] at h
  have hp := List.find?_some h
  rw [Bool.and_eq_true] at hp
  exact ⟨List.mem_of_find?_eq_some h, of_decide_eq_true hp.1, of_decide_eq_true hp.2⟩

theorem getEnrollmentToken_some (h : store.getEnrollmentToken sha256 now token = some payload) :
    ∃ t ∈ store.enrollmentTokens.rows, t.tokenHash = digestSecret sha256 token ∧
      t.usedAt = none ∧ now < t.expiresAt ∧ t.payload = payload := by
  rw [JudgeStore.getEnrollmentToken] at h
  split at h
  · next t ht =>
    obtain ⟨hmem, hhash, hunused⟩ := unusedToken_some ht
    split at h
    · cases h
    · next hexpired =>
      cases h
      exact ⟨t, hmem, hhash, hunused, by simpa [isExpired] using hexpired, rfl⟩
  · cases h

theorem consumeEnrollmentToken_some
    (h : store.consumeEnrollmentToken sha256 now token = (some consumed, store')) :
    ∃ t ∈ store.enrollmentTokens.rows, t.tokenHash = digestSecret sha256 token ∧
      t.usedAt = none ∧ now < t.expiresAt ∧ t.payload = consumed ∧
      ∀ u, u ∈ store'.enrollmentTokens.rows ↔
        (u ∈ store.enrollmentTokens.rows ∧ u ≠ t) ∨ u = { t with usedAt := some now } := by
  rw [JudgeStore.consumeEnrollmentToken] at h
  split at h
  · next t ht =>
    obtain ⟨hmem, hhash, hunused⟩ := unusedToken_some ht
    split at h
    · cases (Prod.mk.inj h).1
    · next hexpired =>
      obtain ⟨hconsumed, hstore⟩ := Prod.mk.inj h
      cases hconsumed
      subst hstore
      refine ⟨t, hmem, hhash, hunused, by simpa [isExpired] using hexpired, rfl, ?_⟩
      have hsame : ∀ v ∈ store.enrollmentTokens.rows, v.tokenId = t.tokenId → v = t := by
        intro v hv hid
        have hv := Table.find?_mem hv
        have ht := Table.find?_mem hmem
        have hkey : Keyed.key v = Keyed.key t := hid
        rw [hkey, ht] at hv
        exact (Option.some.inj hv).symm
      intro u
      simp only [Table.update, List.mem_map]
      constructor
      · rintro ⟨v, hv, rfl⟩
        by_cases hid : v.tokenId = t.tokenId
        · cases hsame v hv hid
          rw [if_pos (by simp [hunused])]
          exact .inr rfl
        · rw [if_neg (by simp [hid])]
          exact .inl ⟨hv, fun he => hid (congrArg EnrollmentToken.tokenId he)⟩
      · rintro (⟨hu, hne⟩ | rfl)
        · refine ⟨u, hu, ?_⟩
          rw [if_neg]
          intro hp
          rw [Bool.and_eq_true] at hp
          exact hne (hsame u hu (of_decide_eq_true hp.1))
        · exact ⟨t, hmem, by simp [hunused]⟩
  · cases (Prod.mk.inj h).1

theorem consumeEnrollmentToken_none
    (h : store.consumeEnrollmentToken sha256 now token = (none, store')) : store' = store := by
  rw [JudgeStore.consumeEnrollmentToken] at h
  split at h
  · split at h
    · exact (Prod.mk.inj h).2.symm
    · cases (Prod.mk.inj h).1
  · exact (Prod.mk.inj h).2.symm

theorem Presents.mono (hpresents : Presents sha256 store stage stage')
    (hkept : ∀ d p x, Grants store d p x → Grants store' d p x) :
    Presents sha256 store' stage stage' := by
  cases hpresents with
  | arrived => exact .arrived
  | checked hgrants => exact .checked (hkept _ _ _ hgrants)
  | consumed hgrants => exact .consumed (hkept _ _ _ hgrants)
  | registered hgrants => exact .registered (hkept _ _ _ hgrants)
  | answered => exact .answered

theorem stages_to (hstages : ∀ i, Presents sha256 store (s.stage i) (a.stage i))
    (hpresents : Presents sha256 store stage stage') (i j : Nat) :
    Presents sha256 store ((s.to i stage).stage j) ((a.move i stage').stage j) := by
  change Presents sha256 store (Function.update s.stage i stage j)
    (Function.update a.stage i stage' j)
  by_cases hj : j = i
  · rw [hj, Function.update_self, Function.update_self]
    exact hpresents
  · rw [Function.update_of_ne hj, Function.update_of_ne hj]
    exact hstages j

theorem Grants.of_eq (htokens : store'.enrollmentTokens = store.enrollmentTokens) :
    Grants store' d p x ↔ Grants store d p x := by
  rw [Grants, Grants, htokens]

theorem issued_cons (he : ∀ now tokenId d p x,
      e ≠ .elsewhere ⟨now, .createEnrollmentToken tokenId d p x, .ok .unit⟩) :
    Issued (e :: h) d p x ↔ Issued h d p x := by
  simp only [Issued, List.mem_cons]
  constructor
  · rintro ⟨now, tokenId, heq | hmem⟩
    · exact absurd heq.symm (he _ _ _ _ _)
    · exact ⟨now, tokenId, hmem⟩
  · rintro ⟨now, tokenId, hmem⟩
    exact ⟨now, tokenId, .inr hmem⟩

theorem JoinSound.keep (hsound : JoinSound sha256 h s a)
    (htokens : s'.store.enrollmentTokens = s.store.enrollmentTokens) (htaken : a'.taken = a.taken)
    (hstages : ∀ i, Presents sha256 s.store (s'.stage i) (a'.stage i))
    (hissue : ∀ now tokenId d p x,
      e ≠ .elsewhere ⟨now, .createEnrollmentToken tokenId d p x, .ok .unit⟩)
    (hpresented : ∀ i token now, .read i token now = e ∨ .consume i token now = e →
      ∃ payload expiresAt, Grants s.store (digestSecret sha256 token) payload expiresAt ∧
        now < expiresAt) :
    JoinSound sha256 (e :: h) s' a' := by
  have hgrants : ∀ {d p x}, Grants s'.store d p x ↔ Grants s.store d p x := Grants.of_eq htokens
  constructor
  · rw [htokens]
    exact hsound.distinct
  · rw [htokens, htaken]
    exact hsound.used
  · rw [htokens, htaken]
    exact hsound.known
  · intro i
    exact (hstages i).mono fun _ _ _ => hgrants.2
  · intro d p x
    rw [issued_cons hissue, hgrants]
    exact hsound.issued d p x
  · intro i token now hmem
    simp only [hgrants]
    simp only [List.mem_cons] at hmem
    obtain (he | hread) | he | hconsume := hmem
    · exact hpresented i token now (.inl he)
    · exact hsound.presented i token now (.inl hread)
    · exact hpresented i token now (.inr he)
    · exact hsound.presented i token now (.inr hconsume)

theorem JoinSound.issue (hsound : JoinSound sha256 h s a)
    (hcreated : s.store.createEnrollmentToken tokenId d p x = .ok store) :
    JoinSound sha256 (.elsewhere ⟨now, .createEnrollmentToken tokenId d p x, .ok .unit⟩ :: h)
      { s with store := store } a := by
  obtain ⟨hfresh, tokens, hinsert, hstore⟩ := createEnrollmentToken_ok hcreated
  have hrows : ∀ u, u ∈ store.enrollmentTokens.rows ↔
      u ∈ s.store.enrollmentTokens.rows ∨ u = ⟨tokenId, d, p, x, none⟩ := by
    intro u
    rw [hstore, Table.insert?_rows hinsert, List.mem_append, List.mem_singleton]
  have hgrants : ∀ d' p' x', Grants store d' p' x' ↔
      Grants s.store d' p' x' ∨ d = d' ∧ p = p' ∧ x = x' := by
    intro d' p' x'
    rw [Grants, Grants]
    simp only [hrows]
    constructor
    · rintro ⟨u, hu | rfl, heq⟩
      · exact .inl ⟨u, hu, heq⟩
      · exact .inr heq
    · rintro (⟨u, hu, heq⟩ | heq)
      · exact ⟨u, .inl hu, heq⟩
      · exact ⟨_, .inr rfl, heq⟩
  have huntaken : d ∉ a.taken := by
    intro hd
    obtain ⟨t, ht, heq⟩ := hsound.known d hd
    exact hfresh t ht heq
  constructor
  · intro t ht u hu heq
    obtain ht | rfl := (hrows t).1 ht
    · obtain hu | rfl := (hrows u).1 hu
      · exact hsound.distinct t ht u hu heq
      · exact absurd heq (hfresh t ht)
    · obtain hu | rfl := (hrows u).1 hu
      · exact absurd heq.symm (hfresh u hu)
      · rfl
  · intro t ht
    obtain ht | rfl := (hrows t).1 ht
    · exact hsound.used t ht
    · exact iff_of_true rfl huntaken
  · intro d' hd'
    obtain ⟨t, ht, heq⟩ := hsound.known d' hd'
    exact ⟨t, (hrows t).2 (.inl ht), heq⟩
  · intro i
    exact (hsound.stages i).mono fun _ _ _ hgrant => (hgrants _ _ _).2 (.inl hgrant)
  · intro d' p' x'
    rw [hgrants, ← hsound.issued]
    simp only [Issued, List.mem_cons]
    constructor
    · rintro ⟨now', tokenId', heq | hmem⟩
      · cases heq
        exact .inr ⟨rfl, rfl, rfl⟩
      · exact .inl ⟨now', tokenId', hmem⟩
    · rintro (⟨now', tokenId', hmem⟩ | ⟨rfl, rfl, rfl⟩)
      · exact ⟨now', tokenId', .inr hmem⟩
      · exact ⟨now, tokenId, .inl rfl⟩
  · intro i token now' hmem
    simp only [List.mem_cons, reduceCtorEq, false_or] at hmem
    obtain ⟨p', x', hgrant, hbefore⟩ := hsound.presented i token now' hmem
    exact ⟨p', x', (hgrants _ _ _).2 (.inl hgrant), hbefore⟩

theorem JoinSound.consume (hsound : JoinSound sha256 h s a)
    (hstage : s.stage i = .checked request payload)
    (hconsumed : s.store.consumeEnrollmentToken sha256 now request.joinToken =
      (some consumed, store)) :
    ∃ a', SingleUse.Step a (.take i (digestSecret sha256 request.joinToken)) a' ∧
      JoinSound sha256 (.consume i request.joinToken now :: h)
        { s.to i (.consumed request payload consumed) with store := store } a' := by
  obtain ⟨t, ht, hhash, hunused, hbefore, hpayload, hrows⟩ := consumeEnrollmentToken_some hconsumed
  have hfree : digestSecret sha256 request.joinToken ∉ a.taken :=
    hhash ▸ (hsound.used t ht).1 hunused
  have hkeeps : ∀ d p x, Grants s.store d p x ↔ Grants store d p x := by
    intro d p x
    rw [Grants, Grants]
    simp only [hrows]
    constructor
    · rintro ⟨u, hu, heq⟩
      by_cases hut : u = t
      · exact ⟨_, .inr rfl, hut ▸ heq⟩
      · exact ⟨u, .inl ⟨hu, hut⟩, heq⟩
    · rintro ⟨u, ⟨hu, _⟩ | rfl, heq⟩
      · exact ⟨u, hu, heq⟩
      · exact ⟨t, ht, heq⟩
  have hclient : a.stage i = .admitted (digestSecret sha256 request.joinToken) ∧
      consumed = payload := by
    have hpresents := hsound.stages i
    rw [hstage] at hpresents
    generalize hc : a.stage i = stage at hpresents
    cases hpresents with
    | checked hgrant =>
      obtain ⟨u, hu, huhash, hupayload, _⟩ := hgrant
      cases hsound.distinct t ht u hu (hhash.trans huhash.symm)
      exact ⟨rfl, hpayload.symm.trans hupayload⟩
  obtain ⟨hadmitted, rfl⟩ := hclient
  have hother : ∀ u ∈ s.store.enrollmentTokens.rows, u ≠ t →
      u.tokenHash ≠ digestSecret sha256 request.joinToken := by
    intro u hu hut heq
    exact hut (hsound.distinct u hu t ht (heq.trans hhash.symm))
  refine ⟨_, .take hadmitted hfree, ?_⟩
  constructor
  · intro u hu v hv heq
    obtain ⟨hu, hut⟩ | rfl := (hrows u).1 hu
    · obtain ⟨hv, hvt⟩ | rfl := (hrows v).1 hv
      · exact hsound.distinct u hu v hv heq
      · exact absurd (heq.trans hhash) (hother u hu hut)
    · obtain ⟨hv, hvt⟩ | rfl := (hrows v).1 hv
      · exact absurd (heq.symm.trans hhash) (hother v hv hvt)
      · rfl
  · intro u hu
    rw [Set.mem_insert_iff, not_or]
    obtain ⟨hu, hut⟩ | rfl := (hrows u).1 hu
    · rw [hsound.used u hu]
      exact (and_iff_right (hother u hu hut)).symm
    · exact iff_of_false (by simp) fun hnot => hnot.1 hhash
  · intro d hd
    obtain rfl | hd := Set.mem_insert_iff.1 hd
    · exact ⟨_, (hrows _).2 (.inr rfl), hhash⟩
    · obtain ⟨u, hu, heq⟩ := hsound.known d hd
      obtain ⟨v, hv, hvhash, _⟩ := (hkeeps _ _ _).1 ⟨u, hu, heq, rfl, rfl⟩
      exact ⟨v, hv, hvhash⟩
  · have hgrant : Grants s.store (digestSecret sha256 request.joinToken) consumed t.expiresAt :=
      ⟨t, ht, hhash, hpayload, rfl⟩
    intro j
    exact (stages_to hsound.stages (.consumed hgrant) i j).mono fun _ _ _ => (hkeeps _ _ _).1
  · intro d p x
    rw [issued_cons (by simp), hsound.issued]
    exact hkeeps d p x
  · intro j token now' hmem
    simp only [← hkeeps]
    simp only [List.mem_cons, reduceCtorEq, false_or, JoinCall.consume.injEq] at hmem
    obtain hread | ⟨-, rfl, rfl⟩ | hconsume := hmem
    · exact hsound.presented j token now' (.inl hread)
    · exact ⟨_, _, ⟨t, ht, hhash, rfl, rfl⟩, hbefore⟩
    · exact hsound.presented j token now' (.inr hconsume)

theorem presents_idle (h : Presents sha256 store .arrived stage) : stage = .idle := by
  cases h
  rfl

theorem presents_admitted (h : Presents sha256 store (.checked request payload) stage) :
    stage = .admitted (digestSecret sha256 request.joinToken) := by
  cases h
  rfl

theorem presents_holder (h : Presents sha256 store (.consumed request payload consumed) stage) :
    stage = .holding (digestSecret sha256 request.joinToken) 0 ∧ consumed = payload ∧
      ∃ x, Grants store (digestSecret sha256 request.joinToken) payload x := by
  cases h with
  | consumed hgrant => exact ⟨rfl, rfl, _, hgrant⟩

theorem presents_registrant
    (h : Presents sha256 store (.registered request payload consumed) stage) :
    stage = .holding (digestSecret sha256 request.joinToken) 1 := by
  cases h
  rfl

theorem JoinSound.next (hsound : JoinSound sha256 h s a) (hs : JoinStep sha256 s e s') :
    ∃ a', (e.act? sha256 = none ∧ a' = a ∨
        ∃ act, e.act? sha256 = some act ∧ SingleUse.Step a act a') ∧
      JoinSound sha256 (e :: h) s' a' := by
  cases hs with
  | @read i request now payload hstage hcheck =>
    obtain ⟨hgrant, _, _⟩ := checkEnrollment_ok hcheck
    obtain ⟨t, ht, hhash, hunused, hbefore, hpayload⟩ := getEnrollmentToken_some hgrant
    have hgrants : Grants s.store (digestSecret sha256 request.joinToken) payload t.expiresAt :=
      ⟨t, ht, hhash, hpayload, rfl⟩
    have hidle := presents_idle (hstage ▸ hsound.stages i)
    refine ⟨_, .inr ⟨_, rfl, .present hidle (hhash ▸ (hsound.used t ht).1 hunused)⟩, ?_⟩
    refine hsound.keep rfl rfl (stages_to hsound.stages (.checked hgrants) i) (by simp) ?_
    rintro j token now' (he | he)
    · cases he
      exact ⟨payload, t.expiresAt, hgrants, hbefore⟩
    · cases he
  | @refuse i request now failure hstage hcheck =>
    have hidle := presents_idle (hstage ▸ hsound.stages i)
    refine ⟨_, .inr ⟨_, rfl, .turnedAway hidle⟩, ?_⟩
    exact hsound.keep rfl rfl (stages_to hsound.stages .answered i) (by simp) (by simp)
  | @consume i request payload consumed now store hstage hconsumed =>
    obtain ⟨a', hstep, hsound'⟩ := hsound.consume hstage hconsumed
    exact ⟨a', .inr ⟨_, rfl, hstep⟩, hsound'⟩
  | @miss i request payload now store hstage hconsumed =>
    have hstore := consumeEnrollmentToken_none hconsumed
    have hadmitted := presents_admitted (hstage ▸ hsound.stages i)
    refine ⟨_, .inr ⟨_, rfl, .tooLate hadmitted⟩, ?_⟩
    exact hsound.keep (congrArg JudgeStore.enrollmentTokens hstore) rfl
      (stages_to hsound.stages .answered i) (by simp) (by simp)
  | @register i request payload consumed now hstage =>
    obtain ⟨hholding, hsame, x, hgrant⟩ := presents_holder (hstage ▸ hsound.stages i)
    subst hsame
    refine ⟨_, .inr ⟨_, rfl, .act hholding⟩, ?_⟩
    exact hsound.keep rfl rfl (stages_to hsound.stages (.registered hgrant) i) (by simp) (by simp)
  | @credential i request payload consumed workerToken store hstage hcreated =>
    have hholding := presents_registrant (hstage ▸ hsound.stages i)
    have htokens : store.enrollmentTokens = s.store.enrollmentTokens := by
      rw [JudgeStore.createWorkerCredential] at hcreated
      split at hcreated
      · cases hcreated
        rfl
      · cases hcreated
    refine ⟨_, .inr ⟨_, rfl, .act hholding⟩, ?_⟩
    exact hsound.keep htokens rfl (stages_to hsound.stages .answered i) (by simp) (by simp)
  | @fault i request payload consumed workerToken err hstage hcreated =>
    refine ⟨a, .inl ⟨rfl, rfl⟩, hsound.keep rfl rfl ?_ (by simp) (by simp)⟩
    intro j
    change Presents sha256 s.store (Function.update s.stage i .answered j) (a.stage j)
    by_cases hj : j = i
    · rw [hj, Function.update_self]
      exact .answered
    · rw [Function.update_of_ne hj]
      exact hsound.stages j
  | @elsewhere e store hstep hother =>
    refine ⟨a, .inl ⟨rfl, rfl⟩, ?_⟩
    by_cases hcreate : ∃ now tokenId d p x,
        e = ⟨now, .createEnrollmentToken tokenId d p x, .ok .unit⟩
    · obtain ⟨now, tokenId, d, p, x, rfl⟩ := hcreate
      obtain ⟨_, hcreated, he⟩ := map_ok.1 (step_ok.1 hstep)
      cases he
      exact hsound.issue hcreated
    · have htokens : store.enrollmentTokens = s.store.enrollmentTokens := by
        obtain hkeeps | ⟨_, _, _, _, _, he, _⟩ | ⟨token, hop⟩ := store_keeps hstep
        · exact hkeeps.enrollmentTokens
        · exact absurd ⟨_, _, _, _, _, he⟩ hcreate
        · exact absurd hop (hother token)
      refine hsound.keep htokens rfl hsound.stages ?_ (by simp)
      intro now tokenId d p x he
      exact hcreate ⟨now, tokenId, d, p, x, JoinCall.elsewhere.inj he⟩

/-- A run of requests is a run of clients whose tickets are the tokens. -/
theorem run_joins (hrun : Run Unjoined (JoinStep sha256) h s) :
    ∃ a, Run SingleUse.Initial SingleUse.Step (h.filterMap (JoinCall.act? sha256)) a ∧
      JoinSound sha256 h s a := by
  induction hrun with
  | @start s hinit =>
    refine ⟨⟨∅, fun _ => .idle⟩, .start ⟨rfl, fun _ => rfl⟩, ?_⟩
    have hempty : s.store.enrollmentTokens.rows = [] := by
      rw [hinit.store]
      rfl
    constructor
    · rw [hempty]
      intro t ht
      cases ht
    · rw [hempty]
      intro t ht
      cases ht
    · intro d hd
      exact absurd hd (Set.notMem_empty d)
    · intro i
      rw [hinit.stage]
      exact .arrived
    · intro d p x
      rw [Grants, hempty]
      simp [Issued]
    · intro i token now hmem
      simp at hmem
  | @next h s e s' _ hs ih =>
    obtain ⟨a, hclients, hsound⟩ := ih
    obtain ⟨a', ⟨hnone, rfl⟩ | ⟨act, hact, hstep⟩, hsound'⟩ := hsound.next hs
    · exact ⟨a', by rwa [List.filterMap_cons_none hnone], hsound'⟩
    · refine ⟨a', ?_, hsound'⟩
      rw [List.filterMap_cons_some hact]
      exact hclients.next hstep

/-- Of the values that two readings of a history agree on, one reading has no more than the
other. -/
theorem filterMap_sublist {f : α → Option β} {g : α → Option γ} {k : β → γ}
    (hfg : ∀ a b, f a = some b → g a = some (k b)) (l : List α) :
    ((l.filterMap f).map k).Sublist (l.filterMap g) := by
  induction l with
  | nil => exact .slnil
  | cons a l ih =>
    cases hf : f a with
    | none =>
      rw [List.filterMap_cons_none hf]
      exact ih.trans ((List.sublist_cons_self a l).filterMap g)
    | some b =>
      rw [List.filterMap_cons_some hf, List.filterMap_cons_some (hfg a b hf), List.map_cons]
      exact ih.cons_cons (k b)

theorem Consumed.take (hconsumed : Consumed sha256 h i d now) :
    .take i d ∈ h.filterMap (JoinCall.act? sha256) := by
  obtain ⟨token, hmem, rfl⟩ := hconsumed
  exact List.mem_filterMap.2 ⟨_, hmem, rfl⟩

theorem consumed_of_take (htake : .take i d ∈ h.filterMap (JoinCall.act? sha256)) :
    ∃ now, Consumed sha256 h i d now := by
  obtain ⟨e, he, hact⟩ := List.mem_filterMap.1 htake
  cases e with
  | consume i token now =>
    cases hact
    exact ⟨now, token, he, rfl⟩
  | _ => cases hact

theorem JoinSound.grants_unique (hsound : JoinSound sha256 h s a) (hgrant : Grants s.store d p x)
    (hgrant' : Grants s.store d p' x') : p = p' ∧ x = x' := by
  obtain ⟨t, ht, hhash, rfl, rfl⟩ := hgrant
  obtain ⟨u, hu, huhash, rfl, rfl⟩ := hgrant'
  cases hsound.distinct t ht u hu (hhash.trans huhash.symm)
  exact ⟨rfl, rfl⟩

theorem JoinSound.in_time (hsound : JoinSound sha256 h s a)
    (haccounted : SingleUse.Accounted (h.filterMap (JoinCall.act? sha256)) a)
    (hact : .act i d n ∈ h.filterMap (JoinCall.act? sha256)) :
    ∃ payload expiresAt now, Issued h d payload expiresAt ∧ Consumed sha256 h i d now ∧
      now < expiresAt := by
  obtain ⟨now, token, hmem, rfl⟩ := consumed_of_take (haccounted.took_of_acted hact)
  obtain ⟨p, x, hgrant, hbefore⟩ := hsound.presented i token now (.inr hmem)
  exact ⟨p, x, now, (hsound.issued _ _ _).2 hgrant, ⟨token, hmem, rfl⟩, hbefore⟩

/-- The unused token with a digest is the token with that digest, while it is unused. -/
theorem JoinSound.unusedToken (hsound : JoinSound sha256 h s a)
    (ht : t ∈ s.store.enrollmentTokens.rows) :
    s.store.unusedToken t.tokenHash = if t.usedAt = none then some t else none := by
  cases hfound : s.store.unusedToken t.tokenHash with
  | none =>
    rw [JudgeStore.unusedToken, List.find?_eq_none] at hfound
    have hused := hfound t ht
    rw [if_neg]
    intro hunused
    exact hused (by simp [hunused])
  | some u =>
    obtain ⟨hmem, hhash, hunused⟩ := unusedToken_some hfound
    cases hsound.distinct u hmem t ht hhash
    rw [if_pos hunused]

theorem registerWorker_carries (store : JudgeStore) (now : Instant) (payload : EnrollmentPayload)
    (request : NodeEnrollment) :
    ∃ row, (store.registerWorker now (enrolledWorker payload payload request)).getWorker
      payload.workerId = some row ∧ Carries payload row := by
  refine ⟨_, registerWorker_row store now rfl, rfl, rfl, rfl, ?_⟩
  change Dict.get (enrolledMetadata payload payload request) "node_id" = _
  rw [enrolledMetadata, Dict.get_set_text _ _ (by decide), Dict.get_set_text _ _ (by decide)]
  exact Dict.get_set_self _ _ _

theorem JoinSound.singleUse (hsound : JoinSound sha256 h s a)
    (haccounted : SingleUse.Accounted (h.filterMap (JoinCall.act? sha256)) a)
    (hissued : Issued h (digestSecret sha256 token) payload expiresAt) :
    SingleUseToken sha256 h s token payload expiresAt := by
  have hgrant := (hsound.issued _ _ _).1 hissued
  obtain ⟨t, ht, hhash, rfl, rfl⟩ := id hgrant
  have hfree : t.usedAt = none ↔
      ∀ i later, ¬Consumed sha256 h i (digestSecret sha256 token) later := by
    rw [hsound.used t ht, haccounted.free_iff, hhash]
    constructor
    · exact fun hnone i later hconsumed => hnone i hconsumed.take
    · intro hnone i htake
      obtain ⟨later, hconsumed⟩ := consumed_of_take htake
      exact hnone i later hconsumed
  have hunused := hsound.unusedToken ht
  rw [hhash] at hunused
  constructor
  · intro i now hmem
    obtain ⟨p, x, hgrant', hbefore⟩ := hsound.presented i token now hmem
    exact (hsound.grants_unique hgrant hgrant').2 ▸ hbefore
  · intro now hnow
    rw [← hfree, JudgeStore.getEnrollmentToken, hunused]
    by_cases hnone : t.usedAt = none
    · simp [hnone, isExpired, hnow]
    · simp [hnone]
  · intro now hnow
    rw [← hfree, JudgeStore.consumeEnrollmentToken, hunused]
    by_cases hnone : t.usedAt = none
    · simp [hnone, isExpired, Nat.not_le.2 hnow]
    · simp [hnone]
  · intro i now s' hstep
    cases hstep with
    | @register i request payload' consumed now hstage =>
      obtain ⟨_, rfl, x, hgrant'⟩ := presents_holder (hstage ▸ hsound.stages i)
      rw [(hsound.grants_unique hgrant hgrant').1]
      exact registerWorker_carries s.store now _ request

/-- A join token enrolls one node, in time, and as the worker that the token names. -/
theorem join_tokens_single_use (hrun : Run Unjoined (JoinStep sha256) h s) :
    (h.filterMap JoinCall.registered?).Nodup ∧ (h.filterMap JoinCall.credentialed?).Nodup ∧
      (∀ i j token now, .register i token now ∈ h → .credential j token ∈ h → i = j) ∧
      (∀ i token now, .register i token now ∈ h ∨ .credential i token ∈ h →
        ∃ payload expiresAt later, Issued h (digestSecret sha256 token) payload expiresAt ∧
          Consumed sha256 h i (digestSecret sha256 token) later ∧ later < expiresAt) ∧
      (∀ i token failure, .refuse i token failure ∈ h →
        ∀ tokenHash later, ¬Consumed sha256 h i tokenHash later) ∧
      ∀ token payload expiresAt, Issued h (digestSecret sha256 token) payload expiresAt →
        SingleUseToken sha256 h s token payload expiresAt := by
  obtain ⟨a, hclients, hsound⟩ := run_joins hrun
  have haccounted := SingleUse.run_accounted hclients
  have hdone := haccounted.distinct
  rw [List.filterMap_filterMap] at hdone
  have hregister : ∀ {i token now}, .register i token now ∈ h →
      .act i (digestSecret sha256 token) 0 ∈ h.filterMap (JoinCall.act? sha256) :=
    fun hmem => List.mem_filterMap.2 ⟨_, hmem, rfl⟩
  have hcredential : ∀ {i token}, .credential i token ∈ h →
      .act i (digestSecret sha256 token) 1 ∈ h.filterMap (JoinCall.act? sha256) :=
    fun hmem => List.mem_filterMap.2 ⟨_, hmem, rfl⟩
  refine ⟨?_, ?_, ?_, ?_, ?_, ?_⟩
  · apply List.Nodup.of_map fun token => (digestSecret sha256 token, 0)
    apply hdone.sublist (filterMap_sublist _ h)
    intro e token he
    cases e with
    | register => cases he; rfl
    | _ => cases he
  · apply List.Nodup.of_map fun token => (digestSecret sha256 token, 1)
    apply hdone.sublist (filterMap_sublist _ h)
    intro e token he
    cases e with
    | credential => cases he; rfl
    | _ => cases he
  · intro i j token now hi hj
    exact haccounted.sole_actor (hregister hi) (hcredential hj)
  · rintro i token now (hmem | hmem)
    · exact hsound.in_time haccounted (hregister hmem)
    · exact hsound.in_time haccounted (hcredential hmem)
  · intro i token failure hmem tokenHash later hconsumed
    have hleave : .leave i ∈ h.filterMap (JoinCall.act? sha256) :=
      List.mem_filterMap.2 ⟨_, hmem, rfl⟩
    exact haccounted.left_empty hleave tokenHash hconsumed.take
  · intro token payload expiresAt hissued
    exact hsound.singleUse haccounted hissued

/-- An enrollment that nothing comes between is its four calls. -/
theorem enroll_path {request : NodeEnrollment} (harrived : s.stage i = .arrived)
    (h : enrollNode sha256 s.store now later workerToken request = (.ok node, store)) :
    Path (JoinStep sha256) s [.credential i request.joinToken, .register i request.joinToken later,
      .consume i request.joinToken later, .read i request.joinToken now]
      { s.to i .answered with store := store } := by
  rw [enrollNode] at h
  split at h
  · cases (Prod.mk.inj h).1
  · next payload hcheck =>
    split at h
    · cases (Prod.mk.inj h).1
    · next consumed used hconsumed =>
      simp only at h
      split at h
      · cases (Prod.mk.inj h).1
      · next credited hcredential =>
        obtain ⟨_, rfl⟩ := Prod.mk.inj h
        let at' (store : JudgeStore) (stage : JoinStage) : Joining :=
          ⟨store, Function.update s.stage i stage⟩
        have hread : JoinStep sha256 s (.read i request.joinToken now)
            (at' s.store (.checked request payload)) := .read harrived hcheck
        have hconsume : JoinStep sha256 (at' s.store (.checked request payload))
            (.consume i request.joinToken later)
            { (at' s.store (.checked request payload)).to i
              (.consumed request payload consumed) with
              store := used } := .consume (Function.update_self ..) hconsumed
        have hregister : JoinStep sha256 (at' used (.consumed request payload consumed))
            (.register i request.joinToken later)
            { (at' used (.consumed request payload consumed)).to i
                (.registered request payload consumed) with
              store := used.registerWorker later (enrolledWorker payload consumed request) } :=
          .register (Function.update_self ..)
        have hissue : JoinStep sha256 (at' (used.registerWorker later
              (enrolledWorker payload consumed request)) (.registered request payload consumed))
            (.credential i request.joinToken)
            { (at' (used.registerWorker later (enrolledWorker payload consumed request))
                (.registered request payload consumed)).to i .answered with store := credited } :=
          .credential (Function.update_self ..) hcredential
        simp only [Joining.to, at', Function.update_idem] at hread hconsume hregister hissue
        exact (((Path.single hread).next hconsume).next hregister).next hissue

end

namespace Sample

/-- A token for the node that names no queue. -/
def openGrant : EnrollmentPayload := { grant with queues := [] }

def invitation : Op :=
  .createEnrollmentToken "t1" (digestSecret sha256 joinToken) openGrant (clock 900)

/-- Two nodes present the token. The faster one uses it up just before it expires, and is
registered when it has expired. -/
def joinCalls : List JoinCall := [
  .credential 0 joinToken,
  .register 0 joinToken (clock 900),
  .miss 1 joinToken (clock 899),
  .consume 0 joinToken (clock 899),
  .read 1 joinToken (clock 11),
  .read 0 joinToken (clock 10),
  .elsewhere ⟨clock 0, invitation, .ok .unit⟩]

def inviting : JudgeStore :=
  { JudgeStore.empty with
    enrollmentTokens := ⟨[⟨"t1", digestSecret sha256 joinToken, openGrant, clock 900, none⟩],
      List.nodup_singleton _⟩ }

def joining : JudgeStore := (inviting.consumeEnrollmentToken sha256 (clock 899) joinToken).2

def joined : JudgeStore :=
  joining.registerWorker (clock 900) (enrolledWorker openGrant openGrant (enrollment none))

theorem invited_payload : inviting.getEnrollmentToken sha256 (clock 10) joinToken = some openGrant ∧
    inviting.getEnrollmentToken sha256 (clock 11) joinToken = some openGrant := by
  decide +kernel

theorem invited_checked {seconds : Nat}
    (hgrant : inviting.getEnrollmentToken sha256 (clock seconds) joinToken = some openGrant) :
    checkEnrollment sha256 inviting (clock seconds) (enrollment none) = .ok openGrant := by
  have htoken : (enrollment none).joinToken = joinToken := rfl
  rw [checkEnrollment, htoken, hgrant]
  rfl

theorem invitation_consumed :
    (inviting.consumeEnrollmentToken sha256 (clock 899) joinToken).1 = some openGrant ∧
      (joining.consumeEnrollmentToken sha256 (clock 899) joinToken).1 = none := by
  decide +kernel

theorem joined_worker : (joined.getWorker "w1").any (fun row => row.queues = ["default"]) ∧
    (joined.createWorkerCredential sha256 "w1" "worker-token").isOk := by
  decide +kernel

/-- The stages of the two requests. -/
def amid (store : JudgeStore) (first second : JoinStage) : Joining :=
  ⟨store, Function.update (Function.update (fun _ => .arrived) 1 second) 0 first⟩

theorem amid_to_first (store store' : JudgeStore) (first first' second : JoinStage) :
    { (amid store first second).to 0 first' with store := store' } = amid store' first' second :=
  congrArg (Joining.mk store') (Function.update_idem ..)

theorem amid_to_second (store store' : JudgeStore) (first second second' : JoinStage) :
    { (amid store first second).to 1 second' with store := store' } =
      amid store' first second' := by
  have hstages : Function.update (amid store first second).stage 1 second' =
      (amid store' first second').stage := by
    rw [amid, amid, Function.update_comm (by decide), Function.update_idem,
      Function.update_comm (by decide)]
  exact congrArg (Joining.mk store') hstages

theorem two_joins {sha256 : ByteArray → String} {e : Event} {inviting joining store : JudgeStore}
    {request : NodeEnrollment} {payload : EnrollmentPayload}
    (hissue : StoreStep sha256 .empty e inviting)
    (hother : ∀ token, e.op ≠ .consumeEnrollmentToken token)
    (hcheck : checkEnrollment sha256 inviting now request = .ok payload)
    (hcheck' : checkEnrollment sha256 inviting now' request = .ok payload)
    (hconsumed : inviting.consumeEnrollmentToken sha256 later request.joinToken =
      (some payload, joining))
    (hmissed : joining.consumeEnrollmentToken sha256 later request.joinToken = (none, joining))
    (hcreated : (joining.registerWorker last
      (enrolledWorker payload payload request)).createWorkerCredential
      sha256 payload.workerId workerToken = .ok store) :
    Run Unjoined (JoinStep sha256)
      [.credential 0 request.joinToken, .register 0 request.joinToken last,
      .miss 1 request.joinToken later, .consume 0 request.joinToken later,
      .read 1 request.joinToken now', .read 0 request.joinToken now, .elsewhere e]
      (amid store .answered .answered) := by
  have hstart : Run Unjoined (JoinStep sha256) [] (amid .empty .arrived .arrived) := by
    refine .start ⟨rfl, fun i => ?_⟩
    change
      Function.update (Function.update (fun _ => JoinStage.arrived) 1 .arrived) 0 .arrived i = _
    rw [Function.update_apply, Function.update_apply]
    split
    · rfl
    · split <;> rfl
  have hread : JoinStep sha256 (amid inviting .arrived .arrived) (.read 0 request.joinToken now)
      (amid inviting (.checked request payload) .arrived) := by
    rw [← amid_to_first inviting inviting .arrived (.checked request payload) .arrived]
    exact .read rfl hcheck
  have hread' : JoinStep sha256 (amid inviting (.checked request payload) .arrived)
      (.read 1 request.joinToken now')
      (amid inviting (.checked request payload) (.checked request payload)) := by
    rw [← amid_to_second inviting inviting (.checked request payload) .arrived
      (.checked request payload)]
    exact .read rfl hcheck'
  have hconsume : JoinStep sha256
      (amid inviting (.checked request payload) (.checked request payload))
      (.consume 0 request.joinToken later)
      (amid joining (.consumed request payload payload) (.checked request payload)) := by
    rw [← amid_to_first inviting joining (.checked request payload)]
    exact .consume rfl hconsumed
  have hmiss : JoinStep sha256
      (amid joining (.consumed request payload payload) (.checked request payload))
      (.miss 1 request.joinToken later)
      (amid joining (.consumed request payload payload) .answered) := by
    rw [← amid_to_second joining joining _ (.checked request payload) .answered]
    exact .miss rfl hmissed
  have hregister : JoinStep sha256 (amid joining (.consumed request payload payload) .answered)
      (.register 0 request.joinToken last)
      (amid (joining.registerWorker last (enrolledWorker payload payload request))
        (.registered request payload payload) .answered) := by
    rw [← amid_to_first joining _ (.consumed request payload payload)
      (.registered request payload payload)]
    exact .register rfl
  have hcredential : JoinStep sha256
      (amid (joining.registerWorker last (enrolledWorker payload payload request))
        (.registered request payload payload) .answered)
      (.credential 0 request.joinToken) (amid store .answered .answered) := by
    rw [← amid_to_first (joining.registerWorker last (enrolledWorker payload payload request)) store
      (.registered request payload payload) .answered]
    exact .credential rfl hcreated
  exact ((((((hstart.next (.elsewhere hissue hother)).next hread).next hread').next hconsume).next
    hmiss).next hregister).next hcredential

theorem join_run : ∃ s, Run Unjoined (JoinStep sha256) joinCalls s ∧
    ∃ row, s.store.getWorker "w1" = some row ∧ row.queues = ["default"] := by
  obtain ⟨hworker, hcredential⟩ := joined_worker
  obtain ⟨row, hrow, hqueues⟩ := (Option.any_eq_true _ _).1 hworker
  obtain ⟨store, hstore⟩ := isOk_iff.1 hcredential
  have hissue : StoreStep sha256 .empty ⟨clock 0, invitation, .ok .unit⟩ inviting := step_ok.2 rfl
  have hmissed := eq_pair invitation_consumed.2
  rw [consumeEnrollmentToken_none hmissed] at hmissed
  have hrun := two_joins hissue (fun _ he => by cases he) (invited_checked invited_payload.1)
    (invited_checked invited_payload.2) (eq_pair invitation_consumed.1) hmissed hstore
  refine ⟨_, hrun, row, ?_, of_decide_eq_true hqueues⟩
  change store.workers.find? "w1" = some row
  rw [createWorkerCredential_workers hstore]
  exact hrow

end Sample

theorem join_tokens_single_use_sample :
    ∃ s, Run Unjoined (JoinStep Sample.sha256) Sample.joinCalls s ∧
    SingleUseToken Sample.sha256 Sample.joinCalls s Sample.joinToken Sample.openGrant
      (Sample.clock 900) := by
  obtain ⟨s, hrun, _⟩ := Sample.join_run
  obtain ⟨_, _, _, _, _, hissued⟩ := join_tokens_single_use hrun
  exact ⟨s, hrun, hissued _ _ _
    ⟨Sample.clock 0, "t1", by simp [Sample.joinCalls, Sample.invitation]⟩⟩

/-- A node is registered when its token has expired, and for a queue that the token does not
name. -/
theorem late_join_sample : ∃ h s row, Run Unjoined (JoinStep Sample.sha256) h s ∧
    Issued h (digestSecret Sample.sha256 Sample.joinToken) Sample.openGrant (Sample.clock 900) ∧
    .register 0 Sample.joinToken (Sample.clock 900) ∈ h ∧ .credential 0 Sample.joinToken ∈ h ∧
    s.store.getWorker Sample.openGrant.workerId = some row ∧
    Sample.openGrant.queues = [] ∧ row.queues = ["default"] := by
  obtain ⟨s, hrun, row, hrow, hqueues⟩ := Sample.join_run
  refine ⟨Sample.joinCalls, s, row, hrun, ⟨Sample.clock 0, "t1", ?_⟩, ?_, ?_, hrow, rfl, hqueues⟩
  · simp [Sample.joinCalls, Sample.invitation]
  · simp [Sample.joinCalls]
  · simp [Sample.joinCalls]

end BrunostJudge
