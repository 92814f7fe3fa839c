import BrunostJudge.AccessControl
import BrunostJudge.StoreRun

namespace BrunostJudge
open Python Relational Transition JudgeStore
set_option autoImplicit true

section
variable {t t' : Table ServiceCredential} {row : ServiceCredential}

theorem createServiceCredential_ok (h : createServiceCredential t row = .ok t') :
    (∀ c ∈ t.rows, c.tokenHash ≠ row.tokenHash) ∧ t.insert? row = some t' := by
  rw [createServiceCredential] at h
  split at h
  · cases h
  · next hfree =>
    split at h
    · next hinsert =>
      cases h
      refine ⟨?_, hinsert⟩
      intro c hc heq
      exact hfree (List.any_eq_true.2 ⟨c, hc, decide_eq_true heq⟩)
    · cases h

theorem grantedBy_iff {rows : List ServiceCredential}
    (hdistinct : (rows.map ServiceCredential.tokenHash).Nodup) :
    grantedBy now tokenHash scope rows = some credentialId ↔
      ∃ row ∈ rows, row.tokenHash = tokenHash ∧ row.expiresAt.all (now < ·) ∧
        scope.text ∈ row.scopes ∧ row.credentialId = credentialId := by
  induction rows with
  | nil => simp [grantedBy]
  | cons row rows ih =>
    obtain ⟨hfresh, hrest⟩ := List.nodup_cons.1 hdistinct
    rw [grantedBy, List.exists_mem_cons_iff]
    by_cases hhash : row.tokenHash = tokenHash
    · have hother : ¬ ∃ c ∈ rows, c.tokenHash = tokenHash ∧ c.expiresAt.all (now < ·) ∧
          scope.text ∈ c.scopes ∧ c.credentialId = credentialId := by
        rintro ⟨c, hc, heq, _⟩
        exact hfresh (List.mem_map.2 ⟨c, hc, heq.trans hhash.symm⟩)
      rw [if_neg (not_not.2 hhash), or_iff_left hother]
      have hexpiry : row.expiresAt.any (isExpired now) = !row.expiresAt.all (now < ·) := by
        cases row.expiresAt with
        | none => rfl
        | some expiry => simp [isExpired, decide_not.symm]
      rw [hexpiry]
      by_cases hlive : row.expiresAt.all (now < ·) = true
      · rw [hlive, if_neg (by simp)]
        by_cases hscope : scope.text ∈ row.scopes
        · rw [if_pos (List.contains_iff_mem.2 hscope)]
          simp [hhash, hscope]
        · rw [if_neg fun hcontains => hscope (List.contains_iff_mem.1 hcontains)]
          simp [hscope]
      · rw [Bool.not_eq_true] at hlive
        rw [hlive, if_pos (by rfl)]
        simp
    · rw [if_pos hhash, ih hrest, or_iff_right]
      rintro ⟨heq, _⟩
      exact hhash heq

theorem verifyServiceToken_iff (hdistinct : (t.rows.map ServiceCredential.tokenHash).Nodup) :
    verifyServiceToken sha256 t now token scope = some credentialId ↔
      ∃ row, (row ∈ t.rows ∧ row.revokedAt = none) ∧
        row.tokenHash = digestSecret sha256 token ∧ row.expiresAt.all (now < ·) ∧
        scope.text ∈ row.scopes ∧ row.credentialId = credentialId := by
  have hlive := hdistinct.sublist (List.Sublist.map ServiceCredential.tokenHash
    (List.filter_sublist (p := fun c => decide (c.revokedAt = none)) (l := t.rows)))
  rw [verifyServiceToken, grantedBy_iff hlive]
  simp only [List.mem_filter, decide_eq_true_eq]

end

section
variable {sha256 : ByteArray → String} {urlPath : ApiRequest → PyStr} {cfg : AccessSettings}
  {s : AccessStore}

theorem serve_cases {e : AccessEvent}
    (he : e = .serve now draw call subject (s.perform sha256 cfg now draw call).1) :
    (∃ row, e.creates sha256 = some row ∧ e.revokes = none ∧ row.revokedAt = none ∧
      createServiceCredential s.credentials row =
        .ok (s.perform sha256 cfg now draw call).2.credentials) ∨
    (∃ id, e.creates sha256 = none ∧ e.revokes = some id ∧
      revokeServiceCredential s.credentials now id =
        (true, (s.perform sha256 cfg now draw call).2.credentials)) ∨
    (e.creates sha256 = none ∧ e.revokes = none ∧
      (s.perform sha256 cfg now draw call).2.credentials = s.credentials) := by
  subst he
  cases call with
  | createServiceCredential name scopes ttl =>
    rw [AccessStore.perform]
    split
    · exact .inr (.inr ⟨rfl, rfl, rfl⟩)
    · split
      · exact .inr (.inr ⟨rfl, rfl, rfl⟩)
      · dsimp only
        split
        · exact .inr (.inr ⟨rfl, rfl, rfl⟩)
        · next credentials hcreate => exact .inl ⟨_, rfl, rfl, rfl, hcreate⟩
  | revokeServiceCredential id =>
    rw [AccessStore.perform]
    split
    · next hfound => exact .inr (.inl ⟨id, rfl, rfl, Prod.ext hfound rfl⟩)
    · exact .inr (.inr ⟨rfl, rfl, rfl⟩)
  | rotateAdminToken =>
    rw [AccessStore.perform]
    split
    · exact .inr (.inr ⟨rfl, rfl, rfl⟩)
    · split
      · exact .inr (.inr ⟨rfl, rfl, rfl⟩)
      · dsimp only
        split
        · exact .inr (.inr ⟨rfl, rfl, rfl⟩)
        · next done _ => cases done <;> exact .inr (.inr ⟨rfl, rfl, rfl⟩)
  | other => exact .inr (.inr ⟨rfl, rfl, rfl⟩)

/-- The rows of the table, in terms of what was served. -/
structure Accounted (sha256 : ByteArray → String) (history : List AccessEvent)
    (t : Table ServiceCredential) : Prop where
  distinct : (t.rows.map ServiceCredential.tokenHash).Nodup
  live : ∀ row, (row ∈ t.rows ∧ row.revokedAt = none) ↔
    row ∈ history.filterMap (AccessEvent.creates sha256) ∧
      row.credentialId ∉ history.filterMap AccessEvent.revokes
  known : ∀ id ∈ history.filterMap AccessEvent.revokes, ∃ row ∈ t.rows, row.credentialId = id

theorem Accounted.quiet (h : Accounted sha256 history t) (hcreates : e.creates sha256 = none)
    (hrevokes : e.revokes = none) : Accounted sha256 (e :: history) t := by
  refine ⟨h.distinct, ?_, ?_⟩
  · rw [List.filterMap_cons_none hcreates, List.filterMap_cons_none hrevokes]
    exact h.live
  · rw [List.filterMap_cons_none hrevokes]
    exact h.known

theorem Accounted.create (h : Accounted sha256 history t) (hcreates : e.creates sha256 = some row)
    (hrevokes : e.revokes = none) (hlive : row.revokedAt = none)
    (ht : createServiceCredential t row = .ok t') : Accounted sha256 (e :: history) t' := by
  obtain ⟨hfresh, hinsert⟩ := createServiceCredential_ok ht
  have hrows := Table.insert?_rows hinsert
  have hid : ∀ c ∈ t.rows, c.credentialId ≠ row.credentialId :=
    Table.find?_eq_none.1 (Table.insert?_fresh hinsert)
  have hnew : row.credentialId ∉ history.filterMap AccessEvent.revokes := by
    intro hmem
    obtain ⟨c, hc, heq⟩ := h.known _ hmem
    exact hid c hc heq
  refine ⟨?_, ?_, ?_⟩
  · rw [hrows, List.map_append, List.map_singleton, List.nodup_append]
    refine ⟨h.distinct, List.nodup_singleton _, ?_⟩
    intro a ha b hb
    obtain ⟨c, hc, hca⟩ := List.mem_map.1 ha
    rw [List.mem_singleton.1 hb, ← hca]
    exact hfresh c hc
  · intro c
    rw [List.filterMap_cons_some hcreates, List.filterMap_cons_none hrevokes, hrows,
      List.mem_append, List.mem_singleton, List.mem_cons, or_and_right, or_and_right,
        h.live, or_comm]
    constructor
    · rintro (hrow | hold)
      · exact .inl ⟨hrow.1, hrow.1 ▸ hnew⟩
      · exact .inr hold
    · rintro (hrow | hold)
      · exact .inl ⟨hrow.1, hrow.1 ▸ hlive⟩
      · exact .inr hold
  · rw [List.filterMap_cons_none hrevokes]
    intro id hmem
    obtain ⟨c, hc, heq⟩ := h.known id hmem
    exact ⟨c, hrows ▸ List.mem_append_left _ hc, heq⟩

theorem Accounted.revoke {id : String} (h : Accounted sha256 history t)
    (hcreates : e.creates sha256 = none)
    (hrevokes : e.revokes = some id) (ht : revokeServiceCredential t now id = (true, t')) :
    Accounted sha256 (e :: history) t' := by
  obtain ⟨hcount, htable⟩ := Prod.mk.inj ht
  have hrows : t'.rows = t.rows.map fun c =>
      if decide (c.credentialId = id) && c.revokedAt = none then { c with revokedAt := some now }
      else c := by
    rw [← htable]
    rfl
  refine ⟨?_, ?_, ?_⟩
  · rw [hrows, List.map_map]
    have hsame : t.rows.map (ServiceCredential.tokenHash ∘ fun c =>
        if decide (c.credentialId = id) && c.revokedAt = none then { c with revokedAt := some now }
        else c) = t.rows.map ServiceCredential.tokenHash := by
      apply List.map_congr_left
      intro c _
      simp only [Function.comp_apply]
      split <;> rfl
    rw [hsame]
    exact h.distinct
  · intro c
    rw [List.filterMap_cons_none hcreates, List.filterMap_cons_some hrevokes, List.mem_cons, not_or,
      and_left_comm, ← h.live, hrows, List.mem_map]
    constructor
    · rintro ⟨⟨d, hd, rfl⟩, hlive⟩
      by_cases hsel : (decide (d.credentialId = id) && decide (d.revokedAt = none)) = true
      · rw [if_pos hsel] at hlive
        cases hlive
      · rw [if_neg hsel] at hlive ⊢
        refine ⟨?_, hd, hlive⟩
        intro heq
        exact hsel (Bool.and_eq_true_iff.2 ⟨decide_eq_true heq, decide_eq_true hlive⟩)
    · rintro ⟨hne, hc, hlive⟩
      refine ⟨⟨c, hc, if_neg ?_⟩, hlive⟩
      rw [Bool.and_eq_true, decide_eq_true_eq]
      exact fun hsel => hne hsel.1
  · rw [List.filterMap_cons_some hrevokes]
    have hkept : ∀ c ∈ t.rows, ∃ d ∈ t'.rows, d.credentialId = c.credentialId := by
      intro c hc
      refine ⟨_, hrows ▸ List.mem_map_of_mem hc, ?_⟩
      split <;> rfl
    intro other hmem
    rcases List.mem_cons.1 hmem with heq | hold
    · have hne : t.count (fun c => decide (c.credentialId = id) && c.revokedAt = none) ≠ 0 := by
        exact Nat.ne_of_gt (of_decide_eq_true hcount)
      rw [ne_eq, Table.count_eq_zero, not_forall] at hne
      obtain ⟨c, hne⟩ := hne
      rw [Classical.not_imp, Bool.not_eq_false, Bool.and_eq_true, decide_eq_true_eq] at hne
      obtain ⟨d, hd, hdc⟩ := hkept c hne.1
      exact ⟨d, hd, by rw [hdc, hne.2.1, heq]⟩
    · obtain ⟨c, hc, heq⟩ := h.known other hold
      obtain ⟨d, hd, hdc⟩ := hkept c hc
      exact ⟨d, hd, hdc.trans heq⟩

theorem accounted {s : AccessState} (h : AccessRun sha256 urlPath cfg file history s) :
    Accounted sha256 history s.store.credentials := by
  induction h with
  | start hstart =>
    rw [hstart]
    exact ⟨List.nodup_nil, by simp [Table.empty], by simp⟩
  | next _ hstep ih =>
    cases hstep with
    | permit => exact ih.quiet rfl rfl
    | refuse => exact ih.quiet rfl rfl
    | serve =>
      rcases serve_cases rfl with ⟨row, hcreates, hrevokes, hlive, ht⟩ |
        ⟨id, hcreates, hrevokes, ht⟩ | ⟨hcreates, hrevokes, ht⟩
      · exact ih.create hcreates hrevokes hlive ht
      · exact ih.revoke hcreates hrevokes ht
      · dsimp only
        rw [ht]
        exact ih.quiet hcreates hrevokes

theorem given_eq_some {value : Option String} {text : String} :
    given value = some text ↔ value = some text ∧ text ≠ "" := by
  rw [given, Option.filter_eq_some_iff, decide_eq_true_eq]

/-- A service is let in by a live credential for its token and the scope of the request. -/
theorem requireApiToken_service_iff {expected : Option String}
    (hexpected : cfg.adminToken s = .ok expected) :
    requireApiToken sha256 urlPath cfg s now request authorization = .ok (.service credentialId) ↔
      ∃ token, bearerToken authorization = some token ∧ expected ≠ some token ∧
        given (verifyServiceToken sha256 s.credentials now token
          (requiredScope request.method (urlPath request))) = some credentialId := by
  rw [requireApiToken, hexpected]
  simp only [bind, Except.bind]
  cases htoken : bearerToken authorization with
  | none =>
    dsimp only
    apply iff_of_false
    · split
      · intro h
        cases h
      · split
        · intro h
          cases h
        · intro h
          cases h
    · rintro ⟨token, heq, _⟩
      cases heq
  | some token =>
    dsimp only
    by_cases hadmin : expected = some token
    · rw [if_pos hadmin]
      apply iff_of_false
      · intro h
        cases h
      · rintro ⟨token', heq, hne, _⟩
        exact hne (hadmin.trans heq)
    · rw [if_neg hadmin]
      constructor
      · intro h
        split at h
        · next id hid =>
          cases h
          exact ⟨token, rfl, hadmin, hid⟩
        · cases h
      · rintro ⟨token', heq, _, hgiven⟩
        cases heq
        rw [hgiven]
        rfl

/-- A token verifies for a credential that was made with it and the scope, and was not revoked. -/
theorem granted_iff {s : AccessState} (h : AccessRun sha256 urlPath cfg file history s) :
    given (verifyServiceToken sha256 s.store.credentials now token scope) = some credentialId ↔
      ∃ row ∈ history.filterMap (AccessEvent.creates sha256),
        credentialId ∉ history.filterMap AccessEvent.revokes ∧
        row.credentialId = credentialId ∧ credentialId ≠ "" ∧
        row.tokenHash = digestSecret sha256 token ∧ row.expiresAt.all (now < ·) ∧
        scope.text ∈ row.scopes := by
  have hacc := accounted h
  rw [given_eq_some, verifyServiceToken_iff hacc.distinct]
  constructor
  · rintro ⟨⟨row, hlive, hhash, hexpiry, hscope, rfl⟩, hne⟩
    obtain ⟨hcreated, hrevoked⟩ := (hacc.live row).1 hlive
    exact ⟨row, hcreated, hrevoked, rfl, hne, hhash, hexpiry, hscope⟩
  · rintro ⟨row, hcreated, hrevoked, rfl, hne, hhash, hexpiry, hscope⟩
    have hlive := (hacc.live row).2 ⟨hcreated, hrevoked⟩
    exact ⟨⟨row, hlive, hhash, hexpiry, hscope, rfl⟩, hne⟩

/-- A service is let in while a credential that was made for it, and was not revoked, lasts: when
its token is presented, and it has the scope. -/
theorem service_admitted_iff {s : AccessState} {expected : Option String}
    (h : AccessRun sha256 urlPath cfg file history s)
    (hexpected : cfg.adminToken s.store = .ok expected) :
    requireApiToken sha256 urlPath cfg s.store now request authorization =
      .ok (.service credentialId) ↔
      ∃ token row, bearerToken authorization = some token ∧ expected ≠ some token ∧
        row ∈ history.filterMap (AccessEvent.creates sha256) ∧
        credentialId ∉ history.filterMap AccessEvent.revokes ∧
        row.credentialId = credentialId ∧ credentialId ≠ "" ∧
        row.tokenHash = digestSecret sha256 token ∧ row.expiresAt.all (now < ·) ∧
        (requiredScope request.method (urlPath request)).text ∈ row.scopes := by
  rw [requireApiToken_service_iff hexpected]
  constructor
  · rintro ⟨token, hbearer, hne, hgiven⟩
    obtain ⟨row, hcreated, hrest⟩ := (granted_iff h).1 hgiven
    exact ⟨token, row, hbearer, hne, hcreated, hrest⟩
  · rintro ⟨token, row, hbearer, hne, hcreated, hrest⟩
    exact ⟨token, hbearer, hne, (granted_iff h).2 ⟨row, hcreated, hrest⟩⟩

/-- The credential was made by the administrator, or by the holder of an administrative credential
that comes from the administrator in this way. -/
inductive Descends (sha256 : ByteArray → String) : List AccessEvent → String → Prop
  | root {now draw call outcome history row} :
      (AccessEvent.serve now draw call .admin outcome).creates sha256 = some row →
      Descends sha256 (.serve now draw call .admin outcome :: history) row.credentialId
  | child {now draw call parent outcome history row} :
      (AccessEvent.serve now draw call (.service parent.credentialId) outcome).creates sha256 =
        some row →
      parent ∈ history.filterMap (AccessEvent.creates sha256) →
      Scope.admin.text ∈ parent.scopes → Descends sha256 history parent.credentialId →
      Descends sha256 (.serve now draw call (.service parent.credentialId) outcome :: history)
        row.credentialId
  | later {e history credentialId} : Descends sha256 history credentialId →
      Descends sha256 (e :: history) credentialId

theorem requireApiToken_named (hclosed : cfg.allowAnonymousApi = false) :
    requireApiToken sha256 urlPath cfg s now request authorization ≠ .ok .anonymous := by
  intro h
  rw [requireApiToken] at h
  obtain ⟨expected, _, h⟩ := bind_ok.1 h
  split at h
  · split at h
    · cases h
    · split at h
      · cases h
      · cases h
  · split at h
    · cases h
    · rw [hclosed, Bool.not_false, Bool.or_true, if_pos rfl] at h
      cases h

/-- The requests under way that could make a credential are the administrator's, or come from him
by a chain of administrative credentials. -/
def Entitled (sha256 : ByteArray → String) (history : List AccessEvent) : Subject → Prop
  | .anonymous => False
  | .admin => True
  | .service credentialId => ∃ parent ∈ history.filterMap (AccessEvent.creates sha256),
      parent.credentialId = credentialId ∧ Scope.admin.text ∈ parent.scopes ∧
        Descends sha256 history credentialId

theorem Entitled.later (h : Entitled sha256 history subject) :
    Entitled sha256 (e :: history) subject := by
  cases subject with
  | anonymous => exact h
  | admin => trivial
  | service credentialId =>
    obtain ⟨parent, hparent, hid, hscope, hdescends⟩ := h
    refine ⟨parent, ?_, hid, hscope, .later hdescends⟩
    obtain ⟨made, hmade, hcreates⟩ := List.mem_filterMap.1 hparent
    exact List.mem_filterMap.2 ⟨made, List.mem_cons_of_mem _ hmade, hcreates⟩

/-- A request for a new credential takes the administrative scope, whatever comes after the host. -/
theorem createServiceCredential_scope (hurl : KeepsPath urlPath)
    (hhost : request.plainHost = true)
    (hasks : request.asks (.createServiceCredential name scopes ttl)) :
    requiredScope request.method (urlPath request) = .admin := by
  let path := PyStr.ofString "/v1/auth/service-credentials"
  have hmem : request.path ∈ [path, path ++ PyStr.ofString "\n"] := by
    rw [List.mem_pair]
    exact hasks.2
  have hpaths : ∀ p ∈ [path, path ++ PyStr.ofString "\n"], apiPrefix <+: p ∧
      p.all (fun c => decide (c ∉ urlDelimiters)) = true ∧
        p.filter (fun c => decide (c ∉ urlBlanks)) = path := by
    decide +kernel
  obtain ⟨hversion, hall, hblanks⟩ := hpaths request.path hmem
  have hdelimiters (c) (hc : c ∈ request.path) : c ∉ urlDelimiters := by
    exact of_decide_eq_true (List.all_eq_true.1 hall c hc)
  have hprefix : (adminPrefixes.any fun p => p.isPrefixOf path) = true := by
    decide +kernel
  rw [hurl request hhost hversion hdelimiters, hblanks, requiredScope, hprefix, Bool.true_or,
    if_pos rfl]

/-- A call that can make a credential. -/
def AccessCall.enrols : AccessCall → Bool
  | .createServiceCredential .. => true
  | _ => false

theorem creates_enrols
    (h : (AccessEvent.serve now draw call subject outcome).creates sha256 = some row) :
    call.enrols = true := by
  cases call with
  | createServiceCredential => rfl
  | _ => cases h

def AccessEvent.plainHost : AccessEvent → Bool
  | .check _ _ request _ _ => request.plainHost
  | .serve .. => true

theorem entitled_creates (h : Entitled sha256 history subject)
    (hcreates : (AccessEvent.serve now draw call subject outcome).creates sha256 = some row) :
    Descends sha256 (.serve now draw call subject outcome :: history) row.credentialId := by
  cases subject with
  | anonymous => exact h.elim
  | admin => exact .root hcreates
  | service credentialId =>
    obtain ⟨parent, hparent, rfl, hscope, hdescends⟩ := h
    exact .child hcreates hparent hscope hdescends

/-- Whatever the requests and their order: every credential comes from the administrator, through
credentials with the administrative scope. -/
theorem credentials_descend {s : AccessState} (h : AccessRun sha256 urlPath cfg file history s)
    (hclosed : cfg.allowAnonymousApi = false) (hurl : KeepsPath urlPath)
    (hhosts : ∀ e ∈ history, e.plainHost = true) :
    ∀ row ∈ history.filterMap (AccessEvent.creates sha256),
      Descends sha256 history row.credentialId := by
  have hinvariant : (∀ row ∈ history.filterMap (AccessEvent.creates sha256),
        Descends sha256 history row.credentialId) ∧
      ∀ p ∈ s.admitted, p.1.enrols = true → Entitled sha256 history p.2 := by
    induction h with
    | start hstart =>
      rw [hstart]
      exact ⟨by simp, by simp⟩
    | @next history s e s' hrun hstep ih =>
      obtain ⟨hhost, hhosts⟩ := List.forall_mem_cons.1 hhosts
      obtain ⟨hrows, hadmitted⟩ := ih hhosts
      cases hstep with
      | @permit now authorization request call subject hasks hadmit =>
        refine ⟨fun row hrow => .later (hrows row hrow), ?_⟩
        intro p hp henrols
        rcases List.mem_cons.1 hp with heq | hold
        · subst heq
          dsimp only at henrols ⊢
          cases subject with
          | anonymous => exact absurd hadmit (requireApiToken_named hclosed)
          | admin => trivial
          | service credentialId =>
            obtain ⟨expected, hexpected, _⟩ := bind_ok.1 hadmit
            obtain ⟨_, _, _, hgiven⟩ := (requireApiToken_service_iff hexpected).1 hadmit
            obtain ⟨row, hcreated, _, hid, _, _, _, hgranted⟩ := (granted_iff hrun).1 hgiven
            cases call with
            | createServiceCredential =>
              rw [createServiceCredential_scope hurl hhost hasks] at hgranted
              exact Entitled.later ⟨row, hcreated, hid, hgranted, hid ▸ hrows row hcreated⟩
            | _ => cases henrols
        · exact (hadmitted p hold henrols).later
      | refuse =>
        refine ⟨fun row hrow => .later (hrows row hrow), ?_⟩
        exact fun p hp henrols => (hadmitted p hp henrols).later
      | @serve now draw call subject hmem =>
        constructor
        · intro row hrow
          rw [List.filterMap_cons] at hrow
          split at hrow
          · exact .later (hrows row hrow)
          · next made hmade =>
            rcases List.mem_cons.1 hrow with heq | hold
            · subst heq
              exact entitled_creates (hadmitted _ hmem (creates_enrols hmade)) hmade
            · exact .later (hrows row hold)
        · intro p hp henrols
          exact (hadmitted p (List.mem_of_mem_erase hp) henrols).later
  exact hinvariant.1

end

namespace Sample

def closedApi : AccessSettings := ⟨some " root ", "", none, false⟩

def operatorCall : AccessCall :=
  .createServiceCredential "operator" ["judge:read", "judge:admin"] (some 3600)

def operatorRequest : ApiRequest := ⟨.post, "judge:8000", "/v1/auth/service-credentials"⟩

def operatorDraw : Draw := ⟨"svc-1", "first", .written⟩

def operatorStore : AccessStore := ⟨.empty, .error "no file"⟩

def operatorHistory : List AccessEvent :=
  [.serve (clock 1) operatorDraw operatorCall .admin
      (operatorStore.perform sha256 closedApi (clock 1) operatorDraw operatorCall).1,
    .check (clock 0) (some "Bearer root") operatorRequest operatorCall (.ok .admin)]

def operatorState : AccessState :=
  ⟨(operatorStore.perform sha256 closedApi (clock 1) operatorDraw operatorCall).2,
    [(operatorCall, .admin)].erase (operatorCall, .admin)⟩

theorem operator_run : AccessRun sha256 urlPath closedApi operatorStore.tokenFile operatorHistory
    operatorState := by
  have hadmit : requireApiToken sha256 urlPath closedApi operatorStore (clock 0) operatorRequest
      (some "Bearer root") = .ok .admin := by
    decide +kernel
  have hasks : operatorRequest.asks operatorCall := ⟨rfl, .inl rfl⟩
  exact .next (.next (.start rfl) (.permit hasks hadmit)) (.serve List.mem_cons_self)

def operatorCredential : ServiceCredential :=
  .fresh sha256 "svc-1" "operator" "first" ["judge:read", "judge:admin"] (some (clock 3601))

theorem operator_created :
    operatorCredential ∈ operatorHistory.filterMap (AccessEvent.creates sha256) := by
  have heq : operatorHistory.filterMap (AccessEvent.creates sha256) = [operatorCredential] := by
    decide +kernel
  rw [heq]
  exact List.mem_cons_self

theorem operator_expected : closedApi.adminToken operatorState.store = .ok (some "root") := by
  decide +kernel

end Sample

theorem service_admitted_operator :
    requireApiToken Sample.sha256 Sample.urlPath Sample.closedApi Sample.operatorState.store
      (Sample.clock 60) ⟨.post, "judge:8000", "/v1/auth/admin-token/rotate"⟩
      (some "Bearer first") = .ok (.service "svc-1") :=
  (service_admitted_iff Sample.operator_run Sample.operator_expected).2
    ⟨"first", Sample.operatorCredential, by decide +kernel, by decide +kernel,
      Sample.operator_created, by decide +kernel, rfl, by decide +kernel, by decide +kernel,
      by decide +kernel, by decide +kernel⟩

theorem credentials_descend_operator :
    Descends Sample.sha256 Sample.operatorHistory "svc-1" :=
  credentials_descend Sample.operator_run rfl Sample.urlPath_keeps (by decide +kernel) _
    Sample.operator_created

end BrunostJudge
