import BrunostJudge.AccessControl
import BrunostJudge.PyDumpsSize
import BrunostJudge.PyLines
import BrunostJudge.StoreRun

namespace BrunostJudge
open Python Relational Transition JudgeStore
set_option autoImplicit true

/-- The characters of `secrets.token_urlsafe`. -/
def urlSafeAlphabet : List Char :=
  "ABCDEFGHIJKLMNOPQRSTUVWXYZabcdefghijklmnopqrstuvwxyz0123456789-_".toList

example : urlSafeAlphabet.length = 64 := by decide +kernel

/-- What `new_secret` can return: 32 random bytes in base 64. -/
def NewSecret (secret : String) : Prop :=
  secret.toList.length = 43 ∧ ∀ c ∈ secret.toList, c ∈ urlSafeAlphabet

theorem urlSafe_solid : ∀ c ∈ urlSafeAlphabet, ¬isSpace c = true := by
  have hall : urlSafeAlphabet.all (fun c => !isSpace c) = true := by decide +kernel
  intro c hc hspace
  have hsolid := List.all_eq_true.1 hall c hc
  rw [hspace] at hsolid
  cases hsolid

theorem strip_newline {token : String} (h : ∀ c ∈ token.toList, ¬isSpace c = true) :
    strip (token ++ "\n") = token := by
  have htrim : strip (token ++ "\n") = String.ofList (trim (token ++ "\n").toList) := rfl
  have hblank : ∀ c ∈ "\n".toList, isSpace c = true := by
    intro c hc
    rw [List.mem_singleton.1 hc]
    rfl
  have hdrop : token.toList.dropWhile isSpace = token.toList := by
    cases hchars : token.toList with
    | nil => rfl
    | cons c cs => exact List.dropWhile_cons_of_neg (h c (hchars ▸ List.mem_cons_self))
  rw [htrim, String.toList_append, trim_append_blank hblank, trim_eq, hdrop,
    rdropWhile_solid h, String.ofList_toList]

theorem secretFileValue_text {token : String} (h : NewSecret token) :
    secretFileValue path (.ok (secretFileText token)) = .ok token := by
  have hsolid : ∀ c ∈ token.toList, ¬isSpace c = true := fun c hc => urlSafe_solid c (h.2 c hc)
  have hnewline : ∀ c ∈ token.toList, ¬(decide (c = '\n')) = true := by
    intro c hc heq
    rw [of_decide_eq_true heq] at hc
    exact hsolid '\n' hc (by decide)
  have hkept : token.toList.rdropWhile (· = '\n') = token.toList := by
    rw [List.rdropWhile_eq_self_iff]
    exact fun hne => hnewline _ (List.getLast_mem hne)
  have htext : secretFileText token = (token ++ "\n").toByteArray := by
    rw [secretFileText, hkept, String.ofList_toList]
  have hsize : (token ++ "\n").toByteArray.size ≤ maxSecretFileBytes := by
    have hbytes := utf8ByteSize_ofList_le (token ++ "\n").toList
    rw [String.ofList_toList, String.toList_append, List.length_append, h.1] at hbytes
    exact Nat.le_trans hbytes (by decide)
  have hdecode : String.fromUTF8? (token ++ "\n").toByteArray = some (token ++ "\n") := by
    rw [String.fromUTF8?, dif_pos (token ++ "\n").isValidUTF8]
    rfl
  rw [htext, secretFileValue, if_neg (Nat.not_lt.2 hsize), hdecode]
  exact congrArg Except.ok (strip_newline hsolid)

section
variable {sha256 : ByteArray → String} {urlPath : ApiRequest → PyStr} {cfg : AccessSettings}
  {s : AccessStore}

theorem adminToken_file (hpath : cfg.apiTokenFile ≠ "")
    (henvironment : given (cfg.apiToken.map strip) = none) {token : String} (h : NewSecret token)
    (hfile : s.tokenFile = .ok (secretFileText token)) : cfg.adminToken s = .ok (some token) := by
  have hne : token ≠ "" := by
    rintro rfl
    cases h.1
  have hgiven : given (some token) = some token := by
    rw [given, Option.filter_some, if_pos (decide_eq_true hne)]
  rw [AccessSettings.adminToken, configuredSecret, if_neg hpath, hfile, secretFileValue_text h]
  simp only [Except.map, bind, Except.bind]
  rw [henvironment, hgiven]
  rfl

theorem adminToken_congr {s t : AccessStore} (h : s.tokenFile = t.tokenFile) :
    cfg.adminToken s = cfg.adminToken t := by
  rw [AccessSettings.adminToken, h, AccessSettings.adminToken]

theorem serve_tokenFile (hpath : cfg.apiTokenFile ≠ "")
    (henvironment : given (cfg.apiToken.map strip) = none) {e : AccessEvent}
    (he : e = .serve now draw call subject (s.perform sha256 cfg now draw call).1) :
    (∃ token, e.rotates = some token ∧
      (s.perform sha256 cfg now draw call).2.tokenFile = .ok (secretFileText token)) ∨
    (e.rotates = none ∧ (s.perform sha256 cfg now draw call).2.tokenFile = s.tokenFile) := by
  subst he
  cases call with
  | createServiceCredential =>
    apply Or.inr
    refine ⟨rfl, ?_⟩
    rw [AccessStore.perform]
    split
    · rfl
    · split
      · rfl
      · dsimp only
        split <;> rfl
  | revokeServiceCredential =>
    apply Or.inr
    refine ⟨rfl, ?_⟩
    rw [AccessStore.perform]
    split <;> rfl
  | rotateAdminToken =>
    rw [AccessStore.perform, if_neg hpath, henvironment, Option.isSome_none, if_neg (by simp),
      AccessEvent.rotates]
    dsimp only
    cases draw.write with
    | written => exact .inl ⟨_, rfl, rfl⟩
    | failed reason replaced =>
      cases replaced with
      | true => exact .inl ⟨_, rfl, rfl⟩
      | false => exact .inr ⟨rfl, rfl⟩
  | other => exact .inr ⟨rfl, rfl⟩

theorem requireApiToken_admin_iff :
    requireApiToken sha256 urlPath cfg s now request authorization = .ok .admin ↔
      ∃ token, bearerToken authorization = some token ∧ cfg.adminToken s = .ok (some token) := by
  rw [requireApiToken]
  cases cfg.adminToken s with
  | error failure =>
    apply iff_of_false
    · intro h
      cases h
    · rintro ⟨token, _, h⟩
      cases h
  | ok expected =>
    simp only [bind, Except.bind]
    cases bearerToken authorization with
    | none =>
      dsimp only
      apply iff_of_false
      · split
        · intro h
          cases h
        · split
          · intro h
            cases h
          · intro h
            cases h
      · rintro ⟨token, h, _⟩
        cases h
    | some token =>
      dsimp only
      by_cases heq : expected = some token
      · rw [if_pos heq, heq]
        exact iff_of_true rfl ⟨token, rfl, rfl⟩
      · rw [if_neg heq]
        apply iff_of_false
        · split
          · intro h
            cases h
          · intro h
            cases h
        · rintro ⟨other, hother, h⟩
          cases hother
          exact heq (Except.ok.inj h)

/-- Whatever the requests, their order and the failures of the file system: the administrator is
who presents the token that was rotated in last, and until then who was before. -/
theorem admin_admitted_iff {s : AccessState} (h : AccessRun sha256 urlPath cfg file history s)
    (hpath : cfg.apiTokenFile ≠ "") (henvironment : given (cfg.apiToken.map strip) = none)
    (hsecrets : ∀ token ∈ history.filterMap AccessEvent.rotates, NewSecret token) :
    requireApiToken sha256 urlPath cfg s.store now request authorization = .ok .admin ↔
      ∃ token, bearerToken authorization = some token ∧
        match (history.filterMap AccessEvent.rotates).head? with
        | some current => token = current
        | none => cfg.adminToken ⟨.empty, file⟩ = .ok (some token) := by
  have hfile : s.store.tokenFile = match (history.filterMap AccessEvent.rotates).head? with
      | some current => .ok (secretFileText current)
      | none => file := by
    induction h with
    | start hstart =>
      rw [hstart]
      rfl
    | next _ hstep ih =>
      cases hstep with
      | permit => exact ih hsecrets
      | refuse => exact ih hsecrets
      | serve =>
        rcases serve_tokenFile hpath henvironment rfl with ⟨token, hrotates, hreplaced⟩ |
          ⟨hrotates, hkept⟩
        · rw [List.filterMap_cons_some hrotates]
          exact hreplaced
        · rw [List.filterMap_cons_none hrotates] at hsecrets ⊢
          exact hkept.trans (ih hsecrets)
  have hadmin (token : String) : cfg.adminToken s.store = .ok (some token) ↔
      match (history.filterMap AccessEvent.rotates).head? with
      | some current => token = current
      | none => cfg.adminToken ⟨.empty, file⟩ = .ok (some token) := by
    cases hcurrent : (history.filterMap AccessEvent.rotates).head? with
    | none =>
      rw [hcurrent] at hfile
      rw [adminToken_congr (t := ⟨.empty, file⟩) hfile]
    | some current =>
      rw [hcurrent] at hfile
      have hsecret := hsecrets current (List.mem_of_head? hcurrent)
      rw [adminToken_file hpath henvironment hsecret hfile]
      constructor
      · intro heq
        cases heq
        rfl
      · intro heq
        rw [heq]
  rw [requireApiToken_admin_iff]
  constructor
  · rintro ⟨token, htoken, h⟩
    exact ⟨token, htoken, (hadmin token).1 h⟩
  · rintro ⟨token, htoken, h⟩
    exact ⟨token, htoken, (hadmin token).2 h⟩

end

namespace Sample

def oldToken : String := "k3Vb0hPz7dXw_2Qn5tRj9sLmAeYc1uGf-8oHiT6rWqE"

def newToken : String := "Zt4-mN8cRf1xKyB6vLpQ0sWdGj7hUaE_9oTi2eXz5Yw"

def rotatable : AccessSettings := ⟨none, "/run/secrets/token", none, false⟩

def rotationStore : AccessStore := ⟨.empty, .ok (secretFileText oldToken)⟩

/-- The file is replaced, and then its mode cannot be set. -/
def rotationDraw : Draw := ⟨"", newToken, .failed "Operation not permitted" true⟩

def rotationRequest : ApiRequest := ⟨.post, "judge:8000", "/v1/auth/admin-token/rotate"⟩

def rotationHistory : List AccessEvent :=
  [.serve 1 rotationDraw .rotateAdminToken .admin
      (rotationStore.perform sha256 rotatable 1 rotationDraw .rotateAdminToken).1,
    .check 0 (some ("Bearer " ++ oldToken)) rotationRequest .rotateAdminToken (.ok .admin)]

theorem newSecret_of_all {secret : String}
    (h : secret.toList.length = 43 ∧ secret.toList.all (urlSafeAlphabet.contains ·) = true) :
    NewSecret secret := by
  obtain ⟨hlength, hall⟩ := h
  refine ⟨hlength, ?_⟩
  intro c hc
  exact List.contains_iff_mem.1 (List.all_eq_true.1 hall c hc)

example : newToken.length = 43 := by decide +kernel

theorem oldToken_new : NewSecret oldToken := by
  apply newSecret_of_all
  decide +kernel

theorem newToken_new : NewSecret newToken := by
  apply newSecret_of_all
  decide +kernel

theorem rotation_run : AccessRun sha256 urlPath rotatable rotationStore.tokenFile rotationHistory
    ⟨(rotationStore.perform sha256 rotatable 1 rotationDraw .rotateAdminToken).2,
      [(AccessCall.rotateAdminToken, Subject.admin)].erase (.rotateAdminToken, .admin)⟩ := by
  have hadmit : requireApiToken sha256 urlPath rotatable rotationStore 0 rotationRequest
      (some ("Bearer " ++ oldToken)) = .ok .admin := by
    have htoken : rotatable.adminToken rotationStore = .ok (some oldToken) :=
      adminToken_file (by decide) (by decide) oldToken_new rfl
    exact requireApiToken_admin_iff.2 ⟨oldToken, by decide +kernel, htoken⟩
  have hasks : rotationRequest.asks .rotateAdminToken := ⟨rfl, .inl rfl⟩
  exact .next (.next (.start rfl) (.permit hasks hadmit)) (.serve List.mem_cons_self)

end Sample

theorem admin_admitted_rotation :
    requireApiToken Sample.sha256 Sample.urlPath Sample.rotatable
      (Sample.rotationStore.perform Sample.sha256 Sample.rotatable 1 Sample.rotationDraw
        .rotateAdminToken).2 2 ⟨.get, "judge:8000", "/v1/stats"⟩
      (some ("Bearer " ++ Sample.newToken)) = .ok .admin := by
  have hsecrets : ∀ token ∈ Sample.rotationHistory.filterMap AccessEvent.rotates,
      NewSecret token := by
    have heq : Sample.rotationHistory.filterMap AccessEvent.rotates = [Sample.newToken] := by
      decide +kernel
    rw [heq]
    exact List.forall_mem_singleton.2 Sample.newToken_new
  apply (admin_admitted_iff Sample.rotation_run (by decide) (by decide) hsecrets).2
  refine ⟨Sample.newToken, by decide +kernel, ?_⟩
  have hhead : (Sample.rotationHistory.filterMap AccessEvent.rotates).head? =
      some Sample.newToken := by
    decide +kernel
  rw [hhead]

end BrunostJudge
