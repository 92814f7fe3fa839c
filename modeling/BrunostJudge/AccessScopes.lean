import BrunostJudge.Framing
import BrunostJudge.PyPath

namespace BrunostJudge
open Python Framing
set_option autoImplicit true

inductive Method where
  | get
  | head
  | post
  | put
  | other (name : String)
deriving DecidableEq

/-- `SERVICE_SCOPES`. -/
inductive Scope where
  | read
  | write
  | admin
deriving DecidableEq

def Scope.text : Scope → String
  | .read => "judge:read"
  | .write => "judge:write"
  | .admin => "judge:admin"

def adminPrefixes : List PyStr := ["/v1/auth", "/v1/audit", "/v1/nodes", "/v1/workers/register"]

def adminSuffixes : List PyStr := ["/drain", "/credential/revoke", "/callback/replay"]

def Method.scope : Method → Scope
  | .get | .head => .read
  | .post | .put | .other _ => .write

/-- A request to the API, routed by its path. The host is what stands before the path in its URL:
the `Host` header, or the address of the server when there is none. -/
structure ApiRequest where
  method : Method
  host : PyStr
  path : PyStr
deriving DecidableEq

/-- What the splitting of a URL takes out of it. -/
def urlBlanks : PyStr := "\t\r\n"

/-- What ends the path of a URL. -/
def urlDelimiters : PyStr := "?#"

def hostCharacters : PyStr :=
  PyStr.ofString "ABCDEFGHIJKLMNOPQRSTUVWXYZabcdefghijklmnopqrstuvwxyz0123456789.-:"

/-- A host name or an address, and a port. -/
def ApiRequest.plainHost (request : ApiRequest) : Bool :=
  request.host.all fun c => decide (c ∈ hostCharacters)

def ApiRequest.plainPath (request : ApiRequest) : Bool :=
  request.path.all fun c => decide (c ∉ urlBlanks ++ urlDelimiters)

def apiPrefix : PyStr := "/v1/"

/-- What `request.url.path` is relied on for. The framework puts the URL together from the host and
the path, and splits it again. -/
def KeepsPath (urlPath : ApiRequest → PyStr) : Prop :=
  ∀ request : ApiRequest, request.plainHost = true → apiPrefix <+: request.path →
    (∀ c ∈ request.path, c ∉ urlDelimiters) →
    urlPath request = request.path.filter fun c => decide (c ∉ urlBlanks)

/-- `_required_scope`, with `request.url.path` for the path. -/
def requiredScope (method : Method) (path : PyStr) : Scope :=
  if adminPrefixes.any (fun p => p.isPrefixOf path) ||
      adminSuffixes.any (fun s => s.isSuffixOf path) then .admin
  else method.scope

/-- A path of the API, with at most one parameter in it: what stands before it, and what after. -/
structure Route where
  method : Method
  before : PyStr
  after : Option PyStr

def Route.fixed (method : Method) (path : String) : Route := ⟨method, path, none⟩

def Route.with (method : Method) (before after : String) : Route := ⟨method, before, some after⟩

/-- A parameter takes up one segment of a path. -/
def Route.accepts (route : Route) (path : PyStr) : Bool :=
  match route.after with
  | none => path = route.before
  | some after =>
    let parameter := (path.drop route.before.length).take
      (path.length - route.before.length - after.length)
    decide (path = route.before ++ parameter ++ after) && decide (parameter ≠ []) &&
      decide (slash ∉ parameter)

/-- The endpoints that manage credentials, nodes and workers, replay callbacks or show the audit
log. -/
def administrativeRoutes : List Route := [
  .fixed .post "/v1/auth/service-credentials",
  .with .post "/v1/auth/service-credentials/" "/revoke",
  .fixed .post "/v1/auth/admin-token/rotate",
  .fixed .get "/v1/audit",
  .fixed .post "/v1/nodes/enrollment-tokens",
  .with .post "/v1/executions/" "/callback/replay",
  .fixed .post "/v1/workers/register",
  .with .post "/v1/workers/" "/drain",
  .with .post "/v1/workers/" "/credential/revoke"]

/-- The endpoints that add artifacts, tasks, agents, games and executions, or cancel one. -/
def writingRoutes : List Route := [
  .with .put "/v1/artifacts/" "",
  .fixed .post "/v1/tasks",
  .fixed .post "/v1/task-definitions",
  .fixed .post "/v1/executions",
  .fixed .post "/v1/evaluations",
  .with .post "/v1/executions/" "/cancel",
  .fixed .post "/v1/agents",
  .fixed .post "/v1/games",
  .with .post "/v1/games/" "/matches"]

def readingRoutes : List Route := [
  .fixed .get "/v1/cluster",
  .with .get "/v1/artifacts/" "",
  .fixed .get "/v1/tasks",
  .fixed .get "/v1/task-definitions",
  .with .get "/v1/executions/" "",
  .with .get "/v1/evaluations/" "",
  .fixed .get "/v1/executions",
  .fixed .get "/v1/stats",
  .fixed .get "/v1/agents",
  .with .get "/v1/agents/" "",
  .fixed .get "/v1/games",
  .with .get "/v1/games/" "",
  .fixed .get "/v1/workers/capabilities",
  .fixed .get "/v1/workers"]

variable {route : Route} {path : PyStr} {method : Method}

theorem accepts_iff : route.accepts path = true ↔
    match route.after with
    | none => path = route.before
    | some after => ∃ parameter, path = route.before ++ parameter ++ after ∧ parameter ≠ [] ∧
        slash ∉ parameter := by
  rw [Route.accepts]
  cases route.after with
  | none => exact decide_eq_true_iff
  | some after =>
    simp only [Bool.and_eq_true, decide_eq_true_eq]
    constructor
    · intro h
      exact ⟨_, h.1.1, h.1.2, h.2⟩
    · rintro ⟨parameter, rfl, hne, hslash⟩
      have htake : ((route.before ++ parameter ++ after).drop route.before.length).take
          ((route.before ++ parameter ++ after).length - route.before.length - after.length) =
            parameter := by
        rw [List.append_assoc, List.drop_left]
        apply List.take_left'
        simp only [List.length_append]
        omega
      rw [htake]
      exact ⟨⟨rfl, hne⟩, hslash⟩

theorem not_prefix_append {p before : PyStr} (rest : PyStr)
    (h : ¬ p.take before.length <+: before) : ¬ p <+: before ++ rest := by
  intro hp
  apply h
  have htake : p.take before.length <+: before ++ rest := (List.take_prefix _ _).trans hp
  apply List.prefix_of_prefix_length_le htake (List.prefix_append before rest)
  exact List.length_take_le _ _

theorem not_suffix_append {s after : PyStr} (rest : PyStr)
    (h : ¬ s.drop (s.length - after.length) <:+ after) : ¬ s <:+ rest ++ after := by
  intro hs
  apply h
  have hdrop : s.drop (s.length - after.length) <:+ rest ++ after := (List.drop_suffix _ _).trans hs
  apply List.suffix_of_suffix_length_le hdrop (List.suffix_append rest after)
  rw [List.length_drop]
  omega

theorem segment_suffix {s start last parameter : PyStr} (hlast : slash ∉ last)
    (hparameter : slash ∉ parameter) (h : s ++ slash :: last <:+ start ++ slash :: parameter) :
    last = parameter ∧ s <:+ start := by
  obtain ⟨t, ht⟩ := h
  have hreverse := congrArg List.reverse ht
  simp only [List.reverse_append, List.reverse_cons, List.append_assoc, List.singleton_append]
    at hreverse
  obtain ⟨hsame, hrest⟩ := cut_unique (by simpa using hlast) (by simpa using hparameter) hreverse
  refine ⟨List.reverse_injective hsame, t, ?_⟩
  rw [← List.reverse_inj, List.reverse_append]
  exact hrest

/-- No test for administrators can hold of a path of the route, but for the one on its last
segment when that is a parameter. -/
def Route.plain (route : Route) : Bool :=
  match route.after with
  | none => !(adminPrefixes.any (fun p => p.isPrefixOf route.before) ||
      adminSuffixes.any fun s => s.isSuffixOf route.before)
  | some after =>
    (adminPrefixes.all fun p => !(p.take route.before.length).isPrefixOf route.before) &&
      if after = [] then
        route.before.getLast? = some slash && !(PyStr.ofString "/credential").isSuffixOf
          route.before.dropLast && !(PyStr.ofString "/callback").isSuffixOf route.before.dropLast
      else adminSuffixes.all fun s => !(s.drop (s.length - after.length)).isSuffixOf after

/-- Some test for administrators holds of every path of the route. -/
def Route.marked (route : Route) : Bool :=
  adminPrefixes.any (fun p => p.isPrefixOf route.before) ||
    adminSuffixes.any fun s => route.after.any fun after => s.isSuffixOf after

theorem accepts_before (h : route.accepts path = true) : route.before <+: path := by
  rw [accepts_iff] at h
  cases hafter : route.after with
  | none =>
    rw [hafter] at h
    exact h ▸ List.prefix_rfl
  | some after =>
    rw [hafter] at h
    obtain ⟨parameter, rfl, _⟩ := h
    rw [List.append_assoc]
    exact List.prefix_append _ _

theorem marked_scope (hmarked : route.marked = true) (h : route.accepts path = true) :
    requiredScope method path = .admin := by
  rw [requiredScope, if_pos]
  rw [Route.marked, Bool.or_eq_true] at hmarked
  rw [Bool.or_eq_true]
  rcases hmarked with hprefix | hsuffix
  · obtain ⟨p, hp, hbefore⟩ := List.any_eq_true.1 hprefix
    apply Or.inl
    apply List.any_eq_true.2
    refine ⟨p, hp, List.isPrefixOf_iff_prefix.2 ?_⟩
    exact (List.isPrefixOf_iff_prefix.1 hbefore).trans (accepts_before h)
  · obtain ⟨s, hs, hafter⟩ := List.any_eq_true.1 hsuffix
    obtain ⟨after, heq, hafter⟩ := (Option.any_eq_true _ _).1 hafter
    rw [accepts_iff, heq] at h
    obtain ⟨parameter, hpath, _⟩ := h
    apply Or.inr
    apply List.any_eq_true.2
    refine ⟨s, hs, List.isSuffixOf_iff_suffix.2 ?_⟩
    rw [hpath]
    exact (List.isSuffixOf_iff_suffix.1 hafter).trans (List.suffix_append _ _)

theorem plain_prefixes (hplain : route.plain = true) (h : route.accepts path = true) :
    ∀ p ∈ adminPrefixes, ¬ p <+: path := by
  intro p hp hpath
  rw [accepts_iff] at h
  rw [Route.plain] at hplain
  cases hafter : route.after with
  | none =>
    rw [hafter] at h hplain
    rw [Bool.not_eq_true', Bool.or_eq_false_iff] at hplain
    have hno := List.any_eq_false.1 hplain.1 p hp
    rw [h] at hpath
    exact hno (List.isPrefixOf_iff_prefix.2 hpath)
  | some after =>
    rw [hafter] at h hplain
    obtain ⟨parameter, rfl, _⟩ := h
    rw [Bool.and_eq_true] at hplain
    have hno := List.all_eq_true.1 hplain.1 p hp
    rw [Bool.not_eq_true', ← Bool.not_eq_true, List.isPrefixOf_iff_prefix] at hno
    rw [List.append_assoc] at hpath
    exact not_prefix_append _ hno hpath

theorem plain_suffixes (hplain : route.plain = true) (h : route.accepts path = true) :
    ∀ s ∈ adminSuffixes, s <:+ path → s = PyStr.ofString "/drain" := by
  intro s hs hpath
  rw [accepts_iff] at h
  rw [Route.plain] at hplain
  cases hafter : route.after with
  | none =>
    rw [hafter] at h hplain
    rw [Bool.not_eq_true', Bool.or_eq_false_iff] at hplain
    have hno := List.any_eq_false.1 hplain.2 s hs
    rw [h] at hpath
    exact absurd (List.isSuffixOf_iff_suffix.2 hpath) hno
  | some after =>
    rw [hafter] at h hplain
    obtain ⟨parameter, rfl, _, hslash⟩ := h
    rw [Bool.and_eq_true] at hplain
    by_cases hempty : after = []
    · have hlast := hplain.2
      rw [if_pos hempty, Bool.and_eq_true, Bool.and_eq_true, decide_eq_true_eq] at hlast
      obtain ⟨⟨hlast, hrevoke⟩, hreplay⟩ := hlast
      obtain ⟨start, hstart⟩ := List.getLast?_eq_some_iff.1 hlast
      rw [hstart, List.dropLast_concat] at hrevoke hreplay
      rw [hempty, hstart, List.append_nil, List.append_assoc, List.singleton_append] at hpath
      simp only [adminSuffixes, List.mem_cons, List.not_mem_nil, or_false] at hs
      rcases hs with hs | hs | hs
      · exact hs
      · have hsplit : s = PyStr.ofString "/credential" ++ slash :: PyStr.ofString "revoke" :=
          hs.trans (by decide)
        rw [hsplit] at hpath
        have hfound := (segment_suffix (by decide) hslash hpath).2
        rw [List.isSuffixOf_iff_suffix.2 hfound] at hrevoke
        cases hrevoke
      · have hsplit : s = PyStr.ofString "/callback" ++ slash :: PyStr.ofString "replay" :=
          hs.trans (by decide)
        rw [hsplit] at hpath
        have hfound := (segment_suffix (by decide) hslash hpath).2
        rw [List.isSuffixOf_iff_suffix.2 hfound] at hreplay
        cases hreplay
    · have hno := hplain.2
      rw [if_neg hempty] at hno
      have hno := List.all_eq_true.1 hno s hs
      rw [Bool.not_eq_true', ← Bool.not_eq_true, List.isSuffixOf_iff_suffix] at hno
      exact absurd hpath (not_suffix_append _ hno)

theorem plain_scope (hplain : route.plain = true) (h : route.accepts path = true) :
    requiredScope method path =
      if PyStr.ofString "/drain" <:+ path then .admin else method.scope := by
  have hprefix : (adminPrefixes.any fun p => p.isPrefixOf path) = false := by
    apply List.any_eq_false.2
    intro p hp hpath
    exact plain_prefixes hplain h p hp (List.isPrefixOf_iff_prefix.1 hpath)
  rw [requiredScope, hprefix, Bool.false_or]
  by_cases hdrain : PyStr.ofString "/drain" <:+ path
  · rw [if_pos hdrain, if_pos]
    exact List.any_eq_true.2 ⟨_, List.mem_cons_self, List.isSuffixOf_iff_suffix.2 hdrain⟩
  · rw [if_neg hdrain, if_neg]
    intro hany
    obtain ⟨s, hs, hpath⟩ := List.any_eq_true.1 hany
    have hpath := List.isSuffixOf_iff_suffix.1 hpath
    rw [plain_suffixes hplain h s hs hpath] at hpath
    exact hdrain hpath

theorem KeepsPath.plain {urlPath : ApiRequest → PyStr} (h : KeepsPath urlPath)
    (hhost : request.plainHost = true) (hpath : request.plainPath = true)
    (hversion : apiPrefix <+: request.path) : urlPath request = request.path := by
  have hclean (c) (hc : c ∈ request.path) : c ∉ urlBlanks ++ urlDelimiters := by
    exact of_decide_eq_true (List.all_eq_true.1 hpath c hc)
  rw [h request hhost hversion fun c hc hd => hclean c hc (List.mem_append_right _ hd)]
  apply List.filter_eq_self.2
  intro c hc
  exact decide_eq_true fun hb => hclean c hc (List.mem_append_left _ hb)

namespace Sample

/-- The path of the URL, as the standard library splits it: it begins after the host, which ends at
a slash or with the path. -/
def urlPath (request : ApiRequest) : PyStr :=
  let url := (request.host ++ request.path).filter fun c => decide (c ∉ urlBlanks)
  (url.dropWhile fun c => decide (c ∉ slash :: urlDelimiters)).takeWhile fun c =>
    decide (c ∉ urlDelimiters)

theorem urlPath_keeps : KeepsPath urlPath := by
  intro request hhost hprefix hpath
  have hplain : hostCharacters.all (fun c => decide (c ∉ urlBlanks ∧ c ∉ slash :: urlDelimiters)) =
      true := by
    decide +kernel
  have hkept (c) (hc : c ∈ request.host) : c ∉ urlBlanks ∧ c ∉ slash :: urlDelimiters := by
    have hmem := of_decide_eq_true (List.all_eq_true.1 hhost c hc)
    exact of_decide_eq_true (List.all_eq_true.1 hplain c hmem)
  have hfilter : request.host.filter (fun c => decide (c ∉ urlBlanks)) = request.host :=
    List.filter_eq_self.2 fun c hc => decide_eq_true (hkept c hc).1
  obtain ⟨rest, hrest⟩ := hprefix
  have hfirst : (request.path.filter fun c => decide (c ∉ urlBlanks)).dropWhile
      (fun c => decide (c ∉ slash :: urlDelimiters)) =
        request.path.filter fun c => decide (c ∉ urlBlanks) := by
    rw [← hrest, show apiPrefix = slash :: PyStr.ofString "v1/" from rfl, List.cons_append,
      List.filter_cons_of_pos (by decide)]
    exact List.dropWhile_cons_of_neg (by decide)
  rw [urlPath, List.filter_append, hfilter,
    List.dropWhile_append_of_pos fun c hc => decide_eq_true (hkept c hc).2, hfirst]
  apply List.takeWhile_eq_self_iff.2
  intro c hc
  exact decide_eq_true (hpath c (List.mem_of_mem_filter hc))

end Sample

-- A question mark in the id of a worker cuts the URL off before what asks for an administrator.
example : (Route.with .post "/v1/workers/" "/drain").accepts "/v1/workers/w?1/drain" = true ∧
    requiredScope .post (Sample.urlPath ⟨.post, "judge:8000", "/v1/workers/w?1/drain"⟩) =
      .write := by
  decide +kernel

end BrunostJudge
