import PageScan.Proofs.Interception.OwnHost

/-!
# The first rule that matches

Which rules match a request follows from its type and the host of its address. Whether it is aborted
follows from which rules there are, and the ground from their order.

* `InterceptRule.Matches`: the rule is about the type of a request or against its host.
* `decide_eq_abort_iff`: a policy aborts a request on the ground of the first rule that matches.
* `decide_of_matches`: what follows for longer policies, for other orders and for other addresses.
-/

namespace PageScan

/-- The address of the request can be read and names this host, which is written in small
letters. -/
def InterceptedRequest.HasHost (r : InterceptedRequest) (host : String) : Prop :=
  ∃ u h, Url.ofText r.url = .ok u ∧ u.host = some h ∧ Text.lower h.text = host

theorem InterceptedRequest.host?_eq_some_iff {r : InterceptedRequest} {host : String} :
    r.host? = some host ↔ r.HasHost host := by
  rw [host?, HasHost]
  cases Url.ofText r.url with
  | error fault => simp
  | ok u => simp [Url.hostText?]

theorem InterceptedRequest.hasHost_iff {r : InterceptedRequest} {u : Url} {host : String}
    (h : Url.ofText r.url = .ok u) :
    r.HasHost host ↔ ∃ name, u.host = some name ∧ Text.lower name.text = host := by
  simp [HasHost, h]

/-- The rule is about requests of this type, or against the host. -/
def InterceptRule.Matches (rule : InterceptRule) (r : InterceptedRequest) : Prop :=
  rule = .blockResourceType r.resourceType ∨ ∃ host, r.HasHost host ∧ rule.IsAgainst host

namespace InterceptRule

variable {rule : InterceptRule} {r : InterceptedRequest}

theorem appliesTo_iff_matches :
    rule.appliesTo r.resourceType r.host? = true ↔ rule.Matches r := by
  simp only [Matches, ← InterceptedRequest.host?_eq_some_iff]
  rcases r.host? with _ | host
  · cases rule <;> simp [appliesTo, eq_comm]
  · simp [appliesTo_iff]

/-- Without a host there is nothing for the rules about hosts to match. -/
theorem Matches.eq_blockResourceType (h : rule.Matches r) (hhost : ∀ host, ¬r.HasHost host) :
    rule = .blockResourceType r.resourceType := by
  rcases h with rfl | ⟨host, hhas, -⟩
  · rfl
  · exact absurd hhas (hhost host)

end InterceptRule

namespace InterceptPolicy

variable (p : InterceptPolicy) (r s : InterceptedRequest)

/-- This rule of the policy is the first to match the request. -/
def IsFirst (rule : InterceptRule) : Prop :=
  ∃ before after, p.rules = before ++ rule :: after ∧ (∀ other ∈ before, ¬other.Matches r) ∧
    rule.Matches r

theorem find?_eq_some_iff_isFirst {rule : InterceptRule} :
    p.rules.find? (·.appliesTo r.resourceType r.host?) = some rule ↔ p.IsFirst r rule := by
  rw [List.find?_eq_some_iff_append, IsFirst, InterceptRule.appliesTo_iff_matches]
  constructor
  · rintro ⟨hmatches, before, after, hrules, hbefore⟩
    refine ⟨before, after, hrules, fun other hother hother' => ?_, hmatches⟩
    simpa [InterceptRule.appliesTo_iff_matches.2 hother'] using hbefore other hother
  · rintro ⟨before, after, hrules, hbefore, hmatches⟩
    refine ⟨hmatches, before, after, hrules, fun other hother => ?_⟩
    simpa [← InterceptRule.appliesTo_iff_matches] using hbefore other hother

theorem decide_document (hdocument : r.resourceType = .document) : p.decide r = .continue :=
  decide_eq_continue_iff.2 (.inl hdocument)

theorem decide_eq_abort_iff (hdocument : r.resourceType ≠ .document) (reason : String) :
    p.decide r = .abort reason ↔ ∃ rule, p.IsFirst r rule ∧ rule.reason = reason := by
  simp only [← find?_eq_some_iff_isFirst]
  rcases hfind : p.rules.find? (·.appliesTo r.resourceType r.host?) with _ | rule
  · simp [decide_eq_continue hfind, hfind]
  · simp [decide_eq_abort hdocument hfind, hfind]

/-- Whether a request is aborted is a matter of which rules there are. -/
theorem isAbort_iff :
    (p.decide r).isAbort = true ↔
      r.resourceType ≠ .document ∧ ∃ rule ∈ p.rules, rule.Matches r := by
  have habort : (p.decide r).isAbort = true ↔ p.decide r ≠ .continue := by
    cases p.decide r <;> simp [InterceptDecision.isAbort]
  rw [habort, Ne, decide_eq_continue_iff]
  simp [InterceptRule.appliesTo_iff_matches]

/-- A policy sees of a request its type and its host. -/
theorem decide_congr (htype : s.resourceType = r.resourceType)
    (hhost : ∀ host, s.HasHost host ↔ r.HasHost host) : p.decide s = p.decide r := by
  have hsame : s.host? = r.host? := by
    ext host
    simp only [InterceptedRequest.host?_eq_some_iff, hhost]
  rw [InterceptPolicy.decide, InterceptPolicy.decide, htype, hsame]

/-- The document is let through. Any other request is aborted if a rule matches, on the ground of
the first that does. So neither the order of the rules nor how often one stands among them matters
to whether a request is aborted, and more rules abort no less. Of the address nothing but the host
matters, and a request without one can only be aborted for its type. -/
theorem decide_of_matches :
    (r.resourceType = .document → p.decide r = .continue) ∧
      (r.resourceType ≠ .document →
        ((p.decide r).isAbort = true ↔ ∃ rule ∈ p.rules, rule.Matches r) ∧
        ∀ reason, p.decide r = .abort reason ↔
          ∃ rule, p.IsFirst r rule ∧ rule.reason = reason) ∧
      (∀ q : InterceptPolicy, (∀ rule, rule ∈ q.rules ↔ rule ∈ p.rules) →
        (q.decide r).isAbort = (p.decide r).isAbort) ∧
      (∀ q : InterceptPolicy, p.rules ⊆ q.rules →
        (p.decide r).isAbort = true → (q.decide r).isAbort = true) ∧
      (∀ s : InterceptedRequest, s.resourceType = r.resourceType →
        (∀ host, s.HasHost host ↔ r.HasHost host) → p.decide s = p.decide r) ∧
      (∀ (s : InterceptedRequest) (u v : Url), s.resourceType = r.resourceType →
        Url.ofText r.url = .ok u → Url.ofText s.url = .ok v → v.host = u.host →
          p.decide s = p.decide r) ∧
      ((∀ host, ¬r.HasHost host) → ∀ reason, p.decide r = .abort reason →
        .blockResourceType r.resourceType ∈ p.rules ∧
          reason = (InterceptRule.blockResourceType r.resourceType).reason) := by
  refine ⟨p.decide_document r, fun hdocument => ⟨?_, p.decide_eq_abort_iff r hdocument⟩,
    fun q hrules => ?_, fun q hrules hp => ?_, fun s => p.decide_congr r s,
    fun s u v htype hu hv hhost => ?_, fun hhost reason hreason => ?_⟩
  · rw [isAbort_iff, and_iff_right hdocument]
  · rw [Bool.eq_iff_iff, isAbort_iff, isAbort_iff]
    simp only [hrules]
  · obtain ⟨hdocument, rule, hrule, hmatches⟩ := (p.isAbort_iff r).1 hp
    exact (q.isAbort_iff r).2 ⟨hdocument, rule, hrules hrule, hmatches⟩
  · refine p.decide_congr r s htype fun host => ?_
    rw [InterceptedRequest.hasHost_iff hu, InterceptedRequest.hasHost_iff hv, hhost]
  · have hdocument : r.resourceType ≠ .document := by
      intro h
      rw [p.decide_document r h] at hreason
      cases hreason
    obtain ⟨rule, ⟨before, after, hrules, -, hmatches⟩, rfl⟩ :=
      (p.decide_eq_abort_iff r hdocument reason).1 hreason
    obtain rfl := hmatches.eq_blockResourceType hhost
    exact ⟨by simp [hrules], rfl⟩

/-- What the address of a request without a host says is no matter to the rules about hosts. -/
example :
    decide ⟨[.blockHostContains "ads", .blockResourceType .image]⟩ ⟨.image, "data:image/png,ads"⟩ =
      .abort "resource type Image blocked" := by
  decide

end InterceptPolicy

end PageScan
