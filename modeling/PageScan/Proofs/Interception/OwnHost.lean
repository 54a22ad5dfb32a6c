import Mathlib.Data.Bool.AllAny
import PageScan.Interception.Decision
import PageScan.Proofs.Url.Names

/-!
# Requests to the host of the page

A page needs its style sheets, scripts, fonts and images, and what its scripts fetch. Which of
these requests the standard policy lets through depends on nothing but the host, and it makes no
difference whether that is the host of the page.

* `decide_eq_continue_iff`: a policy lets a request through if it is for the document, or if no rule
  applies to it.
* `decide_standard_own`: the standard policy lets the page have what its own host serves exactly if
  that host is not on its list.
-/

namespace PageScan

/-- What the layout of a page depends on. -/
def ResourceType.forLayout : List ResourceType :=
  [.stylesheet, .script, .font, .image, .xhr, .fetch]

namespace InterceptRule

theorem isUnder_iff {domain host : String} :
    isUnder domain host = true ↔ host = domain ∨ '.' :: domain.toList <:+ host.toList := by
  have hlength : ('.' :: domain.toList).reverse.length = domain.length + 1 := by
    simp [String.length_toList]
  rw [isUnder, Bool.or_eq_true, decide_eq_true_eq, beq_iff_eq, ← List.reverse_prefix,
    List.prefix_iff_eq_take, hlength, eq_comm (a := List.take _ _)]

/-- The rule is about hosts, and is against this one. -/
def IsAgainst (host : String) : InterceptRule → Prop
  | .blockResourceType _ => False
  | .blockHostSuffix suffix =>
    host = Text.lower suffix ∨ '.' :: (Text.lower suffix).toList <:+ host.toList
  | .blockHostContains needle => (Text.lower needle).toList <:+: host.toList

/-- A rule applies to a request for its type, or to its host. -/
theorem appliesTo_iff (rule : InterceptRule) (resourceType : ResourceType) (host : String) :
    rule.appliesTo resourceType (some host) = true ↔
      rule = .blockResourceType resourceType ∨ rule.IsAgainst host := by
  cases rule with
  | blockResourceType blocked => simp [appliesTo, IsAgainst, eq_comm]
  | blockHostSuffix suffix => simp [appliesTo, IsAgainst, isUnder_iff]
  | blockHostContains needle => simp [appliesTo, IsAgainst, Text.contains_iff]

end InterceptRule

namespace InterceptPolicy

variable {p : InterceptPolicy} {r : InterceptedRequest} {host : String}

/-- A request that is not for the document is aborted on the ground of the first rule that applies
to it. -/
theorem decide_eq_abort {rule : InterceptRule} (hdocument : r.resourceType ≠ .document)
    (hfind : p.rules.find? (·.appliesTo r.resourceType r.host?) = some rule) :
    p.decide r = .abort rule.reason := by
  rw [InterceptPolicy.decide, if_neg hdocument]
  simp only [hfind]

theorem decide_eq_continue
    (h : p.rules.find? (·.appliesTo r.resourceType r.host?) = none) : p.decide r = .continue := by
  rw [InterceptPolicy.decide]
  split_ifs
  · rfl
  · simp only [h]

theorem decide_eq_continue_iff :
    p.decide r = .continue ↔
      r.resourceType = .document ∨
        ∀ rule ∈ p.rules, ¬rule.appliesTo r.resourceType r.host? = true := by
  by_cases hdocument : r.resourceType = .document
  · simp [InterceptPolicy.decide, hdocument]
  · rw [or_iff_right hdocument, ← List.find?_eq_none]
    refine ⟨fun h => ?_, decide_eq_continue⟩
    rcases hfind : p.rules.find? (·.appliesTo r.resourceType r.host?) with _ | rule
    · exact hfind
    · rw [decide_eq_abort hdocument hfind] at h
      cases h

/-- The host lies under one of the domains that the standard policy blocks, or its name tells of
tracking. -/
def IsDenylisted (host : String) : Prop :=
  (∃ domain ∈ ["googletagmanager.com", "doubleclick.net", "google-analytics.com"],
    host = domain ∨ '.' :: domain.toList <:+ host.toList) ∨
  "tracking".toList <:+: host.toList

theorem isDenylisted_iff : IsDenylisted host ↔ ∃ rule ∈ standard.rules, rule.IsAgainst host := by
  have hlower : ∀ s ∈ ["googletagmanager.com", "doubleclick.net", "google-analytics.com",
      "tracking"], Text.lower s = s := by decide
  simp [IsDenylisted, standard, InterceptRule.IsAgainst, hlower, or_assoc]

end InterceptPolicy

/-- The request goes to the host of the page at this address. -/
structure InterceptedRequest.IsOwn (r : InterceptedRequest) (page host : String) : Prop where
  page : ∃ u, Url.ofText page = .ok u ∧ u.hostText? = some host
  request : ∃ u, Url.ofText r.url = .ok u ∧ u.hostText? = some host

theorem InterceptedRequest.IsOwn.host?_eq {r : InterceptedRequest} {page host : String}
    (h : r.IsOwn page host) : r.host? = some (Text.lower host) := by
  obtain ⟨u, hread, hhost⟩ := h.request
  rw [InterceptedRequest.host?, hread]
  simp only [hhost, Option.map_some]

namespace InterceptPolicy

/-- The only type that the standard policy blocks is no matter of layout. -/
theorem not_blocks_of_forLayout {rule : InterceptRule} {resourceType : ResourceType}
    (hrule : rule ∈ standard.rules) (hlayout : resourceType ∈ ResourceType.forLayout) :
    rule ≠ .blockResourceType resourceType := by
  rintro rfl
  have hmedia : resourceType = .media := by simpa [standard] using hrule
  subst hmedia
  exact absurd hlayout (by decide)

/-- Of what a page needs from its own host, the standard policy lets everything through if the host
is not on its list. Otherwise it lets nothing through, and says which rule is against the host. -/
theorem decide_standard_own {r : InterceptedRequest} {page host : String} (hown : r.IsOwn page host)
    (hlayout : r.resourceType ∈ ResourceType.forLayout) :
    (standard.decide r = .continue ↔ ¬IsDenylisted (Text.lower host)) ∧
      (IsDenylisted (Text.lower host) → ∃ rule ∈ standard.rules,
        rule.IsAgainst (Text.lower host) ∧ standard.decide r = .abort rule.reason) := by
  have hdocument : r.resourceType ≠ .document := by
    rintro h
    rw [h] at hlayout
    exact absurd hlayout (by decide)
  have happlies (rule : InterceptRule) (hrule : rule ∈ standard.rules) :
      rule.appliesTo r.resourceType r.host? = true ↔ rule.IsAgainst (Text.lower host) := by
    rw [hown.host?_eq, InterceptRule.appliesTo_iff,
      or_iff_right (not_blocks_of_forLayout hrule hlayout)]
  have hiff : standard.decide r = .continue ↔ ¬IsDenylisted (Text.lower host) := by
    rw [decide_eq_continue_iff, or_iff_right hdocument, isDenylisted_iff]
    simp only [not_exists, not_and]
    exact forall₂_congr fun rule hrule => not_congr (happlies rule hrule)
  refine ⟨hiff, fun hdenied => ?_⟩
  rcases hfind : standard.rules.find? (·.appliesTo r.resourceType r.host?) with _ | rule
  · exact absurd hdenied (hiff.1 (decide_eq_continue hfind))
  · have hrule := List.mem_of_find?_eq_some hfind
    exact ⟨rule, hrule, (happlies rule hrule).1 (List.find?_some hfind),
      decide_eq_abort hdocument hfind⟩

/-! ## Two pages and their style sheets -/

/-- The style sheet of a page at the root of its host. -/
def styleSheetAt (page : String) : InterceptedRequest :=
  ⟨.stylesheet, page ++ "site.css"⟩

/-- The style sheet of a page on a machine with a plain name is the page's own. -/
theorem isOwn_styleSheetAt {page host : String} (hpage : page = "https://" ++ host ++ "/")
    (hne : host.toList ≠ []) (hplain : ∀ c ∈ host.toList, Url.Domain.IsPlain c)
    (hlabels : ∀ label ∈ Text.pieces (· = '.') host.toList,
      Text.stripLead? Url.Domain.encodedLead label = none)
    (hmeant : Url.Ipv4.isMeant host.toList = false) :
    (styleSheetAt page).IsOwn page host := by
  have hread (path : List Char) {url : String}
      (hpath : ∀ c ∈ path, 0x20 < c.toNat ∧ c ≠ '#' ∧ c ≠ '?')
      (hurl : url.toList = "https://".toList ++ host.toList ++ '/' :: path) :
      ∃ u, Url.ofText url = .ok u ∧ u.hostText? = some host := by
    have h := Url.exists_host_https hne hplain hlabels hmeant hpath
    rwa [← hurl, String.ofList_toList, String.ofList_toList] at h
  refine ⟨hread [] (by simp) (by simp [hpage]), ?_⟩
  exact hread "site.css".toList (by simp) (by simp [styleSheetAt, hpage])

theorem isOwn_styleSheetAt_shop :
    (styleSheetAt "https://shop.example.com/").IsOwn "https://shop.example.com/"
      "shop.example.com" :=
  isOwn_styleSheetAt (by decide) (by decide) (List.all_iff_forall_prop.1 (by decide)) (by decide)
    (by decide)

theorem isOwn_styleSheetAt_tracking :
    (styleSheetAt "https://tracking.example.com/").IsOwn "https://tracking.example.com/"
      "tracking.example.com" :=
  isOwn_styleSheetAt (by decide) (by decide) (List.all_iff_forall_prop.1 (by decide)) (by decide)
    (by decide)

instance (host : String) : Decidable (IsDenylisted host) :=
  inferInstanceAs (Decidable (_ ∨ _))

/-- A shop gets its style sheet. -/
theorem decide_standard_own_shop :
    (styleSheetAt "https://shop.example.com/").IsOwn "https://shop.example.com/"
        "shop.example.com" ∧
      (styleSheetAt "https://shop.example.com/").resourceType ∈ ResourceType.forLayout ∧
      standard.decide (styleSheetAt "https://shop.example.com/") = .continue :=
  ⟨isOwn_styleSheetAt_shop, by decide,
    (decide_standard_own isOwn_styleSheetAt_shop (by decide)).1.2 (by decide)⟩

/-- A site that is about tracking parcels does not get its style sheet. -/
theorem not_continue_tracking :
    (styleSheetAt "https://tracking.example.com/").IsOwn "https://tracking.example.com/"
        "tracking.example.com" ∧
      (styleSheetAt "https://tracking.example.com/").resourceType ∈ ResourceType.forLayout ∧
      standard.decide (styleSheetAt "https://tracking.example.com/") =
        .abort "host contains denylisted term 'tracking'" := by
  refine ⟨isOwn_styleSheetAt_tracking, by decide, ?_⟩
  have hfind : standard.rules.find? (·.appliesTo .stylesheet (some "tracking.example.com")) =
      some (.blockHostContains "tracking") := by decide
  have hhost : (styleSheetAt "https://tracking.example.com/").host? =
      some "tracking.example.com" := isOwn_styleSheetAt_tracking.host?_eq
  rw [decide_eq_abort (by decide) (hhost.symm ▸ hfind)]
  decide

end InterceptPolicy

end PageScan
