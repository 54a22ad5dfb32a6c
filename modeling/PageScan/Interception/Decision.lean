import PageScan.Interception.Policy
import PageScan.Url.Basic

/-!
# Deciding about requests

A policy sees of a request its type and the host of its address. The first rule that matches aborts
the request; the document of the page is let through by every policy.
-/

namespace PageScan

/-- The host of the request's address in small letters, if the address has one. -/
def InterceptedRequest.host? (r : InterceptedRequest) : Option String :=
  match Url.ofText r.url with
  | .ok url => url.hostText?.map Text.lower
  | .error _ => none

namespace InterceptRule

/-- The host is the domain given, or lies below it. -/
def isUnder (domain host : String) : Bool :=
  host = domain || (host.toList.reverse.take (domain.length + 1)) == ('.' :: domain.toList).reverse

/-- The rule applies to a request of this type to this host. -/
def appliesTo (resourceType : ResourceType) (host? : Option String) : InterceptRule → Bool
  | .blockResourceType blocked => resourceType = blocked
  | .blockHostSuffix suffix => host?.any (isUnder (Text.lower suffix))
  | .blockHostContains needle =>
    host?.any fun host => Text.contains (Text.lower needle).toList host.toList

/-- The ground that the rule gives. -/
def reason : InterceptRule → String
  | .blockResourceType blocked => "resource type " ++ blocked.title ++ " blocked"
  | .blockHostSuffix suffix => "host matches denylisted domain " ++ suffix
  | .blockHostContains needle => "host contains denylisted term '" ++ needle ++ "'"

end InterceptRule

/-- Decides about requests, about each by itself. -/
abbrev RequestFilter := InterceptedRequest → InterceptDecision

namespace InterceptPolicy

/-- What becomes of a request. -/
def decide (p : InterceptPolicy) (r : InterceptedRequest) : InterceptDecision :=
  if r.resourceType = .document then .continue
  else
    match p.rules.find? (·.appliesTo r.resourceType r.host?) with
    | some rule => .abort rule.reason
    | none => .continue

end InterceptPolicy

end PageScan
