import GrowthOs.Handoff.Child

/-!
# The merge policy

`_protected_auto_merge_path`, `auto_merge_policy_reasons` and `validate_pr_for_merge`.
-/

namespace GrowthOs.Handoff

/-- `REVIEWED_LABEL`. -/
def reviewedLabel : String := "codex-review-passed"

/-- `PROTECTED_AUTO_MERGE_PATHS`. -/
def protectedPaths : List String :=
  ["agents.md", "docs/product.md", "docs/goals.md", "docs/architecture.md", "docs/v1-scope.md"]

/-- `PROTECTED_AUTO_MERGE_PARTS`. -/
def protectedParts : List String :=
  [".github", "alembic", "auth", "authentication", "authorization", "billing", "credentials",
    "deploy", "deployment", "infra", "infrastructure", "outreach", "permissions", "secrets",
    "social", "tenant", "tenants", "terraform", "website"]

/-- `PROTECTED_AUTO_MERGE_PREFIXES`. -/
def protectedPrefixes : List String :=
  ["acl", "auth", "backlink", "bill", "credential", "delete", "deploy", "email", "helm", "identity",
    "invoice", "k8s", "kubernetes", "mail", "migrat", "oauth", "outreach", "payment", "permission",
    "production", "publish", "pulumi", "rbac", "secret", "social", "stripe", "tenant", "terraform",
    "website"]

/-- `PROTECTED_AUTO_MERGE_SUFFIXES`. -/
def protectedSuffixes : List String := [".key", ".pem", ".p12", ".pfx"]

/-- `Path(text).parts`: an absolute path starts with its root, of which two slashes are one of their
own; empty parts and single dots are left out. -/
def pathParts (text : String) : List String :=
  let parts := ((text.toList.splitOn '/').filter fun part => part ≠ [] ∧ part ≠ ['.']).map
    String.ofList
  if text.toList.head? = some '/' then
    (if text.toList.take 2 = ['/', '/'] ∧
      text.toList.take 3 ≠ ['/', '/', '/'] then "//" else "/") ::
      parts
  else parts

/-- The position of the dot that `PurePath.suffix` splits at: the last one, unless it is the first
or the last character. -/
def suffixDot (name : List Char) : Option Nat :=
  match (List.range name.length).reverse.find? fun i => name[i]? == some '.' with
  | some i => if 0 < i ∧ i + 1 < name.length then some i else none
  | none => none

/-- The last part of a path, without its root. -/
def pathName (text : String) : List Char :=
  ((pathParts text).filter fun part => part ≠ "/" ∧ part ≠ "//").getLast?.elim [] String.toList

/-- `Path(text).stem`. -/
def pathStem (text : String) : List Char :=
  let name := pathName text
  (suffixDot name).elim name fun i => name.take i

/-- `Path(text).suffix`. -/
def pathSuffix (text : String) : List Char :=
  let name := pathName text
  (suffixDot name).elim [] fun i => name.drop i

/-- `[a-z0-9]`. -/
def isLowerAlnum (c : Char) : Bool := ('a' ≤ c && c ≤ 'z') || ('0' ≤ c && c ≤ '9')

/-- The non-empty strings that `re.split(r"[^a-z0-9]+", …)` returns. -/
def alnumTokens (text : List Char) : List (List Char) :=
  (text.splitOnP fun c => !isLowerAlnum c).filter (· ≠ [])

/-- `_protected_auto_merge_path` of a path that is stripped and in lower case. -/
def protectedNormalizedPath (normalized : String) : Bool :=
  normalized == "" || protectedPaths.contains normalized ||
    (pathParts normalized).any (· == "agents.md") ||
    (pathParts normalized).any (fun part => ".env".toList.isPrefixOf part.toList) ||
    protectedSuffixes.any (fun suffix => suffix.toList == pathSuffix normalized) ||
    (pathParts normalized).any (protectedParts.contains ·) ||
    (pathParts normalized).any fun part => (alnumTokens (pathStem part)).any fun token =>
      protectedPrefixes.any fun start => start.toList.isPrefixOf token

/-- The characters that `str.strip()` removes. -/
def isSpace (c : Char) : Bool :=
  (0x09 ≤ c.toNat && c.toNat ≤ 0x0D) || (0x1C ≤ c.toNat && c.toNat ≤ 0x20) ||
    c.toNat ∈ [0x85, 0xA0, 0x1680, 0x2028, 0x2029, 0x202F, 0x205F, 0x3000] ||
    (0x2000 ≤ c.toNat && c.toNat ≤ 0x200A)

/-- `str.strip()`. -/
def strip (text : String) : String :=
  String.ofList ((text.toList.dropWhile isSpace).reverse.dropWhile isSpace).reverse

section

variable (setting : Setting)

/-- `_protected_auto_merge_path`. -/
def protectedAutoMergePath (path : String) : Bool :=
  protectedNormalizedPath (setting.lower (strip path))

/-- `auto_merge_policy_reasons` of an assessment. -/
def assessmentReasons (assessment : AutoMergeAssessment) (changedPaths : List String) :
    List String :=
  (if assessment.risk ≠ "low" ∧ assessment.risk ≠ "medium" then ["risk is not low or medium"]
    else []) ++
  (if !assessment.roadmapAuthorized then ["task is not roadmap authorized"] else []) ++
  (if !assessment.reversible then ["change is not declared reversible"] else []) ++
  (if assessment.productionDeployment then ["production deployment is declared"] else []) ++
  (if assessment.externalCustomerSideEffect then
    ["external customer-facing side effect is declared"] else []) ++
  (if assessment.stopCategories ≠ [] then
    ["one or more mandatory stop categories are declared"] else []) ++
  ((changedPaths.filter (protectedAutoMergePath setting)).map fun path =>
    "protected path requires human merge: " ++ path) ++
  (if changedPaths = [] then ["no changed paths were found"] else [])

/-- `auto_merge_policy_reasons`. -/
def autoMergePolicyReasons (body : String) (changedPaths : List String) : List String :=
  match setting.parseAutoMergeAssessment body with
  | .error text => [text]
  | .ok assessment => assessmentReasons setting assessment changedPaths

end

/-- The reason for a field of a pull request that does not have the required value. -/
def fieldReason (field : String) (value : Option String) (expected : String) : List String :=
  if value = some expected then [] else ["PR " ++ field ++ " does not match required value"]

/-- `validate_pr_for_merge`. -/
def validatePrForMerge (metadata : PrMetadata) (expectedBranch reviewedHead : String) :
    List String :=
  fieldReason "state" metadata.state "OPEN" ++
  fieldReason "baseRefName" metadata.baseRefName "main" ++
  fieldReason "headRefName" metadata.headRefName expectedBranch ++
  fieldReason "headRefOid" metadata.headRefOid reviewedHead ++
  fieldReason "mergeable" metadata.mergeable "MERGEABLE" ++
  (if metadata.reviewDecision = some "CHANGES_REQUESTED" ∨
      metadata.reviewDecision = some "REVIEW_REQUIRED" then
    ["PR has an unsatisfied blocking review state"] else []) ++
  (if (metadata.labels.getD []).contains (some reviewedLabel) then []
    else ["PR is missing the review-passed marker"]) ++
  (if metadata.number = none then ["PR number is invalid"] else [])

end GrowthOs.Handoff
