import GrowthOs.Foundation.Service

/-!
# Site requests

`create_site` and `update_site` of `api/foundation.py` with their payloads `SiteCreate` and
`SiteUpdate` of `api/schemas.py`. A field of a PATCH body is left out, null, or set, and the route
hands all three to the service.
-/

namespace GrowthOs.Foundation

open Library Db

/-- A value of a JSON body, as far as the fields of a site look at it. -/
inductive JsonValue where
  | null
  | text (value : String)
  | other
  deriving DecidableEq, Repr

/-- A JSON object with its keys. -/
abbrev Body := List (String × JsonValue)

/-- The field types that the validation library provides: `UUID`, and `AnyHttpUrl` with the string
form of a URL, which is absolute with the scheme `http` or `https`. -/
structure FieldTypes where
  parseUuid : String → Option Uuid
  AnyHttpUrl : Type
  parseUrl : String → Option AnyHttpUrl
  str : AnyHttpUrl → String
  absolute : ∀ url, "http://".toList <+: (str url).toList ∨ "https://".toList <+: (str url).toList

/-- White space in the sense of Unicode. -/
def isWhitespace (c : Char) : Bool :=
  (0x09 ≤ c.toNat && c.toNat ≤ 0x0D) || c.toNat ∈ [0x20, 0x85, 0xA0, 0x1680, 0x2028, 0x2029,
    0x202F, 0x205F, 0x3000] || (0x2000 ≤ c.toNat && c.toNat ≤ 0x200A)

/-- `str_strip_whitespace` of `StrictInput`. -/
def stripWhitespace (value : String) : String :=
  String.ofList ((value.toList.dropWhile isWhitespace).reverse.dropWhile isWhitespace).reverse

/-- A string with `Field(min_length=1, max_length=200)`. -/
structure SiteName where
  value : String
  min_length : 1 ≤ value.length
  max_length : value.length ≤ 200
  deriving DecidableEq, Repr

/-- The name of a site is not empty. -/
theorem SiteName.ne_empty (name : SiteName) : name.value ≠ "" := by
  intro heq
  have hlength := name.min_length
  rw [heq] at hlength
  exact absurd hlength (by decide)

/-- The validation of a name: the length is that of the stripped string. -/
def SiteName.validate (value : String) : Option SiteName :=
  if h : 1 ≤ (stripWhitespace value).length ∧ (stripWhitespace value).length ≤ 200 then
    some ⟨stripWhitespace value, h.1, h.2⟩
  else none

/-- `extra="forbid"` of `StrictInput`. -/
def onlyFields (fields : List String) (body : Body) : Bool :=
  body.all fun entry => entry.1 ∈ fields

/-- A field without a default, which cannot be null. -/
def requiredField {α : Type} (body : Body) (key : String) (validate : String → Option α) :
    Option α :=
  match body.lookup key with
  | some (.text value) => validate value
  | _ => none

/-- A field of an update: left out of the body, explicitly null, or set to a value. -/
inductive Supplied (α : Type) where
  | absent
  | null
  | set (value : α)
  deriving DecidableEq, Repr

/-- A field with the type `… | None` and the default `None`. -/
def optionalField {α : Type} (body : Body) (key : String) (validate : String → Option α) :
    Option (Supplied α) :=
  match body.lookup key with
  | none => some .absent
  | some .null => some .null
  | some (.text value) => (validate value).map .set
  | some .other => none

/-- A required field has been parsed. -/
theorem required_field_parsed {α : Type} {body : Body} {key : String} {validate : String → Option α}
    {a : α} (h : requiredField body key validate = some a) : ∃ raw, validate raw = some a := by
  unfold requiredField at h
  split at h
  · exact ⟨_, h⟩
  · cases h

/-- So has an optional one that is set. -/
theorem optional_field_parsed {α : Type} {body : Body} {key : String}
    {validate : String → Option α} {a : α}
    (h : optionalField body key validate = some (.set a)) : ∃ raw, validate raw = some a := by
  unfold optionalField at h
  split at h
  · cases h
  · cases h
  · obtain ⟨value, hvalue, heq⟩ := Option.map_eq_some_iff.mp h
    cases heq
    exact ⟨_, hvalue⟩
  · cases h

/-- An optional field is null where the body says so. -/
theorem optional_field_null {α : Type} {body : Body} {key : String} {validate : String → Option α}
    (h : optionalField body key validate = some .null) : body.lookup key = some .null := by
  unfold optionalField at h
  split at h
  · cases h
  · assumption
  · obtain ⟨value, -, heq⟩ := Option.map_eq_some_iff.mp h
    cases heq
  · cases h

section Schemas

variable (types : FieldTypes)

/-- `SiteCreate`. -/
structure SiteCreate where
  workspaceId : Uuid
  name : SiteName
  url : types.AnyHttpUrl

/-- The validation of a `SiteCreate`. -/
def SiteCreate.validate (body : Body) : Option (SiteCreate types) :=
  if onlyFields ["workspace_id", "name", "url"] body then do
    let workspaceId ← requiredField body "workspace_id" types.parseUuid
    let name ← requiredField body "name" SiteName.validate
    let url ← requiredField body "url" types.parseUrl
    pure ⟨workspaceId, name, url⟩
  else none

/-- `SiteUpdate`. Unlike the other update payloads it has no validator for the model. -/
structure SiteUpdate where
  name : Supplied SiteName
  url : Supplied types.AnyHttpUrl

/-- The validation of a `SiteUpdate`. -/
def SiteUpdate.validate (body : Body) : Option (SiteUpdate types) :=
  if onlyFields ["name", "url"] body then do
    let name ← optionalField body "name" SiteName.validate
    let url ← optionalField body "url" types.parseUrl
    pure ⟨name, url⟩
  else none

end Schemas

variable {types : FieldTypes}

/-- The URL of a new site has been parsed. -/
theorem site_create_parsed {body : Body} {payload : SiteCreate types}
    (h : SiteCreate.validate types body = some payload) :
    ∃ raw, types.parseUrl raw = some payload.url := by
  unfold SiteCreate.validate at h
  split at h
  · obtain ⟨workspaceId, -, h⟩ := Option.bind_eq_some_iff.mp h
    obtain ⟨name, -, h⟩ := Option.bind_eq_some_iff.mp h
    obtain ⟨url, hurl, heq⟩ := Option.bind_eq_some_iff.mp h
    cases heq
    exact required_field_parsed hurl
  · cases h

/-- So has that of an update. -/
theorem site_update_parsed {body : Body} {payload : SiteUpdate types}
    (h : SiteUpdate.validate types body = some payload) {url : types.AnyHttpUrl}
    (hurl : payload.url = .set url) : ∃ raw, types.parseUrl raw = some url := by
  unfold SiteUpdate.validate at h
  split at h
  · obtain ⟨name, -, h⟩ := Option.bind_eq_some_iff.mp h
    obtain ⟨field, hfield, heq⟩ := Option.bind_eq_some_iff.mp h
    cases heq
    obtain rfl : field = .set url := hurl
    exact optional_field_parsed hfield
  · cases h

/-- Some field is explicitly null. -/
def SiteUpdate.HasNull (payload : SiteUpdate types) : Prop :=
  payload.name = .null ∨ payload.url = .null

/-- A null field of the payload is an explicit null of the body. -/
theorem lookup_of_null {body : Body} {payload : SiteUpdate types}
    (h : SiteUpdate.validate types body = some payload) (hnull : payload.HasNull) :
    body.lookup "name" = some .null ∨ body.lookup "url" = some .null := by
  unfold SiteUpdate.validate at h
  split at h
  · obtain ⟨name, hname, h⟩ := Option.bind_eq_some_iff.mp h
    obtain ⟨url, hurl, heq⟩ := Option.bind_eq_some_iff.mp h
    cases heq
    rcases hnull with rfl | rfl
    · exact Or.inl (optional_field_null hname)
    · exact Or.inr (optional_field_null hurl)
  · cases h

/-- `model_dump(exclude_unset=True)`, and `str` of the URL. The string form of null is `None`. -/
def SiteUpdate.changes (payload : SiteUpdate types) : SiteChanges where
  name := match payload.name with
    | .absent => none
    | .null => some none
    | .set name => some (some name.value)
  url := match payload.url with
    | .absent => none
    | .null => some "None"
    | .set url => some (types.str url)

/-! ## Routes -/

/-- The requests that write sites. -/
inductive SiteRequest where
  | create (context : TenantContext) (body : Body)
  | update (context : TenantContext) (resourceId : Uuid) (body : Body)
  deriving DecidableEq, Repr

/-- A response to a request: the site, or the validation error. -/
inductive SiteReply where
  | site (site : Site)
  | validationError
  deriving DecidableEq, Repr

variable (types) in
/-- The routes `create_site` and `update_site`. -/
def serveSite : SiteRequest → Service SiteReply
  | .create context body => match SiteCreate.validate types body with
      | none => pure .validationError
      | some payload => do
          let site ← createSite context payload.workspaceId payload.name.value
            (types.str payload.url)
          pure (.site site)
  | .update context resourceId body => match SiteUpdate.validate types body with
      | none => pure .validationError
      | some payload => do
          let site ← updateOwned .sites context resourceId (siteChange payload.changes)
          pure (.site site)

end GrowthOs.Foundation
