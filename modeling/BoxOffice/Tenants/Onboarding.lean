import BoxOffice.Python.Slug
import BoxOffice.Tenants.Hosts
import BoxOffice.Transition.Interleaving

namespace BoxOffice

open Relational Transition

/-!
# Tenants — onboarding

`provision_tenant`, with which an organization is created from the command line, and the admin
forms that create, change and delete organizations, as the statements they issue.  Any number of
them interleave (`registry`), in front of a database that has the last word on both slugs.

* `beginOnboard` is how a request starts, `onboardStep` its next statement;
* `conflicts` are the two constraints, which `get_or_create` answers with a second look.
-/

/-- The settings of onboarding, and whether a row fits into the columns of the database. -/
structure RegistrySettings extends HostSettings, Python.Normalization where
  fits : Theater → Bool

/-! ### The admin form -/

/-- `OrganizationAdminForm`: the slugs as they are posted, the other fields cleaned. -/
structure TheaterForm where
  name : String
  slug : String
  subdomain : String
  contactEmail : String
  timezone : String
  isActive : Bool
deriving Repr, DecidableEq

/-- A slug field by itself. -/
def labelErrors (field value : String) (limit : Nat) : List (String × String) :=
  let label := (strip value).toList
  if label.length = 0 then [(field, "This field is required.")]
  else
    (if label.all isLabelChar then []
      else [(field,
        "Enter a valid “slug” consisting of letters, numbers, underscores or hyphens.")]) ++
    (if limit < label.length then
      [(field, s!"Ensure this value has at most {limit} characters (it has {label.length}).")]
      else []) ++
    if Char.ofNat 0 ∈ label then [(field, "Null characters are not allowed.")] else []

/-- A slug field, and whether an organization other than `pk` has its value. -/
def uniqueErrors (db : Table Theater) (pk : Option Nat) (column : Theater → String)
    (field label value : String) (limit : Nat) : List (String × String) :=
  if labelErrors field value limit ≠ [] then labelErrors field value limit
  else if taken column db pk (strip value) then
    [(field, s!"Organization with this {label} already exists.")]
  else []

namespace TheaterForm

/-- `form.errors`. -/
def errors (db : Table Theater) (pk : Option Nat) (form : TheaterForm) : List (String × String) :=
  uniqueErrors db pk Theater.slug "slug" "Slug" form.slug 255 ++
  uniqueErrors db pk Theater.subdomain "subdomain" "Subdomain" form.subdomain 63

/-- The instance with the fields of the form filled in. -/
def filled (form : TheaterForm) (o : Theater) : Theater :=
  { o with
    name := form.name
    slug := strip form.slug
    subdomain := strip form.subdomain
    contactEmail := form.contactEmail
    timezone := form.timezone
    isActive := form.isActive }

end TheaterForm

/-- A new instance. -/
def Theater.unsaved : Theater where
  id := 0
  name := ""
  slug := ""
  subdomain := ""
  contactEmail := ""
  timezone := "UTC"
  isActive := true

/-! ### The command -/

/-- `str.title()`: a letter that follows none is a capital one. -/
def titleCase : Bool → List Char → List Char
  | _, [] => []
  | inWord, c :: rest => (if inWord then c.toLower else c.toUpper) :: titleCase c.isAlpha rest

/-- `subdomain.replace("-", " ").title()`. -/
def derivedName (subdomain : String) : String :=
  String.ofList (titleCase false (subdomain.toList.map fun c => if c = '-' then ' ' else c))

/-- An option of the command, if it was given. -/
def givenOr (option : Option String) (default : String) : String :=
  (option.filter fun value => value ≠ "").getD default

/-- The row `provision_tenant` creates. -/
def provisionedRow (S : RegistrySettings) (subdomain : String) (name contactEmail : Option String) :
    Theater where
  id := 0
  name := givenOr name (derivedName subdomain)
  slug := subdomain
  subdomain := subdomain
  contactEmail := givenOr contactEmail s!"boxoffice@{subdomain}.{S.baseDomain}"
  timezone := "UTC"
  isActive := true

/-! ### Requests -/

/-- What somebody asks for. -/
inductive OnboardRequest
  | provision (subdomain : String) (name contactEmail : Option String)
  | add (form : TheaterForm)
  | change (pk : Nat) (form : TheaterForm)
  | delete (pk : Nat)
deriving Repr, DecidableEq

/-- What the caller gets to see. -/
inductive OnboardAnswer
  | created (subdomain : String)
  | existing (subdomain : String)
  | invalidLabel (subdomain : String)
  | reservedLabel (subdomain : String)
  | formErrors (errors : List (String × String))
  | saved (name : String)
  | deleted (name : String)
  | notFound
  | serverError
deriving Repr, DecidableEq

/-- Where a request is. -/
inductive OnboardStage
  | arrived
  | creating (row : Theater)
  | retrying (row : Theater)
  | checking (pk : Option Nat) (loaded : Theater) (form : TheaterForm)
  | writing (pk : Option Nat) (row : Theater)
  | reinserting (pk : Nat) (row : Theater)
  | deleting (row : Theater)
  | answered (answer : OnboardAnswer)
deriving Repr, DecidableEq

/-- A request and where it is. -/
structure OnboardTask where
  request : OnboardRequest
  stage : OnboardStage
deriving Repr, DecidableEq

/-- The request at another stage. -/
def OnboardTask.goTo (stage : OnboardStage) (t : OnboardTask) : OnboardTask :=
  { t with stage := stage }

/-- What looking for the subdomain leads to. -/
def found (o : List Theater) (missing : OnboardStage) : OnboardStage :=
  match o with
  | [] => missing
  | [o] => .answered (.existing o.subdomain)
  | _ :: _ :: _ => .answered .serverError

/-- `handle`, up to the first `get` of `get_or_create`. -/
def beginProvision (S : RegistrySettings) (db : Table Theater) (subdomain : String)
    (name contactEmail : Option String) : OnboardStage :=
  let subdomain := Python.lower (strip subdomain)
  if subdomain = "" ∨ subdomain ≠ S.slugify subdomain then .answered (.invalidLabel subdomain)
  else if subdomain ∈ S.reservedSubdomains then .answered (.reservedLabel subdomain)
  else found (theatersAt db subdomain) (.creating (provisionedRow S subdomain name contactEmail))

/-- The first statement. -/
def beginOnboard (S : RegistrySettings) (db : Table Theater) : OnboardRequest → OnboardStage
  | .provision subdomain name contactEmail => beginProvision S db subdomain name contactEmail
  | .add form => .checking none .unsaved form
  | .change pk form =>
    match db.get? pk with
    | none => .answered .notFound
    | some o => .checking (some pk) o form
  | .delete pk =>
    match db.get? pk with
    | none => .answered .notFound
    | some o => .deleting o

/-! ### Writes -/

/-- The unique constraints. -/
def conflicts (db : Table Theater) (pk : Option Nat) (row : Theater) : Bool :=
  taken Theater.slug db pk row.slug || taken Theater.subdomain db pk row.subdomain

/-- `INSERT`. -/
def insertTheater (db : Table Theater) (row : Theater) : Table Theater :=
  db.insert fun id => { row with id := id }

/-- `UPDATE` of all columns. -/
def saveTheater (db : Table Theater) (pk : Nat) (row : Theater) : Table Theater :=
  db.update (fun o => o.id == pk) fun o => { row with id := o.id }

/-- `DELETE`. -/
def removeTheater (db : Table Theater) (pk : Nat) : Table Theater :=
  db.delete fun o => o.id == pk

/-- The next statement of a request. -/
def onboardStep (S : RegistrySettings) (db : Table Theater) (t : OnboardTask) :
    Table Theater × OnboardTask :=
  match t.stage with
  | .arrived => (db, t.goTo (beginOnboard S db t.request))
  | .creating row =>
    if S.fits row = false then (db, t.goTo (.answered .serverError))
    else if conflicts db none row then (db, t.goTo (.retrying row))
    else (insertTheater db row, t.goTo (.answered (.created row.subdomain)))
  | .retrying row =>
    -- Somebody else created it first, or the slug belongs to another organization.
    (db, t.goTo (found (theatersAt db row.subdomain) (.answered .serverError)))
  | .checking pk loaded form =>
    if form.errors db pk = [] then (db, t.goTo (.writing pk (form.filled loaded)))
    else (db, t.goTo (.answered (.formErrors (form.errors db pk))))
  | .writing none row =>
    if S.fits row = false ∨ conflicts db none row = true then
      (db, t.goTo (.answered .serverError))
    else (insertTheater db row, t.goTo (.answered (.saved row.name)))
  | .writing (some pk) row =>
    if (db.get? pk).isNone then
      -- Django inserts what an update did not find.
      (db, t.goTo (.reinserting pk row))
    else if S.fits row = false ∨ conflicts db (some pk) row = true then
      (db, t.goTo (.answered .serverError))
    else (saveTheater db pk row, t.goTo (.answered (.saved row.name)))
  | .reinserting pk row =>
    if h : ∀ o ∈ db.rows, o.id ≠ pk then
      if S.fits row = false ∨ conflicts db (some pk) row = true then
        (db, t.goTo (.answered .serverError))
      else (db.insertUnder { row with id := pk } h, t.goTo (.answered (.saved row.name)))
    else (db, t.goTo (.answered .serverError))
  | .deleting row => (removeTheater db row.id, t.goTo (.answered (.deleted row.name)))
  | .answered _ => (db, t)

/-- Any number of requests, statement by statement. -/
def registry (S : RegistrySettings) (opening : Table Theater → Prop) :
    Processes (Table Theater) OnboardTask Empty where
  init := opening
  start t := t.stage = .arrived
  step := onboardStep S
  admits _ _ := True
  env e := e.elim

end BoxOffice
