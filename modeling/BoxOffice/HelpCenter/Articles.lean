import BoxOffice.Dashboard.Team
import BoxOffice.Money
import BoxOffice.Python.Slug
import BoxOffice.Relational.Unique

namespace BoxOffice

open Relational Transition

/-!
# Help center — a theater's articles

`HelpArticle`, its form, and the views with which managers write articles, as the statements they
issue: the check of a typed slug, one query for each address that is tried when none was typed, and
the write, where the database has the last word.  Any number of requests interleave (`helpDesk`).

* `clashes` is the one question the form, the model and the constraint ask;
* `HelpSettings.candidate` lists the addresses `_unique_slug` tries;
* `helpStep_writes` says once what a statement writes.
-/

namespace HelpArticle

/-- `HelpArticle.Visibility`. -/
inductive Visibility
  | public_ | staff | boxOffice | manager | owner
deriving Repr, DecidableEq

/-- `HelpArticle.Category`. -/
inductive Category
  | general | venueRules | showInfo | policies | howTo
deriving Repr, DecidableEq

end HelpArticle

/-- `HelpArticle`. -/
structure HelpArticle where
  id : Nat
  organization : Nat
  title : String
  slug : String
  summary : String
  body : String
  category : HelpArticle.Category
  visibility : HelpArticle.Visibility
  isPublished : Bool
  position : Nat
  createdBy : Option Nat
  createdAt : Time
  updatedAt : Time
deriving Repr, DecidableEq

instance : Keyed HelpArticle := ⟨HelpArticle.id⟩

/-- The columns that are unique together. -/
def HelpArticle.address (a : HelpArticle) : Nat × String := (a.organization, a.slug)

/-- Does another article of the organization have the slug?  `pk` is the article itself, if it has
    been saved. -/
def clashes (db : Table HelpArticle) (organization : Nat) (pk : Option Nat) (slug : String) :
    Bool :=
  taken HelpArticle.address db pk (organization, slug)

/-- What the deployment settles: Unicode normalization, and the length a database with a limit on
    the column holds a slug to. -/
structure HelpSettings extends Python.Normalization where
  slugColumn : Option Nat

/-- The first address `_unique_slug` tries. -/
def HelpSettings.base (H : HelpSettings) (title : String) : String :=
  if H.slugify title = "" then "article" else H.slugify title

/-- The addresses it tries, in order. -/
def HelpSettings.candidate (H : HelpSettings) (title : String) : Nat → String
  | 0 => H.base title
  | n + 1 => Python.numbered (H.base title) (n + 2)

/-- Does the slug fit into its column? -/
def HelpSettings.slugFits (H : HelpSettings) (slug : String) : Bool :=
  H.slugColumn.all fun limit => decide (slug.toList.length ≤ limit)

/-! ### The form -/

/-- `HelpArticleForm`: texts as they are posted, and the choices and the number as their fields
    clean them, or what is wrong with them. -/
structure HelpArticleForm where
  title : String
  slug : String
  summary : String
  category : Except String HelpArticle.Category
  visibility : Except String HelpArticle.Visibility
  body : String
  position : Except String Nat
  isPublished : Bool
deriving Repr, DecidableEq

namespace HelpArticleForm

/-- A text field: what is wrong with what was posted. -/
def textErrors (field value : String) (required : Bool) (max : Option Nat) :
    List (String × String) :=
  let length := (strip value).toList.length
  if length = 0 then if required then [(field, "This field is required.")] else []
  else
    (if max.any (· < length) then
      [(field, s!"Ensure this value has at most {max.getD 0} characters (it has {length}).")]
      else []) ++
    if Char.ofNat 0 ∈ (strip value).toList then [(field, "Null characters are not allowed.")] else []

/-- `validate_slug`. -/
def isSlugField (slug : String) : Bool :=
  slug.toList.all fun c => c.isAlphanum || c == '_' || c == '-'

/-- The slug field by itself. -/
def slugErrors (slug : String) : List (String × String) :=
  (if isSlugField (strip slug) then []
    else [("slug",
      "Enter a valid “slug” consisting of letters, numbers, underscores or hyphens.")]) ++
  textErrors "slug" slug false (some 200)

/-- A field that cleans to a value or has something wrong with it. -/
def valueErrors {α : Type} (field : String) : Except String α → List (String × String)
  | .ok _ => []
  | .error message => [(field, message)]

/-- What the slug is cleaned to; blank when it is left to the model. -/
def cleanSlug (H : HelpSettings) (form : HelpArticleForm) : String :=
  if strip form.slug = "" then "" else H.slugify (strip form.slug)

/-- `clean_slug`: it runs when the field is valid by itself, and asks for a clash when something
    was typed. -/
def clashErrors (H : HelpSettings) (db : Table HelpArticle) (organization : Nat) (pk : Option Nat)
    (form : HelpArticleForm) : List (String × String) :=
  if slugErrors form.slug = [] ∧ strip form.slug ≠ "" ∧
      clashes db organization pk (form.cleanSlug H) = true then
    [("slug", "An article with this slug already exists.")]
  else []

/-- `form.errors`. -/
def errors (H : HelpSettings) (db : Table HelpArticle) (organization : Nat) (pk : Option Nat)
    (form : HelpArticleForm) : List (String × String) :=
  textErrors "title" form.title true (some 200) ++ slugErrors form.slug ++
  form.clashErrors H db organization pk ++
  textErrors "summary" form.summary false (some 280) ++ valueErrors "category" form.category ++
  valueErrors "visibility" form.visibility ++ textErrors "body" form.body true none ++
  valueErrors "position" form.position

/-- The value of a field that has one. -/
def valueOr {α : Type} (default : α) : Except String α → α
  | .ok value => value
  | .error _ => default

/-- `form.save(commit=False)`: the instance with the fields of the form filled in. -/
def filled (H : HelpSettings) (organization : Nat) (form : HelpArticleForm)
    (instance_ : HelpArticle) : HelpArticle :=
  { instance_ with
    organization := organization
    title := strip form.title
    slug := form.cleanSlug H
    summary := strip form.summary
    category := valueOr .general form.category
    visibility := valueOr .staff form.visibility
    body := strip form.body
    position := valueOr 0 form.position
    isPublished := form.isPublished }

end HelpArticleForm

/-- A new instance of a form.  Its times are set when it is written. -/
def HelpArticle.unsaved (user : Nat) : HelpArticle where
  id := 0
  organization := 0
  title := ""
  slug := ""
  summary := ""
  body := ""
  category := .general
  visibility := .staff
  isPublished := true
  position := 0
  createdBy := some user
  createdAt := 0
  updatedAt := 0

/-! ### Requests -/

/-- What is posted. -/
inductive HelpRequest
  | create (form : HelpArticleForm)
  | update (pk : Nat) (form : HelpArticleForm)
  | delete (pk : Nat)
deriving Repr, DecidableEq

/-- What the caller gets to see. -/
inductive HelpAnswer
  | forbidden (message : String)
  | notFound
  | formErrors (errors : List (String × String))
  | success (message : String)
  | serverError
deriving Repr, DecidableEq

/-- Where a request is.  `pk` is that of the article as it was loaded; a new one has none. -/
inductive HelpStage
  | arrived
  | checking (pk : Option Nat) (loaded : HelpArticle) (form : HelpArticleForm)
  | probing (pk : Option Nat) (article : HelpArticle) (n : Nat)
  | writing (pk : Option Nat) (article : HelpArticle)
  | reinserting (pk : Nat) (article : HelpArticle)
  | deleting (article : HelpArticle)
  | answered (answer : HelpAnswer)
deriving Repr, DecidableEq

/-- A request of a signed-in user at the host of an organization, with the membership it is gated
    by.  `now` is the time at which it writes, whenever that will be. -/
structure HelpTask where
  user : Nat
  organization : Nat
  membership : Option Membership
  now : Time
  request : HelpRequest
  stage : HelpStage
deriving Repr, DecidableEq

/-- The request at another stage. -/
def HelpTask.goTo (stage : HelpStage) (t : HelpTask) : HelpTask := { t with stage := stage }

/-- `manager_required`. -/
def managerGate : Option Membership → Option HelpAnswer
  | none => some (.forbidden "Your account doesn't have access to this theater.")
  | some m =>
    if m.canManageEvents then none
    else some (.forbidden "Your role doesn't have access to this area.")

/-- `get_object_or_404`. -/
def loadArticle (db : Table HelpArticle) (organization pk : Nat) : Option HelpArticle :=
  (db.get? pk).filter fun a => a.organization == organization

/-- The first statement: the gate, and the article the request is about. -/
def HelpTask.load (db : Table HelpArticle) (t : HelpTask) : HelpStage :=
  match managerGate t.membership with
  | some refusal => .answered refusal
  | none =>
    match t.request with
    | .create form => .checking none (.unsaved t.user) form
    | .update pk form =>
      match loadArticle db t.organization pk with
      | none => .answered .notFound
      | some article => .checking (some pk) article form
    | .delete pk =>
      match loadArticle db t.organization pk with
      | none => .answered .notFound
      | some article => .deleting article

/-- The check of the form. -/
def HelpTask.check (H : HelpSettings) (db : Table HelpArticle) (t : HelpTask) (pk : Option Nat)
    (loaded : HelpArticle) (form : HelpArticleForm) : HelpStage :=
  let errors := form.errors H db t.organization pk
  if errors ≠ [] then .answered (.formErrors errors)
  else
    let article := form.filled H t.organization loaded
    if article.slug = "" then .probing pk article 0 else .writing pk article

/-! ### Writes -/

/-- The constraint, and the column. -/
def refuses (H : HelpSettings) (db : Table HelpArticle) (pk : Option Nat) (article : HelpArticle) :
    Bool :=
  clashes db article.organization pk article.slug || !H.slugFits article.slug

/-- The article as an `INSERT` writes it, with the times of that moment. -/
def HelpArticle.created (now : Time) (article : HelpArticle) : HelpArticle :=
  { article with createdAt := now, updatedAt := now }

/-- `INSERT`. -/
def insertArticle (db : Table HelpArticle) (now : Time) (article : HelpArticle) :
    Table HelpArticle :=
  db.insert fun id => { article.created now with id := id }

/-- `UPDATE` of all columns. -/
def saveArticle (db : Table HelpArticle) (now : Time) (pk : Nat) (article : HelpArticle) :
    Table HelpArticle :=
  db.update (fun a => a.id == pk) fun a => { article with id := a.id, updatedAt := now }

/-- `INSERT` under a key of its own, which no row has. -/
def reinsertArticle (db : Table HelpArticle) (now : Time) (pk : Nat) (article : HelpArticle)
    (h : ∀ a ∈ db.rows, a.id ≠ pk) : Table HelpArticle :=
  db.insertUnder { article.created now with id := pk } h

/-- `DELETE`. -/
def removeArticle (db : Table HelpArticle) (pk : Nat) : Table HelpArticle :=
  db.delete fun a => a.id == pk

/-- The message after a save. -/
def savedMessage (pk : Option Nat) (title : String) : String :=
  if pk = none then s!"Created “{title}”." else s!"Updated “{title}”."

/-- The next statement of `help_create`, `help_update` or `help_delete`. -/
def helpStep (H : HelpSettings) (db : Table HelpArticle) (t : HelpTask) :
    Table HelpArticle × HelpTask :=
  match t.stage with
  | .arrived => (db, t.goTo (t.load db))
  | .checking pk loaded form => (db, t.goTo (t.check H db pk loaded form))
  | .probing pk article n =>
    let candidate := H.candidate article.title n
    if clashes db article.organization pk candidate then (db, t.goTo (.probing pk article (n + 1)))
    else (db, t.goTo (.writing pk { article with slug := candidate }))
  | .writing none article =>
    if refuses H db none article then (db, t.goTo (.answered .serverError))
    else
      (insertArticle db t.now article,
        t.goTo (.answered (.success (savedMessage none article.title))))
  | .writing (some pk) article =>
    if (db.get? pk).isNone then
      -- Django inserts what an update did not find.
      (db, t.goTo (.reinserting pk article))
    else if refuses H db (some pk) article then (db, t.goTo (.answered .serverError))
    else
      (saveArticle db t.now pk article,
        t.goTo (.answered (.success (savedMessage (some pk) article.title))))
  | .reinserting pk article =>
    if h : ∀ a ∈ db.rows, a.id ≠ pk then
      if refuses H db (some pk) article then (db, t.goTo (.answered .serverError))
      else
        (reinsertArticle db t.now pk article h,
          t.goTo (.answered (.success (savedMessage (some pk) article.title))))
    else (db, t.goTo (.answered .serverError))
  | .deleting article =>
    (removeArticle db article.id,
      t.goTo (.answered (.success s!"Deleted “{article.title}”.")))
  | .answered _ => (db, t)

/-- Any number of requests, statement by statement, over any articles. -/
def helpDesk (H : HelpSettings) (opening : Table HelpArticle → Prop) :
    Processes (Table HelpArticle) HelpTask Empty where
  init := opening
  start t := t.stage = .arrived
  step := helpStep H
  admits _ _ := True
  env e := e.elim

/-! ### What a statement writes -/

/-- The article a request is about to write, and the key it was loaded under. -/
def HelpTask.puts (t : HelpTask) : Option (Option Nat × HelpArticle) :=
  match t.stage with
  | .writing pk article => some (pk, article)
  | .reinserting pk article => some (some pk, article)
  | _ => none

/-- What one statement of a request can write: some rows go, or one row is put. -/
inductive HelpWrites (H : HelpSettings) (db : Table HelpArticle) (t : HelpTask) :
    Table HelpArticle → Prop
  | fewer {db' : Table HelpArticle} : (∀ a ∈ db'.rows, a ∈ db.rows) → HelpWrites H db t db'
  | put {db' : Table HelpArticle} {pk : Option Nat} {article : HelpArticle} {k : Nat}
      {created : Time} :
      t.puts = some (pk, article) → refuses H db pk article = false → (∀ j ∈ pk, j = k) →
      Puts db { article with id := k, createdAt := created, updatedAt := t.now } db' →
      HelpWrites H db t db'

section Writes

variable {H : HelpSettings} {db : Table HelpArticle} {t : HelpTask} {pk : Nat}

/-- A save puts its row, with the time of the save. -/
theorem saveArticle_puts (h : (db.get? pk).isNone = false) (now : Time) (article : HelpArticle) :
    Puts db { article with id := pk, updatedAt := now } (saveArticle db now pk article) := by
  obtain ⟨a, ha⟩ := Option.isSome_iff_exists.mp (Option.isNone_eq_false_iff.mp h)
  refine puts_update (fun b => beq_iff_eq) (fun b hkey => ?_)
    ⟨a, Table.get?_mem ha, Table.get?_key ha⟩
  have hid : b.id = pk := hkey
  rw [hid]

/-- **A statement** removes rows, or puts the article of the request, which nothing clashes with. -/
theorem helpStep_writes (H : HelpSettings) (db : Table HelpArticle) (t : HelpTask) :
    HelpWrites H db t (helpStep H db t).1 := by
  unfold helpStep
  split
  · exact .fewer fun _ h => h
  · exact .fewer fun _ h => h
  · dsimp only
    split_ifs <;> exact .fewer fun _ h => h
  · rename_i article hstage
    split_ifs with hrefuses
    · exact .fewer fun _ h => h
    -- The insert of a new article.
    · have hputs : t.puts = some (none, article) := by simp only [HelpTask.puts, hstage]
      exact .put hputs (by simpa using hrefuses) (by simp)
        (@puts_insert _ _ db (fun id => { article.created t.now with id := id }) fun _ => rfl)
  · rename_i pk article hstage
    split_ifs with hnone hrefuses
    · exact .fewer fun _ h => h
    · exact .fewer fun _ h => h
    -- The update of a stored one, in place.
    · have hputs : t.puts = some (some pk, article) := by simp only [HelpTask.puts, hstage]
      exact .put hputs (by simpa using hrefuses) (fun j hj => (Option.some.inj hj).symm)
        (saveArticle_puts (Bool.eq_false_iff.mpr hnone) t.now article)
  · rename_i pk article hstage
    split_ifs with hfree hrefuses
    · exact .fewer fun _ h => h
    -- An update that finds its row gone inserts it under its key.
    · have hputs : t.puts = some (some pk, article) := by simp only [HelpTask.puts, hstage]
      exact .put hputs (by simpa using hrefuses) (fun j hj => (Option.some.inj hj).symm)
        (puts_insertUnder (h := hfree))
    · exact .fewer fun _ h => h
  · exact .fewer fun a h => (Table.mem_delete.mp h).1
  · exact .fewer fun _ h => h

end Writes

end BoxOffice
