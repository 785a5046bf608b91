import BoxOffice.HelpCenter.Articles
import BoxOffice.Relational.Sorted

namespace BoxOffice

open Relational HelpArticle

/-!
# Help center — who reads what

The staff's help page and the buyers' FAQ: a theater's own articles and the ones that ship with the
platform, merged into one list by category.

* `groupByCategory` is the merge, dictionary and all; `groupByCategory_items` says that it is a
  filter for each category;
* `help_index_exact` and `public_faq_exact` — a page holds exactly what its reader may see, once
  each, category by category, own articles before the shipped ones;
* `help_cumulative` — whoever is above sees what those below see, and everybody sees what the
  buyers see.
-/

/-- `is_box_office_or_above`. -/
def Membership.isBoxOfficeOrAbove (m : Membership) : Bool :=
  m.role == .owner || m.role == .manager || m.role == .boxOffice

/-- `visibilities_readable_by`. -/
def visibilitiesReadableBy (m : Membership) : List Visibility :=
  [.public_, .staff] ++ (if m.isBoxOfficeOrAbove then [.boxOffice] else []) ++
  (if m.canManageEvents then [.manager] else []) ++ if m.isOwner then [.owner] else []

/-- `Category.value`. -/
def HelpArticle.Category.value : Category → String
  | .general => "general"
  | .venueRules => "venue_rules"
  | .showInfo => "show_info"
  | .policies => "policies"
  | .howTo => "how_to"

/-- `Category.label`. -/
def HelpArticle.Category.label : Category → String
  | .general => "General"
  | .venueRules => "Venue rules"
  | .showInfo => "Show information"
  | .policies => "Policies"
  | .howTo => "Using Boxo"

/-- `Category.choices`. -/
def HelpArticle.Category.choices : List Category :=
  [.general, .venueRules, .showInfo, .policies, .howTo]

/-! ### Articles -/

/-- `BuiltinArticle`. -/
structure BuiltinArticle where
  slug : String
  title : String
  category : Category
  visibility : Visibility
deriving Repr, DecidableEq

/-- `BUILTIN_ARTICLES`. -/
def builtinArticles : List BuiltinArticle :=
  [⟨"welcome", "Welcome to your box office", .howTo, .staff⟩,
    ⟨"getting-your-box-office-set-up", "Getting your box office set up", .howTo, .manager⟩,
    ⟨"selling-and-refunds", "Selling tickets and issuing refunds", .howTo, .boxOffice⟩,
    ⟨"discounts-and-promo-codes", "Discounts & promo codes", .howTo, .manager⟩,
    ⟨"donations", "Donations", .howTo, .manager⟩,
    ⟨"season-and-flex-passes", "Season & flex passes", .howTo, .manager⟩,
    ⟨"working-the-door", "Working the door: scanning tickets", .howTo, .staff⟩,
    ⟨"events-and-performances", "Creating events and performances", .howTo, .manager⟩,
    ⟨"team-and-roles", "Your team and what each role can do", .howTo, .manager⟩,
    ⟨"email-marketing-and-your-audience", "Email marketing & your audience", .howTo, .manager⟩,
    ⟨"buyer-faq", "Ticket buyer FAQ", .general, .public_⟩,
    ⟨"venue-policies", "Venue rules & accessibility", .venueRules, .public_⟩]

/-- The order of the queries. -/
def HelpArticle.rank (a : HelpArticle) : String ×ₗ ℕ ×ₗ String :=
  toLex (a.category.value, toLex (a.position, a.title))

/-- `HelpArticleManager.readable_by`. -/
def articlesReadableBy (db : Table HelpArticle) (organization : Nat) (m : Membership) :
    List HelpArticle :=
  sortBy rank (db.rows.filter fun a =>
    a.organization == organization && a.isPublished &&
      decide (a.visibility ∈ visibilitiesReadableBy m))

/-- `HelpArticleManager.public`. -/
def publicArticles (db : Table HelpArticle) (organization : Nat) : List HelpArticle :=
  sortBy rank (db.rows.filter fun a =>
    a.organization == organization && a.isPublished && a.visibility == .public_)

/-- `builtins.readable_by`. -/
def builtinsReadableBy (m : Membership) : List BuiltinArticle :=
  builtinArticles.filter fun b => decide (b.visibility ∈ visibilitiesReadableBy m)

/-- `builtins.public`. -/
def publicBuiltins : List BuiltinArticle :=
  builtinArticles.filter fun b => b.visibility == .public_

/-! ### Groups -/

/-- What a page lists. -/
inductive HelpItem
  | own (a : HelpArticle)
  | builtin (b : BuiltinArticle)
deriving Repr, DecidableEq

/-- `article.category`. -/
def HelpItem.category : HelpItem → Category
  | .own a => a.category
  | .builtin b => b.category

/-- A category with its articles. -/
structure HelpGroup where
  label : String
  articles : List HelpItem
deriving Repr, DecidableEq

/-- `by_category.setdefault(article.category, []).append(article)`. -/
def addItem (byCategory : Category → List HelpItem) (item : HelpItem) :
    Category → List HelpItem :=
  Function.update byCategory item.category (byCategory item.category ++ [item])

/-- `_group_by_category`. -/
def groupByCategory (articles : List HelpArticle) (builtins : List BuiltinArticle) :
    List HelpGroup :=
  let byArticle := (articles.map HelpItem.own).foldl addItem fun _ => []
  let byCategory := (builtins.map HelpItem.builtin).foldl addItem byArticle
  Category.choices.filterMap fun c =>
    if byCategory c = [] then none else some ⟨c.label, byCategory c⟩

/-- `help_index`, for a member of the organization. -/
def helpIndex (db : Table HelpArticle) (organization : Nat) (m : Membership) : List HelpGroup :=
  groupByCategory (articlesReadableBy db organization m) (builtinsReadableBy m)

/-- `public_faq`. -/
def publicFaq (db : Table HelpArticle) (organization : Nat) : List HelpGroup :=
  groupByCategory (publicArticles db organization) publicBuiltins

/-- The articles of a page. -/
def shown (groups : List HelpGroup) : List HelpItem := groups.flatMap (·.articles)

/-- Own articles come in the order of their positions and titles, and before the shipped ones. -/
def HelpItem.Before : HelpItem → HelpItem → Prop
  | .own a, .own b => a.position < b.position ∨ a.position = b.position ∧ a.title ≤ b.title
  | .own _, .builtin _ => True
  | .builtin _, .own _ => False
  | .builtin _, .builtin _ => True

/-- A page for a reader: the categories in their order and none of them empty, their articles in
    order, and what the reader may see once each. -/
structure PageFor (Reads : HelpItem → Prop) (groups : List HelpGroup) : Prop where
  labels : (groups.map (·.label)).Sublist (Category.choices.map Category.label)
  some : ∀ g ∈ groups, g.articles ≠ []
  together : ∀ g ∈ groups, ∃ c, g.label = c.label ∧ ∀ x ∈ g.articles, x.category = c
  order : ∀ g ∈ groups, g.articles.Pairwise HelpItem.Before
  once : (shown groups).Nodup
  holds : ∀ x, x ∈ shown groups ↔ Reads x

/-- How much a role may see. -/
def Role.rank : Role → Nat
  | .scanner => 0
  | .boxOffice => 1
  | .manager => 2
  | .owner => 3

/-- Whom an article is for: the lowest role that sees it, and the buyers see what is public. -/
def HelpArticle.Visibility.rank : Visibility → Nat
  | .public_ => 0
  | .staff => 0
  | .boxOffice => 1
  | .manager => 2
  | .owner => 3

/-- What a role may read on the help page of an organization. -/
def StaffReads (db : Table HelpArticle) (organization : Nat) (role : Role) : HelpItem → Prop
  | .own a => a ∈ db.rows ∧ a.organization = organization ∧ a.isPublished = true ∧
      a.visibility.rank ≤ role.rank
  | .builtin b => b ∈ builtinArticles ∧ b.visibility.rank ≤ role.rank

/-- What buyers may read. -/
def BuyerReads (db : Table HelpArticle) (organization : Nat) : HelpItem → Prop
  | .own a => a ∈ db.rows ∧ a.organization = organization ∧ a.isPublished = true ∧
      a.visibility = .public_
  | .builtin b => b ∈ builtinArticles ∧ b.visibility = .public_

section Reading

variable {db : Table HelpArticle} {organization : Nat} {m : Membership}
  {articles : List HelpArticle} {builtins : List BuiltinArticle} {items : List HelpItem}
  {byCategory : Category → List HelpItem} {c : Category}

/-! ### Roles -/

/-- **The roles** accrue. -/
theorem mem_visibilitiesReadableBy (m : Membership) (v : Visibility) :
    v ∈ visibilitiesReadableBy m ↔ v.rank ≤ m.role.rank := by
  unfold visibilitiesReadableBy Membership.isBoxOfficeOrAbove Membership.canManageEvents
    Membership.isOwner
  cases m.role <;> cases v <;> decide

/-! ### The merge -/

/-- Grouping adds to each category its own items. -/
theorem foldl_addItem (items : List HelpItem) (byCategory : Category → List HelpItem)
    (c : Category) :
    items.foldl addItem byCategory c
      = byCategory c ++ items.filter fun x => decide (x.category = c) := by
  induction items generalizing byCategory with
  | nil => simp
  | cons x rest ih =>
    rw [List.foldl_cons, ih, List.filter_cons]
    by_cases hx : x.category = c
    · subst hx
      rw [if_pos (decide_eq_true rfl), addItem, Function.update_self, List.append_assoc]
      rfl
    · rw [if_neg (by simpa using hx), addItem, Function.update_of_ne (Ne.symm hx)]

/-- What the page merges. -/
def merged (articles : List HelpArticle) (builtins : List BuiltinArticle) : List HelpItem :=
  articles.map HelpItem.own ++ builtins.map HelpItem.builtin

/-- The articles of one category. -/
def itemsOf (articles : List HelpArticle) (builtins : List BuiltinArticle) (c : Category) :
    List HelpItem :=
  (merged articles builtins).filter fun x => decide (x.category = c)

/-- **The dictionary** is a filter for each category. -/
theorem groupByCategory_items (articles : List HelpArticle) (builtins : List BuiltinArticle) :
    groupByCategory articles builtins = Category.choices.filterMap fun c =>
      if itemsOf articles builtins c = [] then none
      else some ⟨c.label, itemsOf articles builtins c⟩ := by
  have hitems (c : Category) :
      (builtins.map HelpItem.builtin).foldl addItem
        ((articles.map HelpItem.own).foldl addItem fun _ => []) c
          = itemsOf articles builtins c := by
    rw [foldl_addItem, foldl_addItem, List.nil_append, ← List.filter_append]
    rfl
  unfold groupByCategory
  simp only [hitems]

/-- A group on the page is that of a category with items. -/
theorem mem_groupByCategory {g : HelpGroup} (h : g ∈ groupByCategory articles builtins) :
    ∃ c, itemsOf articles builtins c ≠ [] ∧ g = ⟨c.label, itemsOf articles builtins c⟩ := by
  rw [groupByCategory_items] at h
  obtain ⟨c, -, hc⟩ := List.mem_filterMap.mp h
  split_ifs at hc with hnone
  exact ⟨c, hnone, (Option.some.inj hc).symm⟩

/-- Dropping the empty groups drops nothing. -/
theorem shown_groupByCategory :
    shown (groupByCategory articles builtins)
      = (groupBy HelpItem.category Category.choices (merged articles builtins)).flatten := by
  rw [groupByCategory_items, shown, groupBy]
  show _ = (Category.choices.map (itemsOf articles builtins)).flatten
  induction Category.choices with
  | nil => rfl
  | cons c rest ih =>
    rw [List.filterMap_cons, List.map_cons, List.flatten_cons, ← ih]
    by_cases hnone : itemsOf articles builtins c = []
    · rw [if_pos hnone, hnone, List.nil_append]
    · rw [if_neg hnone, List.flatMap_cons]

/-- Every category is among the choices. -/
theorem category_mem_choices (c : Category) : c ∈ Category.choices := by
  cases c <;> decide

/-- The page shows every article once. -/
theorem shown_perm : (shown (groupByCategory articles builtins)).Perm (merged articles builtins) := by
  rw [shown_groupByCategory]
  exact groupBy_perm (by decide) fun x _ => category_mem_choices x.category

/-- Articles come by their rank within a category. -/
theorem before_of_rank {a b : HelpArticle} (h : a.rank ≤ b.rank) (hc : a.category = b.category) :
    HelpItem.Before (.own a) (.own b) := by
  rcases Prod.Lex.toLex_le_toLex.mp h with hlt | ⟨-, hle⟩
  · exact absurd hlt (by rw [hc]; exact lt_irrefl _)
  · exact Prod.Lex.toLex_le_toLex.mp hle

/-- The items of a category come in order. -/
theorem itemsOf_order (h : articles.Pairwise fun a b => a.rank ≤ b.rank) (c : Category) :
    (itemsOf articles builtins c).Pairwise HelpItem.Before := by
  unfold itemsOf merged
  rw [List.filter_append]
  refine List.pairwise_append.mpr ⟨?_, ?_, fun x hx y hy => ?_⟩
  · rw [List.filter_map]
    refine List.pairwise_map.mpr ?_
    refine (h.filter _).imp_of_mem fun ha hb hrank => before_of_rank hrank ?_
    exact (of_decide_eq_true (List.mem_filter.mp ha).2).trans
      (of_decide_eq_true (List.mem_filter.mp hb).2).symm
  · rw [List.filter_map]
    exact List.pairwise_map.mpr (List.pairwise_of_forall fun _ _ => True.intro)
  · obtain ⟨a, -, rfl⟩ := List.mem_map.mp (List.mem_of_mem_filter hx)
    obtain ⟨b, -, rfl⟩ := List.mem_map.mp (List.mem_of_mem_filter hy)
    exact True.intro

/-- **The page** of articles that are in order, and of shipped ones. -/
theorem groupByCategory_page (hnodup : articles.Nodup)
    (hsorted : articles.Pairwise fun a b => a.rank ≤ b.rank) (hbuiltins : builtins.Nodup) :
    PageFor (fun x => x ∈ merged articles builtins) (groupByCategory articles builtins) where
  labels := by
    rw [groupByCategory_items]
    generalize Category.choices = choices
    -- In the order of the choices, without those that have no article.
    induction choices with
    | nil => exact .slnil
    | cons c rest ih =>
      rw [List.filterMap_cons, List.map_cons]
      by_cases hnone : itemsOf articles builtins c = []
      · rw [if_pos hnone]
        exact ih.cons _
      · rw [if_neg hnone, List.map_cons]
        exact ih.cons_cons _
  some g hg := by
    obtain ⟨c, hsome, rfl⟩ := mem_groupByCategory hg
    exact hsome
  together g hg := by
    obtain ⟨c, -, rfl⟩ := mem_groupByCategory hg
    exact ⟨c, rfl, fun x hx => of_decide_eq_true (List.mem_filter.mp hx).2⟩
  order g hg := by
    obtain ⟨c, -, rfl⟩ := mem_groupByCategory hg
    exact itemsOf_order hsorted c
  once := by
    refine shown_perm.nodup_iff.mpr (List.nodup_append.mpr ⟨?_, ?_, fun x hx y hy => ?_⟩)
    · exact hnodup.map fun _ _ h => HelpItem.own.inj h
    · exact hbuiltins.map fun _ _ h => HelpItem.builtin.inj h
    -- An own article is no shipped one.
    · obtain ⟨a, -, rfl⟩ := List.mem_map.mp hx
      obtain ⟨b, -, rfl⟩ := List.mem_map.mp hy
      exact HelpItem.noConfusion
  holds x := shown_perm.mem_iff

/-- A page is for whoever reads the same. -/
theorem PageFor.congr {Reads Reads' : HelpItem → Prop} {groups : List HelpGroup}
    (h : PageFor Reads groups) (hreads : ∀ x, Reads x ↔ Reads' x) : PageFor Reads' groups :=
  ⟨h.labels, h.some, h.together, h.order, h.once, fun x => (h.holds x).trans (hreads x)⟩

/-- What there is to show: own articles and shipped ones. -/
theorem mem_merged {x : HelpItem} :
    x ∈ merged articles builtins ↔
      match x with
      | .own a => a ∈ articles
      | .builtin b => b ∈ builtins := by
  cases x <;> simp [merged]

/-- No row is stored twice. -/
theorem rows_nodup (db : Table HelpArticle) : db.rows.Nodup := db.nodup.of_map

/-- **The help page** of a member shows exactly what the role may read: the organization's published
    articles and the shipped ones, by the cumulative order of the roles, once each, category by
    category, own articles first and by position and title. -/
theorem help_index_exact (db : Table HelpArticle) (organization : Nat) (m : Membership) :
    PageFor (StaffReads db organization m.role) (helpIndex db organization m) := by
  have hnodup : (articlesReadableBy db organization m).Nodup :=
    (sortBy_perm _ _).nodup_iff.mpr ((rows_nodup db).filter _)
  have hbuiltins : (builtinsReadableBy m).Nodup :=
    List.Nodup.filter _ (by decide)
  refine (groupByCategory_page hnodup (sortBy_pairwise _ _) hbuiltins).congr fun x => ?_
  rw [mem_merged]
  cases x with
  | own a =>
    show a ∈ sortBy rank _ ↔ _
    rw [mem_sortBy, List.mem_filter]
    simp only [Bool.and_eq_true, beq_iff_eq, decide_eq_true_eq, mem_visibilitiesReadableBy,
      StaffReads, and_assoc]
  | builtin b =>
    show b ∈ builtinArticles.filter _ ↔ _
    rw [List.mem_filter]
    simp only [decide_eq_true_eq, mem_visibilitiesReadableBy, StaffReads]

/-- **The FAQ** shows exactly what is for the buyers. -/
theorem public_faq_exact (db : Table HelpArticle) (organization : Nat) :
    PageFor (BuyerReads db organization) (publicFaq db organization) := by
  have hnodup : (publicArticles db organization).Nodup :=
    (sortBy_perm _ _).nodup_iff.mpr ((rows_nodup db).filter _)
  have hbuiltins : publicBuiltins.Nodup := by decide
  refine (groupByCategory_page hnodup (sortBy_pairwise _ _) hbuiltins).congr fun x => ?_
  rw [mem_merged]
  cases x with
  | own a =>
    show a ∈ sortBy rank _ ↔ _
    rw [mem_sortBy, List.mem_filter]
    simp only [Bool.and_eq_true, beq_iff_eq, BuyerReads, and_assoc]
  | builtin b =>
    show b ∈ builtinArticles.filter _ ↔ _
    rw [List.mem_filter]
    simp only [beq_iff_eq, BuyerReads]

/-- **Cumulative.** The buyers' FAQ is on every member's help page, and what a member reads there,
    every member of a role as high reads, too. -/
theorem help_cumulative (db : Table HelpArticle) (organization : Nat) {m m' : Membership}
    (h : m.role.rank ≤ m'.role.rank) :
    shown (publicFaq db organization) ⊆ shown (helpIndex db organization m) ∧
      shown (helpIndex db organization m) ⊆ shown (helpIndex db organization m') := by
  refine ⟨fun x hx => ?_, fun x hx => ?_⟩
  · have hreads := ((public_faq_exact db organization).holds x).mp hx
    refine ((help_index_exact db organization m).holds x).mpr ?_
    cases x with
    | own a =>
      obtain ⟨ha, horg, hpublished, hpublic⟩ := hreads
      exact ⟨ha, horg, hpublished, by rw [hpublic]; exact Nat.zero_le _⟩
    | builtin b =>
      obtain ⟨hb, hpublic⟩ := hreads
      exact ⟨hb, by rw [hpublic]; exact Nat.zero_le _⟩
  · have hreads := ((help_index_exact db organization m).holds x).mp hx
    refine ((help_index_exact db organization m').holds x).mpr ?_
    cases x with
    | own a =>
      obtain ⟨ha, horg, hpublished, hrank⟩ := hreads
      exact ⟨ha, horg, hpublished, hrank.trans h⟩
    | builtin b =>
      obtain ⟨hb, hrank⟩ := hreads
      exact ⟨hb, hrank.trans h⟩

end Reading

end BoxOffice
