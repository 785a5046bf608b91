import BoxOffice.Dashboard.StaffEffect
import BoxOffice.Relational.Sorted
import Mathlib.Data.String.Basic

namespace BoxOffice

open Relational

/-!
# Dashboard — the price grid saves what was typed

* `cellTiers` are the tiers of a cell in display order: the upsert, the clearing and the lookup all
  pick the first;
* `savePlan_cell` — a blank cell takes away the first tier and no other, a filled one sets the
  amount of the first, or creates it;
* `savePlans_completes_iff` — the loop completes if and only if every cell can be saved;
* `price_grid` — the grid saves what was typed if and only if, besides, a cleared cell has no second
  tier that would price the section instead.
-/

/-- The tiers of a cell, in display order. -/
def cellTiers (db : Db) (organization : Nat) (cell : Option Nat × Nat) : List PriceTier :=
  orderedBy (fun t : PriceTier => t.name) (db.priceTiers.rows.filter fun t =>
    t.organization == organization && t.performance == cell.1 && t.section_ == some cell.2)

/-- The cell can be saved, when the carts of the tiers `cleared` are gone. -/
def cellSaves (columns : PriceColumns) (db : Db) (organization : Nat) (cleared : List Nat)
    (plan : PricePlan) : Bool :=
  match plan.amount, planTier db organization plan with
  | none, none => true
  | none, some tier =>
    !tierProtected { db with holds := deleteTierHolds db.holds cleared } tier.id
  | some amount, some _ => columns.amountFits amount
  | some amount, none =>
    columns.amountFits amount && columns.nameFits (planNewTier organization plan amount 0).name

/-- The tiers that a cell clears. -/
def clearedBy (db : Db) (organization : Nat) (plan : PricePlan) : List Nat :=
  ((blankedTier db organization plan).map (·.id)).toList

/-- Every cell can be saved in its turn. -/
def cellsSave (columns : PriceColumns) (db : Db) (organization : Nat) (cleared : List Nat) :
    List PricePlan → Bool
  | [] => true
  | plan :: rest =>
    cellSaves columns db organization cleared plan
      && cellsSave columns db organization (cleared ++ clearedBy db organization plan) rest

/-- The amount of a cell that parses, if it is not blank. -/
def typedAmount (cell : PriceCell) : Option Cents := (parsePrice cell).toOption.join

/-- The price that the cells of a section ask for: whose tier it is, and the amount. -/
def typedPrice (performance : Nat) (cells : PriceCell × PriceCell) :
    Option (Option Nat × Cents) :=
  match typedAmount cells.2, typedAmount cells.1 with
  | some amount, _ => some (some performance, amount)
  | none, some amount => some (none, amount)
  | none, none => none

/-- The price that a lookup gives: whose tier it is, and the amount. -/
def resolvedPrice (db : Db) (p : Performance) (section_ : Nat) : Option (Option Nat × Cents) :=
  (resolveSeatTier db p section_).map fun t => (t.performance, t.amount)

/-- The cells of every section parse. -/
def CellsParse (db : Db) (p : Performance) (cells : Nat → PriceCell × PriceCell) : Prop :=
  ∀ s ∈ chartSections db p,
    (∃ a, parsePrice (cells s.id).1 = .ok a) ∧ ∃ a, parsePrice (cells s.id).2 = .ok a

/-- Every section has the price that was typed, and the overrides of the other performances are as
    they were. -/
structure GridSaved (db : Db) (p : Performance) (cells : Nat → PriceCell × PriceCell)
    (db' : Db) : Prop where
  priced : ∀ s ∈ chartSections db p, resolvedPrice db' p s.id = typedPrice p.id (cells s.id)
  others : ∀ q, q ≠ p.id → db'.priceTiers.rows.filter (·.performance == some q)
    = db.priceTiers.rows.filter (·.performance == some q)

/-- Every cell can be saved, and clearing a price leaves no other in its place. -/
structure GridSaves (columns : PriceColumns) (db : Db) (p : Performance)
    (cells : Nat → PriceCell × PriceCell) : Prop where
  saves : cellsSave columns db p.organization [] (reservedPlans db p cells) = true
  override_ : ∀ s ∈ chartSections db p, typedAmount (cells s.id).2 = none →
    (cellTiers db p.organization (some p.id, s.id)).length ≤ 1
  default_ : ∀ s ∈ chartSections db p, typedAmount (cells s.id).2 = none →
    typedAmount (cells s.id).1 = none →
    (cellTiers db p.organization (none, s.id)).length ≤ 1

section Grid

variable {columns : PriceColumns} {db db' db₁ : Db} {organization : Nat} {plan : PricePlan} {plans : List PricePlan}
  {p : Performance} {cells : Nat → PriceCell × PriceCell}

/-! ### Tiers of a cell -/

/-- The tier a cell edits is the first one listed for it. -/
theorem planTier_eq_head (db : Db) (organization : Nat) (plan : PricePlan) :
    planTier db organization plan = (cellTiers db organization plan.cell).head? := rfl

/-- Both sorts put the rows in order of their names. -/
theorem orderedBy_eq_sortBy {α : Type} (name : α → String) (rows : List α) :
    orderedBy name rows = sortBy name rows := rfl

/-- The tiers of a cell are those for its performance and section. -/
theorem mem_cellTiers {cell : Option Nat × Nat} {t : PriceTier} :
    t ∈ cellTiers db organization cell ↔ t ∈ db.priceTiers.rows ∧
      t.organization = organization ∧ t.performance = cell.1 ∧ t.section_ = some cell.2 := by
  unfold cellTiers
  rw [orderedBy_eq_sortBy, mem_sortBy, List.mem_filter]
  simp only [Bool.and_eq_true, beq_iff_eq, and_assoc]

/-- No tier is listed twice for a cell. -/
theorem cellTiers_nodup (cell : Option Nat × Nat) :
    ((cellTiers db organization cell).map (·.id)).Nodup := by
  unfold cellTiers
  rw [orderedBy_eq_sortBy]
  refine ((sortBy_perm _ _).map _).nodup_iff.mpr ?_
  exact db.priceTiers.nodup.sublist (List.filter_sublist.map _)

/-- **The lookup** gives the first tier of the override, else the first of the default. -/
theorem resolveSeatTier_eq (db : Db) (p : Performance) (section_ : Nat) :
    resolveSeatTier db p section_
      = (cellTiers db p.organization (some p.id, section_)).head?.or
        (cellTiers db p.organization (none, section_)).head? := by
  have hfind : ∀ key : Option Nat,
      (orderedBy (fun t : PriceTier => t.name) (db.priceTiers.rows.filter fun t =>
        t.organization == p.organization && t.section_ == some section_)).find?
          (fun t => t.performance == key)
        = (cellTiers db p.organization (key, section_)).head? := by
    intro key
    unfold cellTiers
    rw [orderedBy_eq_sortBy, orderedBy_eq_sortBy, ← List.head?_filter, filter_sortBy,
      List.filter_filter]
    congr 2
    refine List.filter_congr fun t _ => ?_
    rw [Bool.and_comm, Bool.and_assoc, Bool.and_assoc, Bool.and_comm (t.section_ == _)]
  unfold resolveSeatTier
  dsimp only
  rw [hfind, hfind]

/-! ### One cell -/

/-- What saving a cell does to its tiers. -/
structure CellSaved (db : Db) (organization : Nat) (plan : PricePlan) (db' : Db) : Prop where
  blank : plan.amount = none →
    cellTiers db' organization plan.cell = (cellTiers db organization plan.cell).tail
  filled : ∀ amount, plan.amount = some amount → ∃ t,
    (cellTiers db' organization plan.cell).head? = some t ∧
      t.performance = plan.performance ∧ t.amount = amount

/-- Without its first row, a list of distinct keys is its tail. -/
theorem filter_ne_head {tier : PriceTier} {l : List PriceTier} (hnd : (l.map (·.id)).Nodup)
    (h : l.head? = some tier) : l.filter (fun t => t.id != tier.id) = l.tail := by
  cases l with
  | nil => cases h
  | cons t rest =>
    obtain rfl := Option.some.inj h
    rw [List.map_cons, List.nodup_cons] at hnd
    rw [List.filter_cons_of_neg (by simp), List.tail_cons]
    refine List.filter_eq_self.mpr fun u hu => ?_
    simp only [bne_iff_ne, ne_eq]
    exact fun heq => hnd.1 (List.mem_map.mpr ⟨u, hu, heq⟩)

/-- **One cell.** A blank cell takes away its first tier, a filled one prices it. -/
theorem savePlan_cell (h : savePlan columns db organization plan = .ok db') :
    CellSaved db organization plan db' := by
  cases savePlan_effect h with
  | kept ha ht =>
    have hnil : cellTiers db organization plan.cell = [] := by
      rwa [planTier_eq_head, List.head?_eq_none_iff] at ht
    exact ⟨fun _ => by rw [hnil]; rfl, fun amount hs => by rw [ha] at hs; cases hs⟩
  | @cleared tier ha ht =>
    refine ⟨fun _ => ?_, fun amount hs => by rw [ha] at hs; cases hs⟩
    -- Only the head of the cell is deleted, and no tier is there twice.
    rw [← filter_ne_head (cellTiers_nodup plan.cell) ht]
    unfold cellTiers
    rw [orderedBy_eq_sortBy, orderedBy_eq_sortBy, filter_sortBy]
    show sortBy _ (List.filter _ (List.filter _ _)) = _
    rw [List.filter_filter, List.filter_filter]
    congr 1
    refine List.filter_congr fun t _ => ?_
    rw [Bool.and_comm]
    rfl
  | @repriced tier amount ha ht =>
    refine ⟨fun hs => (by rw [ha] at hs; cases hs), fun amount' hs => ?_⟩
    obtain rfl : amount = amount' := Option.some.inj (ha.symm.trans hs)
    -- Repricing rewrites one tier in place: the order, by name, does not change.
    let f : PriceTier → PriceTier := fun t =>
      if t.id == tier.id then { t with amount := amount } else t
    have hcell : cellTiers { db with
        priceTiers := db.priceTiers.update (fun t => t.id == tier.id)
          fun t => { t with amount := amount } } organization plan.cell
        = (cellTiers db organization plan.cell).map f := by
      have hname : ∀ t : PriceTier, (f t).name = t.name := fun t => by
        dsimp only [f]
        split_ifs <;> rfl
      have hmap : ∀ l, (sortBy (fun t : PriceTier => t.name) l).map f
          = sortBy (fun t : PriceTier => t.name) (l.map f) := fun l => map_sortBy hname
      unfold cellTiers
      rw [orderedBy_eq_sortBy, orderedBy_eq_sortBy, hmap]
      show sortBy _ (List.filter _ (List.map f _)) = _
      rw [List.filter_map]
      congr 2
      refine List.filter_congr fun t _ => ?_
      dsimp only [f, Function.comp]
      split_ifs <;> rfl
    refine ⟨{ tier with amount := amount }, ?_, (Prod.mk.inj (planTier_some ht).2.2).1, rfl⟩
    rw [planTier_eq_head] at ht
    rw [hcell, List.head?_map, ht]
    simp [f]
  | @priced amount ha ht =>
    refine ⟨fun hs => (by rw [ha] at hs; cases hs), fun amount' hs => ?_⟩
    obtain rfl : amount = amount' := Option.some.inj (ha.symm.trans hs)
    -- The cell was empty, so the new tier is its only one.
    have hnil : (db.priceTiers.rows.filter fun t => t.organization == organization
        && t.performance == plan.cell.1 && t.section_ == some plan.cell.2) = [] := by
      have hnone : cellTiers db organization plan.cell = [] := by
        rwa [planTier_eq_head, List.head?_eq_none_iff] at ht
      exact ((sortBy_perm _ _).symm.trans (.of_eq hnone)).eq_nil
    refine ⟨planNewTier organization plan amount db.priceTiers.nextId, ?_, rfl, rfl⟩
    unfold cellTiers
    rw [Table.insert_rows, List.filter_append, hnil, List.filter_cons_of_pos (by
      simp [planNewTier, PricePlan.cell])]
    rfl

/-! ### All cells -/

/-- The rest of the loop does not show through a filter that rejects its cells. -/
theorem savePlans_filter {keep : PriceTier → Bool}
    (hreject : ∀ plan ∈ plans, ∀ t : PriceTier, t.organization = organization →
      (t.performance, t.section_) = (plan.performance, some plan.section_.id) → keep t = false)
    (h : savePlans columns db organization plans = .ok db') :
    db'.priceTiers.rows.filter keep = db.priceTiers.rows.filter keep := by
  induction plans generalizing db with
  | nil => cases h; rfl
  | cons plan rest ih =>
    unfold savePlans at h
    cases hp : savePlan columns db organization plan with
    | error e => rw [hp] at h; cases h
    | ok db₁ =>
      rw [hp] at h
      rw [ih (fun q hq => hreject q (List.mem_cons_of_mem _ hq)) h]
      exact savePlan_filter (hreject plan (List.mem_cons_self ..)) hp

/-- A tier of one cell is none of another's. -/
theorem cell_rejects {other : PricePlan} (hne : other.cell ≠ plan.cell) (t : PriceTier)
    (ht : (t.performance, t.section_) = (other.performance, some other.section_.id)) :
    (t.organization == organization && t.performance == plan.cell.1
      && t.section_ == some plan.cell.2) = false := by
  rw [Prod.mk.injEq] at ht
  by_contra hp
  simp only [Bool.not_eq_false, Bool.and_eq_true, beq_iff_eq] at hp
  refine hne (Prod.ext (ht.1.symm.trans hp.1.2) ?_)
  exact Option.some.inj (ht.2.symm.trans hp.2)

/-- The tiers of a cell depend on the rows for that cell only. -/
theorem cellTiers_of_filter {cell : Option Nat × Nat}
    (h : (db'.priceTiers.rows.filter fun t => t.organization == organization
        && t.performance == cell.1 && t.section_ == some cell.2)
      = db.priceTiers.rows.filter fun t => t.organization == organization
        && t.performance == cell.1 && t.section_ == some cell.2) :
    cellTiers db' organization cell = cellTiers db organization cell := by
  unfold cellTiers
  rw [h]

/-- Whether a cell is saved depends on its own tiers, before and after. -/
theorem CellSaved.congr {db₂ db₃ : Db} (h : CellSaved db organization plan db')
    (hbefore : cellTiers db₂ organization plan.cell = cellTiers db organization plan.cell)
    (hafter : cellTiers db₃ organization plan.cell = cellTiers db' organization plan.cell) :
    CellSaved db₂ organization plan db₃ where
  blank ha := by rw [hbefore, hafter]; exact h.blank ha
  filled amount ha := by rw [hafter]; exact h.filled amount ha

/-- **The loop** saves every cell as if alone. -/
theorem savePlans_cells (hcells : plans.Pairwise fun p q => p.cell ≠ q.cell)
    (h : savePlans columns db organization plans = .ok db') :
    ∀ plan ∈ plans, CellSaved db organization plan db' := by
  induction plans generalizing db with
  | nil => intro plan hplan; cases hplan
  | cons first rest ih =>
    obtain ⟨hfirst, hrest⟩ := List.pairwise_cons.mp hcells
    unfold savePlans at h
    cases hp : savePlan columns db organization first with
    | error e => rw [hp] at h; cases h
    | ok db₁ =>
      rw [hp] at h
      intro plan hplan
      rcases List.mem_cons.mp hplan with rfl | hplan
      · refine (savePlan_cell hp).congr rfl (cellTiers_of_filter (savePlans_filter ?_ h))
        exact fun q hq t _ ht => cell_rejects (hfirst q hq).symm t ht
      · refine (ih hrest h plan hplan).congr (Eq.symm ?_) rfl
        exact cellTiers_of_filter (savePlan_filter
          (fun t _ ht => cell_rejects (hfirst plan hplan) t ht) hp)

/-- Whether a tier is protected depends on the carts and the order lines only. -/
theorem tierProtected_congr (hholds : db'.holds = db.holds) (hitems : db'.orderItems = db.orderItems)
    (t : Nat) : tierProtected db' t = tierProtected db t := by
  unfold tierProtected
  rw [hholds, hitems]

/-- The database in the middle of the loop: some carts are gone, the cells to come choose the same
    tiers. -/
structure Midgrid (db : Db) (organization : Nat) (cleared : List Nat) (plans : List PricePlan)
    (db₁ : Db) : Prop where
  holds : db₁.holds = deleteTierHolds db.holds cleared
  orderItems : db₁.orderItems = db.orderItems
  tiers : ∀ plan ∈ plans, planTier db₁ organization plan = planTier db organization plan

/-- In the middle of the grid a cell is saved if and only if the condition says so. -/
theorem savePlan_completes_iff {cleared : List Nat}
    (hmid : Midgrid db organization cleared (plan :: plans) db₁) :
    (∃ db', savePlan columns db₁ organization plan = .ok db')
      ↔ cellSaves columns db organization cleared plan = true := by
  have htier := hmid.tiers plan (List.mem_cons_self ..)
  have hfree : ∀ t, tierProtected db₁ t
      = tierProtected { db with holds := deleteTierHolds db.holds cleared } t :=
    tierProtected_congr hmid.holds hmid.orderItems
  unfold savePlan cellSaves
  rw [htier]
  cases plan.amount with
  | none =>
    cases planTier db organization plan with
    | none => simp
    | some tier =>
      dsimp only
      unfold deletePriceTier
      rw [hfree]
      cases tierProtected { db with holds := deleteTierHolds db.holds cleared } tier.id <;> simp
  | some amount =>
    cases planTier db organization plan with
    | some tier =>
      dsimp only
      cases columns.amountFits amount <;> simp
    | none =>
      dsimp only
      cases columns.amountFits amount
        && columns.nameFits (planNewTier organization plan amount 0).name <;> simp

/-- A saved cell leaves the rest of the grid where it was. -/
theorem Midgrid.next {cleared : List Nat}
    (hmid : Midgrid db organization cleared (plan :: plans) db₁)
    (hcells : ∀ q ∈ plans, plan.cell ≠ q.cell)
    (h : savePlan columns db₁ organization plan = .ok db') :
    Midgrid db organization (cleared ++ clearedBy db organization plan) plans db' := by
  have hblank : blankedTier db₁ organization plan = blankedTier db organization plan := by
    unfold blankedTier
    rw [hmid.tiers plan (List.mem_cons_self ..)]
  have htiers : ∀ q ∈ plans, planTier db' organization q = planTier db organization q :=
    fun q hq => (planTier_savePlan (hcells q hq) h).trans
      (hmid.tiers q (List.mem_cons_of_mem _ hq))
  obtain ⟨-, tiers, rfl⟩ := savePlan_ok h
  refine ⟨?_, hmid.orderItems, htiers⟩
  show deleteTierHolds db₁.holds _ = _
  rw [hmid.holds, deleteTierHolds_append, hblank]
  rfl

/-- **Completion.** The loop goes through if and only if every cell can be saved in its turn. -/
theorem savePlans_completes_iff {cleared : List Nat}
    (hcells : plans.Pairwise fun p q => p.cell ≠ q.cell)
    (hmid : Midgrid db organization cleared plans db₁) :
    (∃ db', savePlans columns db₁ organization plans = .ok db')
      ↔ cellsSave columns db organization cleared plans = true := by
  induction plans generalizing db₁ cleared with
  | nil => exact ⟨fun _ => rfl, fun _ => ⟨db₁, rfl⟩⟩
  | cons plan rest ih =>
    obtain ⟨hfirst, hrest⟩ := List.pairwise_cons.mp hcells
    have hone : _ ↔ cellSaves columns db organization cleared plan = true :=
      savePlan_completes_iff hmid
    unfold savePlans cellsSave
    cases hp : savePlan columns db₁ organization plan with
    | error e =>
      have hno : ¬cellSaves columns db organization cleared plan = true := by
        rw [← hone, hp]
        rintro ⟨db', h⟩
        cases h
      rw [Bool.and_eq_true]
      refine iff_of_false ?_ fun h => hno h.1
      rintro ⟨db', h⟩
      cases h
    | ok db₂ =>
      rw [hone.mp ⟨db₂, hp⟩, Bool.true_and]
      exact ih hrest (hmid.next hfirst hp)

/-! ### The grid -/

/-- A section whose amounts parse has two cells and no errors. -/
theorem planSection_parsed {performance : Nat} {s : Section} {cell : PriceCell × PriceCell}
    (h : (∃ a, parsePrice cell.1 = .ok a) ∧ ∃ a, parsePrice cell.2 = .ok a) :
    planSection performance s cell
      = ([⟨none, s, typedAmount cell.1⟩, ⟨some performance, s, typedAmount cell.2⟩], []) := by
  obtain ⟨⟨a, ha⟩, b, hb⟩ := h
  unfold planSection typedAmount
  dsimp only
  rw [ha, hb]
  rfl

/-- The cells of a grid that parses: the default and the override of every section. -/
theorem mem_reservedPlans (hparse : CellsParse db p cells) :
    plan ∈ reservedPlans db p cells ↔ ∃ s ∈ chartSections db p,
      plan = ⟨none, s, typedAmount (cells s.id).1⟩ ∨
        plan = ⟨some p.id, s, typedAmount (cells s.id).2⟩ := by
  unfold reservedPlans
  rw [List.mem_flatten]
  constructor
  · rintro ⟨l, hl, hplan⟩
    obtain ⟨s, hs, rfl⟩ := List.mem_map.mp hl
    rw [planSection_parsed (hparse s hs)] at hplan
    exact ⟨s, hs, by simpa using hplan⟩
  · rintro ⟨s, hs, hplan⟩
    refine ⟨_, List.mem_map.mpr ⟨s, hs, rfl⟩, ?_⟩
    rw [planSection_parsed (hparse s hs)]
    simpa using hplan

/-- A grid that parses is its loop. -/
theorem saveReservedPrices_parsed (hparse : CellsParse db p cells) :
    saveReservedPrices columns db p.organization p.id (chartSections db p) cells
      = (savePlans columns db p.organization (reservedPlans db p cells)).map fun db' => (db', []) := by
  have herrors : (((chartSections db p).map fun s => planSection p.id s (cells s.id)).map
      (·.2)).flatten = [] := by
    rw [List.map_map, List.flatten_eq_nil_iff]
    intro l hl
    obtain ⟨s, hs, rfl⟩ := List.mem_map.mp hl
    dsimp only [Function.comp]
    rw [planSection_parsed (hparse s hs)]
  have hplans : (((chartSections db p).map fun s => planSection p.id s (cells s.id)).map
      (·.1)).flatten = reservedPlans db p cells := by
    rw [List.map_map]
    rfl
  unfold saveReservedPrices
  dsimp only
  rw [herrors, hplans, if_neg (not_not.mpr rfl)]
  cases savePlans columns db p.organization (reservedPlans db p cells) <;> rfl

/-- A section is priced as typed if and only if clearing left no tier of its own in the way. -/
theorem resolvedPrice_iff {s : Section} {cell : PriceCell × PriceCell}
    (hdefault : CellSaved db p.organization ⟨none, s, typedAmount cell.1⟩ db')
    (hoverride : CellSaved db p.organization ⟨some p.id, s, typedAmount cell.2⟩ db') :
    resolvedPrice db' p s.id = typedPrice p.id cell ↔
      (typedAmount cell.2 = none →
        (cellTiers db p.organization (some p.id, s.id)).length ≤ 1) ∧
      (typedAmount cell.2 = none → typedAmount cell.1 = none →
        (cellTiers db p.organization (none, s.id)).length ≤ 1) := by
  have hshort : ∀ l : List PriceTier, l.length ≤ 1 ↔ l.tail.head? = none := by
    intro l
    rw [List.head?_eq_none_iff, ← List.length_eq_zero_iff, List.length_tail]
    omega
  unfold resolvedPrice typedPrice
  rw [resolveSeatTier_eq]
  cases ho : typedAmount cell.2 with
  | some amount =>
    obtain ⟨t, ht, hperf, hamount⟩ := hoverride.filled amount ho
    have ht' : (cellTiers db' p.organization (some p.id, s.id)).head? = some t := ht
    rw [ht', Option.some_or]
    simp [hperf, hamount]
  | none =>
    have htail : cellTiers db' p.organization (some p.id, s.id)
        = (cellTiers db p.organization (some p.id, s.id)).tail := hoverride.blank ho
    cases hrest : (cellTiers db' p.organization (some p.id, s.id)).head? with
    | some t =>
      -- A second override prices the section.
      have hmem := (mem_cellTiers.mp (List.mem_of_head? hrest)).2.2.1
      have hlong : ¬(cellTiers db p.organization (some p.id, s.id)).length ≤ 1 := by
        rw [hshort, ← htail, hrest]
        simp
      constructor
      · intro heq
        rw [Option.some_or, Option.map_some, hmem] at heq
        cases hd : typedAmount cell.1 <;> rw [hd] at heq <;> simp at heq
      · rintro ⟨hone, -⟩
        exact absurd (hone rfl) hlong
    | none =>
      have hlone : (cellTiers db p.organization (some p.id, s.id)).length ≤ 1 := by
        rw [hshort, ← htail, hrest]
      rw [Option.none_or]
      cases hd : typedAmount cell.1 with
      | some amount =>
        obtain ⟨t, ht, hperf, hamount⟩ := hdefault.filled amount hd
        have ht' : (cellTiers db' p.organization (none, s.id)).head? = some t := ht
        rw [ht']
        simp [hperf, hamount, hlone]
      | none =>
        have htail' : cellTiers db' p.organization (none, s.id)
            = (cellTiers db p.organization (none, s.id)).tail := hdefault.blank hd
        rw [Option.map_eq_none_iff, htail', ← hshort]
        simp [hlone]

/-- A grid that parses completes if and only if every cell can be saved in its turn. -/
theorem saveReservedPrices_completes_iff (hparse : CellsParse db p cells) :
    (∃ db', saveReservedPrices columns db p.organization p.id (chartSections db p) cells
        = .ok (db', []))
      ↔ cellsSave columns db p.organization [] (reservedPlans db p cells) = true := by
  have hstart : Midgrid db p.organization [] (reservedPlans db p cells) db :=
    ⟨(deleteTierHolds_nil db.holds).symm, rfl, fun _ _ => rfl⟩
  rw [← savePlans_completes_iff (reservedPlans_pairwise db p cells) hstart,
    saveReservedPrices_parsed hparse]
  cases savePlans columns db p.organization (reservedPlans db p cells) with
  | error e => exact ⟨fun ⟨_, h⟩ => (by cases h), fun ⟨_, h⟩ => (by cases h)⟩
  | ok db' => exact ⟨fun _ => ⟨db', rfl⟩, fun _ => ⟨db', rfl⟩⟩

/-- **The price grid.** A grid whose cells all parse is saved as typed if and only if every cell can
    be saved in its turn and no cleared price has a second tier behind it. -/
theorem price_grid (hparse : CellsParse db p cells) :
    (∃ db', saveReservedPrices columns db p.organization p.id (chartSections db p) cells
        = .ok (db', []) ∧ GridSaved db p cells db') ↔ GridSaves columns db p cells := by
  -- The cells parse, so a save without errors is the run of their plans.
  have hloop : ∀ db', saveReservedPrices columns db p.organization p.id (chartSections db p) cells
      = .ok (db', []) → savePlans columns db p.organization (reservedPlans db p cells) = .ok db' := by
    intro db' h
    rw [saveReservedPrices_parsed hparse] at h
    cases hrun : savePlans columns db p.organization (reservedPlans db p cells) with
    | error e => rw [hrun] at h; cases h
    | ok db'' => rw [hrun] at h; cases h; rfl
  have hpriced := fun db' h s (hs : s ∈ chartSections db p) =>
    have hcells := savePlans_cells (reservedPlans_pairwise db p cells) (hloop db' h)
    resolvedPrice_iff (hcells _ ((mem_reservedPlans hparse).mpr ⟨s, hs, .inl rfl⟩))
      (hcells _ ((mem_reservedPlans hparse).mpr ⟨s, hs, .inr rfl⟩))
  constructor
  · rintro ⟨db', h, hsaved⟩
    refine ⟨(saveReservedPrices_completes_iff hparse).mp ⟨db', h⟩, fun s hs => ?_, fun s hs => ?_⟩
    · exact ((hpriced db' h s hs).mp (hsaved.priced s hs)).1
    · exact ((hpriced db' h s hs).mp (hsaved.priced s hs)).2
  · intro hsaves
    obtain ⟨db', h⟩ := (saveReservedPrices_completes_iff hparse).mpr hsaves.saves
    refine ⟨db', h, fun s hs => ?_, fun q hq => ?_⟩
    · exact (hpriced db' h s hs).mpr ⟨hsaves.override_ s hs, hsaves.default_ s hs⟩
    · refine savePlans_filter (fun plan hplan t _ ht => ?_) (hloop db' h)
      -- A plan is about this performance, so the tiers of others are left.
      have hperf : t.performance = plan.performance := (Prod.mk.inj ht).1
      obtain ⟨s, -, rfl | rfl⟩ := (mem_reservedPlans hparse).mp hplan
      · rw [hperf]; rfl
      · rw [hperf]
        simpa using Ne.symm hq

end Grid

/-! ### Two submissions -/

/-- A default and an override are typed. -/
def bothTyped : Nat → PriceCell × PriceCell := fun _ => (.number 35, .number 40)

/-- Both cells are blank. -/
def bothBlank : Nat → PriceCell × PriceCell := fun _ => (.blank, .blank)

/-- Both prices of the second night are typed in and saved. -/
theorem price_grid_secondNight :
    ∃ db', saveReservedPrices declaredPriceColumns twoNights 1 2 (chartSections twoNights secondNight) bothTyped
      = .ok (db', []) ∧ GridSaved twoNights secondNight bothTyped db' := by
  have hparse : CellsParse twoNights secondNight bothTyped :=
    have hboth : parsePrice (.number 35) = .ok (some 3500)
      ∧ parsePrice (.number 40) = .ok (some 4000) := by decide +kernel
    fun s _ => ⟨⟨_, hboth.1⟩, _, hboth.2⟩
  have hoverride : typedAmount (bothTyped 1).2 = some 4000 := by decide +kernel
  refine (price_grid hparse).mpr ⟨by decide +kernel, fun s _ h => ?_, fun s _ h => ?_⟩ <;>
    · rw [show typedAmount (bothTyped s.id).2 = some 4000 from hoverride] at h
      cases h

/-- The second night with the seat in a cart, at the default price of its section. -/
def seatHeld : Db := (exec (.setReservedHold 1 2 "b" [1]) ⟨twoNights, 0⟩).db

/-- A tier for a section has a target, with or without a performance. -/
theorem lateTier_hasTarget : (none : Option Nat) ≠ none ∨ (some 1 : Option Nat) ≠ none := by simp

/-- The second night with two default tiers for its section. -/
def twoDefaults : Db :=
  { twoNights with
    priceTiers := twoNights.priceTiers.insert fun id =>
      PriceTier.mk id 1 "Stalls, late" 4000 "USD" none (some 1) lateTier_hasTarget }

/-- **The counterexample.** A price in a cart cannot be cleared, and the request does not complete;
    a price with a second tier behind it is cleared, and the section still has one. -/
theorem grid_not_saved :
    (CellsParse seatHeld secondNight bothBlank ∧
      ¬∃ db', saveReservedPrices declaredPriceColumns seatHeld 1 2 (chartSections seatHeld secondNight) bothBlank
        = .ok (db', [])) ∧
    (CellsParse twoDefaults secondNight bothBlank ∧ typedPrice 2 (bothBlank 1) = none ∧
      (saveReservedPrices declaredPriceColumns twoDefaults 1 2 (chartSections twoDefaults secondNight)
        bothBlank).toOption.map (fun r => resolvedPrice r.1 secondNight 1)
          = some (some (none, 4000))) := by
  have hparse : ∀ db, CellsParse db secondNight bothBlank := fun _ _ _ => ⟨⟨_, rfl⟩, _, rfl⟩
  refine ⟨⟨hparse _, ?_⟩, hparse _, by decide +kernel, by decide +kernel⟩
  rw [show (1 : Nat) = secondNight.organization from rfl,
    show (2 : Nat) = secondNight.id from rfl, saveReservedPrices_completes_iff (hparse _)]
  decide +kernel

end BoxOffice
