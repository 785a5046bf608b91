import BoxOffice.Money
import BoxOffice.Relational.Unique

namespace BoxOffice

open Relational

/-!
# Tenants — hosts

`TenantMiddleware` finds the organization of a request by the label in front of the base domain,
whatever the case of the letters and the port.  Before that, `get_host` refuses hosts of its own
accord, among them each one with an underscore.

* `subdomainFromHost_eq` — which hosts have a label, and that it is the only one;
* `resolve_eq_tenant` — where subdomains are unique, exactly who answers at a host;
* `resolve_address` — who answers at the address that links are built with.
-/

/-- The columns of an organization with which it is onboarded and found. -/
structure Theater where
  id : Nat
  name : String
  slug : String
  subdomain : String
  contactEmail : String
  timezone : String
  isActive : Bool
deriving Repr, DecidableEq

instance : Keyed Theater := ⟨Theater.id⟩

/-- The settings that hosts are read with.  `admits` are the hosts that `request.get_host()` lets
    through, by `ALLOWED_HOSTS` and by what may stand in a host name, which no underscore may. -/
structure HostSettings where
  debug : Bool
  baseDomain : String
  reservedSubdomains : List String
  admits : String → Bool
  plain : ∀ host : String, admits host = true → '_' ∉ host.toList

/-- What is read off a request: the host, `?_tenant=` and `X-Tenant`. -/
structure HostRequest where
  host : String
  tenantParam : Option String
  tenantHeader : Option String
deriving Repr, DecidableEq

/-- A request that asks for a host. -/
def HostRequest.to (host : String) : HostRequest := ⟨host, none, none⟩

/-- `_dev_override_subdomain`. -/
def devOverrideSubdomain (S : HostSettings) (request : HostRequest) : Option String :=
  if S.debug then (request.tenantParam.filter fun param => param ≠ "").or request.tenantHeader
  else none

/-- The host without its port, in lower case.  What `get_host` lets through is in ASCII. -/
def hostName (host : String) : String :=
  lower (String.ofList (host.toList.takeWhile fun c => c != ':'))

/-- `_subdomain_from_host`. -/
def subdomainFromHost (S : HostSettings) (host : String) : String :=
  let host := (hostName host).toList
  let baseDomain := (lower S.baseDomain).toList
  if host = baseDomain then ""
  else
    let suffix := '.' :: baseDomain
    if suffix <:+ host then String.ofList (host.take (host.length - suffix.length)) else ""

/-- What becomes of a request before its view.  A host that is not let through is a bad request. -/
inductive Resolved
  | platform
  | tenant (organization : Theater)
  | notFound (message : String)
  | badRequest
  | serverError
deriving Repr, DecidableEq

/-- The rows with a subdomain: `get` wants exactly one. -/
def theatersAt (db : Table Theater) (subdomain : String) : List Theater :=
  db.rows.filter fun o => o.subdomain == subdomain

/-- The organization of a subdomain. -/
def theaterOf (S : HostSettings) (db : Table Theater) (subdomain : String) : Resolved :=
  if subdomain = "" ∨ subdomain ∈ S.reservedSubdomains then .platform
  else
    match theatersAt db subdomain with
    | [] => .notFound "Unknown tenant."
    | [organization] =>
      if organization.isActive then .tenant organization
      else .notFound "This tenant is not active."
    | _ :: _ :: _ => .serverError

/-- `_resolve`. -/
def resolve (S : HostSettings) (db : Table Theater) (request : HostRequest) : Resolved :=
  match devOverrideSubdomain S request with
  | some subdomain => theaterOf S db subdomain
  | none =>
    if S.admits request.host then theaterOf S db (subdomainFromHost S request.host)
    else .badRequest

/-- `tenant_base_url`, without the scheme: the host that links to an organization name. -/
def Theater.address (S : HostSettings) (o : Theater) : String :=
  o.subdomain ++ "." ++ S.baseDomain

/-- `SlugField`: letters, digits, underscores and dashes. -/
def isLabelChar (c : Char) : Bool := c.isAlphanum || c == '_' || c == '-'

/-- What may follow an address: nothing, or a colon and a port. -/
def IsPort (text : String) : Prop := ∀ c ∈ text.toList.head?, c = ':'

/-- A label may stand in the subdomain column. -/
structure IsLabel (subdomain : String) : Prop where
  some : subdomain ≠ ""
  chars : ∀ c ∈ subdomain.toList, isLabelChar c = true

section Hosts

variable {S : HostSettings} {db : Table Theater} {o o' : Theater} {host label text : String}

/-! ### Lower case -/

/-- The characters of a text in lower case. -/
theorem lower_toList (text : String) : (lower text).toList = text.toList.map Char.toLower :=
  String.toList_ofList

/-- Lower case, part by part. -/
theorem lower_append (s t : String) : lower (s ++ t) = lower s ++ lower t := by
  rw [← String.toList_inj]
  simp only [lower_toList, String.toList_append, List.map_append]

/-! ### Labels -/

/-- **A host has a label** if that, a dot and the base domain are its name. -/
theorem subdomainFromHost_eq (hlabel : label ≠ "") :
    subdomainFromHost S host = label ↔ hostName host = label ++ "." ++ lower S.baseDomain := by
  have hdot : (label ++ "." ++ lower S.baseDomain).toList
      = label.toList ++ '.' :: (lower S.baseDomain).toList := by
    simp [String.toList_append]
  constructor
  · intro h
    unfold subdomainFromHost at h
    dsimp only at h
    split_ifs at h with hbase hsuffix
    · exact absurd h.symm hlabel
    · obtain ⟨front, hfront⟩ := hsuffix
      rw [← hfront, List.length_append, Nat.add_sub_cancel, List.take_left] at h
      rw [← String.toList_inj, hdot, ← hfront, ← h, String.toList_ofList]
    · exact absurd h.symm hlabel
  · intro h
    have hname := (congrArg String.toList h).trans hdot
    unfold subdomainFromHost
    dsimp only
    have hne : (hostName host).toList ≠ (lower S.baseDomain).toList := by
      intro heq
      have hlen := congrArg List.length (heq.symm.trans hname)
      simp only [List.length_append, List.length_cons] at hlen
      omega
    rw [if_neg hne, if_pos ⟨label.toList, hname.symm⟩, hname, List.length_append,
      Nat.add_sub_cancel, List.take_left, String.ofList_toList]

/-- Names under one domain tell their labels. -/
theorem label_inj {a b base : String} : a ++ "." ++ base = b ++ "." ++ base ↔ a = b := by
  rw [← String.toList_inj, ← @String.toList_inj a b]
  simp only [String.toList_append, List.append_cancel_right_eq]

/-- A label has no port. -/
theorem IsLabel.portless (h : IsLabel label) : ∀ c ∈ label.toList, (c != ':') = true := by
  intro c hc
  rw [bne_iff_ne]
  rintro rfl
  have hchar := h.chars _ hc
  revert hchar
  decide

/-- The name of an address, with or without a port. -/
theorem hostName_address (hlabel : IsLabel label)
    (hbase : ':' ∉ S.baseDomain.toList) (hport : IsPort text) :
    hostName (label ++ "." ++ S.baseDomain ++ text) = lower label ++ "." ++ lower S.baseDomain := by
  have hplain : ∀ c ∈ (label ++ "." ++ S.baseDomain).toList, (c != ':') = true := by
    intro c hc
    rw [String.toList_append, String.toList_append, List.mem_append, List.mem_append] at hc
    rcases hc with (hc | hc) | hc
    · exact hlabel.portless c hc
    · rw [List.mem_singleton.mp hc]
      rfl
    · exact bne_iff_ne.mpr fun heq => hbase (heq ▸ hc)
  have hrest : text.toList.takeWhile (fun c => c != ':') = [] := by
    cases htext : text.toList with
    | nil => rfl
    | cons c rest =>
      exact List.takeWhile_cons_of_neg (by rw [hport c (by rw [htext]; rfl)]; decide)
  unfold hostName
  rw [String.toList_append, List.takeWhile_append_of_pos hplain, hrest, List.append_nil,
    String.ofList_toList, lower_append, lower_append]
  rfl

/-! ### Who answers -/

/-- A live site resolves hosts only, and only those that are let through. -/
theorem resolve_live (hlive : S.debug = false) (request : HostRequest) :
    resolve S db request =
      if S.admits request.host then theaterOf S db (subdomainFromHost S request.host)
      else .badRequest := by
  have hnone : devOverrideSubdomain S request = none := by
    rw [devOverrideSubdomain, hlive, if_neg Bool.false_ne_true]
  rw [resolve, hnone]

/-- The organizations at a label. -/
theorem mem_theatersAt : o ∈ theatersAt db label ↔ o ∈ db.rows ∧ o.subdomain = label := by
  rw [theatersAt, List.mem_filter, beq_iff_eq]

/-- The organization of a label is the active one that has it, unless it is reserved. -/
theorem theaterOf_eq_tenant (hunique : IsUnique Theater.subdomain db)
    (hlabels : ∀ o ∈ db.rows, IsLabel o.subdomain) :
    theaterOf S db label = .tenant o ↔
      o ∈ db.rows ∧ o.isActive = true ∧ o.subdomain ∉ S.reservedSubdomains ∧
        o.subdomain = label := by
  unfold theaterOf
  constructor
  · intro h
    split_ifs at h with hplatform
    split at h
    · cases h
    · rename_i organization hone
      split_ifs at h with hactive
      obtain rfl : organization = o := Resolved.tenant.inj h
      obtain ⟨hmem, hsub⟩ := mem_theatersAt.mp (hone ▸ List.mem_singleton_self organization)
      rw [not_or, ← hsub] at hplatform
      exact ⟨hmem, hactive, hplatform.2, hsub⟩
    · cases h
  · rintro ⟨hmem, hactive, hreserved, rfl⟩
    have hone : theatersAt db o.subdomain = [o] := hunique.filter_eq hmem
    rw [if_neg (not_or.mpr ⟨(hlabels o hmem).some, hreserved⟩), hone]
    exact if_pos hactive

/-- **Who answers at a host** that is let through: the active organization whose subdomain, no
    reserved one, stands in front of the base domain. -/
theorem resolve_eq_tenant (hlive : S.debug = false) (hunique : IsUnique Theater.subdomain db)
    (hlabels : ∀ o ∈ db.rows, IsLabel o.subdomain) (request : HostRequest) :
    resolve S db request = .tenant o ↔
      S.admits request.host = true ∧
        o ∈ db.rows ∧ o.isActive = true ∧ o.subdomain ∉ S.reservedSubdomains ∧
          hostName request.host = o.subdomain ++ "." ++ lower S.baseDomain := by
  rw [resolve_live hlive]
  by_cases hadmits : S.admits request.host = true
  · rw [if_pos hadmits, theaterOf_eq_tenant hunique hlabels]
    constructor
    · rintro ⟨hmem, hactive, hreserved, hsub⟩
      exact ⟨hadmits, hmem, hactive, hreserved,
        (subdomainFromHost_eq (hlabels o hmem).some).mp hsub.symm⟩
    · rintro ⟨-, hmem, hactive, hreserved, hhost⟩
      exact ⟨hmem, hactive, hreserved,
        ((subdomainFromHost_eq (hlabels o hmem).some).mpr hhost).symm⟩
  · rw [if_neg hadmits]
    exact ⟨fun h => (by cases h), fun h => absurd h.1 hadmits⟩

/-- Nobody looks up more rows than one. -/
theorem theaterOf_ne_serverError (hunique : IsUnique Theater.subdomain db) :
    theaterOf S db label ≠ .serverError := by
  intro h
  unfold theaterOf at h
  split_ifs at h
  split at h
  · cases h
  · split_ifs at h
  · rename_i a b rest hrows
    obtain ⟨ha, hsub⟩ := mem_theatersAt.mp (hrows ▸ List.mem_cons_self)
    have hone : theatersAt db a.subdomain = [a] := hunique.filter_eq ha
    rw [hsub, hrows] at hone
    cases hone

/-- With unique subdomains no lookup finds two. -/
theorem resolve_ne_serverError (hunique : IsUnique Theater.subdomain db) (request : HostRequest) :
    resolve S db request ≠ .serverError := by
  unfold resolve
  split
  · exact theaterOf_ne_serverError hunique
  · split_ifs
    · exact theaterOf_ne_serverError hunique
    · exact fun h => by cases h

/-- **Who answers at the address** of an organization, on any port, if that is let through: the one
    whose subdomain is that of the organization in lower case. -/
theorem resolve_address (hlive : S.debug = false) (hunique : IsUnique Theater.subdomain db)
    (hlabels : ∀ o ∈ db.rows, IsLabel o.subdomain)
    (hbase : ':' ∉ S.baseDomain.toList) (ho : o ∈ db.rows) (hport : IsPort text) :
    resolve S db (.to (o.address S ++ text)) = .tenant o' ↔
      S.admits (o.address S ++ text) = true ∧
        o' ∈ db.rows ∧ o'.isActive = true ∧ o'.subdomain ∉ S.reservedSubdomains ∧
          o'.subdomain = lower o.subdomain := by
  have hname : hostName (HostRequest.to (o.address S ++ text)).host
      = lower o.subdomain ++ "." ++ lower S.baseDomain :=
    hostName_address (hlabels o ho) hbase hport
  rw [resolve_eq_tenant hlive hunique hlabels, hname, label_inj, eq_comm (a := o'.subdomain)]
  rfl

/-- An address with an underscore in its label is a bad request. -/
theorem resolve_underscore (hlive : S.debug = false) (h : '_' ∈ o.subdomain.toList) :
    resolve S db (.to (o.address S ++ text)) = .badRequest := by
  have hrefused : ¬S.admits (o.address S ++ text) = true := fun hadmits =>
    S.plain _ hadmits (by simp [Theater.address, String.toList_append, h])
  rw [resolve_live hlive]
  exact if_neg hrefused

end Hosts

end BoxOffice
