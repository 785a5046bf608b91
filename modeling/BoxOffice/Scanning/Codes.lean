import BoxOffice.Money
import BoxOffice.Scanning.AdmitsOnce
import Mathlib.Data.Bool.AllAny
import Mathlib.Data.List.TakeWhile

namespace BoxOffice

open Relational

/-!
# Scanning — from the stored ticket to its row

The code that a ticket carries, the two ways in which it is read back, and the row that is found.

* `scanCode` is what the QR code holds; `redeemCode` is what the camera's `redeem` makes of a
  text, `manualCode` what `scan_home` makes of a typed one;
* `StoredToken` — what the column holds: new tokens, and UUIDs that were there before them;
* `ticket_scans_iff` — which tickets both ways lead to.
-/

/-! ### Codes -/

/-- `[A-Z0-9]`. -/
def codeChar (c : Char) : Bool := 'A' ≤ c && c ≤ 'Z' || '0' ≤ c && c ≤ '9'

/-- `scan_code`. -/
def scanCode (signing : Signing) (ticket : Ticket) : String :=
  ticket.token ++ "." ++ signToken signing ticket.token ticket.organization

/-- White space and ends of lines, to a page. -/
def pageBlank (c : Char) : Bool :=
  9 ≤ c.toNat && c.toNat ≤ 13 || 0x2000 ≤ c.toNat && c.toNat ≤ 0x200A
    || c.toNat ∈ [0x20, 0xA0, 0x1680, 0x2028, 0x2029, 0x202F, 0x205F, 0x3000, 0xFEFF]

/-- `trim()`. -/
def trim (text : String) : String := String.ofList (Python.trimEnds pageBlank text.toList)

/-- What `redeem` of the scanner page sends for a decoded text, if the text has the shape
    `^([A-Z0-9]+)\.([A-Z0-9]+)$`. -/
def redeemCode (decodedText : String) : Option (String × String) :=
  let text := (Python.upper (trim decodedText)).toList
  match text.dropWhile codeChar with
  | '.' :: sig =>
    let token := text.takeWhile codeChar
    if token ≠ [] ∧ sig ≠ [] ∧ sig.all codeChar then some (String.ofList token, String.ofList sig)
    else none
  | _ => none

/-- What `scan_home` redeems for a posted text: it signs the token itself. -/
def manualCode (signing : Signing) (organization : Nat) (posted : String) :
    Option (String × String) :=
  let rawToken := Python.upper (strip posted)
  if rawToken = "" ∨ ¬ rawToken.toList.all codeChar then none
  else some (rawToken, signToken signing rawToken organization)

/-! ### The tokens in the table -/

/-- Four bits, as `uuid.hex` has them. -/
def hexChars : List Char := "0123456789abcdef".toList

/-- `uuid.hex`. -/
def uuidHex (value : BitVec 128) : List Char :=
  (List.range 32).map fun i => hexChars.getD (value.toNat / 16 ^ (31 - i) % 16) '0'

/-- `str(uuid)`. -/
def uuidDashed (value : BitVec 128) : List Char :=
  let hex := uuidHex value
  hex.take 8 ++ '-' :: (hex.drop 8).take 4 ++ '-' :: (hex.drop 12).take 4 ++
    '-' :: (hex.drop 16).take 4 ++ '-' :: hex.drop 20

/-- A token as the column holds it: a new one, or a UUID of the former column, in the text form of
    SQLite or of a cast in PostgreSQL. -/
inductive StoredToken : String → Prop
  | generated (draw : Nat) : StoredToken (newToken draw)
  | hex (value : BitVec 128) : StoredToken (String.ofList (uuidHex value))
  | dashed (value : BitVec 128) : StoredToken (String.ofList (uuidDashed value))

/-- The tickets of a database: tokens of these forms, no two alike, with the rows that they refer
    to. -/
structure TicketRows (db : Db) : Prop where
  stored : ∀ t ∈ db.tickets.rows, StoredToken t.token
  unique : ∀ t ∈ db.tickets.rows, ∀ t' ∈ db.tickets.rows, t.token = t'.token → t = t'
  performance : ∀ t ∈ db.tickets.rows, ∃ p venue, db.performances.get? t.performance = some p ∧
    db.venues.get? p.venue = some venue

/-! ### Reaching a ticket -/

/-- What is delivered names the row of a ticket at an organization. -/
def SelectsTicket (db : Db) (organization : Nat) (delivered : Option (String × String))
    (ticket : Ticket) : Prop :=
  ∃ token sig, delivered = some (token, sig) ∧
    (ticketForCode db organization token).map (·.1) = some ticket

/-- What is delivered verifies, names the row of the ticket, and is answered about it, whoever
    scans it and whenever. -/
structure ReachesTicket (scanner : Scanner) (db : Db) (delivered : Option (String × String))
    (ticket : Ticket) : Prop where
  selects : SelectsTicket db ticket.organization delivered ticket
  verifies : ∀ token sig, delivered = some (token, sig) →
    verifyTicketSig scanner.toSigning token sig ticket.organization = .ok true
  answered : ∀ token sig, delivered = some (token, sig) → ∀ now usedAt scannedBy, ∃ db' result,
    redeemTicket scanner db now usedAt ticket.organization token sig scannedBy
      = .ok (db', result) ∧ result.ticket.map (·.id) = some ticket.id

/-- Both ways lead to the ticket, and no other ticket's code does. -/
structure TicketScans (scanner : Scanner) (db : Db) (ticket : Ticket) : Prop where
  camera : ReachesTicket scanner db (redeemCode (scanCode scanner.toSigning ticket)) ticket
  manual : ReachesTicket scanner db
    (manualCode scanner.toSigning ticket.organization ticket.token) ticket
  alone : ∀ other ∈ db.tickets.rows, other ≠ ticket → ∀ organization,
    ¬ SelectsTicket db organization (redeemCode (scanCode scanner.toSigning other)) ticket ∧
    ¬ SelectsTicket db organization
      (manualCode scanner.toSigning organization other.token) ticket

/-! ### Characters -/

/-- The characters of stored tokens. -/
def storedChars : List Char := "ACDEFGHJKMNPQRTVWXY2345789".toList ++ hexChars ++ ['-']

/-- A stored code has no blanks. -/
theorem storedChars_noSpace : ∀ c ∈ storedChars, Python.isSpace c = false :=
  List.all_iff_forall_prop.mp (by decide)

/-- Nor has it any to the page. -/
theorem storedChars_noBlank : ∀ c ∈ storedChars, pageBlank c = false :=
  List.all_iff_forall_prop.mp (by decide)

/-- It is in ASCII. -/
theorem storedChars_ascii : ∀ c ∈ storedChars, c.toNat < 128 :=
  List.all_iff_forall_prop.mp (by decide)

/-- A stored code has no dot. -/
theorem storedChars_ne_dot : ∀ c ∈ storedChars, c.toUpper ≠ '.' :=
  List.all_iff_forall_prop.mp (by decide)

/-- A character of a code is in upper case. -/
theorem codeChar_toUpper : ∀ c ∈ storedChars, codeChar c = true → c.toUpper = c :=
  List.all_iff_forall_prop.mp (by decide)

/-- A character of a UUID that a capital is written as is the capital itself. -/
theorem toUpper_hexChars : ∀ c ∈ storedChars, c.toUpper ∈ '-' :: hexChars → c.toUpper = c :=
  List.all_iff_forall_prop.mp (by decide)

/-- The token alphabet is in upper case. -/
theorem toUpper_tokenAlphabet : ∀ c ∈ tokenAlphabet, c.toUpper = c :=
  List.all_iff_forall_prop.mp (by decide)

/-- The characters of base 32 are those of codes. -/
theorem base32Alphabet_code :
    ∀ c ∈ base32Alphabet, codeChar c = true ∧ pageBlank c = false ∧ c.toUpper = c ∧
      c.toNat ≤ 127 :=
  List.all_iff_forall_prop.mp (by decide)

/-- A list, looked up with one of its elements as default, gives one of its elements. -/
theorem getD_mem {α : Type*} {l : List α} {d : α} (hd : d ∈ l) (i : Nat) : l.getD i d ∈ l := by
  rw [List.getD_eq_getElem?_getD]
  cases h : l[i]? with
  | none => exact hd
  | some a => exact List.mem_of_getElem? h

/-- Without blanks there is nothing to trim. -/
theorem trim_eq_self {text : String} (h : ∀ c ∈ text.toList, pageBlank c = false) :
    trim text = text := by
  unfold trim
  rw [Python.trimEnds_of_forall h, String.ofList_toList]

/-- A new token is written in the token alphabet. -/
theorem newToken_chars (draw : Nat) : ∀ c ∈ (newToken draw).toList, c ∈ tokenAlphabet := by
  intro c hc
  obtain ⟨i, -, rfl⟩ : ∃ i, i ∈ List.range tokenLength ∧ tokenAlphabet.getD
      (draw / tokenAlphabet.length ^ i % tokenAlphabet.length) 'A' = c := by
    simpa [newToken] using hc
  exact getD_mem (by decide) _

/-- A UUID is written in hexadecimal digits. -/
theorem uuidHex_chars (value : BitVec 128) : ∀ c ∈ uuidHex value, c ∈ hexChars := by
  intro c hc
  obtain ⟨i, -, rfl⟩ := List.mem_map.mp hc
  exact getD_mem (by decide) _

/-- With dashes it has those too. -/
theorem uuidDashed_chars (value : BitVec 128) : ∀ c ∈ uuidDashed value, c ∈ '-' :: hexChars := by
  intro c hc
  simp only [uuidDashed, List.mem_append, List.mem_cons] at hc
  have hhex (n m : Nat) (h : c ∈ ((uuidHex value).drop n).take m) : c ∈ '-' :: hexChars :=
    List.mem_cons_of_mem _ (uuidHex_chars value c (List.mem_of_mem_drop (List.mem_of_mem_take h)))
  rcases hc with (((h | rfl | h) | rfl | h) | rfl | h) | rfl | h
  · exact hhex 0 8 h
  · exact List.mem_cons_self
  · exact hhex 8 4 h
  · exact List.mem_cons_self
  · exact hhex 12 4 h
  · exact List.mem_cons_self
  · exact hhex 16 4 h
  · exact List.mem_cons_self
  · exact List.mem_cons_of_mem _ (uuidHex_chars value c (List.mem_of_mem_drop h))

/-- Signatures are of this alphabet. -/
theorem signToken_chars (signing : Signing) (token : String) (organization : Nat) :
    ∀ c ∈ (signToken signing token organization).toList, c ∈ base32Alphabet := by
  intro c hc
  simp only [signToken, base32, String.toList_ofList, List.mem_map] at hc
  obtain ⟨i, -, rfl⟩ := hc
  exact getD_mem (by decide) _

/-- A digest of 32 bytes gives twenty characters. -/
theorem length_signToken {signing : Signing}
    (hdigest : ∀ key message, (signing.hmacSha256 key message).length = 32) (token : String)
    (organization : Nat) : (signToken signing token organization).toList.length = 20 := by
  simp [signToken, base32, sigBytes, hdigest]

/-- The token alphabet can be stored. -/
theorem tokenAlphabet_stored : ∀ c ∈ tokenAlphabet, c ∈ storedChars :=
  List.all_iff_forall_prop.mp (by decide)

/-- So can the characters of a UUID. -/
theorem hexChars_stored : ∀ c ∈ '-' :: hexChars, c ∈ storedChars :=
  List.all_iff_forall_prop.mp (by decide)

namespace StoredToken

variable {token token' : String}

/-- The characters of a stored token. -/
theorem chars (h : StoredToken token) : ∀ c ∈ token.toList, c ∈ storedChars := by
  intro c hc
  cases h with
  | generated draw => exact tokenAlphabet_stored c (newToken_chars draw c hc)
  | hex value =>
    rw [String.toList_ofList] at hc
    exact hexChars_stored c (List.mem_cons_of_mem _ (uuidHex_chars value c hc))
  | dashed value =>
    rw [String.toList_ofList] at hc
    exact hexChars_stored c (uuidDashed_chars value c hc)

/-- A stored token is not empty. -/
theorem ne_nil (h : StoredToken token) : token.toList ≠ [] := by
  cases h with
  | generated draw => simp [newToken, tokenLength]
  | hex value => simp [uuidHex]
  | dashed value => simp [uuidDashed]

/-- Its capitals are those of its characters. -/
theorem upper_toList (h : StoredToken token) :
    (Python.upper token).toList = token.toList.map Char.toUpper :=
  Python.upper_toList_ascii fun c hc => storedChars_ascii c (h.chars c hc)

/-- It stays as it is if its characters do. -/
theorem upper_eq_self (h : StoredToken token) (hchars : ∀ c ∈ token.toList, c.toUpper = c) :
    Python.upper token = token :=
  Python.upper_eq_self fun c hc => ⟨storedChars_ascii c (h.chars c hc), hchars c hc⟩

/-- Capitals never turn one stored token into another. -/
theorem upper_inj (h : StoredToken token) (h' : StoredToken token')
    (heq : Python.upper token = token') : token = token' := by
  have hlist : token.toList.map Char.toUpper = token'.toList := by rw [← heq, h.upper_toList]
  have hsame (hchars : ∀ c ∈ token.toList, c.toUpper = c) : token = token' :=
    (h.upper_eq_self hchars).symm.trans heq
  have hplain (hhex : ∀ c ∈ token'.toList, c ∈ '-' :: hexChars) : token = token' :=
    hsame fun c hc => toUpper_hexChars c (h.chars c hc)
      (hhex _ (hlist ▸ List.mem_map_of_mem hc))
  cases h' with
  | hex value =>
    refine hplain fun c hc => ?_
    rw [String.toList_ofList] at hc
    exact List.mem_cons_of_mem _ (uuidHex_chars value c hc)
  | dashed value =>
    refine hplain fun c hc => ?_
    rw [String.toList_ofList] at hc
    exact uuidDashed_chars value c hc
  | generated draw =>
    -- The lengths leave only another new token.
    have hlength := congrArg List.length hlist
    cases h with
    | generated draw' =>
      exact hsame fun c hc => toUpper_tokenAlphabet c (newToken_chars draw' c hc)
    | hex value => simp [newToken, tokenLength, uuidHex] at hlength
    | dashed value => simp [newToken, tokenLength, uuidHex, uuidDashed] at hlength

end StoredToken

/-! ### The two ways -/

section Ways

variable {signing : Signing} {ticket : Ticket} {token token' sig : String} {organization : Nat}

/-- Stripping leaves a stored token as it is. -/
theorem StoredToken.strip (h : StoredToken token) : strip token = token :=
  Python.strip_eq_self fun c hc => storedChars_noSpace c (h.chars c hc)

/-- So does upper case, where its characters are those of codes. -/
theorem StoredToken.upper_of_code (h : StoredToken token)
    (hcode : token.toList.all codeChar = true) : Python.upper token = token :=
  h.upper_eq_self fun c hc => codeChar_toUpper c (h.chars c hc) (List.all_eq_true.mp hcode c hc)

/-- The characters of a decoded code, as `redeem` takes them apart. -/
theorem scanCode_chars (h : StoredToken ticket.token) :
    (Python.upper (trim (scanCode signing ticket))).toList = (Python.upper ticket.token).toList ++
      '.' :: (signToken signing ticket.token ticket.organization).toList := by
  have hlist : (scanCode signing ticket).toList = ticket.token.toList ++
      '.' :: (signToken signing ticket.token ticket.organization).toList := by
    simp [scanCode, String.toList_append]
  have hsig := signToken_chars signing ticket.token ticket.organization
  -- Whatever holds of both halves and of the dot holds of the code.
  have hboth {P : Char → Prop} (hleft : ∀ c ∈ storedChars, P c) (hdot : P '.')
      (hright : ∀ c ∈ base32Alphabet, P c) : ∀ c ∈ (scanCode signing ticket).toList, P c := by
    intro c hc
    rw [hlist, List.mem_append, List.mem_cons] at hc
    rcases hc with hc | rfl | hc
    · exact hleft c (h.chars c hc)
    · exact hdot
    · exact hright c (hsig c hc)
  rw [trim_eq_self (hboth storedChars_noBlank rfl fun c hc => (base32Alphabet_code c hc).2.1),
    Python.upper_toList_ascii (hboth storedChars_ascii (by decide) fun c hc =>
      Nat.lt_succ_of_le (base32Alphabet_code c hc).2.2.2),
    hlist, List.map_append, List.map_cons, h.upper_toList,
    List.map_congr_left fun c hc => (base32Alphabet_code c (hsig c hc)).2.2.1, List.map_id']
  rfl

/-- What the camera delivers is the token in capitals, if it has the shape of a code then. -/
theorem redeemCode_scanCode_some (h : StoredToken ticket.token)
    (hcode : redeemCode (scanCode signing ticket) = some (token, sig)) :
    token = Python.upper ticket.token ∧ token.toList.all codeChar = true := by
  unfold redeemCode at hcode
  simp only [scanCode_chars h] at hcode
  split at hcode
  next sig' hdrop =>
    split_ifs at hcode
    obtain ⟨rfl, -⟩ := Prod.mk.inj (Option.some.inj hcode)
    generalize hwhole : (Python.upper ticket.token).toList ++
      '.' :: (signToken signing ticket.token ticket.organization).toList = whole at hdrop ⊢
    have hsplit : whole.takeWhile codeChar ++ '.' :: sig' = whole := by
      rw [← hdrop, List.takeWhile_append_dropWhile]
    -- The one dot of a code is the dot between its halves.
    have htoken : '.' ∉ (Python.upper ticket.token).toList := by
      simp only [h.upper_toList, List.mem_map, not_exists, not_and]
      exact fun c hc => storedChars_ne_dot c (h.chars c hc)
    have hsig : '.' ∉ (signToken signing ticket.token ticket.organization).toList := fun hdot =>
      absurd (signToken_chars signing _ _ _ hdot) (by decide)
    obtain ⟨hhalf, -, -⟩ :=
      (List.append_cons_inj_of_notMem htoken hsig).mp (hwhole.trans hsplit.symm)
    refine ⟨?_, by rw [String.toList_ofList]; exact List.all_takeWhile⟩
    rw [← hhalf, String.ofList_toList]
  next => cases hcode

/-- What is typed in by hand is looked up in upper case. -/
theorem manualCode_some (h : StoredToken token)
    (hcode : manualCode signing organization token = some (token', sig)) :
    token' = Python.upper token ∧ token'.toList.all codeChar = true := by
  unfold manualCode at hcode
  rw [h.strip] at hcode
  dsimp only at hcode
  split_ifs at hcode with hshape
  obtain ⟨rfl, -⟩ := Prod.mk.inj (Option.some.inj hcode)
  exact ⟨rfl, by simpa using (not_or.mp hshape).2⟩

/-- **A token of capitals and digits** comes through the camera with its signature. -/
theorem redeemCode_scanCode
    (hdigest : ∀ key message, (signing.hmacSha256 key message).length = 32)
    (h : StoredToken ticket.token) (hplain : ticket.token.toList.all codeChar = true) :
    redeemCode (scanCode signing ticket)
      = some (ticket.token, signToken signing ticket.token ticket.organization) := by
  have hall (c) (hc : c ∈ ticket.token.toList) : codeChar c = true :=
    List.all_eq_true.mp hplain c hc
  have hsig : (signToken signing ticket.token ticket.organization).toList ≠ [] := by
    have := length_signToken hdigest ticket.token ticket.organization
    intro hnil
    rw [hnil] at this
    cases this
  have hsigall : (signToken signing ticket.token ticket.organization).toList.all codeChar = true :=
    List.all_eq_true.mpr fun c hc =>
      (base32Alphabet_code c (signToken_chars signing _ _ c hc)).1
  unfold redeemCode
  simp only [scanCode_chars h, h.upper_of_code hplain]
  rw [List.dropWhile_append_of_pos hall, List.takeWhile_append_of_pos hall]
  have hdot : codeChar '.' = false := by decide
  simp [hdot, h.ne_nil, hsig, hsigall]

/-- A code typed in as it is printed is looked up as it is, and signed. -/
theorem manualCode_of_code (h : StoredToken token) (hplain : token.toList.all codeChar = true) :
    manualCode signing organization token = some (token, signToken signing token organization) := by
  have hne : token ≠ "" := fun hempty => h.ne_nil (by rw [hempty]; rfl)
  simp [manualCode, h.strip, h.upper_of_code hplain, hplain, hne]

end Ways

/-! ### The row -/

section Rows

variable {scanner : Scanner} {db : Db} {ticket : Ticket} {token sig : String}
  {organization : Nat} {delivered : Option (String × String)}

/-- The ticket that is found has the token of the code. -/
theorem SelectsTicket.token_eq (h : SelectsTicket db organization (some (token, sig)) ticket) :
    ticket.token = token := by
  obtain ⟨_, _, ⟨⟩, hselect⟩ := h
  obtain ⟨⟨t, p, v⟩, hfound, rfl⟩ := Option.map_eq_some_iff.mp hselect
  exact (ticketForCode_mem hfound).2.2

/-- The row of a token. -/
theorem TicketRows.ticketForCode (h : TicketRows db) (ht : ticket ∈ db.tickets.rows) :
    ∃ p v, ticketForCode db ticket.organization ticket.token = some (ticket, p, v) := by
  obtain ⟨p, v, hp, hv⟩ := h.performance ticket ht
  cases hfound : BoxOffice.ticketForCode db ticket.organization ticket.token with
  | none =>
    have hnone := List.findSome?_eq_none_iff.mp hfound ticket
      ((orderedByPk_perm _).mem_iff.mpr (List.mem_filter.mpr ⟨ht, by simp⟩))
    simp [hp, hv] at hnone
  | some found =>
    obtain ⟨t, p', v'⟩ := found
    obtain ⟨hmem, -, htoken⟩ := ticketForCode_mem hfound
    obtain rfl := h.unique t hmem ticket ht htoken
    exact ⟨p', v', rfl⟩

/-- A scan that verifies is answered about the row that it finds. -/
theorem redeemTicket_about {p : Performance} {v : Venue}
    (hsig : verifyTicketSig scanner.toSigning token sig organization = .ok true)
    (hfound : ticketForCode db organization token = some (ticket, p, v))
    (now usedAt : Time) (scannedBy : Nat) :
    ∃ db' result, redeemTicket scanner db now usedAt organization token sig scannedBy
      = .ok (db', result) ∧ result.ticket.map (·.id) = some ticket.id := by
  unfold redeemTicket
  simp only [hsig, hfound]
  cases ticket.status with
  | void => exact ⟨_, _, rfl, rfl⟩
  | used => exact ⟨_, _, rfl, rfl⟩
  | valid =>
    simp only [redeemValid]
    cases hwrong : wrongTimeResult scanner now ticket p v with
    | none => exact ⟨_, _, rfl, rfl⟩
    | some result =>
      refine ⟨_, _, rfl, ?_⟩
      unfold wrongTimeResult at hwrong
      split_ifs at hwrong <;> cases hwrong <;> rfl

/-- A signature verifies. -/
theorem verifyTicketSig_signToken
    (hdigest : ∀ key message, (scanner.hmacSha256 key message).length = 32) :
    verifyTicketSig scanner.toSigning token (signToken scanner.toSigning token organization)
      organization = .ok true := by
  have hne : signToken scanner.toSigning token organization ≠ "" := by
    intro hempty
    have hlength := length_signToken hdigest token organization
    rw [hempty] at hlength
    cases hlength
  have hascii : (signToken scanner.toSigning token organization).toList.any
      (fun c => 127 < c.toNat) = false := by
    simpa using fun c hc =>
      (base32Alphabet_code c (signToken_chars scanner.toSigning token organization c hc)).2.2.2
  unfold verifyTicketSig
  rw [if_neg hne, if_neg (by rw [hascii]; decide), beq_self_eq_true]

/-- The answer of the check, or its exception. -/
theorem verifyTicketSig_iff :
    (∃ valid, verifyTicketSig scanner.toSigning token sig organization = .ok valid) ↔
      ∀ c ∈ sig.toList, c.toNat ≤ 127 := by
  unfold verifyTicketSig
  by_cases hempty : sig = ""
  · subst hempty
    simp
  · by_cases hascii : sig.toList.any fun c => 127 < c.toNat
    · simp only [hempty, hascii, if_false, if_true, reduceCtorEq, exists_false, false_iff]
      simpa using hascii
    · simp only [hempty, hascii, if_false]
      simpa using hascii

/-- What leads to the row of a ticket of capitals and digits is answered about it. -/
theorem ReachesTicket.of_signed (h : TicketRows db) (ht : ticket ∈ db.tickets.rows)
    (hdigest : ∀ key message, (scanner.hmacSha256 key message).length = 32)
    (hdelivered : delivered = some (ticket.token,
      signToken scanner.toSigning ticket.token ticket.organization)) :
    ReachesTicket scanner db delivered ticket := by
  obtain ⟨p, v, hfound⟩ := h.ticketForCode ht
  subst hdelivered
  refine ⟨⟨_, _, rfl, by rw [hfound]; rfl⟩, ?_, ?_⟩
  · rintro _ _ ⟨⟩
    exact verifyTicketSig_signToken hdigest
  · rintro _ _ ⟨⟩
    exact redeemTicket_about (verifyTicketSig_signToken hdigest) hfound

/-- No other ticket's code leads to a ticket. -/
theorem TicketRows.alone (h : TicketRows db) (ht : ticket ∈ db.tickets.rows) {other : Ticket}
    (hother : other ∈ db.tickets.rows) (hne : other ≠ ticket)
    (hupper : ∀ token sig, delivered = some (token, sig) → token = Python.upper other.token) :
    ¬ SelectsTicket db organization delivered ticket := by
  rintro ⟨token, sig, rfl, hselect⟩
  have htoken : ticket.token = token := SelectsTicket.token_eq ⟨token, sig, rfl, hselect⟩
  have hsame := (h.stored other hother).upper_inj (h.stored ticket ht)
    ((hupper token sig rfl).symm.trans htoken.symm)
  exact hne (h.unique other hother ticket ht hsame)

end Rows

/-- **Every ticket of capitals and digits scans**, by both ways and by no other ticket's code, and
    no other ticket does; and the check of a signature answers exactly for ASCII. -/
theorem ticket_scans_iff {scanner : Scanner}
    (hdigest : ∀ key message, (scanner.hmacSha256 key message).length = 32) {db : Db}
    (h : TicketRows db) {ticket : Ticket} (ht : ticket ∈ db.tickets.rows) (token sig : String)
    (organization : Nat) :
    (TicketScans scanner db ticket ∧
        ∃ valid, verifyTicketSig scanner.toSigning token sig organization = .ok valid) ↔
      ticket.token.toList.all codeChar = true ∧ ∀ c ∈ sig.toList, c.toNat ≤ 127 := by
  have hstored := h.stored ticket ht
  refine and_congr ⟨fun hscans => ?_, fun hplain => ?_⟩ verifyTicketSig_iff
  · obtain ⟨token, sig, hdelivered, hselect⟩ := hscans.camera.selects
    obtain ⟨-, hcode⟩ := redeemCode_scanCode_some hstored hdelivered
    rwa [SelectsTicket.token_eq ⟨token, sig, rfl, hselect⟩]
  · refine ⟨.of_signed h ht hdigest (redeemCode_scanCode hdigest hstored hplain),
      .of_signed h ht hdigest (manualCode_of_code hstored hplain),
      fun other hother hne organization => ⟨?_, ?_⟩⟩
    · exact h.alone ht hother hne fun token sig hcode =>
        (redeemCode_scanCode_some (h.stored other hother) hcode).1
    · exact h.alone ht hother hne fun token sig hcode =>
        (manualCode_some (h.stored other hother) hcode).1

/-! ### The kinds of tokens -/

/-- The token alphabet has code characters only. -/
theorem tokenAlphabet_code : ∀ c ∈ tokenAlphabet, codeChar c = true :=
  List.all_iff_forall_prop.mp (by decide)

/-- New tokens scan. -/
theorem newToken_code (draw : Nat) : (newToken draw).toList.all codeChar = true :=
  List.all_eq_true.mpr fun c hc => tokenAlphabet_code c (newToken_chars draw c hc)

/-- The ticket of the sample theater. -/
def placeTicket : Ticket := ⟨1, 1, 1, 1, none, "Ada", newToken 1, .valid, none, none⟩

/-- The sample digest has the length of SHA-256. -/
theorem sampleDigest_length (key message : String) :
    (sampleScanner.hmacSha256 key message).length = 32 := by
  show (sampleDigest key).length = 32
  unfold sampleDigest
  split_ifs <;> rfl

/-- A database with one ticket of the sample theater. -/
theorem ticketRows_single {db : Db} {t : Ticket} (hrows : db.tickets.rows = [t])
    (htoken : StoredToken t.token) (hperformance : t.performance = 1)
    (hp : db.performances = sampleDb.performances) (hv : db.venues = sampleDb.venues) :
    TicketRows db where
  stored r hr := by
    rw [hrows, List.mem_singleton] at hr
    exact hr ▸ htoken
  unique r hr r' hr' _ := by
    rw [hrows, List.mem_singleton] at hr hr'
    exact hr.trans hr'.symm
  performance r hr := by
    rw [hrows, List.mem_singleton] at hr
    rw [hr, hperformance, hp, hv]
    exact ⟨_, _, rfl, rfl⟩

/-- The tickets of the sample are in order. -/
theorem placeSold_ticketRows : TicketRows placeSold.db :=
  ticketRows_single (t := placeTicket) rfl (.generated 1) rfl rfl rfl

/-- The ticket of the place is stored. -/
theorem placeTicket_mem : placeTicket ∈ placeSold.db.tickets.rows :=
  List.mem_singleton_self placeTicket

/-- The ticket of the place scans. -/
theorem ticket_scans_place :
    TicketScans sampleScanner placeSold.db placeTicket ∧
      ∃ valid, verifyTicketSig sampleScanner.toSigning "CAAAAAAAAA" "WDML52YL73IEL43DJWIA" 1
        = .ok valid :=
  (ticket_scans_iff sampleDigest_length placeSold_ticketRows placeTicket_mem _ _ _).mpr
    ⟨newToken_code 1, List.all_iff_forall_prop.mp (by decide)⟩

/-- A UUID of the former column. -/
def formerToken : BitVec 128 := 0xa0eebc999c0b4ef8bb6d6bb9bd380a11

/-- Its ticket. -/
def formerTicket : Ticket :=
  { placeTicket with token := String.ofList (uuidHex formerToken) }

/-- The sample theater with that ticket. -/
def formerDb : Db :=
  { sampleDb with tickets := Table.empty.insert fun i => { formerTicket with id := i } }

/-- A migrated ticket is typed in, signed and not found; and a signature with an accent raises. -/
theorem ticket_not_scanned :
    TicketRows formerDb ∧ formerTicket ∈ formerDb.tickets.rows ∧
      formerTicket.token = "a0eebc999c0b4ef8bb6d6bb9bd380a11" ∧
      ¬ SelectsTicket formerDb 1
        (manualCode sampleScanner.toSigning 1 formerTicket.token) formerTicket ∧
      ¬ SelectsTicket formerDb 1
        (redeemCode (scanCode sampleScanner.toSigning formerTicket)) formerTicket ∧
      verifyTicketSig sampleScanner.toSigning "CAAAAAAAAA" "é" 1
        = .error (.typeError "comparing strings with non-ASCII characters is not supported") := by
  have hstored : StoredToken formerTicket.token := .hex formerToken
  have hcapitals : Python.upper formerTicket.token ≠ formerTicket.token := by decide +kernel
  refine ⟨ticketRows_single (t := formerTicket) rfl hstored rfl rfl rfl,
    List.mem_singleton_self formerTicket, by decide +kernel, ?_, ?_, rfl⟩
  · rintro ⟨token, sig, hdelivered, hselect⟩
    have htoken := SelectsTicket.token_eq ⟨token, sig, rfl, hselect⟩
    exact hcapitals (htoken.trans (manualCode_some hstored hdelivered).1).symm
  · rintro ⟨token, sig, hdelivered, hselect⟩
    have htoken := SelectsTicket.token_eq ⟨token, sig, rfl, hselect⟩
    exact hcapitals (htoken.trans (redeemCode_scanCode_some hstored hdelivered).1).symm

end BoxOffice
