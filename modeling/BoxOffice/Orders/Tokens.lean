import BoxOffice.Schema

namespace BoxOffice

/-!
# Orders — ticket codes

* `newToken` — the code of a ticket, ten characters of an alphabet without look-alikes;
* `signToken` and `verifyTicketSig` — the truncated HMAC that goes with it, one key a tenant.
-/

/-- `_TOKEN_ALPHABET`. -/
def tokenAlphabet : List Char := "ACDEFGHJKMNPQRTVWXY2345789".toList

/-- `_TOKEN_LENGTH`. -/
def tokenLength : Nat := 10

/-- `new_token`.  The random draw is a number, of which each digit chooses a character. -/
def newToken (draw : Nat) : String :=
  String.ofList ((List.range tokenLength).map fun i =>
    tokenAlphabet.getD (draw / tokenAlphabet.length ^ i % tokenAlphabet.length) 'A')

/-- The keyed hash, and the secret of the installation. -/
structure Signing where
  secretKey : String
  hmacSha256 : String → String → List UInt8

/-- `_SIG_BYTES`. -/
def sigBytes : Nat := 12

/-- The characters of `base64.b32encode`. -/
def base32Alphabet : List Char := "ABCDEFGHIJKLMNOPQRSTUVWXYZ234567".toList

/-- `base64.b32encode(bytes).rstrip(b"=")`. -/
def base32 (bytes : List UInt8) : String :=
  let digits := (8 * bytes.length + 4) / 5
  -- The bits, filled up with zeros to whole digits.
  let value := bytes.foldl (fun n b => 256 * n + b.toNat) 0 * 2 ^ (5 * digits - 8 * bytes.length)
  String.ofList ((List.range digits).map fun i =>
    base32Alphabet.getD (value / 32 ^ (digits - 1 - i) % 32) 'A')

/-- `_key_for_org`. -/
def keyForOrg (signing : Signing) (organization : Nat) : String :=
  s!"{signing.secretKey}:ticket-qr:{organization}"

/-- `sign_token`. -/
def signToken (signing : Signing) (token : String) (organization : Nat) : String :=
  base32 ((signing.hmacSha256 (keyForOrg signing organization) token).take sigBytes)

/-- `verify_ticket_sig`.  The comparison refuses texts that are not ASCII. -/
def verifyTicketSig (signing : Signing) (token sig : String) (organization : Nat) :
    Except ServiceError Bool :=
  if sig = "" then .ok false
  else if sig.toList.any fun c => 127 < c.toNat then
    .error (.typeError "comparing strings with non-ASCII characters is not supported")
  else .ok (signToken signing token organization == sig)

example : base32 [0x66, 0x6f, 0x6f, 0x62] = "MZXW6YQ" := by decide

end BoxOffice
