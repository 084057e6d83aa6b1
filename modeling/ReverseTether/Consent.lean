import Mathlib.Tactic

/-!
# Stored records and the privacy consent

The abilities of the app keep small JSON records in files.  `StoredFile` is such a file as
`readTextSync` and `JSON.parse` find it, whatever text is in it.

`hasPrivacyConsent` reads the record of the consent, and is true of no record that is
missing, unreadable, of another policy version or without a positive finite `acceptedAt`
(`hasPrivacyConsent_eq_false_iff`).

A record is read in one step: the file may be unreadable, the text may be no JSON, the value
may be no object, and a property may be missing or of another type.  The functions of the app
treat all of these alike, by falling back to a default, so that no file can make them throw.

`acceptPrivacy` is the record that the page writes when the user agrees, and it is one that
the reader accepts (`hasPrivacyConsent_acceptPrivacy`).  What a refusal or a new version of
the policy leads to is the business of the abilities.
-/

namespace ReverseTether

/-! ## Values of the script language -/

/-- A number of JavaScript, as far as the app can tell numbers apart: what is finite is rational,
and the rest are the two infinities and no number at all. -/
inductive JsNumber
  | finite (value : ℚ)
  | infinite (negative : Bool)
  | nan
  deriving DecidableEq

/-- `Number.isFinite(x) && x > 0`. -/
def JsNumber.isPositiveFinite : JsNumber → Bool
  | finite value => 0 < value
  | infinite _ | nan => false

/-- `Number.isInteger(x)`, and the integer. -/
def JsNumber.integer? : JsNumber → Option ℤ
  | finite value => if value.den = 1 then some value.num else none
  | infinite _ | nan => none

/-- What `JSON.parse` returns.  Of two members of one name the last one counts. -/
inductive Json
  | null
  | bool (value : Bool)
  | number (value : JsNumber)
  | string (value : String)
  | array (items : List Json)
  | object (members : List (String × Json))

/-- `value.name`: `null` has no properties at all, which is a `TypeError`. -/
def Json.property (value : Json) (name : String) : Except Unit (Option Json) :=
  match value with
  | .null => .error ()
  | .object members => .ok ((members.reverse.find? (·.1 = name)).map Prod.snd)
  | _ => .ok none

/-- A file that is read as a record, with the two ways in which that fails. -/
inductive StoredFile
  /-- `readTextSync` throws. -/
  | unreadable
  /-- `JSON.parse` throws. -/
  | malformed
  | parsed (value : Json)

/-! ## The consent -/

/-- `PRIVACY_VERSION`. -/
def privacyVersion : String := "2026-09-10"

/-- A missing, outdated or unreadable record never grants consent. -/
def hasPrivacyConsent : StoredFile → Bool
  | .unreadable | .malformed => false
  | .parsed record =>
      match record.property "version", record.property "acceptedAt" with
      | .ok (some (.string version)), .ok (some (.number acceptedAt)) =>
          version = privacyVersion && acceptedAt.isPositiveFinite
      | _, _ => false

/-- The file that `acceptPrivacy` writes when the clock shows `now`. -/
def acceptPrivacy (now : ℕ) : StoredFile :=
  .parsed (.object [("version", .string privacyVersion), ("acceptedAt", .number (.finite now))])

/-- The records that the privacy promise is about: whatever is stored there, it is not the consent
to this version of the policy. -/
inductive WithoutConsent : StoredFile → Prop
  | unreadable : WithoutConsent .unreadable
  | malformed : WithoutConsent .malformed
  /-- The record is of another policy version, or of none. -/
  | otherVersion {record : Json} :
      record.property "version" ≠ .ok (some (.string privacyVersion)) →
      WithoutConsent (.parsed record)
  /-- There is no `acceptedAt` that is a positive finite number. -/
  | notAccepted {record : Json} :
      (∀ acceptedAt, record.property "acceptedAt" = .ok (some (.number acceptedAt)) →
        acceptedAt.isPositiveFinite = false) →
      WithoutConsent (.parsed record)

theorem hasPrivacyConsent_eq_false_iff {file : StoredFile} :
    hasPrivacyConsent file = false ↔ WithoutConsent file := by
  constructor
  · intro refused
    cases file with
    | unreadable => exact .unreadable
    | malformed => exact .malformed
    | parsed record =>
        by_cases version : record.property "version" = .ok (some (.string privacyVersion))
        · refine .notAccepted fun acceptedAt accepted => ?_
          rw [hasPrivacyConsent, version, accepted] at refused
          simpa using refused
        · exact .otherVersion version
  · intro without
    cases without with
    | unreadable => rfl
    | malformed => rfl
    | otherVersion other =>
        simp only [hasPrivacyConsent]
        split
        · rename_i found _
          rw [Bool.and_eq_false_iff]
          refine .inl (decide_eq_false fun same => other ?_)
          rw [found, same]
        · rfl
    | notAccepted rejected =>
        simp only [hasPrivacyConsent]
        split
        · rename_i found
          rw [rejected _ found, Bool.and_false]
        · rfl

theorem hasPrivacyConsent_acceptPrivacy {now : ℕ} (after : 0 < now) :
    hasPrivacyConsent (acceptPrivacy now) = true := by
  have positive : (JsNumber.finite now).isPositiveFinite = true :=
    decide_eq_true (Nat.cast_pos.mpr after)
  show (decide (privacyVersion = privacyVersion) && (JsNumber.finite now).isPositiveFinite) = true
  rw [positive, decide_eq_true rfl]
  rfl

end ReverseTether
