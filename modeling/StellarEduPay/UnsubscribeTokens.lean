import StellarEduPay.BufferText
import StellarEduPay.Checks
import StellarEduPay.Decimals
import StellarEduPay.Runs

/-! # Unsubscribe links (`utils/unsubscribeToken.js`, `controllers/reminderController.js`)

A reminder carries a link with a signed token, and whoever has the token may turn the reminders for its
student off and on, for ninety days.  A token that was issued reads as what it was issued for
(`verifyUnsubscribeToken_generate`); and whatever requests are made, the flag of a student is as the last
write left it, which was made by an administrator or with a token that was issued for this very student
(`optOut_written`).

The signed text joins the two ids by a colon, so this takes school ids without one.
-/
namespace StellarEduPay
open Runs Function Decimals Checks

/-! ## Tokens -/

/-- The secret, and the MAC. -/
structure UnsubscribeEnv where
  secret : String
  hmac : String → List UInt8 → List UInt8

/-- `TOKEN_EXPIRY_DAYS`, in seconds. -/
def tokenExpirySeconds : Int := 90 * 24 * 60 * 60

/-- The text that is signed. -/
def unsubscribeData (studentId schoolId : String) (timestamp : Int) : String :=
  studentId ++ ":" ++ schoolId ++ ":" ++ String.ofList (intText timestamp)

/-- What a token reads as. -/
structure UnsubscribeFields where
  timestamp : Int
  signature : List UInt8
  studentId : String
  schoolId : String

def UnsubscribeFields.data (f : UnsubscribeFields) : String :=
  unsubscribeData f.studentId f.schoolId f.timestamp

/-- The parts of a token. -/
def readUnsubscribeToken (token : String) : Except String UnsubscribeFields :=
  match token.toList.splitOn '.' with
  | [timestampStr, signature, studentIdB64, schoolIdB64] =>
    match jsParseInt (String.ofList timestampStr) with
    | none => .error "Invalid timestamp"
    | some timestamp => .ok
      { timestamp := timestamp
        signature := hexBuffer signature
        studentId := utf8Text (base64Buffer studentIdB64)
        schoolId := utf8Text (base64Buffer schoolIdB64) }
  | _ => .error "Invalid token format"

section
variable (env : UnsubscribeEnv)

def unsubscribeDigest (data : String) : List UInt8 := env.hmac env.secret (utf8Buffer data)

def generateUnsubscribeToken (now : Nat) (studentId schoolId : String) : String :=
  let signature := hexText (unsubscribeDigest env (unsubscribeData studentId schoolId now))
  String.ofList (intText now) ++ "." ++ signature ++ "." ++ base64Text (utf8Buffer studentId) ++ "." ++
    base64Text (utf8Buffer schoolId)

/-- The student and the school, or the error; buffers of two lengths cannot be compared. -/
def verifyUnsubscribeToken (now : Int) (token : String) : Except String (String × String) := do
  let f ← readUnsubscribeToken token
  require (now - f.timestamp ≤ tokenExpirySeconds) "Token expired"
  let expected := unsubscribeDigest env f.data
  require (f.signature.length == expected.length) "Input buffers must have the same byte length"
  require (f.signature == expected) "Invalid signature"
  return (f.studentId, f.schoolId)

end

/-! ## What is written is read -/

/-- A number in digits is read as itself. -/
theorem jsParseInt_intText (n : Nat) : jsParseInt (String.ofList (intText n)) = some (n : Int) := by
  have htext : intText n = Nat.toDigits 10 n := by
    rw [intText, if_neg (Int.not_ofNat_neg n), List.nil_append, Int.natAbs_natCast]
  have hdigits := isDigits_toDigits n
  have hvalue : decimalValue (String.ofList (Nat.toDigits 10 n)) = n := by
    rw [decimalValue, String.toList_ofList]
    exact digitsValue_toDigits n
  rw [htext]
  unfold jsParseInt
  rw [String.toList_ofList]
  cases hds : Nat.toDigits 10 n with
  | nil => exact absurd hds Nat.toDigits_ne_nil
  | cons d ds =>
    rw [hds] at hdigits hvalue
    have hd : d.isDigit = true := hdigits d List.mem_cons_self
    have hall : (d :: ds).takeWhile Char.isDigit = d :: ds := List.takeWhile_eq_self_iff.mpr hdigits
    have hdecimal : isDecimalDigits (String.ofList (d :: ds)) = true := by
      rw [isDecimalDigits, String.toList_ofList]
      exact List.all_eq_true.mpr hdigits
    rw [List.dropWhile_cons_of_neg (by simp [isJsSpace_of_isDigit hd])]
    dsimp only
    split
    · rename_i heq
      obtain rfl := (List.cons.inj heq).1
      exact absurd hd (by decide)
    · rename_i heq
      obtain rfl := (List.cons.inj heq).1
      exact absurd hd (by decide)
    · rw [hall, if_pos hdecimal, hvalue]

theorem dot_notMem_hexText (bytes : List UInt8) : '.' ∉ (hexText bytes).toList := by
  intro hdot
  obtain ⟨n, hn, hchar⟩ := mem_hexText hdot
  have hall : ∀ n < 16, lowerHexChar n ≠ '.' := by decide
  exact hall n hn hchar

theorem dot_notMem_base64Text (bytes : List UInt8) : '.' ∉ (base64Text bytes).toList := by
  have hall : ∀ n < 64, base64Char n ≠ '.' := by decide
  have hbytes : ∀ b ∈ bytes.map UInt8.toNat, b < 256 := by
    rw [List.forall_mem_map]
    exact fun b _ => b.toNat_lt
  rw [base64Text, String.toList_ofList, List.mem_append]
  rintro (hdot | hdot)
  · obtain ⟨d, hd, hchar⟩ := List.mem_map.mp hdot
    exact hall d (base64Digits_lt hbytes d hd) hchar
  · exact absurd (List.eq_of_mem_replicate hdot) (by decide)

theorem dot_notMem_intText (n : Int) : '.' ∉ intText n := fun hdot =>
  (mem_intText hdot).elim (fun h => absurd h (by decide)) (fun h => absurd h (by decide))

/-- A token that was issued, read again. -/
theorem readUnsubscribeToken_generate (env : UnsubscribeEnv) (now : Nat) (studentId schoolId : String) :
    readUnsubscribeToken (generateUnsubscribeToken env now studentId schoolId) = .ok
      { timestamp := now
        signature := unsubscribeDigest env (unsubscribeData studentId schoolId now)
        studentId := studentId
        schoolId := schoolId } := by
  let digest := unsubscribeDigest env (unsubscribeData studentId schoolId now)
  let parts := [intText now, (hexText digest).toList, (base64Text (utf8Buffer studentId)).toList,
    (base64Text (utf8Buffer schoolId)).toList]
  have hparts : ∀ part ∈ parts, '.' ∉ part := by
    simp only [parts, List.forall_mem_cons]
    exact ⟨dot_notMem_intText _, dot_notMem_hexText _, dot_notMem_base64Text _,
      dot_notMem_base64Text _, fun _ h => nomatch h⟩
  have htoken : (generateUnsubscribeToken env now studentId schoolId).toList =
      ['.'].intercalate parts := by
    simp [generateUnsubscribeToken, parts, digest, List.intercalate, List.intersperse]
  have hsplit : ((generateUnsubscribeToken env now studentId schoolId).toList).splitOn '.' = parts := by
    rw [htoken]
    exact List.splitOn_intercalate _ hparts (by simp [parts])
  unfold readUnsubscribeToken
  rw [hsplit]
  dsimp only [parts]
  rw [jsParseInt_intText]
  dsimp only
  rw [hexBuffer_hexText, base64Buffer_base64Text, base64Buffer_base64Text, utf8Text_utf8Buffer,
    utf8Text_utf8Buffer]

theorem verifyUnsubscribeToken_fresh (env : UnsubscribeEnv) {issued now : Nat} (studentId schoolId : String)
    (h : (now : Int) ≤ issued + tokenExpirySeconds) :
    verifyUnsubscribeToken env now (generateUnsubscribeToken env issued studentId schoolId) =
      .ok (studentId, schoolId) := by
  have hexpiry : (now : Int) - issued ≤ tokenExpirySeconds := by omega
  unfold verifyUnsubscribeToken
  rw [readUnsubscribeToken_generate]
  simp [require, hexpiry, UnsubscribeFields.data, bind, Except.bind, pure, Except.pure]

theorem verifyUnsubscribeToken_expired (env : UnsubscribeEnv) {issued now : Nat}
    (studentId schoolId : String) (h : ¬(now : Int) ≤ issued + tokenExpirySeconds) :
    verifyUnsubscribeToken env now (generateUnsubscribeToken env issued studentId schoolId) =
      .error "Token expired" := by
  have hexpiry : ¬(now : Int) - issued ≤ tokenExpirySeconds := by omega
  unfold verifyUnsubscribeToken
  rw [readUnsubscribeToken_generate]
  simp [require, hexpiry, bind, Except.bind]

/-- An issued token gives back what it was issued for, for ninety days. -/
theorem verifyUnsubscribeToken_generate (env : UnsubscribeEnv) (issued now : Nat)
    (studentId schoolId : String) :
    verifyUnsubscribeToken env now (generateUnsubscribeToken env issued studentId schoolId) =
      if (now : Int) ≤ issued + tokenExpirySeconds then .ok (studentId, schoolId)
      else .error "Token expired" := by
  by_cases h : (now : Int) ≤ issued + tokenExpirySeconds
  · rw [if_pos h, verifyUnsubscribeToken_fresh env studentId schoolId h]
  · rw [if_neg h, verifyUnsubscribeToken_expired env studentId schoolId h]

/-! ## What is signed -/

/-- Behind the last of a character two texts are the same, and before it. -/
theorem append_last_inj {α : Type} {x : α} {a b r t : List α} (hr : x ∉ r) (ht : x ∉ t)
    (h : a ++ x :: r = b ++ x :: t) : a = b ∧ r = t := by
  have hnil : ∀ {u v w : List α}, x ∉ v → x :: v = u ++ x :: w → u = [] := by
    rintro (_ | ⟨y, u⟩) v w hv heq
    · rfl
    · rw [List.cons_append, List.cons.injEq] at heq
      exact absurd (heq.2 ▸ List.mem_append_right u List.mem_cons_self) hv
  rcases List.append_eq_append_iff.mp h with ⟨u, rfl, heq⟩ | ⟨u, rfl, heq⟩
  · obtain rfl := hnil hr heq
    exact ⟨(List.append_nil a).symm, (List.cons.inj heq).2⟩
  · obtain rfl := hnil ht heq
    exact ⟨List.append_nil b, (List.cons.inj heq).2.symm⟩

/-- For schools without a colon the signed text tells its parts. -/
theorem unsubscribeData_inj {studentId schoolId studentId' schoolId' : String}
    {timestamp timestamp' : Int}
    (hschool : ':' ∉ schoolId.toList) (hschool' : ':' ∉ schoolId'.toList)
    (h : unsubscribeData studentId schoolId timestamp =
      unsubscribeData studentId' schoolId' timestamp') :
    studentId = studentId' ∧ schoolId = schoolId' ∧ timestamp = timestamp' := by
  have hcolon (n : Int) : ':' ∉ intText n := fun hmem =>
    (mem_intText hmem).elim (fun h => absurd h (by decide)) (fun h => absurd h (by decide))
  have hchars : ∀ (a b : String) (n : Int), (unsubscribeData a b n).toList =
      (a.toList ++ ':' :: b.toList) ++ ':' :: intText n := by
    intro a b n
    simp [unsubscribeData, String.toList_append]
  have hlist := congrArg String.toList h
  rw [hchars, hchars] at hlist
  obtain ⟨hids, htime⟩ := append_last_inj (hcolon _) (hcolon _) hlist
  obtain ⟨hstudent, hsch⟩ := append_last_inj hschool hschool' hids
  exact ⟨String.toList_inj.mp hstudent, String.toList_inj.mp hsch, intText_injective htime⟩

/-- What verifies is not older than ninety days, and carries the MAC of its own fields. -/
theorem verifyUnsubscribeToken_ok_iff {env : UnsubscribeEnv} {now : Int} {token : String}
    {ids : String × String} :
    verifyUnsubscribeToken env now token = .ok ids ↔
      ∃ f, readUnsubscribeToken token = .ok f ∧ now - f.timestamp ≤ tokenExpirySeconds ∧
        f.signature = unsubscribeDigest env f.data ∧ ids = (f.studentId, f.schoolId) := by
  unfold verifyUnsubscribeToken
  simp only [bind_ok_iff, require_ok_iff, pure_ok_iff, decide_eq_true_eq, beq_iff_eq]
  constructor
  · rintro ⟨f, hread, -, hfresh, -, -, -, hsignature, hids⟩
    exact ⟨f, hread, hfresh, hsignature, hids.symm⟩
  · rintro ⟨f, hread, hfresh, hsignature, hids⟩
    exact ⟨f, hread, (), hfresh, (), congrArg List.length hsignature, (), hsignature, hids.symm⟩

/-! ## Requests -/

/-- A token that a reminder was sent with. -/
structure IssuedToken where
  studentId : String
  schoolId : String
  timestamp : Nat

def IssuedToken.data (e : IssuedToken) : String := unsubscribeData e.studentId e.schoolId e.timestamp

/-- Who has the flag of a student written: an administrator, or a request with a token that was verified
at this time. -/
inductive OptOutSource
  | admin
  | token (verifiedAt : Nat)
  deriving DecidableEq

structure OptOutWrite where
  schoolId : String
  studentId : String
  optOut : Bool
  source : OptOutSource

def OptOutWrite.key (w : OptOutWrite) : String × String := (w.schoolId, w.studentId)

/-- The clock in seconds, `reminderOptOut` of the students, the tokens that were sent, the requests whose
token was verified and whose write is to come, and the writes, latest first. -/
structure UnsubscribeSystem where
  now : Nat
  optOuts : String × String → Option Bool
  issued : List IssuedToken
  inFlight : List OptOutWrite
  writes : List OptOutWrite

inductive UnsubscribeAction
  | tick
  | register (schoolId studentId : String)
  | sendFeeReminder (schoolId : Option String) (studentId : String)
  | post (token : String) (optOut : Bool)
  | setTokenOptOut (i : Nat)
  | setOptOut (schoolId studentId : String) (optOut : Bool)

namespace UnsubscribeSystem
variable (env : UnsubscribeEnv)

def start : UnsubscribeSystem where
  now := 0
  optOuts := fun _ => none
  issued := []
  inFlight := []
  writes := []

/-- The `findOneAndUpdate` of either endpoint. -/
def write (s : UnsubscribeSystem) (w : OptOutWrite) : UnsubscribeSystem :=
  if (s.optOuts w.key).isSome then
    { s with optOuts := update s.optOuts w.key (some w.optOut), writes := w :: s.writes }
  else s

/-- The school a token is made for. -/
def tokenSchool (schoolId : Option String) : String := (truthy schoolId).getD "unknown"

/-- `post` is `confirmUnsubscribeViaToken` or `resubscribeViaToken` up to the lookup of the student, and
`setTokenOptOut` its write. -/
def step (s : UnsubscribeSystem) : UnsubscribeAction → Option UnsubscribeSystem
  | .tick => some { s with now := s.now + 1 }
  | .register schoolId studentId =>
    if s.optOuts (schoolId, studentId) = none then
      some { s with optOuts := update s.optOuts (schoolId, studentId) (some false) }
    else none
  | .sendFeeReminder schoolId studentId =>
    some { s with issued := ⟨studentId, tokenSchool schoolId, s.now⟩ :: s.issued }
  | .post token optOut =>
    match verifyUnsubscribeToken env s.now token with
    | .error _ => some s
    | .ok (studentId, schoolId) =>
      if (s.optOuts (schoolId, studentId)).isSome then
        some { s with inFlight := ⟨schoolId, studentId, optOut, .token s.now⟩ :: s.inFlight }
      else some s
  | .setTokenOptOut i =>
    s.inFlight[i]?.map fun w => write { s with inFlight := s.inFlight.eraseIdx i } w
  | .setOptOut schoolId studentId optOut => some (s.write ⟨schoolId, studentId, optOut, .admin⟩)

/-- School ids have no colon, and nobody without the secret can sign: a token that carries the MAC of its
fields carries that of a token that was sent. -/
def Allowed (s : UnsubscribeSystem) : UnsubscribeAction → Prop
  | .register schoolId _ => ':' ∉ schoolId.toList
  | .sendFeeReminder schoolId _ => ':' ∉ (tokenSchool schoolId).toList
  | .post token _ => ∀ f, readUnsubscribeToken token = .ok f →
      f.signature = unsubscribeDigest env f.data → ∃ e ∈ s.issued, e.data = f.data
  | _ => True

variable {env} {s t : UnsubscribeSystem} {action : UnsubscribeAction}

/-- A write was asked for by an administrator, or with a token sent for the same student at most ninety
days before it was verified. -/
def Justified (issued : List IssuedToken) (w : OptOutWrite) : Prop :=
  ∀ verifiedAt, w.source = .token verifiedAt → ∃ e ∈ issued, e.studentId = w.studentId ∧
    e.schoolId = w.schoolId ∧ e.timestamp ≤ verifiedAt ∧
    (verifiedAt : Int) ≤ e.timestamp + tokenExpirySeconds

/-- What a student's flag is after these writes. -/
def flagAfter (writes : List OptOutWrite) (key : String × String) : Bool :=
  ((writes.find? fun w => w.key = key).map (·.optOut)).getD false

structure Kept (s : UnsubscribeSystem) : Prop where
  schools {key : String × String} (h : (s.optOuts key).isSome) : ':' ∉ key.1.toList
  issued {e : IssuedToken} (h : e ∈ s.issued) : ':' ∉ e.schoolId.toList ∧ e.timestamp ≤ s.now
  written {w : OptOutWrite} (h : w ∈ s.writes) : (s.optOuts w.key).isSome ∧ Justified s.issued w
  inFlight {w : OptOutWrite} (h : w ∈ s.inFlight) : Justified s.issued w
  flags {key : String × String} {flag : Bool} (h : s.optOuts key = some flag) :
    flag = flagAfter s.writes key

theorem kept_start : Kept start where
  schools h := nomatch h
  issued h := nomatch h
  written h := nomatch h
  inFlight h := nomatch h
  flags h := nomatch h

theorem Justified.mono {issued issued' : List IssuedToken} {w : OptOutWrite}
    (h : Justified issued w) (hsub : issued ⊆ issued') : Justified issued' w := by
  intro verifiedAt hsource
  obtain ⟨e, he, hids⟩ := h verifiedAt hsource
  exact ⟨e, hsub he, hids⟩

theorem flagAfter_cons (w : OptOutWrite) (writes : List OptOutWrite) (key : String × String) :
    flagAfter (w :: writes) key = if w.key = key then w.optOut else flagAfter writes key := by
  by_cases hkey : w.key = key
  · simp [flagAfter, hkey]
  · simp [flagAfter, hkey]

theorem Kept.write (h : Kept s) {w : OptOutWrite} (hw : Justified s.issued w) : Kept (s.write w) := by
  unfold UnsubscribeSystem.write
  split
  · rename_i hsome
    have hstudents : ∀ key, ((update s.optOuts w.key (some w.optOut)) key).isSome =
        (s.optOuts key).isSome := by
      intro key
      by_cases hkey : key = w.key
      · subst hkey
        rw [update_self, hsome, Option.isSome_some]
      · rw [update_of_ne hkey]
    refine ⟨fun hkey => h.schools (hstudents _ ▸ hkey), h.issued, fun hmem => ?_, h.inFlight,
      fun {key flag} hflag => ?_⟩
    · dsimp only
      rw [hstudents]
      rcases List.mem_cons.mp hmem with rfl | hmem
      · exact ⟨hsome, hw⟩
      · exact h.written hmem
    · rw [flagAfter_cons]
      by_cases hkey : w.key = key
      · subst hkey
        rw [if_pos rfl]
        simpa [eq_comm] using hflag
      · rw [if_neg hkey]
        exact h.flags (by simpa [update_of_ne (Ne.symm hkey)] using hflag)
  · exact h

/-- A verified token was sent for the student it names. -/
theorem Kept.justified (h : Kept s) {token : String} {studentId schoolId : String} {optOut : Bool}
    (hallowed : Allowed env s (.post token optOut))
    (hverify : verifyUnsubscribeToken env s.now token = .ok (studentId, schoolId))
    (hstudent : (s.optOuts (schoolId, studentId)).isSome) :
    Justified s.issued ⟨schoolId, studentId, optOut, .token s.now⟩ := by
  rintro verifiedAt ⟨⟩
  obtain ⟨f, hread, hfresh, hsignature, hids⟩ := verifyUnsubscribeToken_ok_iff.mp hverify
  obtain ⟨rfl, rfl⟩ := Prod.mk.inj hids
  obtain ⟨e, he, hdata⟩ := hallowed f hread hsignature
  obtain ⟨hplain, htime⟩ := h.issued he
  obtain ⟨hst, hsch, hts⟩ := unsubscribeData_inj hplain (h.schools hstudent) hdata
  exact ⟨e, he, hst, hsch, htime, by omega⟩

theorem Kept.step (h : Kept s) (hallowed : Allowed env s action) (hstep : s.step env action = some t) :
    Kept t := by
  cases action with
  | tick =>
    obtain rfl := Option.some.inj hstep
    exact { h with issued := fun he => ⟨(h.issued he).1, Nat.le_succ_of_le (h.issued he).2⟩ }
  | register schoolId studentId =>
    dsimp only [UnsubscribeSystem.step] at hstep
    split at hstep
    · rename_i hnone
      obtain rfl := Option.some.inj hstep
      have hstudents : ∀ {key}, (s.optOuts key).isSome →
          update s.optOuts (schoolId, studentId) (some false) key = s.optOuts key := by
        intro key hsome
        refine update_of_ne (fun hkey => ?_) ..
        rw [hkey, hnone] at hsome
        cases hsome
      refine ⟨fun {key} hkey => ?_, h.issued, fun hmem => ?_, h.inFlight, fun {key flag} hflag => ?_⟩
      · by_cases hnew : key = (schoolId, studentId)
        · exact hnew ▸ hallowed
        · exact h.schools (by simpa [update_of_ne hnew] using hkey)
      · obtain ⟨hsome, hjustified⟩ := h.written hmem
        exact ⟨by dsimp only; rw [hstudents hsome]; exact hsome, hjustified⟩
      · by_cases hnew : key = (schoolId, studentId)
        · subst hnew
          have hfind : s.writes.find? (fun w => w.key = (schoolId, studentId)) = none := by
            refine List.find?_eq_none.mpr fun w hw hkey => ?_
            have hsome := (h.written hw).1
            rw [of_decide_eq_true hkey, hnone] at hsome
            cases hsome
          rw [flagAfter, hfind]
          simpa [eq_comm] using hflag
        · exact h.flags (by simpa [update_of_ne hnew] using hflag)
    · cases hstep
  | sendFeeReminder schoolId studentId =>
    obtain rfl := Option.some.inj hstep
    have hsub : s.issued ⊆ ⟨studentId, tokenSchool schoolId, s.now⟩ :: s.issued :=
      List.subset_cons_self ..
    refine ⟨h.schools, fun he => ?_, fun hw => ?_, fun hw => (h.inFlight hw).mono hsub, h.flags⟩
    · rcases List.mem_cons.mp he with rfl | he
      · exact ⟨hallowed, le_rfl⟩
      · exact h.issued he
    · exact ⟨(h.written hw).1, (h.written hw).2.mono hsub⟩
  | post token optOut =>
    dsimp only [UnsubscribeSystem.step] at hstep
    split at hstep
    · obtain rfl := Option.some.inj hstep
      exact h
    · rename_i studentId schoolId hverify
      split at hstep
      · rename_i hstudent
        obtain rfl := Option.some.inj hstep
        refine { h with inFlight := fun hw => ?_ }
        rcases List.mem_cons.mp hw with rfl | hw
        · exact h.justified hallowed hverify hstudent
        · exact h.inFlight hw
      · obtain rfl := Option.some.inj hstep
        exact h
  | setTokenOptOut i =>
    obtain ⟨w, hw, rfl⟩ := Option.map_eq_some_iff.mp hstep
    have hkept : Kept { s with inFlight := s.inFlight.eraseIdx i } :=
      { h with inFlight := fun hmem => h.inFlight (List.mem_of_mem_eraseIdx hmem) }
    exact hkept.write (h.inFlight (List.mem_of_getElem? hw))
  | setOptOut schoolId studentId optOut =>
    obtain rfl := Option.some.inj hstep
    exact h.write fun _ hsource => nomatch hsource

/-- The flag of a student is as the last write left it, which an administrator asked for or somebody with
a token that had been sent for this student at most ninety days before. -/
theorem optOut_written (hreach : Reach (step env) (Allowed env) start s) {schoolId studentId : String}
    {flag : Bool} (hflag : s.optOuts (schoolId, studentId) = some flag) :
    (flag = false ∧ ∀ w ∈ s.writes, w.key ≠ (schoolId, studentId)) ∨
      ∃ w, s.writes.find? (fun w => w.key = (schoolId, studentId)) = some w ∧ w.optOut = flag ∧
        ∀ verifiedAt, w.source = .token verifiedAt → ∃ e ∈ s.issued, e.studentId = studentId ∧
          e.schoolId = schoolId ∧ e.timestamp ≤ verifiedAt ∧
          (verifiedAt : Int) ≤ e.timestamp + tokenExpirySeconds := by
  have hkept : Kept s := hreach.invariant kept_start fun h hallowed hstep => h.step hallowed hstep
  have hafter := hkept.flags hflag
  unfold flagAfter at hafter
  cases hfind : s.writes.find? fun w => w.key = (schoolId, studentId) with
  | none =>
    rw [hfind] at hafter
    exact .inl ⟨hafter, fun w hw hkey => List.find?_eq_none.mp hfind w hw (decide_eq_true hkey)⟩
  | some w =>
    rw [hfind] at hafter
    have hkey : w.key = (schoolId, studentId) := of_decide_eq_true (List.find?_some hfind :)
    obtain ⟨rfl, rfl⟩ := Prod.mk.inj hkey
    exact .inr ⟨w, rfl, hafter.symm, (hkept.written (List.mem_of_find?_eq_some hfind)).2⟩

/-- Whoever has a token that was sent gets through with it for ninety days. -/
theorem step_post_generate {e : IssuedToken} (hfresh : (s.now : Int) ≤ e.timestamp + tokenExpirySeconds)
    (hstudent : (s.optOuts (e.schoolId, e.studentId)).isSome) (optOut : Bool) :
    s.step env (.post (generateUnsubscribeToken env e.timestamp e.studentId e.schoolId) optOut) =
      some { s with inFlight := ⟨e.schoolId, e.studentId, optOut, .token s.now⟩ :: s.inFlight } := by
  dsimp only [UnsubscribeSystem.step]
  rw [verifyUnsubscribeToken_fresh env e.studentId e.schoolId hfresh]
  exact if_pos hstudent

/-! ## A parent follows the link of a reminder -/

def linkEnv : UnsubscribeEnv where
  secret := "k"
  hmac key bytes := utf8Buffer key ++ bytes

def sentToken : IssuedToken := ⟨"STU", "SCH", 0⟩

def sentSystem : UnsubscribeSystem where
  now := 1
  optOuts := update (fun _ => none) ("SCH", "STU") (some false)
  issued := [sentToken]
  inFlight := []
  writes := []

theorem sentSystem_reach : Reach (step linkEnv) (Allowed linkEnv) start sentSystem :=
  have hplain : ':' ∉ "SCH".toList := by decide
  .tail (a := .tick) (.tail (a := .sendFeeReminder (some "SCH") "STU")
    (.tail (a := .register "SCH" "STU") .refl hplain rfl) hplain rfl) trivial rfl

theorem optOut_written_token :
    ∃ s, Reach (step linkEnv) (Allowed linkEnv) start s ∧ s.optOuts ("SCH", "STU") = some true ∧
      ((true = false ∧ ∀ w ∈ s.writes, w.key ≠ ("SCH", "STU")) ∨
        ∃ w, s.writes.find? (fun w => w.key = ("SCH", "STU")) = some w ∧ w.optOut = true ∧
          ∀ verifiedAt, w.source = .token verifiedAt → ∃ e ∈ s.issued, e.studentId = "STU" ∧
            e.schoolId = "SCH" ∧ e.timestamp ≤ verifiedAt ∧
            (verifiedAt : Int) ≤ e.timestamp + tokenExpirySeconds) := by
  let token := generateUnsubscribeToken linkEnv sentToken.timestamp sentToken.studentId sentToken.schoolId
  have hforge : Allowed linkEnv sentSystem (.post token true) := by
    intro f hread _
    rw [readUnsubscribeToken_generate] at hread
    obtain rfl := Except.ok.inj hread
    exact ⟨sentToken, List.mem_singleton_self _, rfl⟩
  have hstep := @step_post_generate linkEnv sentSystem sentToken (by decide) rfl true
  have hposted := Reach.tail sentSystem_reach hforge hstep
  have hwritten := @Reach.tail _ _ (step linkEnv) (Allowed linkEnv) start _ _ (.setTokenOptOut 0)
    hposted trivial rfl
  exact ⟨_, hwritten, rfl, optOut_written hwritten rfl⟩

end UnsubscribeSystem

end StellarEduPay
