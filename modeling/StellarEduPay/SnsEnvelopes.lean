import Mathlib.Data.List.Basic
import Mathlib.Tactic.Common

/-! # What an SNS signature covers (`services/email/webhookVerification.js`)

The string that Amazon signs for a message has a line with the name of each field and then the text of
the field. Nothing marks where a field ends, so one string can be read as several messages.
The topic and the type stand last and are the same in every reading of a string whose topic has no line
break (`buildSnsStringToSign_topic`). A notification of plain fields has one other reading if it has a
subject, in which the subject has become a part of the message id (`buildSnsStringToSign_eq_iff`).
-/
namespace StellarEduPay

/-- A value of a message that is neither `undefined` nor `null`. -/
inductive SnsField
  | string (s : List Char)
  /-- No string: whether it is truthy, and what `String` makes of it. -/
  | other (truthy : Bool) (text : List Char)
  deriving DecidableEq, Repr

namespace SnsField

def text : SnsField → List Char
  | string s => s
  | other _ text => text

def truthy : SnsField → Bool
  | string s => s ≠ []
  | other truthy _ => truthy

/-- `typeof value === 'string'` -/
def asString : SnsField → Option (List Char)
  | string s => some s
  | other .. => none

end SnsField

structure SnsMessage where
  type : Option SnsField := none
  message : Option SnsField := none
  messageId : Option SnsField := none
  subject : Option SnsField := none
  timestamp : Option SnsField := none
  token : Option SnsField := none
  topicArn : Option SnsField := none
  subscribeURL : Option SnsField := none
  signature : Option SnsField := none
  signatureVersion : Option SnsField := none
  signingCertURL : Option SnsField := none
  deriving DecidableEq, Repr

/-- The keys of the string to sign. -/
inductive SnsKey
  | message | messageId | subject | subscribeURL | timestamp | token | topicArn | type
  deriving DecidableEq, Repr

def SnsKey.name : SnsKey → List Char
  | message => "Message".toList
  | messageId => "MessageId".toList
  | subject => "Subject".toList
  | subscribeURL => "SubscribeURL".toList
  | timestamp => "Timestamp".toList
  | token => "Token".toList
  | topicArn => "TopicArn".toList
  | type => "Type".toList

def notification : List Char := "Notification".toList

def subscriptionConfirmation : List Char := "SubscriptionConfirmation".toList

def unsubscribeConfirmation : List Char := "UnsubscribeConfirmation".toList

/-- The keys that are signed for a type, in order. -/
def snsKeys (type : List Char) : Option (List SnsKey) :=
  if type = notification then
    some [.message, .messageId, .subject, .timestamp, .topicArn, .type]
  else if type = subscriptionConfirmation ∨ type = unsubscribeConfirmation then
    some [.message, .messageId, .subscribeURL, .timestamp, .token, .topicArn, .type]
  else none

namespace SnsMessage

def get (msg : SnsMessage) : SnsKey → Option SnsField
  | .message => msg.message
  | .messageId => msg.messageId
  | .subject => msg.subject
  | .subscribeURL => msg.subscribeURL
  | .timestamp => msg.timestamp
  | .token => msg.token
  | .topicArn => msg.topicArn
  | .type => msg.type

/-- The loop over the keys: only a subject may be absent. -/
def keyLines (msg : SnsMessage) : List SnsKey → Option (List Char)
  | [] => some []
  | key :: keys =>
    match msg.get key with
    | none => if key = .subject then msg.keyLines keys else none
    | some v => (msg.keyLines keys).map fun out => key.name ++ '\n' :: (v.text ++ '\n' :: out)

def buildSnsStringToSign (msg : SnsMessage) : Option (List Char) :=
  ((msg.type.bind SnsField.asString).bind snsKeys).bind msg.keyLines

end SnsMessage

/-! ## The lines of the string -/

/-- The lines of a text. -/
def linesOf (s : List Char) : List (List Char) := s.splitOn '\n'

theorem linesOf_append (s t : List Char) : linesOf (s ++ '\n' :: t) = linesOf s ++ linesOf t :=
  List.splitOn_append_cons_self ..

theorem linesOf_length (s : List Char) : 0 < (linesOf s).length :=
  List.length_pos_iff.mpr (List.splitOn_ne_nil '\n' s)

theorem linesOf_plain {s : List Char} (h : '\n' ∉ s) : linesOf s = [s] :=
  List.splitOn_eq_singleton h

theorem linesOf_injective : Function.Injective linesOf := fun s t h => by
  have hs : ['\n'].intercalate (s.splitOn '\n') = s := List.intercalate_splitOn '\n'
  have ht : ['\n'].intercalate (t.splitOn '\n') = t := List.intercalate_splitOn '\n'
  unfold linesOf at h
  rw [← hs, h, ht]

namespace SnsKey

theorem name_plain (key : SnsKey) : '\n' ∉ key.name := by cases key <;> decide

theorem name_inj {key key' : SnsKey} : key.name = key'.name ↔ key = key' := by
  constructor
  · cases key <;> cases key' <;> decide
  · rintro rfl
    rfl

theorem name_ne_notification (key : SnsKey) : key.name ≠ notification := by cases key <;> decide

theorem name_ne_nil (key : SnsKey) : key.name ≠ [] := by cases key <;> decide

end SnsKey

theorem snsKeys_plain {type : List Char} {keys : List SnsKey} (h : snsKeys type = some keys) :
    '\n' ∉ type := by
  unfold snsKeys at h
  split_ifs at h with hnotification hconfirm
  · rw [hnotification]; decide
  · rcases hconfirm with rfl | rfl <;> decide

namespace SnsMessage
variable {msg : SnsMessage} {key : SnsKey} {keys : List SnsKey} {out : List Char}

/-- The lines of the subject, if there is one. -/
def subjectLines (msg : SnsMessage) : List (List Char) :=
  match msg.subject with
  | none => []
  | some v => SnsKey.subject.name :: linesOf v.text

theorem linesOf_key (key : SnsKey) (v : SnsField) (rest : List Char) :
    linesOf (key.name ++ '\n' :: (v.text ++ '\n' :: rest)) =
      key.name :: (linesOf v.text ++ linesOf rest) := by
  rw [linesOf_append, linesOf_append, linesOf_plain key.name_plain, List.singleton_append]

theorem keyLines_required (hkey : key ≠ .subject) (h : msg.keyLines (key :: keys) = some out) :
    ∃ v rest, msg.get key = some v ∧ msg.keyLines keys = some rest ∧
      linesOf out = key.name :: (linesOf v.text ++ linesOf rest) := by
  rw [keyLines] at h
  cases hv : msg.get key with
  | none => simp [hv, hkey] at h
  | some v =>
    rw [hv] at h
    obtain ⟨rest, hrest, rfl⟩ := Option.map_eq_some_iff.mp h
    exact ⟨v, rest, rfl, hrest, linesOf_key key v rest⟩

theorem keyLines_subject (h : msg.keyLines (.subject :: keys) = some out) :
    ∃ rest, msg.keyLines keys = some rest ∧ linesOf out = msg.subjectLines ++ linesOf rest := by
  rw [keyLines, get] at h
  rw [subjectLines]
  cases hv : msg.subject with
  | none =>
    rw [hv] at h
    exact ⟨out, by simpa using h, rfl⟩
  | some v =>
    rw [hv] at h
    obtain ⟨rest, hrest, rfl⟩ := Option.map_eq_some_iff.mp h
    exact ⟨rest, hrest, linesOf_key .subject v rest⟩

theorem keyLines_nil (h : msg.keyLines [] = some out) : linesOf out = [[]] := by
  obtain rfl := Option.some.inj h
  rfl

theorem build_some (h : msg.buildSnsStringToSign = some out) :
    ∃ type keys, msg.type = some (.string type) ∧ snsKeys type = some keys ∧
      msg.keyLines keys = some out := by
  obtain ⟨keys, hkeys, h⟩ := Option.bind_eq_some_iff.mp h
  obtain ⟨type, htype, hkeys⟩ := Option.bind_eq_some_iff.mp hkeys
  obtain ⟨field, hfield, hstring⟩ := Option.bind_eq_some_iff.mp htype
  cases field with
  | other _ _ => cases hstring
  | string s =>
    obtain rfl := Option.some.inj hstring
    exact ⟨s, keys, hfield, hkeys, h⟩

/-- The lines from the type on. -/
theorem keyLines_type {type : List Char} (htype : msg.type = some (.string type))
    (hplain : '\n' ∉ type) (h : msg.keyLines [.type] = some out) :
    linesOf out = [SnsKey.type.name, type, []] := by
  obtain ⟨v, rest, hv, hrest, hout⟩ := keyLines_required (by decide) h
  obtain rfl := Option.some.inj (htype.symm.trans hv)
  rw [hout, keyLines_nil hrest, SnsField.text, linesOf_plain hplain]
  rfl

/-- The lines from the topic on. -/
theorem keyLines_topic {type : List Char} (htype : msg.type = some (.string type))
    (hplain : '\n' ∉ type) (h : msg.keyLines [.topicArn, .type] = some out) :
    ∃ topic, msg.topicArn = some topic ∧
      linesOf out = SnsKey.topicArn.name :: (linesOf topic.text ++ [SnsKey.type.name, type, []]) := by
  obtain ⟨v, rest, hv, hrest, hout⟩ := keyLines_required (by decide) h
  exact ⟨v, hv, by rw [hout, keyLines_type htype hplain hrest]⟩

/-- All the lines of a notification. -/
theorem notification_lines (htype : msg.type = some (.string notification))
    (h : msg.buildSnsStringToSign = some out) :
    ∃ m id t topic, msg.message = some m ∧ msg.messageId = some id ∧ msg.timestamp = some t ∧
      msg.topicArn = some topic ∧
      linesOf out = SnsKey.message.name :: (linesOf m.text ++
        SnsKey.messageId.name :: ((linesOf id.text ++ msg.subjectLines) ++
        SnsKey.timestamp.name :: (linesOf t.text ++
        SnsKey.topicArn.name :: (linesOf topic.text ++
        [SnsKey.type.name, notification, []])))) := by
  obtain ⟨type, keys, htype', hkeys, h⟩ := build_some h
  obtain rfl := SnsField.string.inj (Option.some.inj (htype.symm.trans htype'))
  obtain rfl : [.message, .messageId, .subject, .timestamp, .topicArn, .type] = keys :=
    Option.some.inj hkeys
  obtain ⟨m, rest, hm, h, hout⟩ := keyLines_required (by decide) h
  obtain ⟨id, rest, hid, h, hrest⟩ := keyLines_required (by decide) h
  obtain ⟨rest, h, hsubject⟩ := keyLines_subject h
  obtain ⟨t, rest, ht, h, htime⟩ := keyLines_required (by decide) h
  obtain ⟨topic, htopic, hlast⟩ := keyLines_topic htype (by decide) h
  refine ⟨m, id, t, topic, hm, hid, ht, htopic, ?_⟩
  rw [hout, hrest, hsubject, htime, hlast]
  simp only [List.append_assoc]

/-- Every string ends with the topic and the type. -/
theorem lines_tail (h : msg.buildSnsStringToSign = some out) :
    ∃ type topic front, msg.type = some (.string type) ∧ msg.topicArn = some topic ∧
      linesOf out = front ++ SnsKey.topicArn.name ::
        (linesOf topic.text ++ [SnsKey.type.name, type, []]) := by
  obtain ⟨type, keys, htype, hkeys, hlines⟩ := build_some h
  by_cases hnotification : type = notification
  · subst hnotification
    obtain ⟨m, id, t, topic, -, -, -, htopic, hout⟩ := notification_lines htype h
    refine ⟨notification, topic, SnsKey.message.name :: (linesOf m.text ++ SnsKey.messageId.name ::
      ((linesOf id.text ++ msg.subjectLines) ++ SnsKey.timestamp.name :: linesOf t.text)), htype,
      htopic, ?_⟩
    rw [hout]
    simp only [List.cons_append, List.append_assoc]
  · have hplain := snsKeys_plain hkeys
    rw [snsKeys, if_neg hnotification] at hkeys
    obtain ⟨-, hkeys⟩ := Option.ite_none_right_eq_some.mp hkeys
    obtain rfl := Option.some.inj hkeys
    obtain ⟨m, rest, -, hlines, hm⟩ := keyLines_required (by decide) hlines
    obtain ⟨id, rest, -, hlines, hid⟩ := keyLines_required (by decide) hlines
    obtain ⟨url, rest, -, hlines, hurl⟩ := keyLines_required (by decide) hlines
    obtain ⟨t, rest, -, hlines, ht⟩ := keyLines_required (by decide) hlines
    obtain ⟨token, rest, -, hlines, htoken⟩ := keyLines_required (by decide) hlines
    obtain ⟨topic, htopic, hlast⟩ := keyLines_topic htype hplain hlines
    refine ⟨type, topic, SnsKey.message.name :: (linesOf m.text ++ SnsKey.messageId.name ::
      (linesOf id.text ++ SnsKey.subscribeURL.name :: (linesOf url.text ++ SnsKey.timestamp.name ::
      (linesOf t.text ++ SnsKey.token.name :: linesOf token.text)))), htype, htopic, ?_⟩
    rw [hm, hid, hurl, ht, htoken, hlast]
    simp only [List.cons_append, List.append_assoc]

/-! ## Readings -/

/-- Two messages with one string, whose topics have no line break, have one topic and one type. -/
theorem buildSnsStringToSign_topic {msg' : SnsMessage} {topic topic' : SnsField}
    (htopic : msg.topicArn = some topic) (htopic' : msg'.topicArn = some topic')
    (hplain : '\n' ∉ topic.text) (hplain' : '\n' ∉ topic'.text)
    (h : msg.buildSnsStringToSign = some out) (h' : msg'.buildSnsStringToSign = some out) :
    topic.text = topic'.text ∧ msg.type = msg'.type := by
  obtain ⟨type, t, front, htype, ht, hlines⟩ := lines_tail h
  obtain ⟨type', t', front', htype', ht', hlines'⟩ := lines_tail h'
  obtain rfl := Option.some.inj (htopic.symm.trans ht)
  obtain rfl := Option.some.inj (htopic'.symm.trans ht')
  rw [hlines, linesOf_plain hplain, linesOf_plain hplain'] at hlines'
  obtain ⟨-, htail⟩ := List.append_inj' hlines' rfl
  simp only [List.singleton_append, List.cons.injEq, true_and] at htail
  exact ⟨htail.1, by rw [htype, htype', htail.2.1]⟩

/-- What Amazon sends: no field has a line break in it or is the name of a key. -/
structure Plain (msg : SnsMessage) : Prop where
  type : msg.type = some (.string notification)
  field : ∀ key v, msg.get key = some v → '\n' ∉ v.text ∧ ∀ k : SnsKey, k.name ≠ v.text

/-- The texts of the fields of a notification. -/
structure SameTexts (msg msg' : SnsMessage) : Prop where
  message : msg.message.map SnsField.text = msg'.message.map SnsField.text
  messageId : msg.messageId.map SnsField.text = msg'.messageId.map SnsField.text
  subject : msg.subject.map SnsField.text = msg'.subject.map SnsField.text
  timestamp : msg.timestamp.map SnsField.text = msg'.timestamp.map SnsField.text
  topicArn : msg.topicArn.map SnsField.text = msg'.topicArn.map SnsField.text

/-- The message with its subject read as a part of its id. -/
def foldSubject (msg : SnsMessage) (id subject : SnsField) : SnsMessage :=
  { msg with
    messageId := some (.string (id.text ++ '\n' :: (SnsKey.subject.name ++ '\n' :: subject.text)))
    subject := none }

theorem keyLines_congr {msg' : SnsMessage}
    (h : ∀ key ∈ keys, (msg.get key).map SnsField.text = (msg'.get key).map SnsField.text) :
    msg.keyLines keys = msg'.keyLines keys := by
  induction keys with
  | nil => rfl
  | cons key keys ih =>
    obtain ⟨hkey, hkeys⟩ := List.forall_mem_cons.mp h
    rw [keyLines, keyLines, ih hkeys]
    cases hv : msg.get key <;> cases hv' : msg'.get key <;> simp_all

theorem build_sameTexts {msg' : SnsMessage} (htype : msg.type = some (.string notification))
    (htype' : msg'.type = some (.string notification)) (h : SameTexts msg' msg) :
    msg'.buildSnsStringToSign = msg.buildSnsStringToSign := by
  rw [buildSnsStringToSign, buildSnsStringToSign, htype, htype']
  refine keyLines_congr ?_
  simp only [List.forall_mem_cons, get, h.message, h.messageId, h.subject, h.timestamp, h.topicArn,
    htype, htype', List.not_mem_nil, false_imp_iff, implies_true, and_self]

theorem build_notification (htype : msg.type = some (.string notification)) :
    msg.buildSnsStringToSign =
      msg.keyLines [.message, .messageId, .subject, .timestamp, .topicArn, .type] := by
  rw [buildSnsStringToSign, htype]
  rfl

/-- Both write the id, the name of the subject and the subject, and then the same. -/
theorem keyLines_foldSubject {id subject : SnsField} (hid : msg.messageId = some id)
    (hsubject : msg.subject = some subject)
    (hkeys : (msg.foldSubject id subject).keyLines keys = msg.keyLines keys) :
    (msg.foldSubject id subject).keyLines (.message :: .messageId :: .subject :: keys) =
      msg.keyLines (.message :: .messageId :: .subject :: keys) := by
  have hmessage : (msg.foldSubject id subject).message = msg.message := rfl
  simp only [keyLines, hkeys]
  simp only [get, hid, hsubject, foldSubject, if_true, SnsField.text]
  cases msg.keyLines keys <;> cases msg.message <;> simp

theorem build_foldSubject {id subject : SnsField} (htype : msg.type = some (.string notification))
    (hid : msg.messageId = some id) (hsubject : msg.subject = some subject) :
    (msg.foldSubject id subject).buildSnsStringToSign = msg.buildSnsStringToSign := by
  have hfolded := @build_notification (msg.foldSubject id subject) htype
  rw [build_notification htype, hfolded]
  exact keyLines_foldSubject hid hsubject (keyLines_congr (by simp [get, foldSubject]))

/-- The lines of an id and of a subject that may be absent, both plain, in another message: either they
are its id and its subject, or all are its id. -/
theorem readings {msg' : SnsMessage} {id id' : SnsField} (hid : '\n' ∉ id.text)
    (hsubject : ∀ v, msg.subject = some v → '\n' ∉ v.text)
    (h : [id.text] ++ msg.subjectLines = linesOf id'.text ++ msg'.subjectLines) :
    id'.text = id.text ∧ msg'.subject.map SnsField.text = msg.subject.map SnsField.text ∨
      ∃ s, msg.subject = some s ∧ msg'.subject = none ∧
        id'.text = id.text ++ '\n' :: (SnsKey.subject.name ++ '\n' :: s.text) := by
  have hlength := congrArg List.length h
  have hid' := linesOf_length id'.text
  have hplain {v v' : SnsField} (hv : '\n' ∉ v.text) (heq : [v.text] = linesOf v'.text) :
      v'.text = v.text := linesOf_injective (heq.symm.trans (linesOf_plain hv).symm)
  unfold subjectLines at h hlength
  cases hs : msg.subject with
  | none =>
    cases hs' : msg'.subject with
    | none =>
      simp only [hs, hs', List.append_nil] at h
      exact .inl ⟨hplain hid h, rfl⟩
    | some s' =>
      simp only [hs, hs', List.length_append, List.length_cons, List.length_nil] at hlength
      omega
  | some s =>
    have hsplain := hsubject s hs
    cases hs' : msg'.subject with
    | none =>
      simp only [hs, hs', List.append_nil] at h
      refine .inr ⟨s, rfl, rfl, linesOf_injective ?_⟩
      rw [← h, linesOf_append, linesOf_append, linesOf_plain hid,
        linesOf_plain SnsKey.subject.name_plain]
      rfl
    | some s' =>
      simp only [hs, hs', linesOf_plain hsplain, List.length_append, List.length_cons,
        List.length_nil] at h hlength
      have hsubject' := linesOf_length s'.text
      obtain ⟨hids, hsubjects⟩ := List.append_inj h (by simp only [List.length_singleton]; omega)
      exact .inl ⟨hplain hid hids, congrArg some (hplain hsplain (List.cons.inj hsubjects).2)⟩

/-- A plain notification shares its string with the messages of its texts and, if it has a subject,
with those in which the subject is a part of the id. -/
theorem buildSnsStringToSign_eq_iff (hmsg : msg.Plain) (hcomplete : msg.buildSnsStringToSign.isSome)
    (msg' : SnsMessage) :
    msg'.buildSnsStringToSign = msg.buildSnsStringToSign ↔ msg'.type = msg.type ∧
      (SameTexts msg' msg ∨ ∃ id subject, msg.messageId = some id ∧ msg.subject = some subject ∧
        SameTexts msg' (msg.foldSubject id subject)) := by
  obtain ⟨out, hout⟩ := Option.isSome_iff_exists.mp hcomplete
  rw [hout]
  constructor
  · intro h
    have htype : msg'.type = some (.string notification) := by
      obtain ⟨type, topic, front, htype, -, hlines⟩ := lines_tail hout
      obtain ⟨type', topic', front', htype', -, hlines'⟩ := lines_tail h
      obtain rfl := SnsField.string.inj (Option.some.inj (hmsg.type.symm.trans htype))
      rw [hlines, ← List.cons_append, ← List.append_assoc, ← List.cons_append, ← List.append_assoc]
        at hlines'
      obtain ⟨-, htail⟩ := List.append_inj' hlines' rfl
      simp only [List.cons.injEq, true_and] at htail
      rw [htype', htail.1]
    refine ⟨htype.trans hmsg.type.symm, ?_⟩
    obtain ⟨m, id, t, topic, hm, hid, ht, htopic, hlines⟩ := notification_lines hmsg.type hout
    obtain ⟨m', id', t', topic', hm', hid', ht', htopic', hlines'⟩ := notification_lines htype h
    have hpm := hmsg.field .message m hm
    have hpid := hmsg.field .messageId id hid
    have hpt := hmsg.field .timestamp t ht
    have hptopic := hmsg.field .topicArn topic htopic
    have hpsubject : ∀ k : SnsKey, k ≠ .subject → k.name ∉ msg.subjectLines := by
      intro k hk
      unfold subjectLines
      cases hs : msg.subject with
      | none => simp
      | some v =>
        have hv := hmsg.field .subject v hs
        simp [linesOf_plain hv.1, SnsKey.name_inj, hk, hv.2 k]
    rw [hlines, linesOf_plain hpm.1, linesOf_plain hpid.1, linesOf_plain hpt.1,
      linesOf_plain hptopic.1] at hlines'
    -- Each name stands once in the lines of the plain message and tells where the field before it ends.
    obtain ⟨hmessage, -, hlines'⟩ := (List.append_cons_inj_of_notMem (by simp [hpm.2])
      (by simp [hpsubject, SnsKey.name_inj, SnsKey.name_ne_notification, SnsKey.name_ne_nil, hpid.2,
        hpt.2, hptopic.2])).mp (List.cons.inj hlines').2
    obtain ⟨hids, -, hlines'⟩ := (List.append_cons_inj_of_notMem
      (by simp [hpsubject, hpid.2])
      (by simp [SnsKey.name_inj, SnsKey.name_ne_notification, SnsKey.name_ne_nil, hpt.2,
        hptopic.2])).mp hlines'
    obtain ⟨htime, -, hlines'⟩ := (List.append_cons_inj_of_notMem (by simp [hpt.2])
      (by simp [SnsKey.name_inj, SnsKey.name_ne_notification, SnsKey.name_ne_nil,
        hptopic.2])).mp hlines'
    have hsplit := List.append_cancel_right hlines'
    have hplain {v v' : SnsField} (hv : '\n' ∉ v.text) (heq : [v.text] = linesOf v'.text) :
        v'.text = v.text := linesOf_injective (heq.symm.trans (linesOf_plain hv).symm)
    have hmtext := hplain hpm.1 hmessage
    have httext := hplain hpt.1 htime
    have htopictext := hplain hptopic.1 hsplit
    rcases readings hpid.1 (fun v hv => (hmsg.field .subject v hv).1) hids with
      ⟨hid'', hsubject⟩ | ⟨s, hs, hnone, hid''⟩
    · exact .inl ⟨by rw [hm, hm']; exact congrArg some hmtext,
        by rw [hid, hid']; exact congrArg some hid'', hsubject,
        by rw [ht, ht']; exact congrArg some httext,
        by rw [htopic, htopic']; exact congrArg some htopictext⟩
    · refine .inr ⟨id, s, hid, hs, ?_⟩
      exact ⟨by rw [foldSubject, hm, hm']; exact congrArg some hmtext,
        by rw [foldSubject, hid']; exact congrArg some hid'', by rw [foldSubject, hnone],
        by rw [foldSubject, ht, ht']; exact congrArg some httext,
        by rw [foldSubject, htopic, htopic']; exact congrArg some htopictext⟩
  · rintro ⟨htype, hsame | ⟨id, subject, hid, hsubject, hsame⟩⟩
    · rw [build_sameTexts hmsg.type (htype.trans hmsg.type) hsame, hout]
    · have hfolded := @build_sameTexts (msg.foldSubject id subject) _ hmsg.type
        (htype.trans hmsg.type) hsame
      rw [hfolded, build_foldSubject hmsg.type hid hsubject, hout]

/-- The ids that the string of a message can be read with. -/
def idReadings (msg : SnsMessage) : List (List Char) :=
  match msg.messageId, msg.subject with
  | none, _ => []
  | some id, none => [id.text]
  | some id, some subject =>
    [id.text, id.text ++ '\n' :: (SnsKey.subject.name ++ '\n' :: subject.text)]

theorem idReadings_length_le (msg : SnsMessage) :
    msg.idReadings.length ≤ if msg.subject.isSome then 2 else 1 := by
  unfold idReadings
  cases msg.messageId <;> cases msg.subject <;> simp

theorem mem_idReadings (id' : SnsField) (hid : msg.messageId.map SnsField.text =
    some id'.text ∨ ∃ id subject, msg.messageId = some id ∧ msg.subject = some subject ∧
      id'.text = id.text ++ '\n' :: (SnsKey.subject.name ++ '\n' :: subject.text)) :
    id'.text ∈ msg.idReadings := by
  rcases hid with hid | ⟨id, subject, hid, hsubject, hfolded⟩
  · obtain ⟨id, hid, htext⟩ := Option.map_eq_some_iff.mp hid
    unfold idReadings
    cases hsubject : msg.subject <;> simp [hid, htext]
  · simp [idReadings, hid, hsubject, hfolded]

/-- A bounce notification with a subject. -/
def bounce : SnsMessage where
  type := some (.string notification)
  message := some (.string "bounced".toList)
  messageId := some (.string "m-1".toList)
  subject := some (.string "Email".toList)
  timestamp := some (.string "2026-01-01T00:00:00.000Z".toList)
  topicArn := some (.string "arn:aws:sns:mail".toList)

theorem bounce_plain : bounce.Plain where
  type := rfl
  field key v hv := by
    cases key with
    | subscribeURL | token => cases hv
    | message | messageId | subject | timestamp | topicArn | type =>
      obtain rfl := Option.some.inj hv
      exact ⟨by decide, fun k => by cases k <;> decide⟩

end SnsMessage

end StellarEduPay
