import Mathlib.Logic.Function.Basic
import StellarEduPay.Checks
import StellarEduPay.Collection
import StellarEduPay.Runs

/-! # The owners of a school (`controllers/userController.js`)

Three requests change or delete a stored user: `updateUser` and `deleteUser` of the super-admin
routes, and `updateSchoolUser` of the owners' own.  Each of them reads the user, and writes by id in
a step of its own; `updateSchoolUser` counts the active owners of the school in between, when it is
about to take one away.

A step is one database operation of one request, with the code up to the next one.
-/
namespace StellarEduPay
open Checks Runs Function

/-! ## Users -/

/-- `USER_ROLES` of `models/userModel.js`. -/
inductive UserRole
  | superAdmin
  | owner
  | staff
  | readOnly
  deriving DecidableEq, Repr

def UserRole.name : UserRole → String
  | .superAdmin => "super_admin"
  | .owner => "owner"
  | .staff => "staff"
  | .readOnly => "read_only"

/-- The role among `allowed` that has this name. -/
def roleAmong (allowed : List UserRole) (name : String) : Option UserRole :=
  allowed.find? (·.name = name)

/-- A user document; a super-admin has no `schoolId`. -/
structure SchoolUser where
  id : String
  schoolId : Option String
  roles : List UserRole
  isActive : Bool
  deriving DecidableEq, Repr

/-- `{ schoolId, roles: 'owner', isActive: true }` -/
def SchoolUser.ownsActively (schoolId : String) (u : SchoolUser) : Bool :=
  u.schoolId = some schoolId ∧ .owner ∈ u.roles ∧ u.isActive

/-- The `$set` of an update. -/
structure UserUpdates where
  roles : Option (List UserRole) := none
  isActive : Option Bool := none
  deriving DecidableEq, Repr

def UserUpdates.apply (updates : UserUpdates) (u : SchoolUser) : SchoolUser :=
  { u with
    roles := updates.roles.getD u.roles
    isActive := updates.isActive.getD u.isActive }

/-- The answer of a request that is refused. -/
structure UserRefusal where
  status : Nat
  code : String
  error : String
  deriving DecidableEq, Repr

def UserRefusal.userNotFound : UserRefusal := ⟨404, "NOT_FOUND", "User not found."⟩

/-- The fields the two updates read of their bodies. -/
structure UserBody where
  roles : Option (List String) := none
  isActive : Option Bool := none
  deriving DecidableEq, Repr

/-! ## `updateUser` -/

/-- `updates.roles` of `updateUser`. -/
def validRoles (names : List String) : Except UserRefusal (List UserRole) :=
  let all : List UserRole := [.superAdmin, .owner, .staff, .readOnly]
  let invalidRoles := names.filter fun r => (roleAmong all r).isNone
  if invalidRoles = [] then .ok (names.filterMap (roleAmong all))
  else .error ⟨400, "INVALID_ROLES", "Invalid roles: " ++ ", ".intercalate invalidRoles⟩

/-- `updateUser` up to its write. -/
def checkUpdateUser (user : Option SchoolUser) (body : UserBody) : Except UserRefusal UserUpdates := do
  let _ ← orThrow user .userNotFound
  match body.roles with
  | none => .ok { isActive := body.isActive }
  | some names => (validRoles names).map fun roles => { roles := some roles, isActive := body.isActive }

/-! ## `updateSchoolUser` -/

/-- A request to `PATCH /schools/:schoolId/users/:userId`: who sends it, and for which school. -/
structure SchoolUserRequest where
  schoolId : String
  userId : String
  body : UserBody
  requestingUserId : Option String := none
  requestingSchoolId : Option String := none
  deriving DecidableEq, Repr

/-- The roles `updateSchoolUserSchema` lets through. -/
def schoolRoles : List UserRole := [.owner, .staff, .readOnly]

/-- What the schema says of the role at position `i`. -/
def roleDetails (i : Nat) (name : String) : List String :=
  let field := "\"roles[" ++ toString i ++ "]\""
  if (roleAmong schoolRoles name).isSome then []
  else (field ++ " must be one of [owner, staff, read_only]") ::
    if name = "" then [field ++ " is not allowed to be empty"] else []

/-- The messages of `updateSchoolUserSchema` about a body. -/
def schemaDetails (body : UserBody) : List String :=
  match body.roles with
  | none => if body.isActive = none then ["\"value\" must have at least 1 key"] else []
  | some [] => ["\"roles\" must contain at least 1 items"]
  | some names => names.zipIdx.flatMap fun (name, i) => roleDetails i name

/-- The updates of a body that meets the schema. -/
def schemaValue (body : UserBody) : UserUpdates where
  roles := body.roles.map (·.filterMap (roleAmong schoolRoles))
  isActive := body.isActive

/-- `removesOwnerRole` -/
def UserUpdates.removesOwnerRole (updates : UserUpdates) : Bool :=
  updates.roles.any (.owner ∉ ·)

/-- `updateSchoolUser` up to the protection of the last owner; `user` is what `findById` gave. -/
def checkUpdateSchoolUser (req : SchoolUserRequest) (user : Option SchoolUser) :
    Except UserRefusal (SchoolUser × UserUpdates) := do
  require (schemaDetails req.body = [])
    ⟨400, "VALIDATION_ERROR", "; ".intercalate (schemaDetails req.body)⟩
  let user ← orThrow user .userNotFound
  require (user.schoolId = some req.schoolId)
    ⟨403, "FORBIDDEN", "User does not belong to this school."⟩
  require (req.requestingSchoolId.all (· = req.schoolId))
    ⟨403, "FORBIDDEN", "You can only manage users for your own school."⟩
  let updates := schemaValue req.body
  let isSelf := req.requestingUserId = some req.userId
  require (!(isSelf && updates.removesOwnerRole))
    ⟨409, "SELF_DEMOTION_FORBIDDEN", "You cannot remove your own owner role."⟩
  require (!(isSelf && updates.isActive = some false))
    ⟨409, "SELF_DEACTIVATION_FORBIDDEN", "You cannot deactivate your own account."⟩
  require (!updates.roles.any (.superAdmin ∈ ·))
    ⟨403, "FORBIDDEN", "School owners cannot grant super_admin role."⟩
  .ok (user, updates)

/-- The condition of the last-owner protection: the user was read as an active owner, and the update
takes that away. -/
def needsOwnerCount (user : SchoolUser) (updates : UserUpdates) : Bool :=
  .owner ∈ user.roles && user.isActive && (updates.removesOwnerRole || updates.isActive = some false)

/-- The last-owner protection. -/
def checkActiveOwners (activeOwnerCount : Nat) : Except UserRefusal Unit :=
  require (1 < activeOwnerCount)
    ⟨409, "LAST_OWNER", "Cannot remove or deactivate the last active owner of the school."⟩

/-! ## Requests side by side -/

/-- What a request writes: `findByIdAndUpdate` or `findByIdAndDelete`. -/
inductive UserWrite
  | set (updates : UserUpdates)
  | delete
  deriving DecidableEq, Repr

/-- What a write leaves of the user it is about. -/
def UserWrite.after : UserWrite → SchoolUser → Option SchoolUser
  | .set updates, u => some (updates.apply u)
  | .delete, _ => none

abbrev Users := Collection SchoolUser String SchoolUser.id

def UserWrite.apply (userId : String) (users : Users) : UserWrite → Users
  | .set updates => users.modify userId updates.apply fun _ => rfl
  | .delete => users.remove userId

/-- What an `updateSchoolUser` last read of the users: at its count, or at its `findById` where it makes
none. -/
structure OwnersRead where
  schoolId : String
  users : Users

/-- Where a request is: about to count, about to write, or answered.  The super-admin routes have read
nothing that their write depends on. -/
inductive UserCall
  | counting (schoolId userId : String) (updates : UserUpdates)
  | writing (userId : String) (write : UserWrite) (read : Option OwnersRead)
  | answered (answer : Except UserRefusal Unit)

structure UserSystem where
  users : Users
  calls : Nat → Option UserCall

inductive UserAction
  | updateUser (p : Nat) (userId : String) (body : UserBody)
  | deleteUser (p : Nat) (userId : String)
  | updateSchoolUser (p : Nat) (req : SchoolUserRequest)
  | count (p : Nat)
  | write (p : Nat)
  deriving DecidableEq, Repr

namespace UserSystem

/-- Request `p` goes on with `next`, or is answered with the refusal. -/
def proceed (s : UserSystem) (p : Nat) (next : Except UserRefusal UserCall) : UserSystem :=
  { s with calls := update s.calls p (some (match next with
      | .ok call => call
      | .error refusal => .answered (.error refusal))) }

/-- The first step of a request, its `findById`. -/
def arrive (s : UserSystem) (p : Nat) (next : Except UserRefusal UserCall) : Option UserSystem :=
  if s.calls p = none then some (s.proceed p next) else none

end UserSystem

/-- How `updateSchoolUser` goes on after its checks. -/
def afterChecks (req : SchoolUserRequest) (users : Users) (checked : SchoolUser × UserUpdates) :
    UserCall :=
  if needsOwnerCount checked.1 checked.2 then .counting req.schoolId req.userId checked.2
  else .writing req.userId (.set checked.2) (some ⟨req.schoolId, users⟩)

def userStep (s : UserSystem) : UserAction → Option UserSystem
  | .updateUser p userId body =>
    s.arrive p ((checkUpdateUser (s.users.findKey userId) body).map fun updates =>
      .writing userId (.set updates) none)
  | .deleteUser p userId =>
    s.arrive p ((orThrow (s.users.findKey userId) UserRefusal.userNotFound).map fun _ =>
      .writing userId .delete none)
  | .updateSchoolUser p req =>
    s.arrive p ((checkUpdateSchoolUser req (s.users.findKey req.userId)).map (afterChecks req s.users))
  | .count p =>
    match s.calls p with
    | some (.counting schoolId userId updates) =>
      some (s.proceed p ((checkActiveOwners (s.users.docs.countP (·.ownsActively schoolId))).map
        fun _ => .writing userId (.set updates) (some ⟨schoolId, s.users⟩)))
    | _ => none
  | .write p =>
    match s.calls p with
    | some (.writing userId write _) =>
      some { users := write.apply userId s.users, calls := update s.calls p (some (.answered (.ok ()))) }
    | _ => none

/-! ## What a write does to the owners -/

/-- The school has an active owner. -/
def HasOwner (schoolId : String) (users : Users) : Prop :=
  ∃ u ∈ users.docs, u.ownsActively schoolId = true

/-- The school has an active owner beside this user. -/
def HasOtherOwner (schoolId userId : String) (users : Users) : Prop :=
  ∃ u ∈ users.docs, u.id ≠ userId ∧ u.ownsActively schoolId = true

/-- The user is an active owner of the school, and no longer after the write. -/
def UserWrite.TakesOwner (schoolId userId : String) (users : Users) (write : UserWrite) : Prop :=
  ∃ u ∈ users.docs, u.id = userId ∧ u.ownsActively schoolId = true ∧
    (write.after u).any (·.ownsActively schoolId) = false

instance (schoolId : String) (users : Users) : Decidable (HasOwner schoolId users) :=
  inferInstanceAs (Decidable (∃ u ∈ users.docs, _))

instance (schoolId userId : String) (users : Users) : Decidable (HasOtherOwner schoolId userId users) :=
  inferInstanceAs (Decidable (∃ u ∈ users.docs, _))

instance (schoolId userId : String) (users : Users) (write : UserWrite) :
    Decidable (write.TakesOwner schoolId userId users) :=
  inferInstanceAs (Decidable (∃ u ∈ users.docs, _))

section Writes
variable {schoolId userId : String} {users : Users} {write : UserWrite}

/-- The users after a write: what it leaves of its own, and the others. -/
theorem UserWrite.mem_apply {u : SchoolUser} :
    u ∈ (write.apply userId users).docs ↔
      (∃ v ∈ users.docs, v.id = userId ∧ write.after v = some u) ∨ (u ∈ users.docs ∧ u.id ≠ userId) := by
  cases write with
  | set updates =>
    refine (users.mem_modify (f := updates.apply) fun _ => rfl).trans ?_
    simp only [UserWrite.after, Option.some.injEq]
    constructor
    · rintro ⟨v, hv, rfl⟩
      by_cases hid : v.id = userId
      · exact Or.inl ⟨v, hv, hid, (if_pos hid).symm⟩
      · rw [if_neg hid]
        exact Or.inr ⟨hv, hid⟩
    · rintro (⟨v, hv, hid, rfl⟩ | ⟨hu, hid⟩)
      · exact ⟨v, hv, if_pos hid⟩
      · exact ⟨u, hu, if_neg hid⟩
  | delete => simp [UserWrite.apply, UserWrite.after, users.mem_remove]

/-- A write leaves the school without an owner exactly when it takes the only one. -/
theorem hasOwner_apply_iff (h : HasOwner schoolId users) :
    HasOwner schoolId (write.apply userId users) ↔
      (write.TakesOwner schoolId userId users → HasOtherOwner schoolId userId users) := by
  constructor
  · rintro ⟨u, hu, howns⟩ ⟨v, hv, hid, -, hafter⟩
    rcases UserWrite.mem_apply.mp hu with ⟨v', hv', hid', heq⟩ | ⟨hu, hne⟩
    · obtain rfl := users.eq_of_key hv hv' (hid.trans hid'.symm)
      simp [heq, howns] at hafter
    · exact ⟨u, hu, hne, howns⟩
  · intro hother
    obtain ⟨u, hu, howns⟩ := h
    by_cases hid : u.id = userId
    · by_cases hafter : (write.after u).any (·.ownsActively schoolId) = true
      · obtain ⟨v, hv, howns'⟩ := (Option.any_eq_true ..).mp hafter
        exact ⟨v, UserWrite.mem_apply.mpr (Or.inl ⟨u, hu, hid, hv⟩), howns'⟩
      · obtain ⟨v, hv, hne, howns'⟩ := hother ⟨u, hu, hid, howns, Bool.eq_false_iff.mpr hafter⟩
        exact ⟨v, UserWrite.mem_apply.mpr (Or.inr ⟨hv, hne⟩), howns'⟩
    · exact ⟨u, UserWrite.mem_apply.mpr (Or.inr ⟨hu, hid⟩), howns⟩

end Writes

/-! ## The protection of the last owner -/

/-- Of two counted documents one is not the user's. -/
theorem hasOtherOwner_of_count {schoolId userId : String} {users : Users}
    (h : 1 < users.docs.countP (·.ownsActively schoolId)) : HasOtherOwner schoolId userId users := by
  by_contra hnone
  rw [List.countP_eq_length_filter] at h
  set owners := users.docs.filter (·.ownsActively schoolId) with howners
  have hids : ∀ u ∈ owners, u.id = userId := fun u hu => by
    obtain ⟨hu, howns⟩ := List.mem_filter.mp hu
    by_contra hne
    exact hnone ⟨u, hu, hne, howns⟩
  have hnodup : (owners.map SchoolUser.id).Nodup :=
    (List.filter_sublist.map SchoolUser.id).nodup users.nodup
  rw [List.map_congr_left hids, List.map_const', List.nodup_replicate] at hnodup
  omega

theorem checkUpdateSchoolUser_ok {req : SchoolUserRequest} {user : Option SchoolUser}
    {checked : SchoolUser × UserUpdates} (h : checkUpdateSchoolUser req user = .ok checked) :
    user = some checked.1 ∧ checked.1.schoolId = some req.schoolId := by
  unfold checkUpdateSchoolUser at h
  simp only [require_bind_ok_iff, orThrow_bind_ok_iff, decide_eq_true_eq, Except.ok.injEq] at h
  obtain ⟨-, u, hu, hschool, -, -, -, -, rfl⟩ := h
  exact ⟨hu, hschool⟩

/-- Where the update takes an active owner away, the protection applies. -/
theorem needsOwnerCount_of_takes {schoolId : String} {u : SchoolUser} {updates : UserUpdates}
    (howns : u.ownsActively schoolId = true) (hafter : (updates.apply u).ownsActively schoolId = false) :
    needsOwnerCount u updates = true := by
  obtain ⟨roles, isActive⟩ := updates
  cases roles <;> cases isActive <;>
    simp_all [SchoolUser.ownsActively, UserUpdates.apply, needsOwnerCount, UserUpdates.removesOwnerRole]
  grind

/-- An update that needed no count takes no active owner away, unless the user has become one. -/
theorem not_takes_of_no_count {schoolId : String} {u v : SchoolUser} {updates : UserUpdates}
    (hnone : needsOwnerCount u updates = false) (hu : u.ownsActively schoolId = true)
    (hv : v.ownsActively schoolId = true) : (updates.apply v).ownsActively schoolId = true := by
  by_contra hafter
  have hneeds := needsOwnerCount_of_takes hv (Bool.eq_false_iff.mpr hafter)
  simp_all [needsOwnerCount, SchoolUser.ownsActively]

/-! ## Requests that overtake another -/

/-- Since the users were read, no other owner has been taken away, and this user has not become one. -/
structure OwnersUndisturbed (schoolId userId : String) (read users : Users) : Prop where
  others : ∀ u ∈ read.docs, u.id ≠ userId → u.ownsActively schoolId = true →
    ∃ v ∈ users.docs, v.id = u.id ∧ v.ownsActively schoolId = true
  user : ∀ v ∈ users.docs, v.id = userId → v.ownsActively schoolId = true →
    ∃ u ∈ read.docs, u.id = userId ∧ u.ownsActively schoolId = true

/-- An `updateSchoolUser` is not overtaken; a super-admin route, which has no protection, spares the only
owner. -/
def UserCall.KeepsOwner (schoolId : String) (users : Users) : UserCall → Prop
  | .writing userId _ (some read) => OwnersUndisturbed schoolId userId read.users users
  | .writing userId write none =>
    write.TakesOwner schoolId userId users → HasOtherOwner schoolId userId users
  | _ => True

/-- A request that writes is such a call. -/
def KeepsOwner (schoolId : String) (s : UserSystem) : UserAction → Prop
  | .write p => ∀ call ∈ s.calls p, call.KeepsOwner schoolId s.users
  | _ => True

instance (schoolId userId : String) (read users : Users) :
    Decidable (OwnersUndisturbed schoolId userId read users) :=
  decidable_of_iff
    ((∀ u ∈ read.docs, u.id ≠ userId → u.ownsActively schoolId = true →
        ∃ v ∈ users.docs, v.id = u.id ∧ v.ownsActively schoolId = true) ∧
      ∀ v ∈ users.docs, v.id = userId → v.ownsActively schoolId = true →
        ∃ u ∈ read.docs, u.id = userId ∧ u.ownsActively schoolId = true)
    ⟨fun h => ⟨h.1, h.2⟩, fun h => ⟨h.others, h.user⟩⟩

instance (schoolId : String) (users : Users) : DecidablePred (UserCall.KeepsOwner schoolId users)
  | .writing userId _ (some read) =>
    inferInstanceAs (Decidable (OwnersUndisturbed schoolId userId read.users users))
  | .writing userId write none =>
    inferInstanceAs (Decidable (write.TakesOwner schoolId userId users → _))
  | .counting .. => isTrue trivial
  | .answered _ => isTrue trivial

instance (schoolId : String) (s : UserSystem) : ∀ a, Decidable (KeepsOwner schoolId s a)
  | .write p => inferInstanceAs (Decidable (∀ call ∈ s.calls p, call.KeepsOwner schoolId s.users))
  | .updateUser .. => isTrue trivial
  | .deleteUser .. => isTrue trivial
  | .updateSchoolUser .. => isTrue trivial
  | .count _ => isTrue trivial

/-! ## Runs -/

/-- The user of the request belongs to this school. -/
def BelongsTo (schoolId userId : String) (users : Users) : Prop :=
  ∀ u ∈ users.docs, u.id = userId → u.schoolId = some schoolId

/-- Where the users were read, either another owner was counted, or the user was none, or the write
takes no owner away. -/
def OwnersRead.Vouches (read : OwnersRead) (userId : String) (write : UserWrite) : Prop :=
  HasOtherOwner read.schoolId userId read.users ∨
  (∀ u ∈ read.users.docs, u.id = userId → u.ownsActively read.schoolId = false) ∨
  ∀ v : SchoolUser, v.ownsActively read.schoolId = true →
    (write.after v).any (·.ownsActively read.schoolId) = true

/-- What is known of a request under way. -/
def UserCall.Checked (users : Users) : UserCall → Prop
  | .counting schoolId userId _ => BelongsTo schoolId userId users
  | .writing userId write (some read) =>
    BelongsTo read.schoolId userId users ∧ read.Vouches userId write
  | _ => True

def CallsChecked (s : UserSystem) : Prop := ∀ p, ∀ call ∈ s.calls p, call.Checked s.users

section Step
variable {schoolId : String} {s t : UserSystem} {a : UserAction}

/-- No write moves a user to another school. -/
theorem BelongsTo.apply {userId other : String} {users : Users} {write : UserWrite}
    (h : BelongsTo schoolId userId users) : BelongsTo schoolId userId (write.apply other users) := by
  intro u hu hid
  rcases UserWrite.mem_apply.mp hu with ⟨v, hv, -, hafter⟩ | ⟨hu, -⟩
  · cases write with
    | set updates =>
      obtain rfl := Option.some.inj hafter
      exact h v hv hid
    | delete => cases hafter
  · exact h u hu hid

theorem UserCall.Checked.apply {call : UserCall} {other : String} {users : Users} {write : UserWrite}
    (h : call.Checked users) : call.Checked (write.apply other users) := by
  match call, h with
  | .counting .., h => exact BelongsTo.apply h
  | .writing _ _ (some _), h => exact ⟨h.1.apply, h.2⟩
  | .writing _ _ none, _ => trivial
  | .answered _, _ => trivial

/-- A request that goes on is checked if its next step is. -/
theorem CallsChecked.proceed (h : CallsChecked s) {p : Nat} {next : Except UserRefusal UserCall}
    (hnext : ∀ call, next = .ok call → call.Checked s.users) : CallsChecked (s.proceed p next) := by
  intro q call hcall
  rcases update_some_iff.mp hcall with ⟨rfl, rfl⟩ | ⟨-, hcall⟩
  · cases next with
    | error refusal => trivial
    | ok call => exact hnext call rfl
  · exact h q call hcall

theorem CallsChecked.arrive (h : CallsChecked s) {p : Nat} {next : Except UserRefusal UserCall}
    (hnext : ∀ call, next = .ok call → call.Checked s.users) (hs : s.arrive p next = some t) :
    CallsChecked t := by
  unfold UserSystem.arrive at hs
  split_ifs at hs
  obtain rfl := Option.some.inj hs
  exact h.proceed hnext

/-- What the checks of `updateSchoolUser` establish. -/
theorem afterChecks_checked {req : SchoolUserRequest} {users : Users}
    {checked : SchoolUser × UserUpdates}
    (h : checkUpdateSchoolUser req (users.findKey req.userId) = .ok checked) :
    (afterChecks req users checked).Checked users := by
  obtain ⟨hread, hschool⟩ := checkUpdateSchoolUser_ok h
  obtain ⟨hmem, hid⟩ := users.findKey_eq_some.mp hread
  have huser : ∀ u ∈ users.docs, u.id = req.userId → u = checked.1 := fun u hu huid =>
    users.eq_of_key hu hmem (huid.trans hid.symm)
  have hbelongs : BelongsTo req.schoolId req.userId users := fun u hu huid =>
    (huser u hu huid).symm ▸ hschool
  unfold afterChecks
  split_ifs with hcount
  · exact hbelongs
  · refine ⟨hbelongs, .inr ?_⟩
    by_cases howns : checked.1.ownsActively req.schoolId = true
    · exact .inr fun v hv => not_takes_of_no_count (Bool.eq_false_iff.mpr hcount) howns hv
    · exact .inl fun u hu huid => (huser u hu huid).symm ▸ Bool.eq_false_iff.mpr howns

/-- **Each step** keeps the requests checked. -/
theorem CallsChecked.step (h : CallsChecked s) (hs : userStep s a = some t) : CallsChecked t := by
  cases a with
  | updateUser p userId body =>
    refine h.arrive (fun call hcall => ?_) hs
    obtain ⟨updates, -, rfl⟩ := map_ok_iff.mp hcall
    trivial
  | deleteUser p userId =>
    refine h.arrive (fun call hcall => ?_) hs
    obtain ⟨user, -, rfl⟩ := map_ok_iff.mp hcall
    trivial
  | updateSchoolUser p req =>
    refine h.arrive (fun call hcall => ?_) hs
    obtain ⟨checked, hchecked, rfl⟩ := map_ok_iff.mp hcall
    exact afterChecks_checked hchecked
  | count p =>
    simp only [userStep] at hs
    split at hs
    · rename_i schoolId userId updates hcall
      obtain rfl := Option.some.inj hs
      refine h.proceed fun call hnext => ?_
      obtain ⟨_, hcount, rfl⟩ := map_ok_iff.mp hnext
      refine ⟨h p _ hcall, .inl (hasOtherOwner_of_count ?_)⟩
      simpa [checkActiveOwners, require_ok_iff] using hcount
    · cases hs
  | write p =>
    simp only [userStep] at hs
    split at hs
    · obtain rfl := Option.some.inj hs
      intro q call hcall
      rcases update_some_iff.mp hcall with ⟨rfl, rfl⟩ | ⟨-, hcall⟩
      · trivial
      · exact (h q call hcall).apply
    · cases hs

/-- **The protection works where nothing overtakes it**: what was counted is still there. -/
theorem OwnersRead.Vouches.otherOwner {read : OwnersRead} {users : Users} {userId : String}
    {write : UserWrite} (h : read.Vouches userId write) (hbelongs : BelongsTo read.schoolId userId users)
    (hundisturbed : OwnersUndisturbed schoolId userId read.users users)
    (htakes : write.TakesOwner schoolId userId users) : HasOtherOwner schoolId userId users := by
  obtain ⟨v, hv, hid, howns, hafter⟩ := htakes
  have hsame : schoolId = read.schoolId := by
    have howner : v.schoolId = some schoolId := by simp_all [SchoolUser.ownsActively]
    exact Option.some.inj (howner.symm.trans (hbelongs v hv hid))
  subst hsame
  rcases h with ⟨u, hu, hne, hother⟩ | hnone | hharmless
  · obtain ⟨w, hw, hwid, hwowns⟩ := hundisturbed.others u hu hne hother
    exact ⟨w, hw, hwid ▸ hne, hwowns⟩
  · obtain ⟨u, hu, huid, huowns⟩ := hundisturbed.user v hv hid howns
    rw [hnone u hu huid] at huowns
    cases huowns
  · rw [hharmless v howns] at hafter
    cases hafter

theorem UserSystem.arrive_users {p : Nat} {next : Except UserRefusal UserCall}
    (h : s.arrive p next = some t) : t.users = s.users := by
  unfold UserSystem.arrive at h
  split at h
  · cases h; rfl
  · cases h

/-- **One step that meets the condition** leaves the school an owner. -/
theorem userStep_hasOwner (hchecked : CallsChecked s) (h : HasOwner schoolId s.users)
    (hok : KeepsOwner schoolId s a) (hs : userStep s a = some t) : HasOwner schoolId t.users := by
  cases a with
  | updateUser | deleteUser | updateSchoolUser => exact UserSystem.arrive_users hs ▸ h
  | count p =>
    simp only [userStep] at hs
    split at hs
    · obtain rfl := Option.some.inj hs
      exact h
    · cases hs
  | write p =>
    simp only [userStep] at hs
    split at hs
    · rename_i userId write read hcall
      obtain rfl := Option.some.inj hs
      refine (hasOwner_apply_iff h).mpr fun htakes => ?_
      have hkeeps := hok _ hcall
      cases read with
      | none => exact hkeeps htakes
      | some read =>
        obtain ⟨hbelongs, hvouches⟩ := hchecked p _ hcall
        exact hvouches.otherOwner hbelongs hkeeps htakes
    · cases hs

/-- What a run keeps. -/
structure OwnersInv (schoolId : String) (s : UserSystem) : Prop where
  checked : CallsChecked s
  owner : HasOwner schoolId s.users

theorem OwnersInv.step (h : OwnersInv schoolId s) (hok : KeepsOwner schoolId s a)
    (hs : userStep s a = some t) : OwnersInv schoolId t where
  checked := h.checked.step hs
  owner := userStep_hasOwner h.checked h.owner hok hs

end Step

/-- **A school keeps an owner** along every run in which no `updateSchoolUser` is overtaken and no other
route takes the only one. -/
theorem school_keeps_owner {schoolId : String} {s t : UserSystem} (h : HasOwner schoolId s.users)
    (hnone : ∀ p, s.calls p = none) (hrun : Reach userStep (KeepsOwner schoolId) s t) :
    HasOwner schoolId t.users := by
  have hchecked : CallsChecked s := fun p call hcall => by
    rw [hnone p] at hcall
    cases hcall
  have hstart : OwnersInv schoolId s := ⟨hchecked, h⟩
  have hinv : OwnersInv schoolId t := hrun.invariant hstart OwnersInv.step
  exact hinv.owner

/-- Two active owners and a member of staff, and no request. -/
def twoOwners : UserSystem where
  users := ⟨[⟨"amina", some "SCH", [.owner], true⟩, ⟨"ben", some "SCH", [.owner], true⟩,
    ⟨"cleo", some "SCH", [.staff], true⟩], by decide⟩
  calls := fun _ => none

/-- `requester` takes the owner role from `userId`. -/
def demotion (requester userId : String) : SchoolUserRequest where
  schoolId := "SCH"
  userId := userId
  body := { roles := some ["staff"] }
  requestingUserId := some requester
  requestingSchoolId := some "SCH"

/-- One owner is demoted while a member of staff is deleted between the count and the write. -/
theorem school_keeps_owner_one_demoted : ∃ t : UserSystem, HasOwner "SCH" t.users ∧
    t.users.docs.map (·.ownsActively "SCH") = [true, false] := by
  have hend : ((execOk userStep (KeepsOwner "SCH") twoOwners
      [.updateSchoolUser 0 (demotion "amina" "ben"), .deleteUser 1 "cleo", .count 0, .write 1,
        .write 0]).map fun t => t.users.docs.map (·.ownsActively "SCH")) = some [true, false] := by
    decide +kernel
  obtain ⟨t, ht, howners⟩ := Option.map_eq_some_iff.mp hend
  exact ⟨t, school_keeps_owner (by decide) (fun _ => rfl) (Reach.of_execOk ht), howners⟩

/-- Two owners demote each other: each count sees both. -/
theorem owners_demote_each_other :
    ¬ ∀ schoolId s t, HasOwner schoolId s.users → (∀ p, s.calls p = none) →
      Reach userStep Free s t → HasOwner schoolId t.users := by
  intro h
  have hend : ((exec userStep twoOwners
      [.updateSchoolUser 0 (demotion "amina" "ben"), .updateSchoolUser 1 (demotion "ben" "amina"),
        .count 0, .count 1, .write 0, .write 1]).map fun t => decide (HasOwner "SCH" t.users)) =
      some false := by
    decide +kernel
  obtain ⟨t, ht, hnone⟩ := Option.map_eq_some_iff.mp hend
  exact absurd (h "SCH" twoOwners t (by decide) (fun _ => rfl) (reach_of_exec ht))
    (of_decide_eq_false hnone)

/-- A super-admin route takes the last owner without a count. -/
example : ((exec userStep
    { twoOwners with users := ⟨[⟨"amina", some "SCH", [.owner], true⟩], by decide⟩ }
    [.deleteUser 0 "amina", .write 0]).map fun t => t.users.docs) = some [] := by
  decide +kernel

end StellarEduPay
