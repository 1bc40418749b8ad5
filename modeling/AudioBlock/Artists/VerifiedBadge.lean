/-
The badge of an artist, the applications and their decisions, under requests that interleave.

The law holds exactly in the runs in which each call that writes finds the rows as its guard
found them, and the call that gives the badge after an approval does not fail.
-/
import Mathlib.Data.List.Perm.Basic
import AudioBlock.Artists.ArtistProfileService
import AudioBlock.Foundation.Answers

namespace AudioBlock.Artists

open AudioBlock.Foundation
open AudioBlock.Songs (AppError)

/-! ### The law -/

def Approved (verifications : List ArtistVerification) (userId : String) : Prop :=
  ∃ row ∈ verifications, row.userId = userId ∧ row.status = .approved

instance (verifications : List ArtistVerification) (userId : String) :
    Decidable (Approved verifications userId) :=
  inferInstanceAs (Decidable (∃ row ∈ verifications, _))

/-- The account that a call is about to give the badge. -/
def VerificationCall.marks : VerificationCall → Option String
  | .markVerified saved => some saved.userId
  | _ => none

/-- The accounts that an approval has still to give the badge. -/
def marking (requests : List VerificationCall) : List String :=
  requests.filterMap VerificationCall.marks

def OnePending (verifications : List ArtistVerification) : Prop :=
  ∀ one ∈ verifications, ∀ other ∈ verifications, one.userId = other.userId →
    one.status = .pending → other.status = .pending → one.id = other.id

def DecisionsKept (before after : List ArtistVerification) : Prop :=
  ∀ row ∈ before, row.status ≠ .pending →
    ∃ later ∈ after, later.id = row.id ∧ later.status = row.status

structure BadgeShows (state : VerificationState) : Prop where
  honest : ∀ user ∈ state.users, user.isVerified = true → Approved state.verifications user.id
  granted : ∀ user ∈ state.users, Approved state.verifications user.id →
    user.isVerified = true ∨ user.id ∈ marking state.requests

structure BadgeRules (before after : VerificationState) : Prop where
  single : OnePending after.verifications
  decisions : DecisionsKept before.verifications after.verifications
  badge : BadgeShows after

def Lawful (protocolOf : String → Option String) (state : VerificationState)
    (label : VerificationStep) : Prop :=
  ∀ after, verificationStep protocolOf state label = some after → BadgeRules state after

/-- Nobody is served yet, and the badges show the approvals. -/
structure AtRest (state : VerificationState) : Prop where
  idle : state.requests = []
  ids : (state.verifications.map ArtistVerification.id).Nodup
  single : OnePending state.verifications
  badge : BadgeShows state

def verificationMachine (protocolOf : String → Option String) :
    Machine VerificationState VerificationStep where
  initial := AtRest
  step := verificationStep protocolOf

/-! ### The condition -/

def FindsGuarded (state : VerificationState) (others : List VerificationCall) (drawn : String) :
    VerificationCall → Prop
  | .saveResubmitted copy _ =>
      ∀ row ∈ state.verifications, row.id = copy.id → row.status = .pending
  | .insertApplication userId _ =>
      drawn ∉ state.verifications.map ArtistVerification.id →
        ∀ row ∈ state.verifications, row.userId = userId → row.status ≠ .pending
  | .saveDecision copy _ =>
      ∀ row ∈ state.verifications, row.id = copy.id →
        row.status = .pending ∨ row.status = copy.status
  | .clearVerified saved =>
      ∀ user ∈ state.users, user.id = saved.userId →
        Approved state.verifications user.id → user.id ∈ marking others
  | _ => True

instance (state : VerificationState) (others : List VerificationCall) (drawn : String) :
    DecidablePred (FindsGuarded state others drawn) := fun call => by
  unfold FindsGuarded
  split <;> infer_instance

/-- The badge is there already, or another approval has still to give it. -/
def MayFail (state : VerificationState) (others : List VerificationCall) :
    VerificationCall → Prop
  | .markVerified saved =>
      ∀ user ∈ state.users, user.id = saved.userId →
        user.isVerified = true ∨ user.id ∈ marking others
  | _ => True

instance (state : VerificationState) (others : List VerificationCall) :
    DecidablePred (MayFail state others) := fun call => by
  unfold MayFail
  split <;> infer_instance

def Guarded (state : VerificationState) : VerificationStep → Prop
  | .begin _ => True
  | .step index _ drawn =>
      ∀ call ∈ state.requests[index]?,
        FindsGuarded state (state.requests.eraseIdx index) drawn call
  | .fails index =>
      ∀ call ∈ state.requests[index]?, MayFail state (state.requests.eraseIdx index) call

instance (state : VerificationState) : DecidablePred (Guarded state)
  | .begin _ => isTrue trivial
  | .step index _ _ => inferInstanceAs (Decidable (∀ call ∈ state.requests[index]?, _))
  | .fails index => inferInstanceAs (Decidable (∀ call ∈ state.requests[index]?, _))

/-! ### One row that is saved -/

section Rows

variable {before after : List ArtistVerification} {stored saved : ArtistVerification}

structure Overwrites (before after : List ArtistVerification)
    (stored saved : ArtistVerification) : Prop where
  present : stored ∈ before
  sameId : saved.id = stored.id
  sameUser : saved.userId = stored.userId
  rows : ∀ row, row ∈ after ↔ row = saved ∨ row ∈ before ∧ row.id ≠ stored.id
  keys : after.map ArtistVerification.id = before.map ArtistVerification.id

theorem overwrites_map (distinct : (before.map ArtistVerification.id).Nodup)
    (present : stored ∈ before) (save : ArtistVerification → ArtistVerification)
    (sameId : ∀ row, (save row).id = stored.id) (sameUser : ∀ row, (save row).userId = stored.userId) :
    Overwrites before (before.map fun row => if row.id = stored.id then save row else row) stored
      (save stored) := by
  refine ⟨present, sameId stored, sameUser stored, ?_, ?_⟩
  · intro row
    rw [List.mem_map]
    constructor
    · intro listed
      obtain ⟨earlier, member, same⟩ := listed
      by_cases own : earlier.id = stored.id
      · have isStored := List.inj_on_of_nodup_map distinct member present own
        rw [if_pos own, isStored] at same
        exact Or.inl same.symm
      · rw [if_neg own] at same
        subst same
        exact Or.inr ⟨member, own⟩
    · intro listed
      cases listed with
      | inl same => exact ⟨stored, present, (if_pos rfl).trans same.symm⟩
      | inr other => exact ⟨row, other.1, if_neg other.2⟩
  · rw [List.map_map]
    apply List.map_congr_left
    intro row _
    rw [Function.comp_apply]
    by_cases own : row.id = stored.id
    · rw [if_pos own, sameId, own]
    · rw [if_neg own]

namespace Overwrites

section

variable (saves : Overwrites before after stored saved)
include saves

theorem decisions_iff (distinct : (before.map ArtistVerification.id).Nodup) :
    DecisionsKept before after ↔ stored.status = .pending ∨ saved.status = stored.status := by
  constructor
  · intro kept
    by_cases pending : stored.status = .pending
    · exact Or.inl pending
    · obtain ⟨later, member, sameId, sameStatus⟩ := kept stored saves.present pending
      cases (saves.rows later).mp member with
      | inl same => exact Or.inr (same ▸ sameStatus)
      | inr other => exact absurd sameId other.2
  · intro settled row member isDecided
    by_cases own : row.id = stored.id
    · have isStored := List.inj_on_of_nodup_map distinct member saves.present own
      subst isStored
      exact ⟨saved, (saves.rows saved).mpr (Or.inl rfl), saves.sameId,
        settled.resolve_left isDecided⟩
    · exact ⟨row, (saves.rows row).mpr (Or.inr ⟨member, own⟩), rfl, rfl⟩

theorem single (single : OnePending before)
    (pending : saved.status = .pending → stored.status = .pending) : OnePending after := by
  have origin : ∀ row ∈ after, row.status = .pending →
      ∃ earlier ∈ before, earlier.id = row.id ∧ earlier.userId = row.userId ∧
        earlier.status = .pending := by
    intro row member waits
    cases (saves.rows row).mp member with
    | inl same =>
        subst same
        exact ⟨stored, saves.present, saves.sameId.symm, saves.sameUser.symm, pending waits⟩
    | inr other => exact ⟨row, other.1, rfl, rfl, waits⟩
  intro one oneMember other otherMember sameUser oneWaits otherWaits
  obtain ⟨first, firstMember, firstId, firstUser, firstWaits⟩ := origin one oneMember oneWaits
  obtain ⟨second, secondMember, secondId, secondUser, secondWaits⟩ :=
    origin other otherMember otherWaits
  rw [← firstId, ← secondId]
  exact single first firstMember second secondMember
    (firstUser.trans (sameUser.trans secondUser.symm)) firstWaits secondWaits

theorem approved_iff (kept : stored.status = .approved → saved.status = .approved)
    (distinct : (before.map ArtistVerification.id).Nodup) {userId : String} :
    Approved after userId ↔
      Approved before userId ∨ saved.userId = userId ∧ saved.status = .approved := by
  constructor
  · intro approved
    obtain ⟨row, member, user, status⟩ := approved
    cases (saves.rows row).mp member with
    | inl same =>
        subst same
        exact Or.inr ⟨user, status⟩
    | inr other => exact Or.inl ⟨row, other.1, user, status⟩
  · intro approved
    cases approved with
    | inr now => exact ⟨saved, (saves.rows saved).mpr (Or.inl rfl), now⟩
    | inl earlier =>
        obtain ⟨row, member, user, status⟩ := earlier
        by_cases own : row.id = stored.id
        · have isStored := List.inj_on_of_nodup_map distinct member saves.present own
          subst isStored
          exact ⟨saved, (saves.rows saved).mpr (Or.inl rfl), saves.sameUser.trans user, kept status⟩
        · exact ⟨row, (saves.rows row).mpr (Or.inr ⟨member, own⟩), user, status⟩

end

end Overwrites

end Rows

/-! ### What the requests carry -/

def Owned (verifications : List ArtistVerification) (copy : ArtistVerification) : Prop :=
  ∃ row ∈ verifications, row.id = copy.id ∧ row.userId = copy.userId

def CallSound (verifications : List ArtistVerification) : VerificationCall → Prop
  | .saveResubmitted copy _ => copy.status = .pending ∧ Owned verifications copy
  | .saveDecision copy decision => copy.status = decision.status ∧ Owned verifications copy
  | .markVerified saved => Approved verifications saved.userId
  | _ => True

structure Consistent (state : VerificationState) : Prop where
  ids : (state.verifications.map ArtistVerification.id).Nodup
  single : OnePending state.verifications
  badge : BadgeShows state
  sound : ∀ call ∈ state.requests, CallSound state.verifications call

/-- The applications stay, with their accounts. -/
def OwnersKept (before after : List ArtistVerification) : Prop :=
  ∀ row ∈ before, ∃ later ∈ after, later.id = row.id ∧ later.userId = row.userId

section Carried

variable {before after : List ArtistVerification}

theorem ownersKept_refl : OwnersKept before before :=
  fun row member => ⟨row, member, rfl, rfl⟩

theorem Owned.later {copy : ArtistVerification} (owned : Owned before copy)
    (owners : OwnersKept before after) : Owned after copy := by
  obtain ⟨row, member, sameId, sameUser⟩ := owned
  obtain ⟨later, present, laterId, laterUser⟩ := owners row member
  exact ⟨later, present, laterId.trans sameId, laterUser.trans sameUser⟩

theorem Approved.later {userId : String} (approved : Approved before userId)
    (owners : OwnersKept before after) (decisions : DecisionsKept before after)
    (distinct : (after.map ArtistVerification.id).Nodup) : Approved after userId := by
  obtain ⟨row, member, user, status⟩ := approved
  have isDecided : row.status ≠ .pending := by
    rw [status]
    exact VerificationStatus.noConfusion
  obtain ⟨later, present, laterId, laterStatus⟩ := decisions row member isDecided
  obtain ⟨same, samePresent, sameId, sameUser⟩ := owners row member
  have equal := List.inj_on_of_nodup_map distinct present samePresent (laterId.trans sameId.symm)
  subst equal
  exact ⟨later, present, sameUser.trans user, laterStatus.trans status⟩

theorem CallSound.later {call : VerificationCall} (sound : CallSound before call)
    (owners : OwnersKept before after) (decisions : DecisionsKept before after)
    (distinct : (after.map ArtistVerification.id).Nodup) : CallSound after call := by
  cases call with
  | saveResubmitted copy form => exact ⟨sound.1, sound.2.later owners⟩
  | saveDecision copy decision => exact ⟨sound.1, sound.2.later owners⟩
  | markVerified saved => exact Approved.later sound owners decisions distinct
  | findUser | findApproved | findPending | insertApplication | findForReview | findOtherApproved
  | clearVerified | answered | refused | thrown => trivial

theorem Overwrites.owners {stored saved : ArtistVerification}
    (saves : Overwrites before after stored saved)
    (distinct : (before.map ArtistVerification.id).Nodup) : OwnersKept before after := by
  intro row member
  by_cases own : row.id = stored.id
  · have isStored := List.inj_on_of_nodup_map distinct member saves.present own
    subst isStored
    exact ⟨saved, (saves.rows saved).mpr (Or.inl rfl), saves.sameId, saves.sameUser⟩
  · exact ⟨row, (saves.rows row).mpr (Or.inr ⟨member, own⟩), rfl, rfl⟩

end Carried

/-! ### One request among the others -/

section Requests

variable {requests : List VerificationCall} {index : Nat} {call next : VerificationCall}
  {userId : String}

theorem mem_of_present (present : requests[index]? = some call) (other : VerificationCall) :
    other ∈ requests ↔ other = call ∨ other ∈ requests.eraseIdx index := by
  obtain ⟨inside, same⟩ := List.getElem?_eq_some_iff.mp present
  rw [← (List.getElem_cons_eraseIdx_perm inside).mem_iff, same, List.mem_cons]

theorem mem_placed (present : requests[index]? = some call) (other : VerificationCall) :
    other ∈ requests.set index next ↔ other = next ∨ other ∈ requests.eraseIdx index := by
  obtain ⟨inside, _⟩ := List.getElem?_eq_some_iff.mp present
  rw [(List.set_perm_cons_eraseIdx inside next).mem_iff, List.mem_cons]

theorem mem_marking : userId ∈ marking requests ↔ ∃ call ∈ requests, call.marks = some userId :=
  List.mem_filterMap

theorem marking_present (present : requests[index]? = some call) :
    userId ∈ marking requests ↔
      call.marks = some userId ∨ userId ∈ marking (requests.eraseIdx index) := by
  simp only [mem_marking, mem_of_present present, or_and_right, exists_or, exists_eq_left]

theorem marking_placed (present : requests[index]? = some call) :
    userId ∈ marking (requests.set index next) ↔
      next.marks = some userId ∨ userId ∈ marking (requests.eraseIdx index) := by
  simp only [mem_marking, mem_placed present, or_and_right, exists_or, exists_eq_left]

end Requests

/-! ### When a write keeps the rules -/

section Writes

variable {state after : VerificationState}

section

variable (consistent : Consistent state)
include consistent

theorem rules_unwritten (verifications : after.verifications = state.verifications)
    (users : after.users = state.users)
    (marks : ∀ userId ∈ marking state.requests, userId ∈ marking after.requests) :
    BadgeRules state after := by
  refine ⟨?_, ?_, ?_, ?_⟩
  · rw [verifications]
    exact consistent.single
  · rw [verifications]
    exact fun row member _ => ⟨row, member, rfl, rfl⟩
  · rw [verifications, users]
    exact consistent.badge.honest
  · rw [verifications, users]
    intro user member approved
    exact (consistent.badge.granted user member approved).imp_right (marks user.id)

theorem rules_saved_iff {stored saved : ArtistVerification}
    (saves : Overwrites state.verifications after.verifications stored saved)
    (users : after.users = state.users)
    (marks : ∀ userId ∈ marking state.requests, userId ∈ marking after.requests)
    (gives : saved.status = .approved → saved.userId ∈ marking after.requests) :
    BadgeRules state after ↔ stored.status = .pending ∨ saved.status = stored.status := by
  rw [← saves.decisions_iff consistent.ids]
  constructor
  · exact BadgeRules.decisions
  · intro decisions
    have settled := (saves.decisions_iff consistent.ids).mp decisions
    have pending : saved.status = .pending → stored.status = .pending := by
      intro waits
      cases settled with
      | inl stays => exact stays
      | inr same => exact same.symm.trans waits
    have kept : stored.status = .approved → saved.status = .approved := by
      intro approved
      cases settled with
      | inl waits => cases approved.symm.trans waits
      | inr same => exact same.trans approved
    refine ⟨saves.single consistent.single pending, decisions, ?_, ?_⟩
    · rw [users]
      intro user member verified
      exact (saves.approved_iff kept consistent.ids).mpr
        (Or.inl (consistent.badge.honest user member verified))
    · rw [users]
      intro user member approved
      cases (saves.approved_iff kept consistent.ids).mp approved with
      | inl earlier => exact (consistent.badge.granted user member earlier).imp_right (marks user.id)
      | inr now => exact Or.inr (now.1 ▸ gives now.2)

theorem rules_inserted_iff {added : ArtistVerification}
    (fresh : added.id ∉ state.verifications.map ArtistVerification.id)
    (waits : added.status = .pending)
    (verifications : after.verifications = state.verifications ++ [added])
    (users : after.users = state.users)
    (marks : ∀ userId ∈ marking state.requests, userId ∈ marking after.requests) :
    BadgeRules state after ↔
      ∀ row ∈ state.verifications, row.userId = added.userId → row.status ≠ .pending := by
  have rows : ∀ row, row ∈ after.verifications ↔ row ∈ state.verifications ∨ row = added := by
    intro row
    rw [verifications, List.mem_append, List.mem_singleton]
  constructor
  · intro rules row member sameUser pending
    have equal := rules.single row ((rows row).mpr (Or.inl member)) added
      ((rows added).mpr (Or.inr rfl)) sameUser pending waits
    exact fresh (equal ▸ List.mem_map_of_mem member)
  · intro alone
    have approved : ∀ userId, Approved after.verifications userId →
        Approved state.verifications userId := by
      intro userId found
      obtain ⟨row, member, user, status⟩ := found
      cases (rows row).mp member with
      | inl earlier => exact ⟨row, earlier, user, status⟩
      | inr new =>
          subst new
          cases status.symm.trans waits
    refine ⟨?_, ?_, ?_, ?_⟩
    · intro one oneMember other otherMember sameUser oneWaits otherWaits
      cases (rows one).mp oneMember with
      | inl oneEarlier =>
          cases (rows other).mp otherMember with
          | inl otherEarlier =>
              exact consistent.single one oneEarlier other otherEarlier sameUser oneWaits otherWaits
          | inr otherNew =>
              subst otherNew
              exact absurd oneWaits (alone one oneEarlier sameUser)
      | inr oneNew =>
          subst oneNew
          cases (rows other).mp otherMember with
          | inl otherEarlier => exact absurd otherWaits (alone other otherEarlier sameUser.symm)
          | inr otherNew => rw [otherNew]
    · exact fun row member _ => ⟨row, (rows row).mpr (Or.inl member), rfl, rfl⟩
    · rw [users]
      intro user member verified
      obtain ⟨row, present, found⟩ := consistent.badge.honest user member verified
      exact ⟨row, (rows row).mpr (Or.inl present), found⟩
    · rw [users]
      intro user member found
      exact (consistent.badge.granted user member (approved user.id found)).imp_right
        (marks user.id)

theorem rules_badge_iff {userId : String} {isVerified : Bool}
    (verifications : after.verifications = state.verifications)
    (users : after.users = (state.setVerified userId isVerified).users)
    (proper : isVerified = true → Approved state.verifications userId)
    (marks : ∀ other, other ≠ userId → other ∈ marking state.requests →
      other ∈ marking after.requests) :
    BadgeRules state after ↔
      ∀ user ∈ state.users, user.id = userId → Approved state.verifications user.id →
        isVerified = true ∨ user.id ∈ marking after.requests := by
  constructor
  · intro rules user member own approved
    have updated : { user with isVerified := isVerified } ∈ after.users := by
      rw [users]
      exact List.mem_map.mpr ⟨user, member, if_pos own⟩
    exact rules.badge.granted _ updated (verifications ▸ approved)
  · intro granted
    have origin : ∀ user ∈ after.users, ∃ earlier ∈ state.users, earlier.id = user.id ∧
        (user.id = userId ∧ user.isVerified = isVerified ∨ user.id ≠ userId ∧ user = earlier) := by
      intro user member
      rw [users] at member
      obtain ⟨earlier, present, same⟩ := List.mem_map.mp member
      split at same
      · rename_i own
        subst same
        exact ⟨earlier, present, rfl, Or.inl ⟨own, rfl⟩⟩
      · rename_i other
        subst same
        exact ⟨earlier, present, rfl, Or.inr ⟨other, rfl⟩⟩
    refine ⟨?_, ?_, ?_, ?_⟩
    · rw [verifications]
      exact consistent.single
    · rw [verifications]
      exact fun row member _ => ⟨row, member, rfl, rfl⟩
    · rw [verifications]
      intro user member verified
      obtain ⟨earlier, present, sameId, found⟩ := origin user member
      cases found with
      | inl own => exact own.1 ▸ proper (own.2.symm.trans verified)
      | inr other =>
          rw [other.2] at verified ⊢
          exact consistent.badge.honest earlier present verified
    · rw [verifications]
      intro user member approved
      obtain ⟨earlier, present, sameId, found⟩ := origin user member
      cases found with
      | inl own =>
          rw [own.2, ← sameId]
          rw [← sameId] at approved own
          exact granted earlier present own.1 approved
      | inr other =>
          rw [other.2] at approved ⊢
          exact (consistent.badge.granted earlier present approved).imp_right
            (marks earlier.id (other.2 ▸ other.1))

end

end Writes

/-! ### One call -/

section Calls

variable {protocolOf : String → Option String} {state : VerificationState} {index now : Nat}
  {drawn : String} {call : VerificationCall} {answer : VerificationState × VerificationCall}

theorem orRefused_holds (holds : VerificationCall → Prop) {checks : Except AppError VerificationCall}
    (refused : ∀ failure, holds (.refused failure)) (passed : ∀ next, checks = .ok next → holds next) :
    holds (orRefused checks) := by
  cases checks with
  | error failure => exact refused failure
  | ok next => exact passed next rfl

/-- The rows that a call reads or writes, and the call that comes of them. -/
structure Answered (state : VerificationState) (answer : VerificationState × VerificationCall) :
    Prop where
  requests : answer.1.requests = state.requests
  ids : (answer.1.verifications.map ArtistVerification.id).Nodup
  owners : OwnersKept state.verifications answer.1.verifications
  sound : CallSound answer.1.verifications answer.2

section

variable (consistent : Consistent state)
include consistent

theorem Answered.unwritten {next : VerificationCall} (sound : CallSound state.verifications next) :
    Answered state (state, next) :=
  ⟨rfl, consistent.ids, ownersKept_refl, sound⟩

theorem saveResubmitted_overwrites {copy : ArtistVerification} {form : ApplicationForm}
    (owned : Owned state.verifications copy) :
    ∃ stored, stored.id = copy.id ∧ Overwrites state.verifications
      (state.verifications.map fun row => if row.id = copy.id then resubmitted copy form row else row)
      stored (resubmitted copy form stored) := by
  obtain ⟨stored, present, sameId, sameUser⟩ := owned
  have saves := overwrites_map consistent.ids present (resubmitted copy form)
    (fun _ => sameId.symm) fun _ => sameUser.symm
  rw [sameId] at saves
  exact ⟨stored, sameId, saves⟩

theorem saveDecision_overwrites {copy : ArtistVerification}
    (owned : Owned state.verifications copy) :
    ∃ stored, stored.id = copy.id ∧ Overwrites state.verifications
      (saveRow ArtistVerification.id copy state.verifications) stored copy := by
  obtain ⟨stored, present, sameId, sameUser⟩ := owned
  have saves := overwrites_map consistent.ids present (fun _ => copy)
    (fun _ => sameId.symm) fun _ => sameUser.symm
  rw [sameId] at saves
  exact ⟨stored, sameId, saves⟩

theorem perform_answered (sound : CallSound state.verifications call)
    (answered : performVerification protocolOf state now drawn call = some answer) :
    Answered state answer := by
  cases call with
  | findUser userId application =>
      cases answered
      apply Answered.unwritten consistent
      split
      · trivial
      · apply orRefused_holds (CallSound state.verifications) fun _ => trivial
        intro next checked
        obtain ⟨form, _, same⟩ := ok_of_bind checked
        cases same
        trivial
  | findApproved userId form =>
      cases answered
      apply Answered.unwritten consistent
      split
      · trivial
      · trivial
  | findPending userId form =>
      cases answered
      apply Answered.unwritten consistent
      split
      · rename_i pending found
        have chosen := List.find?_some found
        exact ⟨(of_decide_eq_true chosen).2, pending, List.mem_of_find?_eq_some found, rfl, rfl⟩
      · trivial
  | saveResubmitted copy form =>
      cases answered
      obtain ⟨stored, _, saves⟩ := @saveResubmitted_overwrites state consistent copy form sound.2
      exact ⟨rfl, saves.keys ▸ consistent.ids, saves.owners consistent.ids, trivial⟩
  | insertApplication userId form =>
      obtain ⟨fresh, same⟩ := Option.ite_none_left_eq_some.mp answered
      cases same
      refine ⟨rfl, ?_, ?_, trivial⟩
      · rw [List.map_append]
        apply consistent.ids.append (List.nodup_singleton _)
        intro id stored single
        cases List.mem_singleton.mp single
        exact fresh stored
      · exact fun row member => ⟨row, List.mem_append_left _ member, rfl, rfl⟩
  | findForReview verificationId adminId decision =>
      cases answered
      apply Answered.unwritten consistent
      unfold reviewCall
      split
      · trivial
      · rename_i verification found
        split
        · trivial
        · have present := (findRow_mem found).1
          cases decision with
          | approve => exact ⟨rfl, verification, present, rfl, rfl⟩
          | reject reason => exact ⟨rfl, verification, present, rfl, rfl⟩
  | saveDecision copy decision =>
      cases answered
      obtain ⟨stored, _, saves⟩ := saveDecision_overwrites consistent sound.2
      refine ⟨rfl, saves.keys ▸ consistent.ids, saves.owners consistent.ids, ?_⟩
      cases decision with
      | approve => exact ⟨copy, (saves.rows copy).mpr (Or.inl rfl), rfl, sound.1⟩
      | reject reason => trivial
  | markVerified saved | clearVerified saved =>
      cases answered
      exact ⟨rfl, consistent.ids, ownersKept_refl, trivial⟩
  | findOtherApproved saved =>
      cases answered
      apply Answered.unwritten consistent
      split
      · trivial
      · trivial
  | answered | refused | thrown => cases answered

theorem perform_rules_iff (present : state.requests[index]? = some call)
    (answered : performVerification protocolOf state now drawn call = some answer) :
    BadgeRules state (answer.1.place index answer.2) ↔
      FindsGuarded state (state.requests.eraseIdx index) drawn call := by
  have sound := consistent.sound call (List.mem_of_getElem? present)
  have marksPlaced : ∀ next userId, userId ∈ marking (state.requests.set index next) ↔
      next.marks = some userId ∨ userId ∈ marking (state.requests.eraseIdx index) :=
    fun next userId => marking_placed present
  have kept : ∀ next, call.marks = none → ∀ userId ∈ marking state.requests,
      userId ∈ marking (state.requests.set index next) := by
    intro next unmarked userId member
    rw [marking_present present, unmarked] at member
    exact (marksPlaced next userId).mpr (Or.inr (member.resolve_left fun none => nomatch none))
  have reads : ∀ next, call.marks = none → BadgeRules state (state.place index next) :=
    fun next unmarked => rules_unwritten consistent rfl rfl (kept next unmarked)
  cases call with
  | findUser | findApproved | findPending | findForReview | findOtherApproved =>
      cases answered
      exact iff_of_true (reads _ rfl) trivial
  | saveResubmitted copy form =>
      cases answered
      obtain ⟨stored, named, saves⟩ := @saveResubmitted_overwrites state consistent copy form sound.2
      have pending : (resubmitted copy form stored).status = .pending := sound.1
      refine Iff.trans (rules_saved_iff consistent saves rfl (kept _ rfl) ?_) ?_
      · intro approved
        cases pending.symm.trans approved
      · rw [pending]
        constructor
        · intro settled row member own
          have isStored := List.inj_on_of_nodup_map consistent.ids member saves.present
            (own.trans named.symm)
          rw [isStored]
          exact settled.elim id Eq.symm
        · exact fun guarded => Or.inl (guarded stored saves.present named)
  | insertApplication userId form =>
      obtain ⟨fresh, same⟩ := Option.ite_none_left_eq_some.mp answered
      cases same
      have added := @rules_inserted_iff state
        { state with
          verifications := state.verifications ++ [newApplication userId form drawn]
          requests := state.requests.set index (.answered (newApplication userId form drawn)) }
        consistent _ fresh rfl rfl rfl (kept _ rfl)
      exact added.trans ⟨fun guarded _ => guarded, fun guarded => guarded fresh⟩
  | saveDecision copy decision =>
      cases answered
      obtain ⟨stored, named, saves⟩ := saveDecision_overwrites consistent sound.2
      have settle : ∀ next : VerificationCall,
          (copy.status = .approved → next.marks = some copy.userId) →
          (BadgeRules state
              { state with
                verifications := saveRow ArtistVerification.id copy state.verifications
                requests := state.requests.set index next } ↔
            FindsGuarded state (state.requests.eraseIdx index) drawn
              (.saveDecision copy decision)) := by
        intro next gives
        have marked : copy.status = .approved →
            copy.userId ∈ marking (state.requests.set index next) :=
          fun approved => (marksPlaced next _).mpr (Or.inl (gives approved))
        refine Iff.trans (rules_saved_iff consistent saves rfl (kept next rfl) marked) ?_
        constructor
        · intro settled row member own
          have isStored := List.inj_on_of_nodup_map consistent.ids member saves.present
            (own.trans named.symm)
          rw [isStored]
          exact settled.imp_right Eq.symm
        · exact fun guarded => (guarded stored saves.present named).imp_right Eq.symm
      cases decision with
      | approve => exact settle _ fun _ => rfl
      | reject reason => exact settle _ fun approved => nomatch sound.1.symm.trans approved
  | markVerified saved =>
      cases answered
      have others : ∀ other, other ≠ saved.userId → other ∈ marking state.requests →
          other ∈ marking (state.requests.set index (.answered saved)) := by
        intro other different member
        apply (marksPlaced _ _).mpr
        cases (marking_present present).mp member with
        | inl own => exact absurd (Option.some_inj.mp own).symm different
        | inr elsewhere => exact Or.inr elsewhere
      refine iff_of_true ?_ trivial
      refine Iff.mpr (rules_badge_iff consistent rfl rfl (fun _ => sound) others) ?_
      exact fun _ _ _ _ => Or.inl rfl
  | clearVerified saved =>
      cases answered
      refine Iff.trans (rules_badge_iff consistent rfl rfl (fun impossible => nomatch impossible)
        fun other _ member => kept (.answered saved) rfl other member) ?_
      constructor
      · intro granted user member own approved
        have marked := (granted user member own approved).resolve_left Bool.false_ne_true
        exact ((marksPlaced _ _).mp marked).resolve_left fun none => nomatch none
      · intro guarded user member own approved
        exact Or.inr ((marksPlaced _ _).mpr (Or.inr (guarded user member own approved)))
  | answered | refused | thrown => cases answered

theorem fail_rules_iff (present : state.requests[index]? = some call) {next : VerificationCall}
    (failed : failVerification call = some next) :
    BadgeRules state (state.place index next) ↔
      MayFail state (state.requests.eraseIdx index) call := by
  have thrown : next = .thrown := by
    unfold failVerification at failed
    split at failed
    · cases failed
    · cases failed
    · cases failed
    · exact (Option.some_inj.mp failed).symm
  subst thrown
  have marksPlaced : ∀ userId, userId ∈ marking (state.requests.set index .thrown) ↔
      userId ∈ marking (state.requests.eraseIdx index) := by
    intro userId
    rw [marking_placed present]
    exact or_iff_right fun none => nomatch none
  have kept : call.marks = none → BadgeRules state (state.place index .thrown) := by
    intro unmarked
    refine rules_unwritten consistent rfl rfl ?_
    intro userId member
    rw [marking_present present, unmarked] at member
    exact (marksPlaced userId).mpr (member.resolve_left fun none => nomatch none)
  cases call with
  | findUser | findApproved | findPending | saveResubmitted | insertApplication | findForReview
  | saveDecision | findOtherApproved | clearVerified => exact iff_of_true (kept rfl) trivial
  | answered | refused | thrown => cases failed
  | markVerified saved =>
      have approved : Approved state.verifications saved.userId :=
        consistent.sound _ (List.mem_of_getElem? present)
      constructor
      · intro rules user member own
        exact (rules.badge.granted user member (own ▸ approved)).imp_right (marksPlaced user.id).mp
      · intro mayFail
        refine ⟨consistent.single, fun row member _ => ⟨row, member, rfl, rfl⟩,
          consistent.badge.honest, ?_⟩
        intro user member found
        by_cases own : user.id = saved.userId
        · exact (mayFail user member own).imp_right (marksPlaced user.id).mpr
        · cases consistent.badge.granted user member found with
          | inl verified => exact Or.inl verified
          | inr waits =>
              rw [marking_present present] at waits
              have elsewhere := waits.resolve_left fun same => own (Option.some_inj.mp same).symm
              exact Or.inr ((marksPlaced user.id).mpr elsewhere)

end

end Calls

/-! ### The law over runs -/

section Runs

variable {protocolOf : String → Option String} {state after : VerificationState}
  {label : VerificationStep}

theorem first_plain (operation : VerificationOperation) (verifications : List ArtistVerification) :
    operation.first.marks = none ∧ CallSound verifications operation.first := by
  cases operation with
  | applyForVerification userId application =>
      apply orRefused_holds (fun call => call.marks = none ∧ CallSound verifications call)
      · exact fun _ => ⟨rfl, trivial⟩
      · intro next checked
        obtain ⟨_, _, same⟩ := ok_of_bind checked
        cases same
        exact ⟨rfl, trivial⟩
  | approveVerification verificationId adminId =>
      apply orRefused_holds (fun call => call.marks = none ∧ CallSound verifications call)
      · exact fun _ => ⟨rfl, trivial⟩
      · intro next checked
        obtain ⟨_, _, same⟩ := ok_of_bind checked
        cases same
        exact ⟨rfl, trivial⟩
  | rejectVerification verificationId adminId reason =>
      apply orRefused_holds (fun call => call.marks = none ∧ CallSound verifications call)
      · exact fun _ => ⟨rfl, trivial⟩
      · intro next checked
        obtain ⟨_, _, checked⟩ := ok_of_bind checked
        obtain ⟨_, _, same⟩ := ok_of_bind checked
        cases same
        exact ⟨rfl, trivial⟩

theorem lawful_iff_guarded (consistent : Consistent state) :
    Lawful protocolOf state label ↔ Guarded state label := by
  unfold Lawful
  cases label with
  | begin operation =>
      refine iff_of_true ?_ trivial
      intro after moved
      cases moved
      refine rules_unwritten consistent rfl rfl ?_
      intro userId member
      obtain ⟨call, listed, marks⟩ := mem_marking.mp member
      exact mem_marking.mpr ⟨call, List.mem_append_left _ listed, marks⟩
  | step index now drawn =>
      constructor
      · intro lawful call present
        cases answered : performVerification protocolOf state now drawn call with
        | some answer =>
            apply (perform_rules_iff consistent present answered).mp
            apply lawful
            change (state.requests[index]?.bind fun call =>
              (performVerification protocolOf state now drawn call).map _) = _
            rw [present, Option.bind_some, answered, Option.map_some]
        | none =>
            cases call with
            | insertApplication userId form =>
                intro fresh
                have refused := ite_eq_left_iff.mp answered fresh
                cases refused
            | answered | refused | thrown => trivial
            | findUser | findApproved | findPending | saveResubmitted | findForReview
            | saveDecision | markVerified | findOtherApproved | clearVerified => cases answered
      · intro guarded after moved
        obtain ⟨call, present, moved⟩ := Option.bind_eq_some_iff.mp moved
        obtain ⟨answer, answered, same⟩ := Option.map_eq_some_iff.mp moved
        subst same
        exact (perform_rules_iff consistent present answered).mpr (guarded call present)
  | fails index =>
      constructor
      · intro lawful call present
        cases failed : failVerification call with
        | some next =>
            apply (fail_rules_iff consistent present failed).mp
            apply lawful
            change (state.requests[index]?.bind fun call => (failVerification call).map _) = _
            rw [present, Option.bind_some, failed, Option.map_some]
        | none =>
            cases call with
            | answered | refused | thrown => trivial
            | findUser | findApproved | findPending | saveResubmitted | insertApplication
            | findForReview | saveDecision | markVerified | findOtherApproved | clearVerified =>
                cases failed
      · intro guarded after moved
        obtain ⟨call, present, moved⟩ := Option.bind_eq_some_iff.mp moved
        obtain ⟨next, failed, same⟩ := Option.map_eq_some_iff.mp moved
        subst same
        exact (fail_rules_iff consistent present failed).mpr (guarded call present)

theorem Consistent.stepped (consistent : Consistent state) (rules : BadgeRules state after)
    (moved : verificationStep protocolOf state label = some after) : Consistent after := by
  cases label with
  | begin operation =>
      cases moved
      refine ⟨consistent.ids, rules.single, rules.badge, ?_⟩
      intro call member
      cases List.mem_append.mp member with
      | inl earlier => exact consistent.sound call earlier
      | inr new =>
          cases List.mem_singleton.mp new
          exact (first_plain operation _).2
  | step index now drawn =>
      obtain ⟨call, present, moved⟩ := Option.bind_eq_some_iff.mp moved
      obtain ⟨answer, answered, same⟩ := Option.map_eq_some_iff.mp moved
      subst same
      have sound := consistent.sound call (List.mem_of_getElem? present)
      have done := perform_answered consistent sound answered
      refine ⟨done.ids, rules.single, rules.badge, ?_⟩
      intro other member
      change other ∈ answer.1.requests.set index answer.2 at member
      rw [done.requests] at member
      cases (mem_placed present other).mp member with
      | inl new => exact new ▸ done.sound
      | inr elsewhere =>
          have earlier := (mem_of_present present other).mpr (Or.inr elsewhere)
          exact (consistent.sound other earlier).later done.owners rules.decisions done.ids
  | fails index =>
      obtain ⟨call, present, moved⟩ := Option.bind_eq_some_iff.mp moved
      obtain ⟨next, failed, same⟩ := Option.map_eq_some_iff.mp moved
      subst same
      refine ⟨consistent.ids, rules.single, rules.badge, ?_⟩
      intro other member
      cases (mem_placed present other).mp member with
      | inr elsewhere =>
          exact consistent.sound other ((mem_of_present present other).mpr (Or.inr elsewhere))
      | inl new =>
          subst new
          unfold failVerification at failed
          split at failed
          · cases failed
          · cases failed
          · cases failed
          · cases failed
            trivial

theorem AtRest.consistent (rest : AtRest state) : Consistent state := by
  refine ⟨rest.ids, rest.single, rest.badge, ?_⟩
  intro call member
  rw [rest.idle] at member
  cases member

/-- In a run from a platform at rest the badge shows the approvals, no artist has two pending
applications and decisions stay, exactly if every call that writes finds what its guard found
and no badge is left to be given. -/
theorem verificationMachine_lawful_iff (protocolOf : String → Option String)
    (state : VerificationState) (rest : AtRest state) (labels : List VerificationStep) :
    (verificationMachine protocolOf).Permits (Lawful protocolOf) state labels ↔
      (verificationMachine protocolOf).Permits Guarded state labels := by
  apply Machine.permits_iff Consistent (fun _ => True) _ _ labels rest.consistent fun _ _ => trivial
  · intro before label consistent _
    exact lawful_iff_guarded consistent
  · intro before label after consistent _ lawful moved
    exact consistent.stepped (lawful after moved) moved

end Runs

/-! An artist who applies, and the reviews of the application. -/

def artistId : String := "3f2b8c1a-9d4e-4f6a-8b7c-0d1e2f3a4b5c"

def applicationId : String := "7a6b5c4d-3e2f-4a1b-9c8d-7e6f5a4b3c2d"

def unverified : VerificationState :=
  { users := [⟨artistId, .artist, false⟩], verifications := [], requests := [] }

theorem unverified_atRest : AtRest unverified := by
  refine ⟨rfl, List.nodup_nil, fun _ member => absurd member List.not_mem_nil, ?_, ?_⟩
  · intro user member verified
    cases List.mem_singleton.mp member
    cases verified
  · intro user member approved
    obtain ⟨row, listed, _⟩ := approved
    exact absurd listed List.not_mem_nil

def httpsLinks (_ : String) : Option String := some "https:"

def applies : List VerificationStep :=
  [.begin (.applyForVerification artistId
      ⟨"Intro Artist", ["https://social.example/intro"], ["https://music.example/intro"], none⟩),
    .step 0 1 applicationId, .step 0 1 applicationId, .step 0 1 applicationId,
    .step 0 1 applicationId]

def approves : VerificationStep := .begin (.approveVerification applicationId "admin1")

theorem unverified_approved :
    (verificationMachine httpsLinks).Permits (Lawful httpsLinks) unverified
        (applies ++ [approves, .step 1 2 "", .step 1 2 "", .step 1 2 ""]) ∧
      ((verificationMachine httpsLinks).run unverified
        (applies ++ [approves, .step 1 2 "", .step 1 2 "", .step 1 2 ""])).map
          VerificationState.users = some [⟨artistId, .artist, true⟩] := by
  constructor
  · apply (verificationMachine_lawful_iff httpsLinks unverified unverified_atRest _).mpr
    decide +kernel
  · decide +kernel

def bothLoaded : List VerificationStep :=
  applies ++ [approves,
    .begin (.rejectVerification applicationId "admin2" (some "Links of another artist")),
    .step 1 2 "", .step 2 2 "", .step 1 2 "", .step 1 2 ""]

def statuses (state : VerificationState) : List VerificationStatus :=
  state.verifications.map ArtistVerification.status

/-- The other one saves a rejection over the approval. -/
theorem unverified_decided_twice :
    AtRest unverified ∧
      ¬(verificationMachine httpsLinks).Permits (Lawful httpsLinks) unverified
        (bothLoaded ++ [.step 2 2 ""]) := by
  refine ⟨unverified_atRest, ?_⟩
  intro permitted
  have twice : ((verificationMachine httpsLinks).run unverified bothLoaded).bind (fun state =>
      (verificationStep httpsLinks state (.step 2 2 "")).map fun after =>
        (statuses state, statuses after)) = some ([.approved], [.rejected]) := by decide +kernel
  obtain ⟨state, executed, last⟩ := Option.bind_eq_some_iff.mp twice
  obtain ⟨after, moved, both⟩ := Option.map_eq_some_iff.mp last
  have rules := (Machine.Permits.later permitted executed).1 after moved
  obtain ⟨row, isOnly, approved⟩ := List.map_eq_singleton_iff.mp (congrArg Prod.fst both)
  have isDecided : row.status ≠ .pending := by
    rw [approved]
    exact VerificationStatus.noConfusion
  obtain ⟨later, member, _, same⟩ :=
    rules.decisions row (isOnly ▸ List.mem_singleton_self row) isDecided
  have rejected : later.status ∈ statuses after := List.mem_map_of_mem member
  rw [show statuses after = [.rejected] from congrArg Prod.snd both, same, approved] at rejected
  cases List.mem_singleton.mp rejected

end AudioBlock.Artists
