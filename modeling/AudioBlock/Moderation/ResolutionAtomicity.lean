/-
When the resolutions of one report leave all or nothing.

While the report is pending nothing has been written.  Once one resolution has been saved, the
content is still to be written by that call alone, or has been.
-/
import AudioBlock.Moderation.ReportResolution

namespace AudioBlock.Moderation

open AudioBlock.Foundation AudioBlock.Songs

variable {Report Content Action : Type} (service : ResolutionService Report Content Action)

def applied (reports : List Report) (contents : List Content) (report : Report)
    (resolution : Resolution Action) (time : Nat) : List Content :=
  if service.reads resolution.action then
    match findRow service.contentId (service.reportedId report) contents with
    | none => contents
    | some content =>
        let stillPending :=
          if service.counts resolution.action then
            service.countPending reports (service.reportedId report) else 0
        match service.outcome resolution stillPending time content with
        | none => contents
        | some changed => storeRow service.contentId changed contents
  else contents

/-- The report is still pending and nothing has been written, or exactly one resolution has been
stored and applied. -/
def Settled (start : ResolutionState Report Content Action) (report : Report)
    (state : ResolutionState Report Content Action) : Prop :=
  state.reports = start.reports ∧ state.contents = start.contents ∧ state.taken = [] ∨
    ∃ one time, state.taken = [one] ∧
      state.reports = storeRow service.reportId (service.settled report one) start.reports ∧
      state.contents = applied service state.reports start.contents report one time

def Guarded (state : ResolutionState Report Content Action) : ResolutionLabel → Prop
  | .resolveReport _ _ => True
  | .step index _ fails =>
      ∀ call ∈ state.calls[index]?,
        match call, fails with
        | .saveReport report _, none =>
            ∀ row, findRow service.reportId (service.reportId report) state.reports = some row →
              service.pending row = true
        | .findContent report resolution, some _
        | .countPending report resolution _, some _
        | .saveContent report resolution _, some _ =>
            ∃ time, applied service state.reports state.contents report resolution time =
              state.contents
        | _, _ => True

def RunSettles (allowed : ResolutionState Report Content Action → ResolutionLabel → Prop)
    (reportId : String) (labels : List ResolutionLabel) : Prop :=
  ∀ start report, (resolutionMachine service reportId).initial start →
    findRow service.reportId reportId start.reports = some report →
    service.pending report = true →
    ∀ after, (resolutionMachine service reportId).Permits allowed start labels →
      (resolutionMachine service reportId).run start labels = some after →
      (∀ call ∈ after.calls, call.finished = true) → Settled service start report after

def Settles (allowed : ResolutionState Report Content Action → ResolutionLabel → Prop) : Prop :=
  ∀ reportId labels, RunSettles service allowed reportId labels

/-! ### Where a run stands -/

def Aside (report : Report) : ResolveCall Report Content Action → Prop
  | .saveReport loaded _ => loaded = report
  | .findContent _ _ | .countPending _ _ _ | .saveContent _ _ _ => False
  | .findReport _ _ _ | .createLogEntry _ _ | .ended _ | .thrown _ => True

def Applying (start : ResolutionState Report Content Action) (report : Report)
    (one : Resolution Action) : ResolveCall Report Content Action → Prop
  | .findContent loaded resolution =>
      loaded = service.settled report one ∧ resolution = one ∧ service.reads one.action = true
  | .countPending loaded resolution content =>
      loaded = service.settled report one ∧ resolution = one ∧ service.reads one.action = true ∧
        findRow service.contentId (service.reportedId report) start.contents = some content ∧
          service.counts one.action = true
  | .saveContent loaded resolution changed =>
      loaded = service.settled report one ∧ resolution = one ∧
        ∃ time, applied service
            (storeRow service.reportId (service.settled report one) start.reports) start.contents
            report one time =
          storeRow service.contentId changed start.contents
  | _ => False

inductive Stage (start : ResolutionState Report Content Action) (report : Report) :
    ResolutionState Report Content Action → Prop
  | untouched {state : ResolutionState Report Content Action}
      (reports : state.reports = start.reports) (contents : state.contents = start.contents)
      (taken : state.taken = []) (others : ∀ call ∈ state.calls, Aside report call) :
      Stage start report state
  | applying {state : ResolutionState Report Content Action} {one : Resolution Action}
      {index : Nat} {call : ResolveCall Report Content Action}
      (reports : state.reports =
        storeRow service.reportId (service.settled report one) start.reports)
      (contents : state.contents = start.contents) (taken : state.taken = [one])
      (present : state.calls[index]? = some call) (own : Applying service start report one call)
      (others : ∀ (other : Nat) call, state.calls[other]? = some call → other ≠ index →
        Aside report call) :
      Stage start report state
  | done {state : ResolutionState Report Content Action} {one : Resolution Action} {time : Nat}
      (reports : state.reports =
        storeRow service.reportId (service.settled report one) start.reports)
      (contents : state.contents = applied service state.reports start.contents report one time)
      (taken : state.taken = [one]) (others : ∀ call ∈ state.calls, Aside report call) :
      Stage start report state

variable {service} {start : ResolutionState Report Content Action} {report : Report}

theorem Aside.finish (saved : Report) (resolution : Resolution Action) :
    Aside report (service.finish saved resolution) := by
  unfold ResolutionService.finish
  cases service.audit <;> exact trivial

variable {one : Resolution Action} {call : ResolveCall Report Content Action}
  {state : ResolutionState Report Content Action} {reports : List Report} {contents : List Content}
  {resolution : Resolution Action} {reportId : String}
  {after : ResolutionState Report Content Action} {now : Nat}
  {next : ResolveCall Report Content Action} {index : Nat}

theorem Aside.not_applying (aside : Aside report call) :
    ¬ Applying service start report one call := by
  cases call with
  | findContent _ _ | countPending _ _ _ | saveContent _ _ _ => exact fun _own => aside
  | findReport _ _ _ | saveReport _ _ | createLogEntry _ _ | ended _ | thrown _ => exact id

theorem Stage.settled (stage : Stage service start report state)
    (quiet : ∀ call ∈ state.calls, call.finished = true) : Settled service start report state := by
  cases stage with
  | untouched reports contents taken _others => exact Or.inl ⟨reports, contents, taken⟩
  | @applying one index call _reports _contents _taken present own _others =>
      exfalso
      have ended := quiet call (List.mem_of_getElem? present)
      cases call with
      | ended _ | thrown _ => exact own
      | _ => cases ended
  | done reports contents taken _others => exact Or.inr ⟨_, _, taken, reports, contents⟩

/-! ### What a call does -/

theorem applied_settled (reports : List Report) (contents : List Content)
    (one resolution : Resolution Action) (time : Nat) :
    applied service reports contents (service.settled report one) resolution time =
      applied service reports contents report resolution time := by
  unfold applied
  rw [service.settled_reportedId]

theorem applied_unread (unread : service.reads resolution.action = false) (time : Nat) :
    applied service reports contents report resolution time = contents := by
  unfold applied
  rw [unread]
  rfl

theorem applied_missing
    (missing : findRow service.contentId (service.reportedId report) contents = none)
    (resolution : Resolution Action) (time : Nat) :
    applied service reports contents report resolution time = contents := by
  unfold applied
  rw [missing]
  split <;> rfl

theorem decide_applies (reports : List Report) {content : Content}
    (reads : service.reads resolution.action = true)
    (found : findRow service.contentId (service.reportedId report) contents = some content)
    {stillPending : Nat}
    (counted : stillPending =
      if service.counts resolution.action then
        service.countPending reports (service.reportedId report) else 0) (saved : Report)
    (now : Nat) :
    service.decide saved resolution content stillPending now = service.finish saved resolution ∧
        applied service reports contents report resolution now = contents ∨
      ∃ changed, service.decide saved resolution content stillPending now =
          .saveContent saved resolution changed ∧
        applied service reports contents report resolution now =
          storeRow service.contentId changed contents := by
  unfold ResolutionService.decide applied
  rw [if_pos reads, found, counted]
  dsimp only
  cases service.outcome resolution _ now content with
  | none => exact Or.inl ⟨rfl, rfl⟩
  | some changed => exact Or.inr ⟨changed, rfl, rfl⟩

theorem aside_answer
    (read : ∀ row, findRow service.reportId reportId state.reports = some row →
      service.pending row = true → row = report) (aside : Aside report call)
    (answered : performResolve service reportId state now call = some (after, next)) :
    (∃ resolution, call = .saveReport report resolution) ∨
      after.reports = state.reports ∧ after.contents = state.contents ∧
        after.taken = state.taken ∧ after.calls = state.calls ∧ Aside report next := by
  cases call with
  | findReport moderatorId action note =>
      right
      unfold performResolve at answered
      cases found : findRow service.reportId reportId state.reports with
      | none =>
          rw [found] at answered
          cases answered
          exact ⟨rfl, rfl, rfl, rfl, trivial⟩
      | some row =>
          rw [found] at answered
          dsimp only at answered
          by_cases pending : service.pending row = true
          · rw [if_pos pending] at answered
            cases answered
            exact ⟨rfl, rfl, rfl, rfl, read row found pending⟩
          · rw [if_neg pending] at answered
            cases answered
            exact ⟨rfl, rfl, rfl, rfl, trivial⟩
  | saveReport loaded resolution =>
      left
      have same : loaded = report := aside
      exact ⟨resolution, by rw [same]⟩
  | findContent _ _ | countPending _ _ _ | saveContent _ _ _ => exact aside.elim
  | createLogEntry _ _ =>
      cases answered
      exact Or.inr ⟨rfl, rfl, rfl, rfl, trivial⟩
  | ended _ | thrown _ => cases answered

/-! ### The step -/

theorem Stage.place (stage : Stage service start report state)
    (present : state.calls[index]? = some call) (aside : Aside report call)
    (goes : Aside report next) (reports : after.reports = state.reports)
    (contents : after.contents = state.contents) (taken : after.taken = state.taken)
    (calls : after.calls = state.calls.set index next) :
    Stage service start report after := by
  have all : (∀ call ∈ state.calls, Aside report call) →
      ∀ call ∈ after.calls, Aside report call := by
    intro others call member
    rw [calls] at member
    rcases List.mem_or_eq_of_mem_set member with before | same
    · exact others call before
    · rw [same]
      exact goes
  cases stage with
  | untouched reports' contents' taken' others =>
      exact .untouched (reports.trans reports') (contents.trans contents') (taken.trans taken')
        (all others)
  | @applying one owner owning reports' contents' taken' present' own others =>
      have apart : index ≠ owner := by
        intro same
        rw [same, present'] at present
        cases present
        exact aside.not_applying own
      have stays : after.calls[owner]? = some owning := by
        rw [calls, List.getElem?_set_ne apart]
        exact present'
      refine .applying (reports.trans reports') (contents.trans contents') (taken.trans taken')
        stays own ?_
      intro other call found different
      rw [calls, List.getElem?_set] at found
      split at found
      · split at found
        · cases found
          exact goes
        · cases found
      · exact others other call found different
  | @done one time reports' contents' taken' others =>
      have kept : after.contents =
          applied service after.reports start.contents report one time := by
        rw [contents, reports]
        exact contents'
      exact .done (reports.trans reports') kept (taken.trans taken') (all others)

theorem Stage.submit (stage : Stage service start report state) (aside : Aside report call) :
    Stage service start report { state with calls := state.calls ++ [call] } := by
  have all : (∀ call ∈ state.calls, Aside report call) →
      ∀ other ∈ state.calls ++ [call], Aside report other := by
    intro others other member
    rcases List.mem_append.mp member with before | same
    · exact others other before
    · rw [List.mem_singleton.mp same]
      exact aside
  cases stage with
  | untouched reports contents taken others => exact .untouched reports contents taken (all others)
  | @applying one owner owning reports contents taken present own others =>
      have stays : (state.calls ++ [call])[owner]? = some owning := by
        rw [List.getElem?_append_left (List.getElem?_eq_some_iff.mp present).1]
        exact present
      refine .applying reports contents taken stays own ?_
      intro other call' found different
      rw [List.getElem?_append] at found
      split at found
      · exact others other call' found different
      · rw [List.mem_singleton.mp (List.mem_of_getElem? found)]
        exact aside
  | done reports contents taken others => exact .done reports contents taken (all others)

theorem applying_answer
    (reports : state.reports =
      storeRow service.reportId (service.settled report one) start.reports)
    (contents : state.contents = start.contents) (own : Applying service start report one call)
    (answered : performResolve service reportId state now call = some (after, next)) :
    after.reports = state.reports ∧ after.taken = state.taken ∧ after.calls = state.calls ∧
      (after.contents = start.contents ∧ Applying service start report one next ∨
        Aside report next ∧ ∃ time,
          after.contents = applied service state.reports start.contents report one time) := by
  cases call with
  | findContent loaded resolution =>
      obtain ⟨saved, same, reads⟩ := own
      subst saved same
      cases answered
      refine ⟨rfl, rfl, rfl, ?_⟩
      rw [service.settled_reportedId, contents]
      cases found : findRow service.contentId (service.reportedId report) start.contents with
      | none => exact Or.inr ⟨Aside.finish _ _, now, (applied_missing found resolution now).symm⟩
      | some content =>
          dsimp only
          by_cases counts : service.counts resolution.action = true
          · rw [if_pos counts]
            exact Or.inl ⟨rfl, rfl, rfl, reads, found, counts⟩
          · rw [if_neg counts]
            rcases decide_applies state.reports reads found (if_neg counts).symm
              (service.settled report resolution) now with ⟨ends, same⟩ | ⟨changed, goes, writes⟩
            · rw [ends]
              exact Or.inr ⟨Aside.finish _ _, now, same.symm⟩
            · rw [goes]
              exact Or.inl ⟨rfl, rfl, rfl, now, reports ▸ writes⟩
  | countPending loaded resolution content =>
      obtain ⟨saved, same, reads, found, counts⟩ := own
      subst saved same
      cases answered
      refine ⟨rfl, rfl, rfl, ?_⟩
      rw [service.settled_reportedId, contents]
      rcases decide_applies state.reports reads found (if_pos counts).symm
        (service.settled report resolution) now with ⟨ends, same⟩ | ⟨changed, goes, writes⟩
      · rw [ends]
        exact Or.inr ⟨Aside.finish _ _, now, same.symm⟩
      · rw [goes]
        exact Or.inl ⟨rfl, rfl, rfl, now, reports ▸ writes⟩
  | saveContent loaded resolution changed =>
      obtain ⟨saved, same, time, writes⟩ := own
      cases answered
      refine ⟨rfl, rfl, rfl, Or.inr ⟨Aside.finish _ _, time, ?_⟩⟩
      rw [reports, writes, contents]
  | findReport _ _ _ | saveReport _ _ | createLogEntry _ _ | ended _ | thrown _ => exact own.elim

section

variable (stage : Stage service start report state)
include stage

theorem Stage.read (found : findRow service.reportId reportId start.reports = some report)
    {row : Report} (read : findRow service.reportId reportId state.reports = some row)
    (pending : service.pending row = true) : row = report ∧ state.taken = [] := by
  have named := (findRow_mem found).2
  have stored : ∀ one : Resolution Action, state.reports =
      storeRow service.reportId (service.settled report one) start.reports → False := by
    intro one reports
    have own : findRow service.reportId (service.reportId (service.settled report one))
        (storeRow service.reportId (service.settled report one) start.reports) =
          some (service.settled report one) := findRow_storeRow _ _
    rw [service.settled_id, named, ← reports, read] at own
    rw [Option.some.inj own, service.settled_pending] at pending
    cases pending
  cases stage with
  | untouched reports _contents taken _others =>
      rw [reports, found] at read
      exact ⟨(Option.some.inj read).symm, taken⟩
  | applying reports _contents _taken _present _own _others => exact (stored _ reports).elim
  | done reports _contents _taken _others => exact (stored _ reports).elim

theorem Stage.stored (found : findRow service.reportId reportId start.reports = some report) :
    ∃ row, findRow service.reportId reportId state.reports = some row := by
  have named := (findRow_mem found).2
  have saved : ∀ one : Resolution Action, findRow service.reportId reportId
      (storeRow service.reportId (service.settled report one) start.reports) =
        some (service.settled report one) := by
    intro one
    have own : findRow service.reportId (service.reportId (service.settled report one))
        (storeRow service.reportId (service.settled report one) start.reports) =
          some (service.settled report one) := findRow_storeRow _ _
    rw [service.settled_id, named] at own
    exact own
  cases stage with
  | untouched reports _contents _taken _others => exact ⟨report, by rw [reports, found]⟩
  | @applying one _index _call reports _contents _taken _present _own _others =>
      exact ⟨_, reports ▸ saved one⟩
  | @done one _time reports _contents _taken _others => exact ⟨_, reports ▸ saved one⟩

theorem Stage.owner (present : state.calls[index]? = some call) (notAside : ¬ Aside report call) :
    ∃ one, state.reports = storeRow service.reportId (service.settled report one) start.reports ∧
      state.contents = start.contents ∧ state.taken = [one] ∧
        Applying service start report one call ∧
          ∀ (other : Nat) call, state.calls[other]? = some call → other ≠ index →
            Aside report call := by
  cases stage with
  | untouched _reports _contents _taken others =>
      exact absurd (others call (List.mem_of_getElem? present)) notAside
  | done _reports _contents _taken others =>
      exact absurd (others call (List.mem_of_getElem? present)) notAside
  | @applying one owner owning reports contents taken present' own others =>
      have same : index = owner := by
        by_contra different
        exact notAside (others index call present different)
      subst same
      rw [present] at present'
      cases present'
      exact ⟨one, reports, contents, taken, own, others⟩

theorem Stage.save (present : state.calls[index]? = some (.saveReport report resolution))
    (taken : state.taken = [])
    (answered : performResolve service reportId state now (.saveReport report resolution) =
      some (after, next)) :
    Stage service start report { after with calls := after.calls.set index next } := by
  cases stage with
  | applying _reports _contents taken' _present _own _others =>
      rw [taken] at taken'
      cases taken'
  | done _reports _contents taken' _others =>
      rw [taken] at taken'
      cases taken'
  | untouched reports contents _taken others =>
      cases answered
      have inside := (List.getElem?_eq_some_iff.mp present).1
      have saved : storeRow service.reportId (service.settled report resolution) state.reports =
          storeRow service.reportId (service.settled report resolution) start.reports := by
        rw [reports]
      by_cases reads : service.reads resolution.action = true
      · rw [if_pos reads]
        have owns : (state.calls.set index (.findContent (service.settled report resolution)
            resolution))[index]? = some (.findContent (service.settled report resolution)
              resolution) := List.getElem?_set_self inside
        refine .applying saved contents (by rw [taken]; rfl) owns ⟨rfl, rfl, reads⟩ ?_
        intro other call found different
        rw [List.getElem?_set_ne (Ne.symm different)] at found
        exact others call (List.mem_of_getElem? found)
      · rw [if_neg reads]
        have kept : state.contents = applied service
            (storeRow service.reportId (service.settled report resolution) state.reports)
            start.contents report resolution now := by
          rw [applied_unread (Bool.eq_false_iff.mpr reads), contents]
        refine .done saved kept (by rw [taken]; rfl) ?_
        intro call member
        rcases List.mem_or_eq_of_mem_set member with before | same
        · exact others call before
        · rw [same]
          exact Aside.finish _ _

end

theorem others_placed
    (others : ∀ (other : Nat) call, state.calls[other]? = some call → other ≠ index →
      Aside report call) (goes : Aside report next) :
    ∀ call ∈ state.calls.set index next, Aside report call := by
  intro call member
  obtain ⟨other, inside, same⟩ := List.mem_iff_getElem.mp member
  have found : (state.calls.set index next)[other]? = some call :=
    List.getElem?_eq_some_iff.mpr ⟨inside, same⟩
  rw [List.getElem?_set] at found
  split at found
  · split at found
    · cases found
      exact goes
    · cases found
  · rename_i different
    exact others other call found (Ne.symm different)

section

variable (stage : Stage service start report state) (present : state.calls[index]? = some call)
  (notAside : ¬ Aside report call)
include stage present notAside

theorem Stage.apply_step
    (answered : performResolve service reportId state now call = some (after, next)) :
    Stage service start report { after with calls := after.calls.set index next } := by
  obtain ⟨one, reports, contents, taken, own, others⟩ := stage.owner present notAside
  obtain ⟨reports', taken', calls, goes⟩ := applying_answer reports contents own answered
  rcases goes with ⟨contents', owns⟩ | ⟨aside, time, contents'⟩
  · have inside := (List.getElem?_eq_some_iff.mp present).1
    have stays : (after.calls.set index next)[index]? = some next := by
      rw [calls]
      exact List.getElem?_set_self inside
    refine .applying (reports'.trans reports) contents' (taken'.trans taken) stays owns ?_
    intro other call' found different
    rw [List.getElem?_set_ne (Ne.symm different), calls] at found
    exact others other call' found different
  · have kept : after.contents =
        applied service after.reports start.contents report one time := by
      rw [reports']
      exact contents'
    refine .done (reports'.trans reports) kept (taken'.trans taken) ?_
    rw [calls]
    exact others_placed others aside

theorem Stage.apply_fails {error : AppError}
    (guard : ∀ loaded resolution, (∃ one, Applying service start report one call ∧
        loaded = service.settled report one ∧ resolution = one) →
      ∃ time, applied service state.reports state.contents loaded resolution time =
        state.contents) :
    Stage service start report { state with calls := state.calls.set index (.thrown error) } := by
  obtain ⟨one, reports, contents, taken, own, others⟩ := stage.owner present notAside
  obtain ⟨time, same⟩ := guard _ _ ⟨one, own, rfl, rfl⟩
  rw [applied_settled, contents] at same
  exact .done reports (contents.trans same.symm) taken (others_placed others trivial)

end

theorem stage_step {label : ResolutionLabel}
    (found : findRow service.reportId reportId start.reports = some report)
    (stage : Stage service start report state) (permitted : Guarded service state label)
    (moved : (resolutionMachine service reportId).step state label = some after) :
    Stage service start report after := by
  have named := (findRow_mem found).2
  cases label with
  | resolveReport moderatorId input =>
      cases moved
      refine stage.submit ?_
      cases service.parseAction input.actionTaken <;> exact trivial
  | step index now fails =>
      obtain ⟨call, present, performed⟩ := Option.bind_eq_some_iff.mp moved
      obtain ⟨⟨state', next⟩, answered, same⟩ := Option.map_eq_some_iff.mp performed
      have guard := permitted call present
      subst same
      by_cases aside : Aside report call
      · cases fails with
        | some error =>
            have thrown : Aside report (.thrown error : ResolveCall Report Content Action) :=
              trivial
            exact stage.place present aside thrown rfl rfl rfl rfl
        | none =>
            rcases aside_answer (fun row read pending => (stage.read found read pending).1) aside
              answered with ⟨resolution, saves⟩ | ⟨reports, contents, taken, calls, goes⟩
            · subst saves
              obtain ⟨row, read⟩ := stage.stored found
              have pending := guard row (named ▸ read)
              exact stage.save present (stage.read found read pending).2 answered
            · exact stage.place present aside goes reports contents taken (by rw [calls])
      · cases fails with
        | none => exact stage.apply_step present aside answered
        | some error =>
            refine stage.apply_fails present aside ?_
            rintro loaded resolution ⟨one, own, rfl, rfl⟩
            cases call with
            | findContent saved decided =>
                obtain ⟨same, again, _reads⟩ := own
                subst same again
                exact guard
            | countPending saved decided content =>
                obtain ⟨same, again, _more⟩ := own
                subst same again
                exact guard
            | saveContent saved decided changed =>
                obtain ⟨same, again, _more⟩ := own
                subst same again
                exact guard
            | findReport _ _ _ | saveReport _ _ | createLogEntry _ _ | ended _ | thrown _ =>
                exact own.elim

theorem settles_guarded (service : ResolutionService Report Content Action) :
    Settles service (Guarded service) := by
  intro reportId labels start report begins found _pending after permitted ran quiet
  have stage : Stage service start report start := by
    refine .untouched rfl rfl begins.2 ?_
    rw [begins.1]
    exact fun call member => (List.not_mem_nil member).elim
  refine Stage.settled ?_ quiet
  exact Machine.run_preserves (Stage service start report)
    (fun before label next holds allowed moved => stage_step found holds allowed moved) labels stage
    permitted ran

/-- The resolutions of a report on a song or on a comment leave all or nothing, and one action
takes effect, if no report is saved over a resolved one and no call about the content is
rejected that would have changed it. -/
theorem resolveReport_settles (reportId : String) (labels : List ResolutionLabel) :
    RunSettles songReports (Guarded songReports) reportId labels ∧
      RunSettles commentReports (Guarded commentReports) reportId labels :=
  ⟨settles_guarded songReports reportId labels, settles_guarded commentReports reportId labels⟩

/-! ### Runs that leave a part -/

def pendingSongReport : ContentReport :=
  { id := "r", songId := "s", reporterId := "u", reason := .spam, description := none
    status := .pending, actionTaken := none, resolvedBy := none, resolvedAt := none
    resolutionNote := none, aiConsent := false }

def songDesk : ResolutionState ContentReport Song ReportAction :=
  { reports := [pendingSongReport], contents := [Song.uploaded "s" "a" "t"], logs := [], calls := []
    taken := [] }

def songSaveFails : List ResolutionLabel :=
  [.resolveReport "m" { actionTaken := "song_flagged", resolutionNote := none }, .step 0 1 none,
    .step 0 2 none, .step 0 3 none, .step 0 4 (some (.plain "Connection terminated"))]

def pendingCommentReport : CommentReport :=
  { id := "r", commentId := "c", reporterId := "u", reason := .spam, description := none
    status := .pending, actionTaken := none, resolvedBy := none, resolvedAt := none
    resolutionNote := none }

def commentDesk : ResolutionState CommentReport Comment CommentReportAction :=
  { reports := [pendingCommentReport], contents := [], logs := [], calls := [], taken := [] }

def twoModerators : List ResolutionLabel :=
  [.resolveReport "m" { actionTaken := "dismissed", resolutionNote := none },
    .resolveReport "n" { actionTaken := "no_action", resolutionNote := none },
    .step 0 1 none, .step 1 2 none, .step 0 3 none, .step 1 4 none]

theorem resolutions_leave_parts :
    ¬Settles songReports (fun _ _ => True) ∧ ¬Settles commentReports (fun _ _ => True) := by
  constructor
  · intro settles
    have seen : ((resolutionMachine songReports "r").run songDesk songSaveFails).map
        (fun state => (state.taken.map (·.action), state.contents.map Song.flagged,
          state.calls.map ResolveCall.finished)) = some ([.songFlagged], [false], [true]) := by
      decide +kernel
    obtain ⟨after, ran, shown⟩ := Option.map_eq_some_iff.mp seen
    obtain ⟨taken, rest⟩ := Prod.mk.inj shown
    obtain ⟨contents, finished⟩ := Prod.mk.inj rest
    have quiet : ∀ call ∈ after.calls, call.finished = true := by
      intro call member
      have listed := List.mem_map_of_mem (f := ResolveCall.finished) member
      rw [finished] at listed
      exact List.mem_singleton.mp listed
    rcases settles "r" songSaveFails songDesk pendingSongReport ⟨rfl, rfl⟩ rfl rfl after
      (Machine.permits_always _ _ _) ran quiet with ⟨_reports, _same, none⟩ |
        ⟨one, time, whole, _reports, stored⟩
    · rw [none] at taken
      cases taken
    · rw [whole] at taken
      have flags : one.action = .songFlagged := (List.cons.inj taken).1
      have written : applied songReports after.reports songDesk.contents pendingSongReport one time =
          [flaggedSong (Song.uploaded "s" "a" "t") one.moderatorId time
            (some ("Content report resolution: " ++ one.action.text))] := by
        unfold applied
        simp only [songReports, songOutcome, flags]
        rfl
      rw [stored, written] at contents
      cases contents
  · intro settles
    have seen : ((resolutionMachine commentReports "r").run commentDesk twoModerators).map
        (fun state => (state.taken.length, state.calls.map ResolveCall.finished)) =
          some (2, [true, true]) := by
      decide +kernel
    obtain ⟨after, ran, shown⟩ := Option.map_eq_some_iff.mp seen
    obtain ⟨taken, finished⟩ := Prod.mk.inj shown
    have quiet : ∀ call ∈ after.calls, call.finished = true := by
      intro call member
      have listed := List.mem_map_of_mem (f := ResolveCall.finished) member
      rw [finished] at listed
      simpa using listed
    rcases settles "r" twoModerators commentDesk pendingCommentReport ⟨rfl, rfl⟩ rfl rfl after
      (Machine.permits_always _ _ _) ran quiet with ⟨_reports, _same, none⟩ |
        ⟨one, _time, whole, _reports, _stored⟩
    · rw [none] at taken
      cases taken
    · rw [whole] at taken
      cases taken

end AudioBlock.Moderation
