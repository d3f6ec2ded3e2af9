/-
**The steps of a session.**

Whatever happens to a session happens in steps, each of them one locked moment: the user edits, a
refresh or a continuation begins, or one comes back under the ticket that it was handed. A run is any
list of steps, in any order. Generations are counted without bound, as by a counter that never comes to
its end.

* `Session.after` is the session after a step, `Session.run` after all the steps of a list;
* `edit_data` and its companions say what no edit touches: what was fetched, how far the loading is, and
  the generation; `after_navigation_panel` says that nothing but an edit touches the state in the link;
* `Committed` ties the sidebar to the state in the link, and every step keeps it;
* `completeRefresh_current`, `completeMore_appended`, `beginMore_eq_some_iff` and their companions are
  the outcomes of the other steps. `Outcome` lists them all and `outcome` says that the list is complete.
  Later proofs use these, and do not open the steps again;
* `run_generation`: the generation counts the refreshes that began.
-/

import HostDashboard.Proofs.Pages.Current
import HostDashboard.Session.Basic

namespace HostDashboard

/-- What the user does to a session. -/
inductive Edit where
  | submitQuery (typed : String)
  | navigate (navigation : Navigation)
  | toggle (category : Category) (value : String)
  | discard
  | apply
  | goTo (page : Int)
  deriving DecidableEq, Repr

namespace Session

/-- One locked moment of a session. -/
inductive Step where
  | edit (edit : Edit)
  | beginRefresh
  /-- The results of a refresh come back under its ticket. -/
  | completeRefresh (ticket : RefreshTicket) (data : Data)
  | beginMore
  /-- A batch, or the failure to get one, comes back under its ticket. -/
  | completeMore (ticket : MoreTicket) (batch : Batch)

def edit (session : Session) : Edit → Session
  | .submitQuery typed => session.submitQuery typed
  | .navigate navigation => session.navigate navigation
  | .toggle category value => session.toggle category value
  | .discard => session.discard
  | .apply => session.apply.1
  | .goTo page => session.goTo page

def after (session : Session) : Step → Session
  | .edit edit => session.edit edit
  | .beginRefresh => session.beginRefresh.1
  | .completeRefresh ticket data => (session.completeRefresh ticket.generation data).1
  | .beginMore => session.beginMore.1
  | .completeMore ticket batch => (session.completeMore ticket batch).1

def run (session : Session) (steps : List Step) : Session := steps.foldl after session

@[simp] theorem run_nil (session : Session) : session.run [] = session := rfl

@[simp] theorem run_cons (session : Session) (step : Step) (rest : List Step) :
    session.run (step :: rest) = (session.after step).run rest := rfl

variable (session : Session)

/-! ### What an edit leaves alone -/

/-- **An edit changes the state in the link, the sidebar and the pages, and nothing else.** -/
theorem edit_eq (edit : Edit) :
    session.edit edit =
      { session with
        navigation := (session.edit edit).navigation
        panel := (session.edit edit).panel
        pager := (session.edit edit).pager } := by
  cases edit with
  | submitQuery typed => dsimp only [Session.edit, submitQuery]
  | _ => rfl

@[simp] theorem edit_data (edit : Edit) : (session.edit edit).data = session.data := by
  rw [edit_eq]

@[simp] theorem edit_status (edit : Edit) : (session.edit edit).status = session.status := by
  rw [edit_eq]

@[simp] theorem edit_generation (edit : Edit) :
    (session.edit edit).generation = session.generation := by
  rw [edit_eq]

@[simp] theorem edit_inFlight (edit : Edit) : (session.edit edit).inFlight = session.inFlight := by
  rw [edit_eq]

/-- An edit may turn the page, but the number of items stays. -/
@[simp] theorem edit_total (edit : Edit) :
    (session.edit edit).pager.total = session.pager.total := by
  cases edit with
  | submitQuery typed => dsimp only [Session.edit, submitQuery, Pager.reset]
  | apply =>
    show (if session.apply.2 then session.pager.reset else session.pager).total = _
    split <;> rfl
  | _ => rfl

/-- An `apply` that reports no change leaves the state in the link as it was. -/
theorem apply_navigation_of_unchanged (unchanged : session.apply.2 = false) :
    session.apply.1.navigation = session.navigation := by
  have same : session.navigation.selections = session.panel.staged := by
    have both : (session.panel.hasPendingChanges
        || decide (session.navigation.selections ≠ session.panel.staged)) = false := unchanged
    rw [Bool.or_eq_false_iff] at both
    exact Classical.not_not.mp (of_decide_eq_false both.2)
  show { session.navigation with selections := session.panel.staged } = session.navigation
  rw [← same]

/-! ### How a refresh ends -/

theorem completeRefresh_current (data : Data) :
    session.completeRefresh session.generation data =
      ({ session with
          status := data.status
          pager := session.pager.sync data.hosts.length
          data }.emit (outcomeEvent session.generation data), true) := by
  unfold completeRefresh
  rw [if_pos rfl]

/-- The results of an older refresh are dropped. -/
theorem completeRefresh_stale {generation : Nat} (stale : generation ≠ session.generation)
    (data : Data) : session.completeRefresh generation data = (session, false) := by
  unfold completeRefresh
  rw [if_neg stale]

/-! ### How a continuation begins and ends -/

/-- **When a continuation is handed out**: nothing is loading, and the results can be continued. Its
ticket holds the state of that moment and the token. -/
theorem beginMore_eq_some_iff (ticket : MoreTicket) :
    session.beginMore.2 = some ticket ↔
      session.status.search ≠ .loading ∧ session.inFlight = none ∧
        session.data.nextPageToken = some ticket.pageToken ∧
          ticket.generation = session.generation ∧ ticket.navigation = session.navigation := by
  unfold beginMore
  by_cases busy : session.status.search = .loading ∨ session.inFlight.isSome
  · rw [if_pos busy]
    simp only [reduceCtorEq, false_iff]
    rintro ⟨notLoading, noneInFlight, _⟩
    rcases busy with loading | inFlight
    · exact notLoading loading
    · rw [noneInFlight] at inFlight
      cases inFlight
  · rw [if_neg busy]
    rw [not_or, Bool.not_eq_true, Option.isSome_eq_false_iff, Option.isNone_iff_eq_none] at busy
    cases token : session.data.nextPageToken with
    | none => simp
    | some pageToken =>
      obtain ⟨generation, navigation, own⟩ := ticket
      simp only [Option.some.injEq, MoreTicket.mk.injEq, busy.1, busy.2, ne_eq, not_false_eq_true,
        true_and]
      constructor
      · rintro ⟨rfl, rfl, rfl⟩
        exact ⟨rfl, rfl, rfl⟩
      · rintro ⟨rfl, rfl, rfl⟩
        exact ⟨rfl, rfl, rfl⟩

theorem beginMore_of_token {pageToken : String} (notLoading : session.status.search ≠ .loading)
    (noneInFlight : session.inFlight = none)
    (token : session.data.nextPageToken = some pageToken) :
    session.beginMore.2 = some ⟨session.generation, session.navigation, pageToken⟩ :=
  (session.beginMore_eq_some_iff _).mpr ⟨notLoading, noneInFlight, token, rfl, rfl⟩

/-- A session that hands out no continuation stays as it is. -/
theorem beginMore_of_none (refused : session.beginMore.2 = none) :
    session.beginMore.1 = session := by
  revert refused
  unfold beginMore
  split
  · exact fun _ => rfl
  · cases session.data.nextPageToken with
    | none => exact fun _ => rfl
    | some pageToken => exact fun refused => by cases refused

/-- A session that hands out a continuation notes its token and is loading hosts. -/
theorem beginMore_of_some {ticket : MoreTicket} (handed : session.beginMore.2 = some ticket) :
    session.beginMore.1 =
      { session with
        inFlight := some ticket.pageToken
        status := { session.status with search := .loading } } := by
  obtain ⟨notLoading, noneInFlight, token, _, _⟩ := (session.beginMore_eq_some_iff ticket).mp handed
  unfold beginMore
  rw [if_neg (by simp [notLoading, noneInFlight]), token]

/-- A batch under another ticket than the one in flight is dropped. -/
theorem completeMore_dropped {ticket : MoreTicket}
    (other : ticket.generation ≠ session.generation ∨ session.inFlight ≠ some ticket.pageToken)
    (batch : Batch) : session.completeMore ticket batch = (session, false) := by
  unfold completeMore
  rw [if_pos other]

section InFlight

variable {ticket : MoreTicket} (current : ticket.generation = session.generation)
  (inFlight : session.inFlight = some ticket.pageToken)

include current inFlight

theorem completeMore_appended (hosts : List Host) (nextPageToken : Option String) :
    session.completeMore ticket (.ok (hosts, nextPageToken)) =
      ({ session with
          inFlight := none
          data := { session.data with hosts := session.data.hosts ++ hosts, nextPageToken }
          status := { session.status with search := .ready }
          pager := session.pager.sync (session.data.hosts ++ hosts).length }.emit
            (.loaded ticket.generation (session.data.hosts ++ hosts).length), true) := by
  unfold completeMore
  rw [if_neg (by simp [current, inFlight])]

/-- The failure of the continuation in flight is noted; what was fetched stays. -/
theorem completeMore_failed (message : String) :
    session.completeMore ticket (.error message) =
      ({ session with
          inFlight := none
          status := { session.status with search := .failed } }.emit
            (.failed ticket.generation message), true) := by
  unfold completeMore
  rw [if_neg (by simp [current, inFlight])]

end InFlight

/-- A batch is taken up exactly under the ticket in flight. -/
theorem completeMore_taken_iff (ticket : MoreTicket) (batch : Batch) :
    (session.completeMore ticket batch).2 = true ↔
      ticket.generation = session.generation ∧ session.inFlight = some ticket.pageToken := by
  by_cases other : ticket.generation ≠ session.generation ∨
      session.inFlight ≠ some ticket.pageToken
  · rw [completeMore_dropped session other]
    simp only [Bool.false_eq_true, false_iff]
    rintro ⟨current, inFlight⟩
    rcases other with stale | different
    · exact stale current
    · exact different inFlight
  · rw [not_or, Classical.not_not, Classical.not_not] at other
    obtain ⟨current, inFlight⟩ := other
    cases batch with
    | ok found =>
      rw [completeMore_appended session current inFlight]
      simp [current, inFlight]
    | error message =>
      rw [completeMore_failed session current inFlight]
      simp [current, inFlight]

/-! ### What a step can do -/

/-- The ways in which a step can turn out, each with the session that it leaves. -/
inductive Outcome (session : Session) : Step → Session → Prop
  | edited (edit : Edit) : Outcome session (.edit edit) (session.edit edit)
  | begun : Outcome session .beginRefresh session.beginRefresh.1
  | applied {ticket : RefreshTicket} (current : ticket.generation = session.generation)
      (data : Data) :
      Outcome session (.completeRefresh ticket data)
        ({ session with
            status := data.status
            pager := session.pager.sync data.hosts.length
            data }.emit (outcomeEvent session.generation data))
  | overtaken {ticket : RefreshTicket} (stale : ticket.generation ≠ session.generation)
      (data : Data) : Outcome session (.completeRefresh ticket data) session
  | refused (none : session.beginMore.2 = none) : Outcome session .beginMore session
  | handed {ticket : MoreTicket} (handed : session.beginMore.2 = some ticket) :
      Outcome session .beginMore
        { session with
          inFlight := some ticket.pageToken
          status := { session.status with search := .loading } }
  | appended {ticket : MoreTicket} (current : ticket.generation = session.generation)
      (inFlight : session.inFlight = some ticket.pageToken)
      (hosts : List Host) (nextPageToken : Option String) :
      Outcome session (.completeMore ticket (.ok (hosts, nextPageToken)))
        ({ session with
            inFlight := Option.none
            data := { session.data with hosts := session.data.hosts ++ hosts, nextPageToken }
            status := { session.status with search := .ready }
            pager := session.pager.sync (session.data.hosts ++ hosts).length }.emit
              (.loaded ticket.generation (session.data.hosts ++ hosts).length))
  | failed {ticket : MoreTicket} (current : ticket.generation = session.generation)
      (inFlight : session.inFlight = some ticket.pageToken) (message : String) :
      Outcome session (.completeMore ticket (.error message))
        ({ session with
            inFlight := Option.none
            status := { session.status with search := .failed } }.emit
              (.failed ticket.generation message))
  | dropped {ticket : MoreTicket}
      (other : ticket.generation ≠ session.generation ∨
        session.inFlight ≠ some ticket.pageToken) (batch : Batch) :
      Outcome session (.completeMore ticket batch) session

/-- **A step turns out in one of these ways.** -/
theorem outcome (step : Step) : session.Outcome step (session.after step) := by
  cases step with
  | edit edit => exact .edited edit
  | beginRefresh => exact .begun
  | completeRefresh ticket data =>
    rw [after]
    by_cases current : ticket.generation = session.generation
    · rw [current, completeRefresh_current]
      exact .applied current data
    · rw [completeRefresh_stale session current]
      exact .overtaken current data
  | beginMore =>
    rw [after]
    cases handed : session.beginMore.2 with
    | none =>
      rw [beginMore_of_none session handed]
      exact .refused handed
    | some ticket =>
      rw [beginMore_of_some session handed]
      exact .handed handed
  | completeMore ticket batch =>
    rw [after]
    by_cases other : ticket.generation ≠ session.generation ∨
        session.inFlight ≠ some ticket.pageToken
    · rw [completeMore_dropped session other]
      exact .dropped other batch
    · rw [not_or, Classical.not_not, Classical.not_not] at other
      obtain ⟨current, inFlight⟩ := other
      cases batch with
      | ok found =>
        rw [completeMore_appended session current inFlight]
        exact .appended current inFlight found.1 found.2
      | error message =>
        rw [completeMore_failed session current inFlight]
        exact .failed current inFlight message

/-! ### Generations -/

def Step.isRefresh : Step → Bool
  | .beginRefresh => true
  | _ => false

/-- How many refreshes begin in some steps. -/
def begun (steps : List Step) : Nat := steps.countP Step.isRefresh

theorem after_generation (step : Step) :
    (session.after step).generation = session.generation + if step.isRefresh then 1 else 0 := by
  have outcome := session.outcome step
  generalize session.after step = next at outcome ⊢
  cases outcome with
  | edited edit => exact edit_generation session edit
  | _ => rfl

/-- **The generation counts the refreshes.** -/
theorem run_generation (steps : List Step) :
    (session.run steps).generation = session.generation + begun steps := by
  induction steps generalizing session with
  | nil => rfl
  | cons step rest ih =>
    rw [run_cons, ih, after_generation, begun, begun, List.countP_cons]
    omega

/-! ### The state in the link and the sidebar -/

/-- **Only an edit changes the state in the link or the sidebar.** -/
theorem after_navigation_panel {step : Step} (noEdit : ∀ edit, step ≠ .edit edit) :
    (session.after step).navigation = session.navigation ∧
      (session.after step).panel = session.panel := by
  have outcome := session.outcome step
  generalize session.after step = next at outcome ⊢
  cases outcome with
  | edited edit => exact absurd rfl (noEdit edit)
  | _ => exact ⟨rfl, rfl⟩

/-- The selections in force in the sidebar are those of the state in the link. -/
def Committed : Prop := session.panel.committed = session.navigation.selections

theorem committed_openAt (navigation : Navigation) : (openAt navigation).Committed := rfl

/-- **Every step keeps the sidebar in line with the link.** -/
theorem Committed.after {session : Session} (committed : session.Committed) (step : Step) :
    (session.after step).Committed := by
  by_cases noEdit : ∀ edit, step ≠ .edit edit
  · obtain ⟨navigation, panel⟩ := session.after_navigation_panel noEdit
    unfold Committed
    rw [navigation, panel]
    exact committed
  · obtain ⟨edit, same⟩ := Classical.not_forall.mp noEdit
    rw [Classical.not_not.mp same]
    cases edit with
    | submitQuery typed =>
      show (session.submitQuery typed).Committed
      unfold Committed
      dsimp only [submitQuery]
      exact committed
    | navigate navigation => rfl
    | toggle category value => exact committed
    | discard => exact committed
    | apply => rfl
    | goTo page => exact committed

end Session

end HostDashboard
