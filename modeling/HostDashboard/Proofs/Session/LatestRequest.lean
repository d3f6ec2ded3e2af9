/-
**The latest request wins, whatever the order of arrival.**

Two runs make the same requests of a session, in the same order: edits, and refreshes that begin. The
refreshes of both runs bring the same data, but they come back at other moments. Both runs end alike,
except for the page.

* `SameControl` is what the requests alone decide: the state in the link, the sidebar and the generation.
  A result that comes back leaves it alone (`SameControl.completeRefresh`), and every request carries it
  on (`SameControl.edit`, `SameControl.beginRefresh`);
* `UpToDate` is what the results decide: once the refresh that began last has come back, the session shows
  its data. No older result can change that, because its generation is not the current one
  (`UpToDate.completeRefresh`), and the requests keep it so (`UpToDate.edit`, `UpToDate.beginRefresh`);
* `latest_request_wins` puts both together.
-/

import HostDashboard.Proofs.Session.Desk

namespace HostDashboard

namespace Session

/-- The step is a result that comes back. -/
def Step.isDelivery : Step → Bool
  | .completeRefresh .. => true
  | .completeMore .. => true
  | _ => false

def Step.isContinuation : Step → Bool
  | .beginMore => true
  | .completeMore .. => true
  | _ => false

/-- The requests among some steps. -/
def requests (steps : List Step) : List Step := steps.filter fun step => !step.isDelivery

/-- What the `apply` edits among some steps report, in order. -/
def applyReports (session : Session) : List Step → List Bool
  | [] => []
  | .edit .apply :: rest => session.apply.2 :: (session.edit .apply).applyReports rest
  | step :: rest => (session.after step).applyReports rest

theorem applyReports_edit (session : Session) (edit : Edit) (rest : List Step) :
    session.applyReports (.edit edit :: rest) =
      (if edit = .apply then [session.apply.2] else []) ++ (session.edit edit).applyReports rest := by
  cases edit <;> simp only [applyReports, after, reduceCtorEq, if_true, if_false, List.nil_append,
    List.cons_append]

theorem requests_cons_request {step : Step} (request : step.isDelivery = false) (rest : List Step) :
    requests (step :: rest) = step :: requests rest :=
  List.filter_cons_of_pos (by rw [request]; rfl)

theorem requests_cons_delivery {step : Step} (delivery : step.isDelivery = true)
    (rest : List Step) : requests (step :: rest) = requests rest :=
  List.filter_cons_of_neg (by rw [delivery]; decide)

/-- The session shows some data: it holds them, and the load states and the number of items are
theirs. -/
def Shows (session : Session) (data : Data) : Prop :=
  session.data = data ∧ session.status = data.status ∧ session.pager.total = data.hosts.length

/-- A run of requests from which every refresh comes back, exactly once, with the answer to its
generation. -/
structure AnsweredRun (start : Session) (answers : Nat → Data) (steps : List Step) : Prop where
  plain : ∀ step ∈ steps, step.isContinuation = false
  orderly : ({ session := start } : Desk).Orderly steps
  answered : ∀ ticket data, .completeRefresh ticket data ∈ steps → data = answers ticket.generation
  complete : (({ session := start } : Desk).run steps).refreshes = []

/-! ### What the requests decide -/

/-- Two sessions agree on what the requests decide. -/
structure SameControl (first second : Session) : Prop where
  navigation : first.navigation = second.navigation
  panel : first.panel = second.panel
  generation : first.generation = second.generation

namespace SameControl

variable {first second : Session} (same : SameControl first second)

include same

theorem apply_report : first.apply.2 = second.apply.2 := by
  unfold Session.apply
  rw [same.panel, same.navigation]

theorem edit (edit : Edit) : SameControl (first.edit edit) (second.edit edit) := by
  have generation : (first.edit edit).generation = (second.edit edit).generation := by
    rw [edit_generation, edit_generation, same.generation]
  cases edit with
  | submitQuery typed =>
    refine ⟨?_, ?_, generation⟩
    · dsimp only [Session.edit, submitQuery]
      rw [same.navigation]
    · dsimp only [Session.edit, submitQuery]
      rw [same.panel]
  | navigate navigation => exact ⟨rfl, rfl, generation⟩
  | toggle category value =>
    exact ⟨same.navigation, congrArg (·.toggle category value) same.panel, generation⟩
  | discard => exact ⟨same.navigation, congrArg Panel.discard same.panel, generation⟩
  | apply =>
    refine ⟨?_, ?_, generation⟩
    · show (first.panel.apply first.navigation).2.1 = (second.panel.apply second.navigation).2.1
      rw [same.panel, same.navigation]
    · show (first.panel.apply first.navigation).1 = (second.panel.apply second.navigation).1
      rw [same.panel, same.navigation]
  | goTo page => exact ⟨same.navigation, same.panel, generation⟩

theorem beginRefresh : SameControl first.beginRefresh.1 second.beginRefresh.1 :=
  ⟨same.navigation, same.panel, congrArg (· + 1) same.generation⟩

/-- A result that comes back to one of the sessions changes nothing of this. -/
theorem completeRefresh (generation : Nat) (data : Data) :
    SameControl (first.completeRefresh generation data).1 second := by
  by_cases current : generation = first.generation
  · subst current
    rw [completeRefresh_current]
    exact ⟨same.navigation, same.panel, same.generation⟩
  · rw [completeRefresh_stale first current]
    exact same

/-- **A run with deliveries agrees with the run of its requests alone**, and the reports of `apply` are
the same. -/
theorem run_requests {steps : List Step} (plain : ∀ step ∈ steps, step.isContinuation = false) :
    SameControl (first.run steps) (second.run (requests steps)) ∧
      first.applyReports steps = second.applyReports (requests steps) := by
  induction steps generalizing first second with
  | nil => exact ⟨same, rfl⟩
  | cons step rest ih =>
    have plainRest : ∀ step ∈ rest, step.isContinuation = false :=
      fun step member => plain step (List.mem_cons_of_mem _ member)
    cases step with
    | edit edit =>
      obtain ⟨control, reports⟩ := ih (same.edit edit) plainRest
      rw [requests_cons_request rfl, run_cons, run_cons, applyReports_edit, applyReports_edit, reports]
      refine ⟨control, ?_⟩
      split
      · rw [same.apply_report]
      · rfl
    | beginRefresh =>
      rw [requests_cons_request rfl]
      exact ih same.beginRefresh plainRest
    | completeRefresh ticket data =>
      rw [requests_cons_delivery rfl]
      exact ih (same.completeRefresh ticket.generation data) plainRest
    | beginMore => exact absurd (plain .beginMore List.mem_cons_self) nofun
    | completeMore ticket batch =>
      exact absurd (plain (.completeMore ticket batch) List.mem_cons_self) nofun

end SameControl

/-! ### What the results decide -/

/-- As long as no refresh has begun, the session holds what it held at the start; after that, and with
the latest refresh back, it shows the answer to it. -/
structure UpToDate (start : Session) (answers : Nat → Data) (desk : Desk) : Prop where
  grown : start.generation ≤ desk.session.generation
  later : ∀ ticket ∈ desk.refreshes, start.generation < ticket.generation
  untouched : desk.session.generation = start.generation →
    desk.session.data = start.data ∧ desk.session.status = start.status ∧
      desk.session.pager.total = start.pager.total
  answered : start.generation < desk.session.generation →
    (∀ ticket ∈ desk.refreshes, ticket.generation ≠ desk.session.generation) →
      desk.session.Shows (answers desk.session.generation)

namespace UpToDate

variable {start : Session} {answers : Nat → Data} {desk : Desk}

theorem initial (start : Session) (answers : Nat → Data) :
    UpToDate start answers { session := start } where
  grown := Nat.le_refl _
  later := fun _ member => absurd member List.not_mem_nil
  untouched := fun _ => ⟨rfl, rfl, rfl⟩
  answered := fun later => absurd later (Nat.lt_irrefl _)

variable (upToDate : UpToDate start answers desk)

include upToDate

theorem edit (edit : Edit) : UpToDate start answers (desk.after (.edit edit)) := by
  show UpToDate start answers { desk with session := desk.session.edit edit }
  refine ⟨?_, upToDate.later, ?_, ?_⟩
  · rw [edit_generation]
    exact upToDate.grown
  · rw [edit_generation, edit_data, edit_status, edit_total]
    exact upToDate.untouched
  · unfold Shows
    rw [edit_generation, edit_data, edit_status, edit_total]
    exact upToDate.answered

/-- A refresh that begins is out, and nothing is promised until it is back. -/
theorem beginRefresh : UpToDate start answers (desk.after .beginRefresh) := by
  have grown := upToDate.grown
  have generation : (desk.after .beginRefresh).session.generation = desk.session.generation + 1 := rfl
  refine ⟨?_, ?_, ?_, ?_⟩
  · rw [generation]
    omega
  · intro ticket member
    rcases List.mem_append.mp member with old | new
    · exact upToDate.later ticket old
    · rw [List.mem_singleton.mp new]
      show start.generation < desk.session.generation + 1
      omega
  · intro same
    rw [generation] at same
    omega
  · intro _ noneOut
    exact absurd rfl (noneOut desk.session.beginRefresh.2
      (List.mem_append.mpr (.inr List.mem_cons_self)))

/-- **A refresh that comes back**: the latest is shown, an older one changes nothing. -/
theorem completeRefresh {ticket : RefreshTicket} (out : ticket ∈ desk.refreshes) :
    UpToDate start answers
      (desk.after (.completeRefresh ticket (answers ticket.generation))) := by
  have later : ∀ other ∈ desk.refreshes.erase ticket, start.generation < other.generation :=
    fun other member => upToDate.later other (List.mem_of_mem_erase member)
  by_cases current : ticket.generation = desk.session.generation
  · have after : (desk.after (.completeRefresh ticket (answers ticket.generation))).session =
        (desk.session.completeRefresh desk.session.generation
          (answers desk.session.generation)).1 := by
      rw [← current]
      rfl
    rw [completeRefresh_current] at after
    have began : start.generation < desk.session.generation := current ▸ upToDate.later ticket out
    refine ⟨?_, later, ?_, ?_⟩
    · rw [after]
      exact upToDate.grown
    · rw [after]
      exact fun same => absurd same (Nat.ne_of_gt began)
    · rw [after]
      exact fun _ _ => ⟨rfl, rfl, Pager.total_sync _ _⟩
  · have after : (desk.after (.completeRefresh ticket (answers ticket.generation))).session =
        desk.session := by
      show (desk.session.completeRefresh ticket.generation _).1 = _
      rw [completeRefresh_stale desk.session current]
    refine ⟨?_, later, ?_, ?_⟩
    · rw [after]
      exact upToDate.grown
    · rw [after]
      exact upToDate.untouched
    · rw [after]
      intro began noneOut
      refine upToDate.answered began fun other member => ?_
      by_cases same : other = ticket
      · rw [same]
        exact current
      · exact noneOut other ((List.mem_erase_of_ne same).mpr member)

end UpToDate

/-- After an answered run the results have decided. -/
theorem AnsweredRun.upToDate {start : Session} {answers : Nat → Data} {steps : List Step}
    (run : AnsweredRun start answers steps) :
    UpToDate start answers (({ session := start } : Desk).run steps) := by
  refine run.orderly.induction (UpToDate.initial start answers) fun desk step member upToDate allowed => ?_
  cases step with
  | edit edit => exact upToDate.edit edit
  | beginRefresh => exact upToDate.beginRefresh
  | completeRefresh ticket data =>
    rw [run.answered ticket data member]
    exact upToDate.completeRefresh allowed
  | beginMore => exact absurd (run.plain _ member) nofun
  | completeMore ticket batch => exact absurd (run.plain _ member) nofun

/-- What an answered run ends with: the answer to its last refresh, or what there was at the start if
there was no refresh. -/
theorem AnsweredRun.outcome {start : Session} {answers : Nat → Data} {steps : List Step}
    (run : AnsweredRun start answers steps) :
    (begun steps = 0 → (start.run steps).data = start.data ∧
        (start.run steps).status = start.status ∧
          (start.run steps).pager.total = start.pager.total) ∧
      (0 < begun steps → (start.run steps).Shows (answers (start.generation + begun steps))) := by
  have upToDate := run.upToDate
  have session : (({ session := start } : Desk).run steps).session = start.run steps :=
    Desk.run_session _ _
  have generation : (start.run steps).generation = start.generation + begun steps :=
    start.run_generation steps
  have noneOut := run.complete
  constructor
  · intro none
    rw [← session]
    refine upToDate.untouched ?_
    rw [session, generation, none, Nat.add_zero]
  · intro some
    have shows := upToDate.answered (by rw [session, generation]; omega) fun ticket member => by
      rw [noneOut] at member
      cases member
    rw [session, generation] at shows
    exact shows

/-- **The latest request wins.** Two answered runs from one session that make the same requests in the
same order, with the same answers, end with the same state in the link, the same sidebar, data, load
states, generation and number of items, and every `apply` reported the same. If a refresh began at all,
the data shown are those of the one that began last. -/
theorem latest_request_wins {start : Session} {answers : Nat → Data} {first second : List Step}
    (one : AnsweredRun start answers first) (two : AnsweredRun start answers second)
    (same : requests first = requests second) :
    (start.run first).navigation = (start.run second).navigation ∧
      (start.run first).panel = (start.run second).panel ∧
      (start.run first).data = (start.run second).data ∧
      (start.run first).status = (start.run second).status ∧
      (start.run first).generation = (start.run second).generation ∧
      (start.run first).pager.total = (start.run second).pager.total ∧
      start.applyReports first = start.applyReports second ∧
      (0 < begun first → (start.run first).Shows (answers (start.generation + begun first))) := by
  have refl : SameControl start start := ⟨rfl, rfl, rfl⟩
  -- both runs are compared with the run of their requests, in which nothing comes back
  obtain ⟨controlOne, reportsOne⟩ := refl.run_requests one.plain
  obtain ⟨controlTwo, reportsTwo⟩ := refl.run_requests two.plain
  rw [← same] at controlTwo reportsTwo
  have generation : (start.run first).generation = (start.run second).generation :=
    controlOne.generation.trans controlTwo.generation.symm
  have equallyBegun : begun first = begun second := by
    rw [run_generation, run_generation] at generation
    omega
  have results : (start.run first).data = (start.run second).data ∧
      (start.run first).status = (start.run second).status ∧
      (start.run first).pager.total = (start.run second).pager.total := by
    rcases Nat.eq_zero_or_pos (begun first) with none | some
    · obtain ⟨data, status, total⟩ := one.outcome.1 none
      obtain ⟨data', status', total'⟩ := two.outcome.1 (equallyBegun ▸ none)
      exact ⟨data.trans data'.symm, status.trans status'.symm, total.trans total'.symm⟩
    · obtain ⟨data, status, total⟩ := one.outcome.2 some
      obtain ⟨data', status', total'⟩ := two.outcome.2 (equallyBegun ▸ some)
      rw [← equallyBegun] at data' status' total'
      exact ⟨data.trans data'.symm, status.trans status'.symm, total.trans total'.symm⟩
  exact ⟨controlOne.navigation.trans controlTwo.navigation.symm,
    controlOne.panel.trans controlTwo.panel.symm, results.1, results.2.1, generation, results.2.2,
    reportsOne.trans reportsTwo.symm, one.outcome.2⟩

def lateRun : List Step :=
  [.edit (.toggle .countries "France"), .beginRefresh, .edit .apply, .beginRefresh,
    .completeRefresh ⟨2, { selections := { countries := ["France"] } }⟩ { nextPageToken := some "b" },
    .completeRefresh ⟨1, {}⟩ { error := some "down" }, .edit .apply]

/-- The same requests; the first refresh comes back at once. -/
def promptRun : List Step :=
  [.edit (.toggle .countries "France"), .beginRefresh, .completeRefresh ⟨1, {}⟩ { error := some "down" },
    .edit .apply, .beginRefresh, .edit .apply,
    .completeRefresh ⟨2, { selections := { countries := ["France"] } }⟩ { nextPageToken := some "b" }]

def twoAnswers (generation : Nat) : Data :=
  if generation = 1 then { error := some "down" } else { nextPageToken := some "b" }

theorem latest_request_wins_late :
    AnsweredRun (.openAt {}) twoAnswers lateRun ∧ AnsweredRun (.openAt {}) twoAnswers promptRun ∧
      requests lateRun = requests promptRun ∧
      ((Session.openAt {}).run lateRun).data = ((Session.openAt {}).run promptRun).data ∧
      ((Session.openAt {}).run lateRun).Shows (twoAnswers 2) := by
  have late : AnsweredRun (.openAt {}) twoAnswers lateRun := by
    refine ⟨by decide, by decide, ?_, by decide⟩
    simp only [lateRun, List.mem_cons, reduceCtorEq, Step.completeRefresh.injEq, List.not_mem_nil,
      or_false, false_or]
    rintro ticket data (⟨rfl, rfl⟩ | ⟨rfl, rfl⟩) <;> rfl
  have prompt : AnsweredRun (.openAt {}) twoAnswers promptRun := by
    refine ⟨by decide, by decide, ?_, by decide⟩
    simp only [promptRun, List.mem_cons, reduceCtorEq, Step.completeRefresh.injEq, List.not_mem_nil,
      or_false, false_or]
    rintro ticket data (⟨rfl, rfl⟩ | ⟨rfl, rfl⟩) <;> rfl
  obtain ⟨_, _, data, _, _, _, _, shows⟩ := latest_request_wins late prompt rfl
  exact ⟨late, prompt, rfl, data, shows (by decide)⟩

end Session

end HostDashboard
