/-
**What the toggles of a session stage.**

As long as a session is not applied, discarded or navigated away, only toggles change what is staged, and the
selections of its state stay those of the link that it was opened at. So a value is staged as often as the
toggles leave of the copies in the link (`count_staged_run`).

A link may name a value more than once, and a toggle takes out one copy only. Then the value is still staged,
though it was toggled away (`twin_stays_staged`). A value that the link names at most once comes and goes with
every toggle, and no other value does (`staged_parity_iff_single`).
-/

import HostDashboard.Proofs.Facets.Toggle
import HostDashboard.Proofs.Session.Step

namespace HostDashboard.Session

/-- The step does not apply what is staged, nor discard it, nor navigate. -/
def Step.LeavesStaged (step : Step) : Prop :=
  step ≠ .edit .apply ∧ step ≠ .edit .discard ∧ ∀ navigation, step ≠ .edit (.navigate navigation)

/-- The user toggles a value of a category in this step. -/
def Step.toggles (category : Category) (value : String) : Step → Bool
  | .edit made => made = .toggle category value
  | _ => false

/-- How often a value of a category is toggled in some steps. -/
def toggled (category : Category) (value : String) (steps : List Step) : Nat :=
  steps.countP (Step.toggles category value)

variable (session : Session)

/-! ### One step -/

theorem selections_after {step : Step} (leaves : step.LeavesStaged) :
    (session.after step).navigation.selections = session.navigation.selections := by
  obtain ⟨noApply, _, noNavigate⟩ := leaves
  have outcome := session.outcome step
  generalize session.after step = next at outcome ⊢
  cases outcome with
  | edited edit =>
    cases edit with
    | submitQuery typed => dsimp only [Session.edit, submitQuery]
    | navigate navigation => exact absurd rfl (noNavigate navigation)
    | apply => exact absurd rfl noApply
    | _ => rfl
  | _ => rfl

/-- **A toggle counts its value anew, and every other step leaves the counts as they are.** -/
theorem count_staged_after {step : Step} (leaves : step.LeavesStaged) (category : Category)
    (value : String) :
    ((session.after step).panel.staged.get category).count value =
      if step.toggles category value
      then Selections.flipped ((session.panel.staged.get category).count value)
      else (session.panel.staged.get category).count value := by
  obtain ⟨noApply, noDiscard, noNavigate⟩ := leaves
  have outcome := session.outcome step
  generalize session.after step = next at outcome ⊢
  cases outcome with
  | edited edit =>
    cases edit with
    | submitQuery typed =>
      dsimp only [Session.edit, submitQuery]
      simp [Step.toggles]
    | navigate navigation => exact absurd rfl (noNavigate navigation)
    | toggle category' value' =>
      show ((session.panel.toggle category' value').staged.get category).count value = _
      rw [Panel.get_staged_toggle]
      by_cases here : category = category'
      · by_cases same : value = value'
        · simp [Step.toggles, here, same, Selections.count_flip]
        · simp [Step.toggles, here, same, Ne.symm same, Selections.count_flip]
      · simp [Step.toggles, here, Ne.symm here]
    | discard => exact absurd rfl noDiscard
    | apply => exact absurd rfl noApply
    | goTo page => rfl
  | _ => rfl

/-! ### Runs -/

theorem selections_run {steps : List Step} (leaves : ∀ step ∈ steps, step.LeavesStaged) :
    (session.run steps).navigation.selections = session.navigation.selections := by
  induction steps generalizing session with
  | nil => rfl
  | cons step rest ih =>
    rw [run_cons, ih _ fun other member => leaves other (List.mem_cons_of_mem _ member),
      selections_after _ (leaves step List.mem_cons_self)]

/-- **A value is staged as often as its toggles leave of the copies.** -/
theorem count_staged_run {steps : List Step} (leaves : ∀ step ∈ steps, step.LeavesStaged)
    (category : Category) (value : String) :
    ((session.run steps).panel.staged.get category).count value =
      Selections.copiesAfter ((session.panel.staged.get category).count value)
        (toggled category value steps) := by
  induction steps generalizing session with
  | nil => exact (Selections.copiesAfter_zero _).symm
  | cons step rest ih =>
    rw [run_cons, ih _ fun other member => leaves other (List.mem_cons_of_mem _ member),
      count_staged_after _ (leaves step List.mem_cons_self), toggled, toggled, List.countP_cons]
    split
    · rw [Selections.copiesAfter_flipped]
    · rfl

/-- A value is toggled any number of times. -/
theorem toggled_replicate (category : Category) (value : String) (flips : Nat) :
    toggled category value (.replicate flips (.edit (.toggle category value))) = flips := by
  simp [toggled, Step.toggles, List.countP_replicate]

/-- **When toggling flips membership.** A session is opened at a link, and then the user toggles and does
anything else but apply, discard or navigate. The selections of the state stay those of the link. A value is
staged in a category just if it was toggled less often than the link names it there, or more often by an odd
number. That it is staged just if one and only one holds, the link names it or it was toggled an odd number of
times, is true of all such runs exactly if the link names it at most once. -/
theorem staged_parity_iff_single (location : String) (category : Category) (value : String) :
    let opened := openAt (.parse location)
    let copies := (opened.navigation.selections.get category).count value
    (∀ steps : List Step, (∀ step ∈ steps, step.LeavesStaged) →
      (opened.run steps).navigation.selections = opened.navigation.selections ∧
      (value ∈ (opened.run steps).panel.staged.get category ↔
        toggled category value steps < copies ∨ Odd (toggled category value steps - copies))) ∧
    ((∀ steps : List Step, (∀ step ∈ steps, step.LeavesStaged) →
      (value ∈ (opened.run steps).panel.staged.get category ↔
        Xor (value ∈ (opened.run steps).navigation.selections.get category)
          (Odd (toggled category value steps)))) ↔ copies ≤ 1) := by
  intro opened copies
  have staged {steps : List Step} (leaves : ∀ step ∈ steps, step.LeavesStaged) :
      value ∈ (opened.run steps).panel.staged.get category ↔
        0 < Selections.copiesAfter copies (toggled category value steps) := by
    rw [← List.count_pos_iff, opened.count_staged_run leaves]
    rfl
  have selected : value ∈ opened.navigation.selections.get category ↔ 0 < copies :=
    List.count_pos_iff.symm
  refine ⟨fun steps leaves => ⟨opened.selections_run leaves, ?_⟩, ?_⟩
  · rw [staged leaves, Selections.copiesAfter_pos_iff]
  · rw [← Selections.parity_iff]
    constructor
    · intro parity flips
      have leaves : ∀ step ∈ List.replicate flips (Step.edit (.toggle category value)),
          step.LeavesStaged := by
        intro step member
        rw [List.eq_of_mem_replicate member]
        exact ⟨nofun, nofun, nofun⟩
      have law := parity _ leaves
      rwa [staged leaves, opened.selections_run leaves, selected, toggled_replicate] at law
    · intro parity steps leaves
      rw [staged leaves, opened.selections_run leaves, selected]
      exact parity (toggled category value steps)

/-- A link that names a service three times. -/
def repeatingLink : String := "?services=ssh,http,ssh&services=ssh"

/-- A service is toggled twice, and between that other things happen. -/
def interruptedRun : List Step :=
  [.edit (.toggle .services "ssh"), .beginRefresh, .edit (.submitQuery "port: 22"),
    .edit (.toggle .countries "ssh"), .edit (.goTo 2), .edit (.toggle .services "ssh")]

/-- One of the three copies is left. -/
theorem staged_parity_iff_single_interrupted :
    (∀ step ∈ interruptedRun, step.LeavesStaged) ∧
      ((Navigation.parse repeatingLink).selections.get .services).count "ssh" = 3 ∧
      toggled .services "ssh" interruptedRun = 2 ∧
      "ssh" ∈ ((openAt (.parse repeatingLink)).run interruptedRun).panel.staged.get .services := by
  have leaves : ∀ step ∈ interruptedRun, step.LeavesStaged := by
    simp [interruptedRun, Step.LeavesStaged]
  have copies : ((Navigation.parse repeatingLink).selections.get .services).count "ssh" = 3 := by
    decide +kernel
  have twice : toggled .services "ssh" interruptedRun = 2 := by decide
  have law := (staged_parity_iff_single repeatingLink .services "ssh").1 interruptedRun leaves
  refine ⟨leaves, copies, twice, law.2.mpr (.inl ?_)⟩
  rw [twice]
  exact Nat.lt_of_lt_of_eq (by decide) copies.symm

/-- A link names a country twice, and the user toggles it once. -/
def twinRun : List Step := [.edit (.toggle .countries "Germany")]

def twinSession : Session := (openAt (.parse "?countries=Germany,Germany")).run twinRun

/-- **A value that the link names twice stays staged when it is toggled**: it is among the selections of the
state, and was toggled once. -/
theorem twin_stays_staged :
    (∀ step ∈ twinRun, step.LeavesStaged) ∧
      "Germany" ∈ twinSession.navigation.selections.get .countries ∧
      Odd (toggled .countries "Germany" twinRun) ∧
      "Germany" ∈ twinSession.panel.staged.get .countries ∧
      ¬ ("Germany" ∈ twinSession.panel.staged.get .countries ↔
        Xor ("Germany" ∈ twinSession.navigation.selections.get .countries)
          (Odd (toggled .countries "Germany" twinRun))) := by
  have leaves : ∀ step ∈ twinRun, step.LeavesStaged := by simp [twinRun, Step.LeavesStaged]
  have selected : "Germany" ∈ twinSession.navigation.selections.get .countries := by decide +kernel
  have odd : Odd (toggled .countries "Germany" twinRun) := by decide
  have staged : "Germany" ∈ twinSession.panel.staged.get .countries := by decide +kernel
  refine ⟨leaves, selected, odd, staged, fun law => ?_⟩
  rcases law.mp staged with ⟨_, even⟩ | ⟨_, absent⟩
  · exact even odd
  · exact absent selected

end HostDashboard.Session
