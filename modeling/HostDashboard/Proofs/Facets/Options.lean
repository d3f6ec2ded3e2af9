/-
**The boxes of the sidebar.**

The boxes of a category are those of the listed values, with their counts, and after them one for every staged
value that is not listed, with the count zero (`options_eq`). The second part is built by a scan that looks at
the list which it is extending: a value gets a box when it is met first, and finds it there later on
(`foldl_addStaged`).

So every option stands there once, exactly the staged ones are selected, and none of them is missing
(`view_lists_options`).
-/

import HostDashboard.Facets.Panel
import HostDashboard.Proofs.Facets.AsnOptions

namespace HostDashboard

theorem nodup_eraseDups {α : Type} [DecidableEq α] (values : List α) : values.eraseDups.Nodup := by
  match values with
  | [] => exact List.nodup_nil
  | value :: rest =>
    rw [List.eraseDups_cons, List.nodup_cons]
    refine ⟨fun member => ?_, nodup_eraseDups _⟩
    simpa using (List.mem_filter.mp (List.mem_eraseDups.mp member)).2
termination_by values.length
decreasing_by exact Nat.lt_succ_of_le (List.length_filter_le _ _)

/-! ### Listed values -/

theorem Counts.nodup_options (counts : Counts) (category : Category) : (counts.options category).Nodup := by
  cases category with
  | countries => exact counts.countries.nodup_keys
  | asns =>
    exact List.pairwise_map.mpr (counts.asnNumbers_increasing.imp fun less same =>
      Nat.ne_of_lt less (Asn.show_injective same))
  | services => exact counts.services.nodup_keys

namespace Panel

/-! ### Boxes -/

/-- The box of a staged value that is not listed. -/
def unlistedBox (value : String) : FacetOption := ⟨value, 0, true⟩

theorem addStaged_eq (options : List FacetOption) (value : String) :
    addStaged options value =
      if value ∈ options.map FacetOption.value then options else options ++ [unlistedBox value] := by
  have boxed : (options.any (·.value = value)) = true ↔ value ∈ options.map FacetOption.value := by
    simp
  rw [addStaged]
  simp only [boxed]
  rfl

/-- **Every staged value gets a box when it is met first**, unless it has one. -/
theorem foldl_addStaged (options : List FacetOption) (staged : List String) :
    staged.foldl addStaged options =
      options ++ (staged.filter (· ∉ options.map FacetOption.value)).eraseDups.map unlistedBox := by
  induction staged generalizing options with
  | nil => simp
  | cons value rest ih =>
    rw [List.foldl_cons, addStaged_eq]
    by_cases boxed : value ∈ options.map FacetOption.value
    · rw [if_pos boxed, ih, List.filter_cons_of_neg (by simpa using boxed)]
    · -- The new box turns away the later copies of its own value and nothing else.
      have later : rest.filter (· ∉ (options ++ [unlistedBox value]).map FacetOption.value) =
          (rest.filter (· ∉ options.map FacetOption.value)).filter fun other => !other == value := by
        rw [List.filter_filter]
        refine List.filter_congr fun other _ => ?_
        rw [List.map_append, Bool.eq_iff_iff, decide_eq_true_iff, List.mem_append, not_or]
        simp [unlistedBox, and_comm]
      rw [if_neg boxed, ih, later, List.filter_cons_of_pos (by simpa using boxed), List.eraseDups_cons,
        List.map_cons, List.append_assoc]
      rfl

variable (panel : Panel) (counts : Counts) (category : Category)

/-- The staged values that are not listed, each at its first place. -/
def unlisted : List String :=
  ((panel.staged.get category).filter (· ∉ counts.options category)).eraseDups

theorem options_eq :
    panel.options counts category =
      (counts.options category).map
        (fun value => ⟨value, counts.count category value, (panel.staged.get category).contains value⟩) ++
      (panel.unlisted counts category).map unlistedBox := by
  rw [options, foldl_addStaged, List.map_map]
  have values (listed : List String) : listed.map (FacetOption.value ∘ fun value =>
      ⟨value, counts.count category value, (panel.staged.get category).contains value⟩) = listed :=
    List.map_id listed
  rw [values]
  rfl

theorem values_options :
    (panel.options counts category).map FacetOption.value =
      counts.options category ++ panel.unlisted counts category := by
  rw [options_eq, List.map_append, List.map_map, List.map_map]
  exact congrArg₂ _ (List.map_id _) (List.map_id _)

variable {panel counts category}

theorem mem_unlisted {value : String} :
    value ∈ panel.unlisted counts category ↔
      value ∈ panel.staged.get category ∧ value ∉ counts.options category := by
  rw [unlisted, List.mem_eraseDups, List.mem_filter, decide_eq_true_iff]

theorem nodup_values : ((panel.options counts category).map FacetOption.value).Nodup := by
  rw [values_options]
  refine List.nodup_append.mpr ⟨counts.nodup_options category, nodup_eraseDups _, ?_⟩
  rintro value listed _ unlisted rfl
  exact (mem_unlisted.mp unlisted).2 listed

/-- **What a box shows**: it is selected just if its value is staged, and it has the count of its value just if
the value is listed. -/
theorem of_mem_options {option : FacetOption} (member : option ∈ panel.options counts category) :
    (option.selected = true ↔ option.value ∈ panel.staged.get category) ∧
      option.count =
        if option.value ∈ counts.options category then counts.count category option.value else 0 := by
  rw [options_eq, List.mem_append, List.mem_map, List.mem_map] at member
  rcases member with ⟨value, listed, rfl⟩ | ⟨value, unlisted, rfl⟩
  · exact ⟨List.contains_iff_mem, (if_pos listed).symm⟩
  · obtain ⟨staged, notListed⟩ := mem_unlisted.mp unlisted
    exact ⟨iff_of_true rfl staged, (if_neg notListed).symm⟩

theorem mem_values_iff {value : String} :
    value ∈ (panel.options counts category).map FacetOption.value ↔
      value ∈ counts.options category ∨ value ∈ panel.staged.get category := by
  rw [values_options, List.mem_append, mem_unlisted]
  by_cases listed : value ∈ counts.options category <;> simp [listed]

end Panel

/-! ### The view -/

/-- The boxes of a category. -/
def PanelView.get (view : PanelView) : Category → List FacetOption
  | .countries => view.countries
  | .asns => view.asns
  | .services => view.services

theorem Panel.get_view (panel : Panel) (counts : Counts) (category : Category) :
    (panel.view counts).get category = panel.options counts category := by
  cases category <;> rfl

/-- **Every option is shown once, and exactly the staged ones are selected.** In each category the values of the
boxes are distinct; a box is selected just if its value is staged; every staged value has a box; and the values
are those that the counts list, in the order of that list, and after them the other staged ones, each at the
place where it stands first. Changes are pending just if some category is staged otherwise than it is in force. -/
theorem Panel.view_lists_options (panel : Panel) (counts : Counts) :
    (∀ category,
      let staged := panel.staged.get category
      let boxes := (panel.view counts).get category
      (boxes.map FacetOption.value).Nodup ∧
      (∀ box ∈ boxes, box.selected = true ↔ box.value ∈ staged) ∧
      (∀ value ∈ staged, ∃ box ∈ boxes, box.value = value) ∧
      boxes.map FacetOption.value =
        counts.options category ++ (staged.filter (· ∉ counts.options category)).eraseDups) ∧
    ((panel.view counts).pendingChanges = true ↔
      ∃ category, panel.staged.get category ≠ panel.committed.get category) := by
  refine ⟨fun category => ?_, panel.hasPendingChanges_iff⟩
  dsimp only
  rw [get_view]
  exact ⟨nodup_values, fun box member => (of_mem_options member).1,
    fun value staged => List.mem_map.mp (mem_values_iff.mpr (.inr staged)),
    values_options panel counts category⟩

/-- Two autonomous systems are counted. -/
def neighbours : Counts where
  asns := .ofList [("3320-Deutsche Telekom AG", 5), ("332-", 1)]

/-- A number is staged twice without its letters and once with them, and another one is not counted. -/
def respelled : Panel := .ofSelections { asns := ["3320", "AS3320", "3320", "AS15169"] }

/-- The text without letters has one box, after those of the listed numbers. -/
theorem Panel.view_lists_options_respelled :
    "3320" ∈ respelled.staged.get .asns ∧
      (∃ box ∈ (respelled.view neighbours).get .asns, box.value = "3320" ∧ box.selected = true) ∧
      ((respelled.view neighbours).get .asns).map FacetOption.value =
        ["AS332", "AS3320", "3320", "AS15169"] := by
  obtain ⟨_, selected, shown, values⟩ := (view_lists_options respelled neighbours).1 .asns
  have staged : "3320" ∈ respelled.staged.get .asns := by decide
  obtain ⟨box, member, same⟩ := shown "3320" staged
  exact ⟨staged, ⟨box, member, same, (selected box member).mpr (same ▸ staged)⟩,
    values.trans (by decide +kernel)⟩

end HostDashboard
