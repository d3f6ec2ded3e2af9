/-
**Where the sidebar and the look-ups agree.**

A listed value is shown with the count that is looked up for it; a staged value that is not listed is shown with
the count zero. For countries and services this is the same, as a value that is not listed is not counted
(`count_of_notMem_options`). But an autonomous system has several spellings, and the look-up takes them all
while the boxes are compared as texts. So a number that is staged in another spelling than the listed one is
shown twice, and the second time as if it were not counted (`respelled_counts_zero`).

The boxes denote distinct numbers just if every number is staged in one spelling only, and in the listed one if
it is listed. Their counts are those of the look-ups just if no counted number is staged in another spelling
(`sidebar_agrees_iff`).
-/

import HostDashboard.Proofs.Facets.Options
import HostDashboard.Proofs.Facets.Toggle
import Mathlib.Data.List.Nodup
import Mathlib.Data.List.Pairwise

namespace HostDashboard

/-! ### Counts -/

namespace Counts

variable {counts : Counts} {category : Category} {value : String} {number : Nat}

theorem show_mem_options_of_counted (denotes : Asn.parse value = .ok number)
    (counted : counts.asnCount value ≠ 0) : Asn.show number ∈ counts.options .asns := by
  cases found : counts.keyedCount? number with
  | none =>
    rw [asnCount_of_ok denotes, found] at counted
    exact absurd rfl counted
  | some entry =>
    have some : (counts.keyedCount? number).isSome = true := by rw [found]; rfl
    obtain ⟨key, inside, begins⟩ := keyedCount?_isSome_iff.mp some
    exact show_mem_options_iff.mpr
      (mem_asnNumbers_of_beginsWith (Asn.lt_of_parse denotes) inside begins)

/-- A listed value is the plain spelling of its number. -/
theorem eq_show_of_mem_options (listed : value ∈ counts.options .asns)
    (denotes : Asn.parse value = .ok number) : value = Asn.show number := by
  obtain ⟨shown, member, rfl⟩ := List.mem_map.mp listed
  rw [Asn.parse_show (mem_asnNumbers_iff.mp member).2, Except.ok.injEq] at denotes
  rw [denotes]

/-- A country or a service that is not listed is not counted. -/
theorem count_of_notMem_options (other : category ≠ .asns) (notListed : value ∉ counts.options category) :
    counts.count category value = 0 := by
  have absent {dictionary : Dictionary Nat} (outside : value ∉ dictionary.keys) :
      (dictionary.get? value).getD 0 = 0 := by
    cases found : dictionary.get? value with
    | none => rfl
    | some count => exact absurd (Dictionary.mem_keys_iff.mpr ⟨count, found⟩) outside
  cases category with
  | countries => exact absent notListed
  | asns => exact absurd rfl other
  | services => exact absent notListed

end Counts

namespace Panel

variable {panel : Panel} {counts : Counts}

theorem counts_agree_iff (category : Category) :
    (∀ box ∈ panel.options counts category, box.count = counts.count category box.value) ↔
      ∀ value ∈ panel.staged.get category, value ∉ counts.options category →
        counts.count category value = 0 := by
  constructor
  · intro agree value staged notListed
    obtain ⟨box, member, rfl⟩ := List.mem_map.mp (mem_values_iff.mpr (.inr staged))
    rw [← agree box member, (of_mem_options member).2, if_neg notListed]
  · intro zero box member
    rw [(of_mem_options member).2]
    split
    · rfl
    · next notListed =>
      have staged := (mem_values_iff.mp (List.mem_map_of_mem member)).resolve_left notListed
      exact (zero box.value staged notListed).symm

/-- **The counts of the boxes are those of the look-up** just if no counted number is staged in another
spelling. -/
theorem asnCounts_agree_iff :
    (∀ box ∈ panel.options counts .asns, box.count = counts.asnCount box.value) ↔
      ∀ value ∈ panel.staged.get .asns, ∀ number, Asn.parse value = .ok number →
        counts.asnCount value ≠ 0 → value = Asn.show number := by
  refine (counts_agree_iff .asns).trans ⟨fun zero value staged number denotes counted => ?_,
    fun plain value staged notListed => ?_⟩
  · by_cases listed : value ∈ counts.options .asns
    · exact Counts.eq_show_of_mem_options listed denotes
    · exact absurd (zero value staged listed) counted
  · by_contra counted
    cases denoted : Asn.parse value with
    | error failure => exact counted (Counts.asnCount_of_error denoted)
    | ok number =>
      have same := plain value staged number denoted counted
      exact notListed (same ▸ Counts.show_mem_options_of_counted denoted counted)

end Panel

/-! ### Spellings -/

/-- The two texts denote no common number. -/
def Asn.Apart (first second : String) : Prop :=
  ∀ number, parse first = .ok number → parse second ≠ .ok number

instance : Std.Symm Asn.Apart where
  symm _ _ apart := fun number second first => apart number first second

namespace Panel

variable {panel : Panel} {counts : Counts}

theorem apart_iff_unique :
    (panel.options counts .asns).Pairwise (fun first second => Asn.Apart first.value second.value) ↔
      ∀ first ∈ (panel.options counts .asns).map FacetOption.value,
        ∀ second ∈ (panel.options counts .asns).map FacetOption.value,
          ∀ number, Asn.parse first = .ok number → Asn.parse second = .ok number → first = second := by
  rw [← List.pairwise_map (f := FacetOption.value) (R := Asn.Apart)]
  constructor
  · intro apart first inside second insideToo number denotes denotesToo
    by_contra differs
    exact apart.forall inside insideToo differs number denotes denotesToo
  · intro unique
    refine List.Nodup.pairwise_of_forall_ne nodup_values fun first inside second insideToo differs => ?_
    exact fun number denotes denotesToo =>
      differs (unique first inside second insideToo number denotes denotesToo)

/-- **The boxes denote distinct numbers** just if every staged number has one spelling, and the listed one if it
is listed. -/
theorem apart_iff :
    (panel.options counts .asns).Pairwise (fun first second => Asn.Apart first.value second.value) ↔
      ∀ value ∈ panel.staged.get .asns, ∀ number, Asn.parse value = .ok number →
        (Asn.show number ∈ counts.options .asns → value = Asn.show number) ∧
          ∀ other ∈ panel.staged.get .asns, Asn.parse other = .ok number → other = value := by
  rw [apart_iff_unique]
  simp only [mem_values_iff]
  constructor
  · intro unique value staged number denotes
    have shown := Asn.parse_show (Asn.lt_of_parse denotes)
    exact ⟨fun listed => unique value (.inr staged) _ (.inl listed) number denotes shown,
      fun other stagedToo alike => unique other (.inr stagedToo) value (.inr staged) number alike denotes⟩
  · intro one first inside second insideToo number denotes denotesToo
    -- Of two listed values both are plain; a staged one is plain as soon as its number is listed.
    rcases inside with listed | staged
    · have plain := Counts.eq_show_of_mem_options listed denotes
      rcases insideToo with listedToo | stagedToo
      · rw [plain, Counts.eq_show_of_mem_options listedToo denotesToo]
      · rw [plain, (one second stagedToo number denotesToo).1 (plain ▸ listed)]
    · rcases insideToo with listedToo | stagedToo
      · have plain := Counts.eq_show_of_mem_options listedToo denotesToo
        rw [plain, (one first staged number denotes).1 (plain ▸ listedToo)]
      · exact (one second stagedToo number denotesToo).2 first staged denotes

/-- **Where the sidebar agrees with the look-ups.** Every country and every service has the count that is looked
up for it. Every autonomous system has the count that is looked up for it just if no counted number is staged in
another spelling than the listed one. No two boxes denote the same autonomous system just if every staged number
has one spelling, and the listed one if it is listed. -/
theorem sidebar_agrees_iff (panel : Panel) (counts : Counts) :
    (∀ category, category ≠ .asns → ∀ box ∈ (panel.view counts).get category,
      box.count = counts.count category box.value) ∧
    ((∀ box ∈ (panel.view counts).get .asns, box.count = counts.count .asns box.value) ↔
      ∀ value ∈ panel.staged.get .asns, ∀ number, Asn.parse value = .ok number →
        counts.asnCount value ≠ 0 → value = Asn.show number) ∧
    (((panel.view counts).get .asns).Pairwise (fun first second => Asn.Apart first.value second.value) ↔
      ∀ value ∈ panel.staged.get .asns, ∀ number, Asn.parse value = .ok number →
        (Asn.show number ∈ counts.options .asns → value = Asn.show number) ∧
          ∀ other ∈ panel.staged.get .asns, Asn.parse other = .ok number → other = value) := by
  simp only [get_view]
  refine ⟨fun category other => ?_, asnCounts_agree_iff, apart_iff⟩
  exact (counts_agree_iff category).mpr fun value _ => Counts.count_of_notMem_options other

/-- The sidebar of a link, after some toggles. -/
def ofLink (location : String) (toggles : List (Category × String)) : Panel :=
  (ofSelections (Navigation.parse location).selections).toggleAll toggles

/-- One autonomous system is counted. -/
def telekom : Counts where
  asns := .ofList [("3320-Deutsche Telekom AG", 5)]

/-- A link names the counted number as it is listed and another one without letters, and a text that denotes no
number is toggled. -/
theorem sidebar_agrees_iff_spelled :
    let panel := ofLink "?asns=AS3320,15169" [(.asns, "Telekom")]
    panel.staged.asns = ["AS3320", "15169", "Telekom"] ∧
      (∀ box ∈ (panel.view telekom).get .asns, box.count = telekom.count .asns box.value) ∧
      ((panel.view telekom).get .asns).Pairwise (fun first second => Asn.Apart first.value second.value) := by
  intro panel
  have staged : panel.staged.asns = ["AS3320", "15169", "Telekom"] := by decide +kernel
  have denoted {value : String} {number : Nat} (denotes : Asn.parse value = .ok number) :
      number ∈ (Asn.parse value).toOption := by rw [denotes]; rfl
  have plain : ∀ value ∈ ["AS3320", "15169", "Telekom"], ∀ number ∈ (Asn.parse value).toOption,
      telekom.asnCount value ≠ 0 ∨ Asn.show number ∈ telekom.options .asns → value = Asn.show number := by
    decide +kernel
  have one : ∀ value ∈ ["AS3320", "15169", "Telekom"], ∀ other ∈ ["AS3320", "15169", "Telekom"],
      ∀ number ∈ (Asn.parse value).toOption, number ∈ (Asn.parse other).toOption → other = value := by
    decide +kernel
  obtain ⟨_, counts, apart⟩ := sidebar_agrees_iff panel telekom
  refine ⟨staged, counts.mpr fun value member number denotes counted => ?_,
    apart.mpr fun value member number denotes => ⟨fun listed => ?_, fun other memberToo alike => ?_⟩⟩
  · exact plain value (staged ▸ member) number (denoted denotes) (.inl counted)
  · exact plain value (staged ▸ member) number (denoted denotes) (.inr listed)
  · exact one value (staged ▸ member) other (staged ▸ memberToo) number (denoted denotes) (denoted alike)

/-- **A number is shown twice, and the second time as if it were not counted**: it is listed with the letters, and
staged without them. -/
theorem respelled_counts_zero :
    ((ofLink "?asns=3320" []).view telekom).asns = [⟨"AS3320", 5, false⟩, ⟨"3320", 0, true⟩] ∧
      telekom.asnCount "3320" = 5 ∧ Asn.parse "AS3320" = .ok 3320 ∧ Asn.parse "3320" = .ok 3320 ∧
      ¬ ∀ (location : String) (toggles : List (Category × String)) (counts : Counts),
        (∀ category, ∀ box ∈ ((ofLink location toggles).view counts).get category,
          box.count = counts.count category box.value) ∧
        (((ofLink location toggles).view counts).get .asns).Pairwise
          (fun first second => Asn.Apart first.value second.value) := by
  have boxes : ((ofLink "?asns=3320" []).view telekom).asns = [⟨"AS3320", 5, false⟩, ⟨"3320", 0, true⟩] := by
    decide +kernel
  have five : telekom.asnCount "3320" = 5 := by decide +kernel
  refine ⟨boxes, five, by decide +kernel, by decide +kernel, fun agrees => ?_⟩
  have counted := (agrees "?asns=3320" [] telekom).1 .asns ⟨"3320", 0, true⟩ (by
    show _ ∈ ((ofLink "?asns=3320" []).view telekom).asns
    rw [boxes]
    exact .tail _ (.head _))
  exact absurd (counted.trans five) (by decide)

end Panel

end HostDashboard
