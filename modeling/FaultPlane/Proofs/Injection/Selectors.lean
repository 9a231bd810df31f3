import FaultPlane.Proofs.Injection.ManifestLines
import FaultPlane.Proofs.Injection.Plans
import FaultPlane.Proofs.Text.Occurrences
import FaultPlane.Proofs.Text.Trimming

/-!
# Services that a network fault selects

The name of a service is trimmed before its marker is taken off, and the names of two ends are not
trimmed at all. So a selector can be empty or padded: behind a marker that has no name right behind
it, or where the request has blanks around the name of an end. In every other case the selectors of
a manifest are names (`selects_names_iff`).
-/

namespace FaultPlane

/-- Whether a text can be a name: it is not empty and has no blank at its ends. -/
def Text.IsName (s : String) : Prop := s ≠ "" ∧ Unpadded s

theorem Text.isName_iff {s : String} : IsName s ↔ s ≠ "" ∧ trim s = s := by
  refine and_congr_right fun _ => ⟨trim_of_unpadded, fun trimmed => ?_⟩
  rw [← trimmed]
  exact unpadded_trim s

instance (s : String) : Decidable (Text.IsName s) := decidable_of_iff _ Text.isName_iff.symm

namespace Injection

open Text (IsName isBlank)

/-! ### Markers -/

/-- Whether a text is a marker that has no name right behind it. -/
def MarksNoName (s : String) : Prop :=
  ∃ rest, s = "chaos_" ++ rest ∧ ∀ c ∈ rest.toList.head?, isBlank c = true

theorem marksNoName_append {rest : String} :
    MarksNoName ("chaos_" ++ rest) ↔ ∀ c ∈ rest.toList.head?, isBlank c = true := by
  simp [MarksNoName, String.append_right_inj]

theorem isName_append_iff {rest : String} :
    IsName rest ↔
      IsName ("chaos_" ++ rest) ∧ ¬ ∀ c ∈ rest.toList.head?, isBlank c = true := by
  have hmark : "chaos_".toList = ['c', 'h', 'a', 'o', 's', '_'] := rfl
  have hempty : ∀ s : String, s ≠ "" ↔ s.toList ≠ [] := fun s => String.toList_eq_nil_iff.not.symm
  unfold IsName Text.Unpadded
  rw [hempty, hempty, String.toList_append, hmark]
  cases rest.toList with
  | nil => simp
  | cons c cs =>
    have hc : isBlank 'c' = false := by decide
    simp [hc, List.getLast?_cons_cons, and_comm]

theorem isName_withoutMarker_iff {s : String} :
    IsName (withoutMarker s) ↔ IsName s ∧ ¬ MarksNoName s := by
  have hrest := Text.withoutLeading_iff.2 (Eq.refl (withoutMarker s))
  rcases hrest with hmarked | ⟨unmarked, hsame⟩
  · rw [isName_append_iff, ← marksNoName_append, ← hmarked]
  · have hnot : ¬ MarksNoName s := by
      rintro ⟨rest, hs, -⟩
      exact unmarked rest hs
    rw [hsame]
    simp [hnot]

/-! ### Ends -/

/-- Whether a request asks for the traffic between two services and names them. -/
def NetworkRequest.Between (r : NetworkRequest) (source target : String) : Prop :=
  r.betweenServices = some true ∧ (r.sourceService = some source ∧ source ≠ "") ∧
    r.targetService = some target ∧ target ≠ ""

/-- Both services are named without blanks around them where a request asks for the traffic between
two, and no marker of a service whose name is used has nothing right behind it. -/
structure NetworkRequest.NamesEnds (r : NetworkRequest) : Prop where
  between : ∀ source target, r.Between source target →
    (IsName source ∧ ¬ MarksNoName source) ∧ IsName target ∧ ¬ MarksNoName target
  single : (∀ source target, ¬ r.Between source target) → ¬ MarksNoName (Text.trim r.service)

theorem networkEnds_of_between {r : NetworkRequest} {source target : String}
    (h : r.Between source target) (clean : String) :
    networkEnds r clean = (withoutMarker source, withoutMarker target) := by
  obtain ⟨hbetween, ⟨hsource, sourceFilled⟩, htarget, targetFilled⟩ := h
  have hsource' : r.sourceService.filter (· ≠ "") = some source :=
    Option.filter_eq_some_iff.2 ⟨hsource, decide_eq_true sourceFilled⟩
  have htarget' : r.targetService.filter (· ≠ "") = some target :=
    Option.filter_eq_some_iff.2 ⟨htarget, decide_eq_true targetFilled⟩
  rw [networkEnds, hbetween, hsource', htarget']

theorem networkEnds_of_not_between {r : NetworkRequest}
    (h : ∀ source target, ¬ r.Between source target) (clean : String) :
    networkEnds r clean = (clean, clean) := by
  unfold networkEnds
  split
  · next source target hbetween hsource htarget =>
    obtain ⟨hsource, sourceFilled⟩ := Option.filter_eq_some_iff.1 hsource
    obtain ⟨htarget, targetFilled⟩ := Option.filter_eq_some_iff.1 htarget
    exact absurd ⟨hbetween, ⟨hsource, of_decide_eq_true sourceFilled⟩, htarget,
      of_decide_eq_true targetFilled⟩ (h source target)
  · rfl

theorem isName_networkEnds_iff {r : NetworkRequest} (filled : Text.trim r.service ≠ "") :
    let ends := networkEnds r (withoutMarker (Text.trim r.service))
    IsName ends.1 ∧ IsName ends.2 ↔ r.NamesEnds := by
  intro ends
  by_cases hbetween : ∃ source target, r.Between source target
  · obtain ⟨source, target, h⟩ := hbetween
    have hends : ends = (withoutMarker source, withoutMarker target) :=
      networkEnds_of_between h _
    rw [hends]
    simp only [isName_withoutMarker_iff]
    constructor
    · intro named
      refine ⟨?_, fun none => absurd h (none source target)⟩
      intro source' target' h'
      obtain rfl : source = source' := Option.some.inj (h.2.1.1.symm.trans h'.2.1.1)
      obtain rfl : target = target' := Option.some.inj (h.2.2.1.symm.trans h'.2.2.1)
      exact named
    · exact fun named => named.between source target h
  · have hnone : ∀ source target, ¬ r.Between source target :=
      fun source target h => hbetween ⟨source, target, h⟩
    have hends : ends =
        (withoutMarker (Text.trim r.service), withoutMarker (Text.trim r.service)) :=
      networkEnds_of_not_between hnone _
    have hname : IsName (Text.trim r.service) := ⟨filled, Text.unpadded_trim r.service⟩
    rw [hends, and_self_iff, isName_withoutMarker_iff]
    constructor
    · exact fun named => ⟨fun source target h => absurd h (hnone source target), fun _ => named.2⟩
    · exact fun named => ⟨hname, named.single hnone⟩

/-! ### Selectors -/

/-- The service that a line selects. -/
def Line.selected? : Line → Option String
  | [.fixed "      app: ", .value name] => some name
  | [.fixed "        app: ", .value name] => some name
  | _ => none

/-- The ends of a network fault and the selectors of its manifest are names, and a block for the
source stands only beside a target that is another service. -/
structure Plan.SelectsNames (plan : Plan) (template : List Line) : Prop where
  ends : ∃ source target, plan.rule = .network source target ∧ IsName source ∧ IsName target
  selectors : ∀ name ∈ template.filterMap Line.selected?, IsName name
  apart : [.fixed "  target:"] ∈ template → ∃ source target,
    template.filterMap Line.selected? = [target, source] ∧ Text.trim source ≠ Text.trim target

theorem NetworkSpec.selected_template (s : NetworkSpec) :
    s.template.filterMap Line.selected? =
      s.target :: if s.source = s.target then [] else [s.source] := by
  unfold template sourceBlock
  split <;> rfl

theorem NetworkSpec.target_mem_template (s : NetworkSpec) :
    [.fixed "  target:"] ∈ s.template ↔ s.source ≠ s.target := by
  by_cases hsame : s.source = s.target <;> simp [template, sourceBlock, hsame]

theorem Plan.selectsNames_iff {plan : Plan} {source target : String}
    (hrule : plan.rule = .network source target) (settings : InjectionSettings) (id : String)
    (nonce : Int) :
    plan.SelectsNames (plan.template settings id nonce) ↔ IsName source ∧ IsName target := by
  obtain ⟨_, _, delay, minutes, rule⟩ := plan
  obtain rfl := hrule
  have hselected := NetworkSpec.selected_template
    ⟨id, settings.namespaceName, source, target, delay, minutes⟩
  have hblock := NetworkSpec.target_mem_template
    ⟨id, settings.namespaceName, source, target, delay, minutes⟩
  constructor
  · rintro ⟨⟨_, _, hrule, named⟩, -, -⟩
    cases hrule
    exact named
  · intro named
    refine ⟨⟨source, target, rfl, named⟩, ?_, ?_⟩
    · show ∀ name ∈ (NetworkSpec.template _).filterMap Line.selected?, IsName name
      rw [hselected]
      split
      · simpa using named.2
      · simpa using named.symm
    · intro member
      have hdiffer := hblock.1 member
      refine ⟨source, target, hselected.trans ?_, ?_⟩
      · rw [if_neg hdiffer]
      · rw [Text.trim_of_unpadded named.1.2, Text.trim_of_unpadded named.2.2]
        exact hdiffer

/-- The manifest of a network fault is its template, and its selectors are names, of two services if
there are two of them, exactly if its request names its ends. -/
theorem selects_names_iff {r : NetworkRequest} {plan : Plan} (planned : r.plan = .ok plan)
    (settings : InjectionSettings) (id : String) (nonce : Int) :
    plan.manifest settings id nonce =
        String.intercalate "\n" ((plan.template settings id nonce).map Line.text) ++ "\n" ∧
      (plan.SelectsNames (plan.template settings id nonce) ↔ r.NamesEnds) := by
  have hplan := NetworkRequest.plan_eq_ok planned
  obtain ⟨hservice, filled⟩ := requiredText_eq_ok hplan.service
  rw [hservice] at filled
  constructor
  · unfold Plan.manifest Plan.template
    rw [hplan.rule]
    rfl
  · rw [Plan.selectsNames_iff hplan.rule, hplan.fragment, hservice]
    exact isName_networkEnds_iff filled

/-! The traffic from the service of orders to the service of seats is delayed. -/

def delayBetween (source target : String) : NetworkRequest :=
  { service := "chaos_ts-order", delaySeconds := some 10, durationMinutes := some 5
    betweenServices := some true, sourceService := some source, targetService := some target }

theorem selects_names_seat :
    ∃ plan, (delayBetween "chaos_ts-order" "ts-seat").plan = .ok plan ∧
      plan.rule = .network "ts-order" "ts-seat" ∧
      plan.SelectsNames (plan.template ⟨"chaos", 9277, []⟩ "network-delay-ts-order-1" 1) := by
  have planned : (delayBetween "chaos_ts-order" "ts-seat").plan =
      .ok ⟨"chaos_ts-order", "ts-order", 10, 5, .network "ts-order" "ts-seat"⟩ := by rfl
  refine ⟨_, planned, rfl, (selects_names_iff planned _ _ _).2.2 ⟨?_, ?_⟩⟩
  · rintro source target ⟨-, ⟨hsource, -⟩, htarget, -⟩
    cases hsource
    cases htarget
    exact ⟨isName_withoutMarker_iff.1 (by decide), isName_withoutMarker_iff.1 (by decide)⟩
  · intro hnone
    have hbetween := hnone "chaos_ts-order" "ts-seat"
    exact absurd ⟨rfl, ⟨rfl, by decide⟩, rfl, by decide⟩ hbetween

/-- A marker alone passes for the name of a service, and the selector is empty. -/
theorem not_always_names :
    ¬ ∀ (r : NetworkRequest) (plan : Plan) (settings : InjectionSettings) (id : String)
        (nonce : Int), r.plan = .ok plan → plan.SelectsNames (plan.template settings id nonce) := by
  intro always
  have hselects := always
    { service := "chaos_", delaySeconds := some 10, durationMinutes := some 5 }
    ⟨"chaos_", "", 10, 5, .network "" ""⟩ ⟨"chaos", 9277, []⟩ "network-delay--1" 1 rfl
  rw [Plan.selectsNames_iff rfl] at hselects
  exact hselects.1.1 rfl

end Injection

end FaultPlane
