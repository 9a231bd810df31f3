import FaultPlane.Proofs.Injection.Outcome
import FaultPlane.Proofs.Text.Lines

/-!
# The lines of a manifest

A manifest is a template with values in its lines, which stand there as they are. A reader finds
the lines of the template exactly if none of the values has a line break inside. A break in a value
makes the manifest one line longer for each line of the template that has the value, and the class
of a latency fault stands in two (`sent_lines_iff`). Blanks are trimmed only at the two ends of a
text, so a request can carry a break into its manifest (`not_always_template`).
-/

namespace FaultPlane.Injection

open Text (LineBreaks pieces)

/-! ### Values in lines -/

/-- Whether a part has only printable characters, if it belongs to the template. -/
def Part.isPlain : Part → Bool
  | .fixed text => text.toList.all Text.isPrintable
  | .value _ => true

def Part.value? : Part → Option String
  | .fixed _ => none
  | .value text => some text

def values (template : List Line) : List String := template.flatten.filterMap Part.value?

section

variable (b : LineBreaks)

theorem count_line {line : Line} (plain : line.all Part.isPlain = true) :
    b.count line.text = ((line.filterMap Part.value?).map b.count).sum := by
  rw [Line.text, b.count_join]
  induction line with
  | nil => rfl
  | cons part line ih =>
    obtain ⟨hpart, hline⟩ : part.isPlain = true ∧ line.all Part.isPlain = true := by
      simpa using plain
    rw [List.map_cons, List.map_cons, List.sum_cons, ih hline]
    cases part with
    | fixed text =>
      have hnone : b.count text = 0 := b.single_iff_count.1 (b.single_of_printable hpart)
      rw [Part.text, hnone, Nat.zero_add]
      rfl
    | value text => rfl

/-- All breaks in the lines of a template stand in its values. -/
theorem count_template {template : List Line}
    (plain : template.flatten.all Part.isPlain = true) :
    ((template.map Line.text).map b.count).sum = ((values template).map b.count).sum := by
  induction template with
  | nil => rfl
  | cons line template ih =>
    obtain ⟨hline, htemplate⟩ : line.all Part.isPlain = true ∧
        template.flatten.all Part.isPlain = true := by
      rwa [List.flatten_cons, List.all_append, Bool.and_eq_true] at plain
    have hvalues : values (line :: template) = line.filterMap Part.value? ++ values template :=
      List.filterMap_append
    rw [hvalues, List.map_append, List.sum_append, List.map_cons, List.map_cons, List.sum_cons,
      count_line b hline, ih htemplate]

/-- The lines of a template have no break inside exactly if its values have none. -/
theorem single_template_iff {template : List Line}
    (plain : template.flatten.all Part.isPlain = true) :
    (∀ line ∈ template.map Line.text, b.Single line) ↔
      ∀ text ∈ values template, b.Single text := by
  rw [← b.sum_count_eq_zero_iff, ← b.sum_count_eq_zero_iff, count_template b plain]

end

/-! ### Templates -/

/-- The template of a plan, with the values filled in. -/
def Plan.template (plan : Plan) (settings : InjectionSettings) (id : String) (nonce : Int) :
    List Line :=
  match plan.rule with
  | .network source target =>
    NetworkSpec.template
      ⟨id, settings.namespaceName, source, target, plan.delaySeconds, plan.durationMinutes⟩
  | .jvm service className methodName effect =>
    JvmSpec.template
      ⟨id, settings.namespaceName, service, plan.durationMinutes, settings.jvmPort, className,
        methodName, effect, nonce⟩

/-- The number of lines of the template: two templates for network faults, two for JVM faults. -/
def Rule.lineCount : Rule → Nat
  | .network source target => if source = target then 16 else 21
  | .jvm _ _ _ (.throws _) => 29
  | .jvm _ _ _ (.delays _) => 22

/-- The place of the line with the name of the resource. -/
def Rule.nameLine : Rule → Nat
  | .network .. => 3
  | .jvm .. => 4

/-- The texts that stand in the lines of the template, each as often as it does. -/
def Rule.texts : Rule → List String
  | .network source target => if source = target then [target] else [target, source]
  | .jvm service className methodName (.throws interfaceName) =>
    [service, className, methodName, interfaceName]
  -- The name of the rule is made from the class.
  | .jvm service className methodName (.delays _) => [service, className, methodName, className]

section

variable (b : LineBreaks) {settings : InjectionSettings} (plan : Plan) (id : String) (nonce : Int)

theorem NetworkSpec.plain_template (s : NetworkSpec) :
    s.template.flatten.all Part.isPlain = true := by
  unfold template sourceBlock
  split <;> rfl

theorem JvmSpec.plain_template (s : JvmSpec) : s.template.flatten.all Part.isPlain = true := by
  unfold template
  split <;> rfl

theorem Plan.plain_template :
    (plan.template settings id nonce).flatten.all Part.isPlain = true := by
  unfold template
  split
  · exact NetworkSpec.plain_template _
  · exact JvmSpec.plain_template _

theorem Plan.length_template :
    (plan.template settings id nonce).length = plan.rule.lineCount := by
  obtain ⟨_, _, _, _, rule⟩ := plan
  cases rule with
  | network source target =>
    by_cases hsame : source = target <;>
      simp [template, NetworkSpec.template, NetworkSpec.sourceBlock, Rule.lineCount, hsame]
  | jvm service className methodName effect =>
    cases effect <;> rfl

theorem Plan.name_line :
    (plan.template settings id nonce)[plan.rule.nameLine]? =
      some [.fixed "  name: ", .value id] := by
  obtain ⟨_, _, _, _, rule⟩ := plan
  cases rule with
  | network source target => rfl
  | jvm service className methodName effect => cases effect <;> rfl

theorem NetworkSpec.values_template (s : NetworkSpec) :
    values s.template =
      [s.name, s.namespaceName, s.target, Decimal.ofNat s.delaySeconds.toNat,
        Decimal.ofNat s.durationMinutes.toNat] ++
      if s.source = s.target then [] else [s.source] := by
  unfold template sourceBlock
  split <;> rfl

theorem JvmSpec.values_throwTemplate (s : JvmSpec) (interfaceName : String) :
    values (s.throwTemplate interfaceName) =
      [s.namespaceName, s.name, s.namespaceName, s.service, Decimal.ofNat s.durationMinutes.toNat,
        Decimal.ofNat s.portNumber.toNat, Decimal.ofInt s.nonce, s.className, s.methodName,
        interfaceName] := rfl

theorem JvmSpec.values_delayTemplate (s : JvmSpec) (latencyMs : UInt64) :
    values (s.delayTemplate latencyMs) =
      [s.namespaceName, s.name, s.namespaceName, s.service, Decimal.ofNat s.durationMinutes.toNat,
        Decimal.ofNat s.portNumber.toNat, s.className, s.methodName, s.className,
        Decimal.ofInt s.nonce, Decimal.ofNat latencyMs.toNat] := rfl

/-- All breaks in the values stand in the id and in the texts of the rule; numbers have none. -/
theorem Plan.count_values (single : b.Single settings.namespaceName) :
    ((values (plan.template settings id nonce)).map b.count).sum =
      ((id :: plan.rule.texts).map b.count).sum := by
  have hnamespace : b.count settings.namespaceName = 0 := b.single_iff_count.1 single
  obtain ⟨_, _, _, _, rule⟩ := plan
  cases rule with
  | network source target =>
    rw [template, NetworkSpec.values_template]
    by_cases hsame : source = target <;> simp [Rule.texts, hnamespace, hsame]
  | jvm service className methodName effect =>
    cases effect with
    | throws interfaceName =>
      show ((values (JvmSpec.throwTemplate _ interfaceName)).map b.count).sum = _
      rw [JvmSpec.values_throwTemplate]
      simp [Rule.texts, hnamespace]
    | delays latencyMs =>
      show ((values (JvmSpec.delayTemplate _ latencyMs)).map b.count).sum = _
      rw [JvmSpec.values_delayTemplate]
      simp [Rule.texts, hnamespace]

/-! ### Manifests and their readers -/

theorem NetworkSpec.lines_manifest (s : NetworkSpec) :
    b.lines s.manifest = (s.template.map Line.text).flatMap (pieces b.isBreak) :=
  b.lines_intercalate_lineFeed (List.cons_ne_nil _ _)

theorem JvmSpec.lines_manifest (s : JvmSpec) :
    b.lines s.manifest = (s.template.map Line.text).flatMap (pieces b.isBreak) := by
  have hlast : ∃ last : String, s.template.getLast? = some [.fixed last] ∧ last ≠ "" ∧
      last.toList.all Text.isPrintable = true := by
    unfold template
    cases s.effect with
    | throws interfaceName => exact ⟨"    ENDRULE", rfl, by decide, rfl⟩
    | delays latencyMs => exact ⟨"  ruleData: ''", rfl, by decide, rfl⟩
  obtain ⟨last, hend, hfilled, hplain⟩ := hlast
  have hmap : (s.template.map Line.text).getLast? = some last := by
    rw [List.getLast?_map, hend]
    simp [Line.text, Part.text]
  exact b.lines_intercalate hmap hfilled (b.single_of_printable hplain)

/-- A reader of the manifest finds the lines of the template, each cut at its breaks. -/
theorem Plan.lines_manifest :
    b.lines (plan.manifest settings id nonce) =
      ((plan.template settings id nonce).map Line.text).flatMap (pieces b.isBreak) := by
  unfold manifest template
  cases plan.rule with
  | network source target => exact NetworkSpec.lines_manifest b _
  | jvm service className methodName effect => exact JvmSpec.lines_manifest b _

theorem Plan.length_lines (single : b.Single settings.namespaceName) :
    (b.lines (plan.manifest settings id nonce)).length =
      plan.rule.lineCount + ((id :: plan.rule.texts).map b.count).sum := by
  rw [Plan.lines_manifest, b.length_flatMap_pieces, List.length_map, plan.length_template,
    count_template b (plan.plain_template id nonce), plan.count_values b id nonce single]

theorem Plan.lines_eq_iff (single : b.Single settings.namespaceName) :
    b.lines (plan.manifest settings id nonce) = (plan.template settings id nonce).map Line.text ↔
      ∀ text ∈ id :: plan.rule.texts, b.Single text := by
  rw [Plan.lines_manifest, b.flatMap_pieces_eq_iff, ← b.sum_count_eq_zero_iff,
    count_template b (plan.plain_template id nonce), plan.count_values b id nonce single,
    b.sum_count_eq_zero_iff]

end

/-! ### Manifests that are sent -/

/-- The calls of an apply: one at most, with the manifest. -/
theorem calls_apply {ω : Type} (world : World ω) {settings : InjectionSettings} {catalog : Catalog}
    (now : Time.Instant) {request : Request} {plan : Plan} (l : Ledger) (w : ω)
    (planned : request.plan catalog = .ok plan) :
    (apply settings catalog now request).calls world l w =
      if (plan.record? request.kind l now).isSome then
        [.cluster (.apply
          (plan.manifest settings (plan.recordId request.kind l now) (l.issue now).1))]
      else [] := by
  rw [Dialogue.calls_eq_map, transcript_apply world settings now l w planned]
  split <;> rfl

theorem sent_of_record {ω : Type} (world : World ω) (settings : InjectionSettings)
    {catalog : Catalog} {now : Time.Instant} {request : Request} {plan : Plan} (l : Ledger) (w : ω)
    (planned : request.plan catalog = .ok plan) {record : FaultRecord}
    (recorded : plan.record? request.kind l now = some record) :
    .cluster (.apply (plan.manifest settings record.id (l.issue now).1)) ∈
      (apply settings catalog now request).calls world l w := by
  rw [calls_apply world now l w planned, recorded, plan.id_of_record? now request.kind l recorded]
  exact List.mem_singleton.2 rfl

/-- A reader of the manifest that an apply sends finds the lines of its template, with the values
filled in and each line cut at its breaks. So these are the lines of the template exactly if no
value has a break inside. A break in the id or in a text of the rule makes the manifest one line
longer for each time that it stands in the template. -/
theorem sent_lines_iff (b : LineBreaks) {settings : InjectionSettings}
    (single : b.Single settings.namespaceName) {catalog : Catalog} {request : Request} {plan : Plan}
    (planned : request.plan catalog = .ok plan) {ω : Type} (world : World ω) (now : Time.Instant)
    (l : Ledger) (w : ω) {manifest : String}
    (sent : .cluster (.apply manifest) ∈ (apply settings catalog now request).calls world l w) :
    let id := plan.recordId request.kind l now
    let template := plan.template settings id (l.issue now).1
    template.length = plan.rule.lineCount ∧
      template[plan.rule.nameLine]? = some [.fixed "  name: ", .value id] ∧
      b.lines manifest = (template.map Line.text).flatMap (pieces b.isBreak) ∧
      (b.lines manifest = template.map Line.text ↔
        ∀ text ∈ id :: plan.rule.texts, b.Single text) ∧
      (b.lines manifest).length =
        plan.rule.lineCount + ((id :: plan.rule.texts).map b.count).sum := by
  intro id template
  have hmanifest : manifest = plan.manifest settings id (l.issue now).1 := by
    rw [calls_apply world now l w planned] at sent
    split at sent
    · cases List.mem_singleton.1 sent
      rfl
    · cases sent
  rw [hmanifest]
  exact ⟨plan.length_template id _, plan.name_line id _, plan.lines_manifest b id _,
    plan.lines_eq_iff b id _ single, plan.length_lines b id _ single⟩

/-! A break in the class of a latency fault makes twenty-four lines of the twenty-two of its
template. -/

def plainSettings : InjectionSettings := ⟨"chaos", 9277, []⟩

theorem single_plainSettings (b : LineBreaks) : b.Single plainSettings.namespaceName :=
  b.single_of_printable rfl

def checkoutDelay : Request :=
  .networkDelay { service := "checkout", delaySeconds := some 10, durationMinutes := some 5 }

def orderCatalog : Catalog := { services := [⟨"ts-order", []⟩] }

def cutOrders : Request := .jvmLatency
  { target :=
      { service := "ts-order", methodName := some "list", className := some "order\nList",
        durationMinutes := some 5 }
    latencyMs := some 2500 }

theorem sent_lines_checkout :
    (∃ manifest, .cluster (.apply manifest) ∈
        (apply plainSettings {} ⟨0, 0⟩ checkoutDelay).calls World.failing {} () ∧
      (LineBreaks.yaml.lines manifest).length = 16) ∧
    ∃ manifest, .cluster (.apply manifest) ∈
        (apply plainSettings orderCatalog ⟨0, 0⟩ cutOrders).calls World.failing {} () ∧
      (LineBreaks.yaml.lines manifest).length = 24 := by
  have hlength : ∀ {catalog : Catalog} {request : Request} {plan : Plan} {record : FaultRecord},
      request.plan catalog = .ok plan → plan.record? request.kind {} ⟨0, 0⟩ = some record →
      ∃ manifest, .cluster (.apply manifest) ∈
          (apply plainSettings catalog ⟨0, 0⟩ request).calls World.failing {} () ∧
        (LineBreaks.yaml.lines manifest).length =
          plan.rule.lineCount + ((record.id :: plan.rule.texts).map LineBreaks.yaml.count).sum := by
    intro catalog request plan record planned recorded
    have sent := sent_of_record World.failing plainSettings {} () planned recorded
    obtain ⟨-, -, -, -, hlines⟩ := sent_lines_iff LineBreaks.yaml
      (single_plainSettings LineBreaks.yaml) planned World.failing ⟨0, 0⟩ {} () sent
    rw [← plan.id_of_record? ⟨0, 0⟩ request.kind {} recorded] at hlines
    exact ⟨_, sent, hlines⟩
  constructor
  · let plan : Plan := ⟨"checkout", "checkout", 10, 5, .network "checkout" "checkout"⟩
    have planned : checkoutDelay.plan {} = .ok plan := by rfl
    have recorded : plan.record? checkoutDelay.kind {} ⟨0, 0⟩ =
        some ⟨"network-delay-checkout-1", "checkout", .networkDelay, 10, 5, ⟨0, 0⟩, ⟨300, 0⟩,
          .active⟩ := by rfl
    obtain ⟨manifest, sent, hlines⟩ := hlength planned recorded
    exact ⟨manifest, sent, hlines.trans (by decide)⟩
  · let plan : Plan :=
      ⟨"ts-order", "order", 2, 5, .jvm "ts-order" "order\nList" "list" (.delays 2500)⟩
    have planned : cutOrders.plan orderCatalog = .ok plan := by rfl
    have recorded : plan.record? cutOrders.kind {} ⟨0, 0⟩ =
        some ⟨"jvm-latency-order-1", "ts-order", .jvmLatency, 2, 5, ⟨0, 0⟩, ⟨300, 0⟩,
          .active⟩ := by rfl
    obtain ⟨manifest, sent, hlines⟩ := hlength planned recorded
    exact ⟨manifest, sent, hlines.trans (by decide)⟩

/-- A request can carry a line break into its manifest. -/
theorem not_always_template :
    ¬ ∀ (settings : InjectionSettings) (catalog : Catalog) (now : Time.Instant) (request : Request)
      (plan : Plan) (world : World Unit) (l : Ledger) (manifest : String),
      LineBreaks.lineFeeds.Single settings.namespaceName → request.plan catalog = .ok plan →
      .cluster (.apply manifest) ∈ (apply settings catalog now request).calls world l () →
        LineBreaks.lineFeeds.lines manifest =
          (plan.template settings (plan.recordId request.kind l now) (l.issue now).1).map
            Line.text := by
  intro always
  let request : Request :=
    .networkDelay { service := "check\nout", delaySeconds := some 10, durationMinutes := some 5 }
  let plan : Plan := ⟨"check\nout", "check\nout", 10, 5, .network "check\nout" "check\nout"⟩
  have planned : request.plan {} = .ok plan := by rfl
  have recorded : plan.record? request.kind {} ⟨0, 0⟩ =
      some ⟨"network-delay-check\nout-1", "check\nout", .networkDelay, 10, 5, ⟨0, 0⟩, ⟨300, 0⟩,
        .active⟩ := by rfl
  have hname := plan.id_of_record? ⟨0, 0⟩ request.kind {} recorded
  have sent := sent_of_record World.failing plainSettings {} () planned recorded
  have hlines := always plainSettings {} ⟨0, 0⟩ request plan World.failing {} _
    (single_plainSettings LineBreaks.lineFeeds) planned sent
  rw [← hname, plan.lines_eq_iff LineBreaks.lineFeeds _ _ (single_plainSettings _)] at hlines
  have hbreak := hlines "check\nout" (by simp [plan, Rule.texts]) '\n' (by decide)
  cases hbreak

end FaultPlane.Injection
