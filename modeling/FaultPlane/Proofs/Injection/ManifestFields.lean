import FaultPlane.Proofs.Decimal.Integers
import FaultPlane.Proofs.Injection.ManifestLines
import FaultPlane.Proofs.Text.Occurrences

/-!
# Reading a manifest

What a manifest was made of can be read back from it, as long as no text in it has a line feed
inside: every parameter stands at a place of its own, between texts of the template. So different
parameters make different manifests (`manifests_determine`).
-/

namespace FaultPlane.Injection

open Text (LineBreaks pieces afterPrefix? afterPrefix?_eq_some)

/-! ### Values in lines -/

/-- What stands in a line between two texts. -/
def between? (front back line : String) : Option String := do
  let rest ← afterPrefix? front.toList line.toList
  let value ← afterPrefix? back.toList.reverse rest.reverse
  pure (String.ofList value.reverse)

/-- What stands between two texts in the line at a place. -/
def field? (lines : List String) (place : Nat) (front back : String) : Option String :=
  lines[place]?.bind (between? front back)

theorem between?_eq_some {front back line value : String} :
    between? front back line = some value ↔ line = front ++ value ++ back := by
  unfold between?
  simp only [Option.bind_eq_bind, Option.bind_eq_some_iff, afterPrefix?_eq_some, Option.pure_def,
    Option.some.injEq, ← String.toList_inj, String.toList_append]
  constructor
  · rintro ⟨rest, hfront, rev, hback, hvalue⟩
    have hrest : rest = rev.reverse ++ back.toList := by
      rw [← List.reverse_reverse rest, hback, List.reverse_append, List.reverse_reverse]
    rw [hfront, hrest, ← hvalue, String.toList_ofList, List.append_assoc]
  · intro hline
    refine ⟨value.toList ++ back.toList, ?_, value.toList.reverse, ?_, ?_⟩
    · rw [hline, List.append_assoc]
    · rw [List.reverse_append]
    · rw [List.reverse_reverse, String.toList_ofList]

theorem field?_eq_some {lines : List String} {place : Nat} {front back value : String} :
    field? lines place front back = some value ↔
      lines[place]? = some (front ++ value ++ back) := by
  simp only [field?, Option.bind_eq_some_iff, between?_eq_some, exists_eq_right]

section

variable {template : List Line} {place : Nat} {line : Line} {text front value back : String}

theorem field?_template (h : template[place]? = some line)
    (filled : line.text = front ++ value ++ back) :
    field? (template.map Line.text) place front back = some value := by
  rw [field?_eq_some, List.getElem?_map, h, Option.map_some, filled]

theorem field?_ending (h : template[place]? = some [.fixed front, .value value]) :
    field? (template.map Line.text) place front "" = some value :=
  field?_template h (by simp [Line.text, Part.text])

theorem field?_between (h : template[place]? = some [.fixed front, .value value, .fixed back]) :
    field? (template.map Line.text) place front back = some value :=
  field?_template h (by simp [Line.text, Part.text, String.append_assoc])

/-- The second of two values in a line can be read once the first is known. -/
theorem field?_second {first between : String}
    (h : template[place]? = some [.fixed front, .value first, .fixed between, .value value]) :
    field? (template.map Line.text) place (front ++ first ++ between) "" = some value :=
  field?_template h (by simp [Line.text, Part.text, String.append_assoc])

theorem Line.text_fixed (text : String) : Line.text [.fixed text] = text := by
  simp [Line.text, Part.text]

theorem mem_template (h : template[place]? = some [.fixed text]) :
    text ∈ template.map Line.text :=
  List.mem_map.2 ⟨_, List.mem_of_getElem? h, Line.text_fixed text⟩

/-- Whether a line cannot become a text, whatever its values are. -/
def Line.isUnlike (text : String) : Line → Bool
  | .fixed front :: _ => !Text.startsWith front text
  | _ => false

theorem not_mem_template (unlike : template.all (Line.isUnlike text) = true) :
    text ∉ template.map Line.text := by
  intro inside
  obtain ⟨line, member, rfl⟩ := List.mem_map.1 inside
  have hline := List.all_eq_true.1 unlike line member
  unfold Line.isUnlike at hline
  split at hline
  · next front parts =>
    have hstart : Text.startsWith front (Line.text (.fixed front :: parts)) = true := by
      rw [Text.startsWith, Line.text, String.toList_join, List.map_cons, List.flatMap_cons,
        List.isPrefixOf_iff_prefix]
      exact List.prefix_append _ _
    rw [hstart] at hline
    cases hline
  · cases hline

end

/-! ### Network manifests -/

namespace NetworkSpec

/-- The source in some lines: the target is the source if there is no block for another one. -/
def source? (lines : List String) (target : String) : Option String :=
  if "  target:" ∈ lines then field? lines 19 "        app: " "" else some target

/-- The parameters of the network manifest with some lines. -/
def ofLines? (lines : List String) : Option NetworkSpec := do
  let name ← field? lines 3 "  name: " ""
  let namespaceName ← field? lines 4 "  namespace: " ""
  let target ← field? lines 10 "      app: " ""
  let source ← source? lines target
  let delaySeconds ← Decimal.uint64? (← field? lines 12 "    latency: " "s")
  let durationMinutes ← Decimal.uint64? (← field? lines 15 "  duration: " "m")
  pure ⟨name, namespaceName, source, target, delaySeconds, durationMinutes⟩

variable (s : NetworkSpec)

theorem target_mem_iff : "  target:" ∈ s.template.map Line.text ↔ s.source ≠ s.target := by
  constructor
  · intro inside same
    refine not_mem_template ?_ inside
    rw [template, sourceBlock, if_pos same]
    rfl
  · intro other
    have hblock : s.template[16]? = some [.fixed "  target:"] := by
      rw [template, sourceBlock, if_neg other]
      rfl
    exact mem_template hblock

theorem source?_template : source? (s.template.map Line.text) s.target = some s.source := by
  by_cases same : s.source = s.target
  · rw [source?, if_neg fun inside => s.target_mem_iff.1 inside same, same]
  · rw [source?, if_pos (s.target_mem_iff.2 same)]
    refine field?_ending ?_
    rw [template, sourceBlock, if_neg same]
    rfl

theorem ofLines?_template : ofLines? (s.template.map Line.text) = some s := by
  let lines := s.template.map Line.text
  have hname : field? lines 3 "  name: " "" = some s.name := field?_ending rfl
  have hnamespace : field? lines 4 "  namespace: " "" = some s.namespaceName := field?_ending rfl
  have htarget : field? lines 10 "      app: " "" = some s.target := field?_ending rfl
  have hsource : source? lines s.target = some s.source := s.source?_template
  have hdelay : field? lines 12 "    latency: " "s" =
      some (Decimal.ofNat s.delaySeconds.toNat) := field?_between rfl
  have hduration : field? lines 15 "  duration: " "m" =
      some (Decimal.ofNat s.durationMinutes.toNat) := field?_between rfl
  show ofLines? lines = some s
  simp only [ofLines?, hname, hnamespace, htarget, hsource, hdelay, hduration,
    Decimal.uint64?_ofNat, Option.bind_eq_bind, Option.bind_some, Option.pure_def]

end NetworkSpec

/-! ### JVM manifests -/

namespace JvmSpec

/-- The parameters of a rule that makes a method throw, from the lines of its manifest. -/
def ofThrowLines? (lines : List String) : Option JvmSpec := do
  let namespaceName ← field? lines 3 "  namespace: " ""
  let name ← field? lines 4 "  name: " ""
  let service ← field? lines 12 "      app: " ""
  let durationMinutes ← Decimal.uint64? (← field? lines 14 "  duration: " "m")
  let portNumber ← Decimal.uint16? (← field? lines 16 "  port: " "")
  let nonce ← Decimal.int? (← field? lines 17 "  name: '--ruleData-" "'")
  let className ← field? lines 23 "    CLASS " ""
  let methodName ← field? lines 24 "    METHOD " ""
  let interfaceName ← field? lines 27
    "        DO throw new RuntimeException(\"Simulated server error for " "\");"
  pure ⟨name, namespaceName, service, durationMinutes, portNumber, className, methodName,
    .throws interfaceName, nonce⟩

/-- The parameters of a rule that makes a method slow, from the lines of its manifest. -/
def ofDelayLines? (lines : List String) : Option JvmSpec := do
  let namespaceName ← field? lines 3 "  namespace: " ""
  let name ← field? lines 4 "  name: " ""
  let service ← field? lines 10 "      app: " ""
  let durationMinutes ← Decimal.uint64? (← field? lines 12 "  duration: " "m")
  let portNumber ← Decimal.uint16? (← field? lines 14 "  port: " "")
  let className ← field? lines 15 "  class: " ""
  let methodName ← field? lines 16 "  method: " ""
  -- The name of the rule starts with the class, which has been read already.
  let nonce ← Decimal.int? (← field? lines 17 ("  name: " ++ className ++ "-latency-") "")
  let latencyMs ← Decimal.uint64? (← field? lines 20 "  latency: " "")
  pure ⟨name, namespaceName, service, durationMinutes, portNumber, className, methodName,
    .delays latencyMs, nonce⟩

/-- The parameters of the JVM manifest with some lines. -/
def ofLines? (lines : List String) : Option JvmSpec :=
  if "  action: ruleData" ∈ lines then ofThrowLines? lines else ofDelayLines? lines

variable {s : JvmSpec}

theorem ofThrowLines?_template {interfaceName : String}
    (throws : s.effect = .throws interfaceName) :
    ofThrowLines? ((s.throwTemplate interfaceName).map Line.text) = some s := by
  let lines := (s.throwTemplate interfaceName).map Line.text
  have hnamespace : field? lines 3 "  namespace: " "" = some s.namespaceName := field?_ending rfl
  have hname : field? lines 4 "  name: " "" = some s.name := field?_ending rfl
  have hservice : field? lines 12 "      app: " "" = some s.service := field?_ending rfl
  have hduration : field? lines 14 "  duration: " "m" =
      some (Decimal.ofNat s.durationMinutes.toNat) := field?_between rfl
  have hport : field? lines 16 "  port: " "" = some (Decimal.ofNat s.portNumber.toNat) :=
    field?_ending rfl
  have hnonce : field? lines 17 "  name: '--ruleData-" "'" = some (Decimal.ofInt s.nonce) :=
    field?_between rfl
  have hclass : field? lines 23 "    CLASS " "" = some s.className := field?_ending rfl
  have hmethod : field? lines 24 "    METHOD " "" = some s.methodName := field?_ending rfl
  have hinterface : field? lines 27
      "        DO throw new RuntimeException(\"Simulated server error for " "\");" =
        some interfaceName := field?_between rfl
  show ofThrowLines? lines = some s
  simp only [ofThrowLines?, hnamespace, hname, hservice, hduration, hport, hnonce, hclass, hmethod,
    hinterface, Decimal.uint64?_ofNat, Decimal.uint16?_ofNat, Decimal.int?_ofInt,
    Option.bind_eq_bind, Option.bind_some, Option.pure_def, ← throws]

theorem ofDelayLines?_template {latencyMs : UInt64} (delays : s.effect = .delays latencyMs) :
    ofDelayLines? ((s.delayTemplate latencyMs).map Line.text) = some s := by
  let lines := (s.delayTemplate latencyMs).map Line.text
  have hnamespace : field? lines 3 "  namespace: " "" = some s.namespaceName := field?_ending rfl
  have hname : field? lines 4 "  name: " "" = some s.name := field?_ending rfl
  have hservice : field? lines 10 "      app: " "" = some s.service := field?_ending rfl
  have hduration : field? lines 12 "  duration: " "m" =
      some (Decimal.ofNat s.durationMinutes.toNat) := field?_between rfl
  have hport : field? lines 14 "  port: " "" = some (Decimal.ofNat s.portNumber.toNat) :=
    field?_ending rfl
  have hclass : field? lines 15 "  class: " "" = some s.className := field?_ending rfl
  have hmethod : field? lines 16 "  method: " "" = some s.methodName := field?_ending rfl
  have hnonce : field? lines 17 ("  name: " ++ s.className ++ "-latency-") "" =
      some (Decimal.ofInt s.nonce) := field?_second rfl
  have hlatency : field? lines 20 "  latency: " "" = some (Decimal.ofNat latencyMs.toNat) :=
    field?_ending rfl
  show ofDelayLines? lines = some s
  simp only [ofDelayLines?, hnamespace, hname, hservice, hduration, hport, hclass, hmethod, hnonce,
    hlatency, Decimal.uint64?_ofNat, Decimal.uint16?_ofNat, Decimal.int?_ofInt,
    Option.bind_eq_bind, Option.bind_some, Option.pure_def, ← delays]

theorem ofLines?_template (s : JvmSpec) : ofLines? (s.template.map Line.text) = some s := by
  unfold template
  split
  · next interfaceName throws =>
    have haction : (s.throwTemplate interfaceName)[15]? = some [.fixed "  action: ruleData"] := rfl
    rw [ofLines?, if_pos (mem_template haction), ofThrowLines?_template throws]
  · next latencyMs delays =>
    have hrule : "  action: ruleData" ∉ (s.delayTemplate latencyMs).map Line.text :=
      not_mem_template rfl
    rw [ofLines?, if_neg hrule, ofDelayLines?_template delays]

end JvmSpec

/-! ### Manifests -/

def NetworkSpec.ofManifest? (manifest : String) : Option NetworkSpec :=
  ofLines? (LineBreaks.lineFeeds.lines manifest)

def JvmSpec.ofManifest? (manifest : String) : Option JvmSpec :=
  ofLines? (LineBreaks.lineFeeds.lines manifest)

/-- No text among the parameters has a line feed inside. -/
def NetworkSpec.Unbroken (s : NetworkSpec) : Prop :=
  ∀ text ∈ [s.name, s.namespaceName, s.source, s.target], LineBreaks.lineFeeds.Single text

def JvmEffect.texts : JvmEffect → List String
  | .throws interfaceName => [interfaceName]
  | .delays _ => []

def JvmSpec.Unbroken (s : JvmSpec) : Prop :=
  ∀ text ∈ [s.name, s.namespaceName, s.service, s.className, s.methodName] ++ s.effect.texts,
    LineBreaks.lineFeeds.Single text

theorem NetworkSpec.lines_of_unbroken {s : NetworkSpec} (unbroken : s.Unbroken) :
    LineBreaks.lineFeeds.lines s.manifest = s.template.map Line.text := by
  rw [NetworkSpec.lines_manifest, LineBreaks.flatMap_pieces_eq_iff,
    single_template_iff _ s.plain_template, s.values_template]
  simp only [NetworkSpec.Unbroken, List.forall_mem_cons] at unbroken
  obtain ⟨name, namespaceName, source, target, -⟩ := unbroken
  by_cases same : s.source = s.target <;> simp [name, namespaceName, source, target, same]

theorem JvmSpec.lines_of_unbroken {s : JvmSpec} (unbroken : s.Unbroken) :
    LineBreaks.lineFeeds.lines s.manifest = s.template.map Line.text := by
  rw [JvmSpec.lines_manifest, LineBreaks.flatMap_pieces_eq_iff,
    single_template_iff _ s.plain_template]
  simp only [JvmSpec.Unbroken, List.forall_mem_append, List.forall_mem_cons] at unbroken
  obtain ⟨⟨name, namespaceName, service, className, methodName, -⟩, effect⟩ := unbroken
  unfold JvmSpec.template
  split
  · next interfaceName throws =>
    rw [throws, JvmEffect.texts, List.forall_mem_singleton] at effect
    rw [s.values_throwTemplate]
    simp [name, namespaceName, service, className, methodName, effect]
  · next latencyMs delays =>
    rw [s.values_delayTemplate]
    simp [name, namespaceName, service, className, methodName]

theorem NetworkSpec.ofManifest?_manifest {s : NetworkSpec} (unbroken : s.Unbroken) :
    ofManifest? s.manifest = some s := by
  rw [ofManifest?, lines_of_unbroken unbroken, s.ofLines?_template]

theorem NetworkSpec.manifest_inj {s t : NetworkSpec} (hs : s.Unbroken) (ht : t.Unbroken)
    (same : s.manifest = t.manifest) : s = t := by
  have hread := ofManifest?_manifest hs
  rw [same, ofManifest?_manifest ht] at hread
  exact (Option.some.inj hread).symm

theorem JvmSpec.ofManifest?_manifest {s : JvmSpec} (unbroken : s.Unbroken) :
    ofManifest? s.manifest = some s := by
  rw [ofManifest?, lines_of_unbroken unbroken, s.ofLines?_template]

theorem JvmSpec.manifest_inj {s t : JvmSpec} (hs : s.Unbroken) (ht : t.Unbroken)
    (same : s.manifest = t.manifest) : s = t := by
  have hread := ofManifest?_manifest hs
  rw [same, ofManifest?_manifest ht] at hread
  exact (Option.some.inj hread).symm

theorem head?_flatMap_pieces (b : LineBreaks) {template : List Line} {first : String}
    (h : template.head? = some [.fixed first]) (plain : first.toList.all Text.isPrintable = true) :
    ((template.map Line.text).flatMap (pieces b.isBreak)).head? = some first := by
  obtain ⟨others, rfl⟩ := List.head?_eq_some_iff.1 h
  rw [List.map_cons, List.flatMap_cons, Line.text_fixed,
    Text.pieces_of_none (b.single_of_printable plain)]
  rfl

/-- The manifests of the two kinds differ in their first line, whatever stands in them. -/
theorem NetworkSpec.manifest_ne (s : NetworkSpec) (t : JvmSpec) : s.manifest ≠ t.manifest := by
  have hnetwork : (LineBreaks.lineFeeds.lines s.manifest).head? =
      some "apiVersion: chaos-mesh.org/v1alpha1" := by
    rw [NetworkSpec.lines_manifest]
    exact head?_flatMap_pieces _ rfl rfl
  have hjvm : (LineBreaks.lineFeeds.lines t.manifest).head? = some "kind: JVMChaos" := by
    rw [JvmSpec.lines_manifest]
    unfold JvmSpec.template
    split <;> exact head?_flatMap_pieces _ rfl rfl
  intro same
  rw [same, hjvm] at hnetwork
  exact absurd hnetwork (by decide)

/-- The parameters of a manifest can be read back from it if no text among them has a line feed
inside. So different parameters make different manifests, and the source of a network fault is its
target exactly if the manifest has no block for another source. -/
theorem manifests_determine :
    (∀ s : NetworkSpec, s.Unbroken →
        NetworkSpec.ofManifest? s.manifest = some s ∧
        (s.source = s.target ↔ "  target:" ∉ LineBreaks.lineFeeds.lines s.manifest) ∧
        ∀ t : NetworkSpec, t.Unbroken → s.manifest = t.manifest → s = t) ∧
      (∀ s : JvmSpec, s.Unbroken →
        JvmSpec.ofManifest? s.manifest = some s ∧
        ∀ t : JvmSpec, t.Unbroken → s.manifest = t.manifest → s = t) ∧
      ∀ (s : NetworkSpec) (t : JvmSpec), s.manifest ≠ t.manifest := by
  refine ⟨fun s unbroken => ⟨?_, ?_, ?_⟩, fun s unbroken => ⟨?_, ?_⟩, NetworkSpec.manifest_ne⟩
  · exact NetworkSpec.ofManifest?_manifest unbroken
  · rw [NetworkSpec.lines_of_unbroken unbroken, s.target_mem_iff, Classical.not_not]
  · exact fun t unbroken' => NetworkSpec.manifest_inj unbroken unbroken'
  · exact JvmSpec.ofManifest?_manifest unbroken
  · exact fun t unbroken' => JvmSpec.manifest_inj unbroken unbroken'

/-- Parameters that hold pieces of the templates. -/
theorem manifests_determine_pieces :
    let s : NetworkSpec := ⟨"delay-1", "chaos", "ts-seat", "  target:", 5, 10⟩
    let t : JvmSpec := ⟨"jvm-1", "chaos", "ts-order", 3, 9277, "Order-latency-1", "find",
      .delays 1500, -2⟩
    s.Unbroken ∧ t.Unbroken ∧ NetworkSpec.ofManifest? s.manifest = some s ∧
      "  target:" ∈ LineBreaks.lineFeeds.lines s.manifest ∧
      JvmSpec.ofManifest? t.manifest = some t := by
  intro s t
  have single : ∀ texts : List String,
      texts.all (fun text => text.toList.all Text.isPrintable) = true →
        ∀ text ∈ texts, LineBreaks.lineFeeds.Single text :=
    fun texts plain text inside =>
      LineBreaks.single_of_printable _ (List.all_eq_true.1 plain text inside)
  have unbroken : s.Unbroken := single _ (by decide)
  have unbroken' : t.Unbroken := single _ (by decide)
  obtain ⟨hread, htarget, -⟩ := manifests_determine.1 s unbroken
  refine ⟨unbroken, unbroken', hread, ?_, (manifests_determine.2.1 t unbroken').1⟩
  exact Classical.not_not.1 fun absent => absurd (htarget.2 absent) (by decide)

end FaultPlane.Injection
