import FaultPlane.Plane.Api
import FaultPlane.Proofs.Json.Objects
import FaultPlane.Proofs.Text.Trimming

/-!
# Interfaces by their callers

A query for the interfaces of a service names callers, with commas between them. The answers to
texts that name a caller add up (`FilterLaws.union`). A text that names none is apart from them: it
stands for all interfaces (`FilterLaws.everything`). An answer shows each interface as a whole, so a
reader gets back what was answered (`interfaces_filtered`).
-/

namespace FaultPlane

open Text (HasItem commaItems)

/-! ### Selections -/

/-- Whether one of the services that a text names calls an interface. -/
def Interface.CalledFrom (i : Interface) (text : String) : Prop :=
  ∃ u ∈ i.callers, HasItem text u.service

instance (i : Interface) (text : String) : Decidable (i.CalledFrom text) :=
  inferInstanceAs (Decidable (∃ u ∈ i.callers, HasItem text u.service))

namespace Catalog

variable {c : Catalog} {service : String}

/-- The interfaces of a service that are called by the services in a text. -/
def forText (c : Catalog) (service text : String) : List Interface :=
  c.calledBy service (commaItems text)

/-- How an answer for every text follows from what the text names. -/
structure FilterLaws (offered : List Interface) (answer : String → List Interface) : Prop where
  ordered : ∀ text, (answer text).Sublist offered
  everything : ∀ text, (¬ ∃ name, HasItem text name) → answer text = offered
  selected : ∀ text, (∃ name, HasItem text name) →
    answer text = offered.filter fun i => i.CalledFrom text
  -- Order, repetitions, blanks and empty places are not part of what a text names.
  invariant : ∀ text other, (∀ name, HasItem text name ↔ HasItem other name) →
    answer text = answer other
  union : ∀ text other, (∃ name, HasItem text name) → (∃ name, HasItem other name) →
    answer (text ++ "," ++ other) = offered.filter fun i => i ∈ answer text ∨ i ∈ answer other

theorem calledFrom_iff (i : Interface) (text : String) :
    (i.callers.any fun u => (commaItems text).contains u.service) = true ↔ i.CalledFrom text := by
  simp only [List.any_eq_true, List.contains_iff_mem, ← Text.hasItem_iff, Interface.CalledFrom]

theorem calledFrom_congr {text other : String}
    (same : ∀ name, HasItem text name ↔ HasItem other name) (i : Interface) :
    i.CalledFrom text ↔ i.CalledFrom other := by
  simp only [Interface.CalledFrom, same]

theorem hasItem_append (text other name : String) :
    HasItem (text ++ "," ++ other) name ↔ HasItem text name ∨ HasItem other name := by
  simp only [Text.hasItem_iff, Text.commaItems_append, List.mem_append]

theorem calledFrom_append (i : Interface) (text other : String) :
    i.CalledFrom (text ++ "," ++ other) ↔ i.CalledFrom text ∨ i.CalledFrom other := by
  simp only [Interface.CalledFrom, hasItem_append, and_or_left, exists_or]

theorem forText_of_unnamed {text : String} (unnamed : ¬ ∃ name, HasItem text name) :
    c.forText service text = c.interfaces service := by
  have hnil : commaItems text = [] := by
    refine List.eq_nil_iff_forall_not_mem.2 fun name member => ?_
    exact unnamed ⟨name, Text.hasItem_iff.2 member⟩
  rw [forText, calledBy, hnil]
  rfl

theorem forText_of_named {text : String} (named : ∃ name, HasItem text name) :
    c.forText service text = (c.interfaces service).filter fun i => i.CalledFrom text := by
  obtain ⟨name, here⟩ := named
  have hfilled : (commaItems text).isEmpty = false :=
    List.isEmpty_eq_false_iff_exists_mem.2 ⟨name, Text.hasItem_iff.1 here⟩
  rw [forText, calledBy, if_neg (Bool.eq_false_iff.1 hfilled)]
  refine List.filter_congr fun i _ => ?_
  rw [Bool.eq_iff_iff, calledFrom_iff, decide_eq_true_eq]

theorem forText_congr {text other : String}
    (same : ∀ name, HasItem text name ↔ HasItem other name) :
    c.forText service text = c.forText service other := by
  by_cases named : ∃ name, HasItem text name
  · have hother : ∃ name, HasItem other name := named.imp fun name => (same name).1
    rw [forText_of_named named, forText_of_named hother]
    exact List.filter_congr fun i _ => decide_eq_decide.2 (calledFrom_congr same i)
  · have hother : ¬ ∃ name, HasItem other name := fun h => named (h.imp fun name => (same name).2)
    rw [forText_of_unnamed named, forText_of_unnamed hother]

theorem mem_forText {text : String} (named : ∃ name, HasItem text name) {i : Interface}
    (member : i ∈ c.interfaces service) :
    i ∈ c.forText service text ↔ i.CalledFrom text := by
  rw [forText_of_named named, List.mem_filter, decide_eq_true_eq, and_iff_right member]

theorem forText_append {text other : String} (named : ∃ name, HasItem text name)
    (alsoNamed : ∃ name, HasItem other name) :
    c.forText service (text ++ "," ++ other) = (c.interfaces service).filter fun i =>
      i ∈ c.forText service text ∨ i ∈ c.forText service other := by
  have hjoined : ∃ name, HasItem (text ++ "," ++ other) name :=
    named.imp fun name here => (hasItem_append text other name).2 (.inl here)
  rw [forText_of_named hjoined]
  refine List.filter_congr fun i member => decide_eq_decide.2 ?_
  rw [calledFrom_append, mem_forText named member, mem_forText alsoNamed member]

theorem filterLaws (c : Catalog) (service : String) :
    FilterLaws (c.interfaces service) (c.forText service) where
  ordered text := by
    by_cases named : ∃ name, HasItem text name
    · rw [forText_of_named named]
      exact List.filter_sublist
    · rw [forText_of_unnamed named]
  everything _ unnamed := forText_of_unnamed unnamed
  selected _ named := forText_of_named named
  invariant _ _ same := forText_congr same
  union _ _ named alsoNamed := forText_append named alsoNamed

end Catalog

/-! ### Interfaces that are shown -/

open Json (Codec Field)

theorem Caller.readsBack (c : Caller) : (Caller.codecWith Prod.snd).ReadsBack c :=
  Json.readsBack_record (by decide)
    ⟨Field.restores_required (Json.readsBack_text _),
      Field.restores_withDefault (Json.readsBack_text _),
      Field.restores_withDefault (Json.readsBack_text _),
      trivial⟩ rfl

theorem Interface.readsBack (i : Interface) : (Interface.codecWith Prod.snd).ReadsBack i :=
  Json.readsBack_record (by decide)
    ⟨Field.restores_required (Json.readsBack_text _),
      Field.restores_required (Json.readsBack_text _),
      Field.restores_withDefault (Json.readsBack_text _),
      Field.restores_optional fun name _ => Json.readsBack_text name,
      Field.restores_withDefault (Json.readsBack_list fun c _ => Caller.readsBack c),
      trivial⟩ rfl

/-- The text of some interfaces is read as these interfaces, with the keys that answers have. -/
theorem Interface.decode_list (interfaces : List Interface) :
    (Codec.list (Interface.codecWith Prod.snd)).decode
      (Json.list (interfaces.map Interface.codec.write)).compact = .ok interfaces :=
  (Json.readsBack_list fun i _ => Interface.readsBack i).carries

/-! ### Queries -/

namespace Plane

open Catalog (FilterLaws)
open Time (Instant)

variable (p : Plane)

theorem handle_filtered (uptime : Nat) (now : Instant) {r : Http.Request}
    (asked : r.method = .get) (path : r.path = ["api", "service", "interfaces", "filtered"])
    {field : String → Option String} (sent : r.fields interfaceFields = .ok field) :
    p.handle uptime now r = pure (showInterfaces (p.catalog.forText
      ((field "serviceName").getD "") ((field "directUpstreamServices").getD ""))) := by
  have hroute : r.route Route.ofPath Route.method = .ok .filteredInterfaces := by
    rw [Http.Request.route, path, asked]
    rfl
  have hserve : p.serve uptime now r .filteredInterfaces =
      .ok (pure (showInterfaces (p.catalog.forText
        ((field "serviceName").getD "") ((field "directUpstreamServices").getD "")))) := by
    show (r.fields interfaceFields >>= _) = _
    rw [sent]
    rfl
  exact p.handle_of_serve (by simp [asked]) (by simp [asked]) hroute hserve

/-- A query is answered with interfaces of the service that it names, in the order of the catalog:
with all of them if no caller is named, else with those that have a caller among the named ones. The
body is a list of them, and its text is read as them. -/
theorem interfaces_filtered (service : String) :
    FilterLaws (p.catalog.interfaces service) (p.catalog.forText service) ∧
    ∀ (uptime : Nat) (now : Instant) (r : Http.Request) (field : String → Option String),
      r.method = .get → r.path = ["api", "service", "interfaces", "filtered"] →
      r.fields interfaceFields = .ok field → (field "serviceName").getD "" = service →
      let answer := p.catalog.forText service ((field "directUpstreamServices").getD "")
      let body := Json.list (answer.map Interface.codec.write)
      p.handle uptime now r = pure (.json body) ∧
        (Codec.list (Interface.codecWith Prod.snd)).decode body.compact = .ok answer := by
  refine ⟨p.catalog.filterLaws service, fun uptime now r field asked path sent named => ?_⟩
  refine ⟨?_, Interface.decode_list _⟩
  rw [p.handle_filtered uptime now asked path sent, named, showInterfaces_eq]

/-! ### A service with two interfaces -/

def preserved : Interface where
  name := "/order/refresh"
  methodName := "queryOrders"
  callers := [⟨"ts-preserve", "", ""⟩, ⟨"ts-seat", "", ""⟩]

def administered : Interface where
  name := "/order"
  methodName := "getAllOrders"
  callers := [⟨"ts-admin", "", ""⟩]

def twoInterfaces : Plane := ⟨{}, { services := [⟨"ts-order", [preserved, administered]⟩] }⟩

def seatQuery : Http.Request where
  method := .get
  path := ["api", "service", "interfaces", "filtered"]
  query := "serviceName=ts-order&directUpstreamServices=,+ts-seat%2Cts-seat"
  contentType := none
  body := ""

/-- What is shown of the interface that the seat service calls. -/
def shownPreserved : Json :=
  .object
    [("interfaceName", .text "/order/refresh"), ("methodName", .text "queryOrders"),
      ("httpMethod", .text ""),
      ("upstreamServices", .list
        [.object [("serviceName", .text "ts-preserve"), ("interfaceName", .text ""),
            ("methodName", .text "")],
          .object [("serviceName", .text "ts-seat"), ("interfaceName", .text ""),
            ("methodName", .text "")]])]

theorem interfaces_filtered_seat :
    twoInterfaces.handle 0 ⟨0, 0⟩ seatQuery = pure (.json (.list [shownPreserved])) ∧
      twoInterfaces.catalog.forText "ts-order" "ts-seat , ts-admin" =
        [preserved, administered] := by
  obtain ⟨hlaws, hhandle⟩ := twoInterfaces.interfaces_filtered "ts-order"
  have hfields : seatQuery.fields interfaceFields = .ok fun name =>
      [("serviceName", "ts-order"), ("directUpstreamServices", ", ts-seat,ts-seat")].lookup name :=
    rfl
  have hseat : twoInterfaces.catalog.forText "ts-order" ", ts-seat,ts-seat" = [preserved] := by
    rw [hlaws.selected _ ⟨"ts-seat", by decide⟩]
    decide
  have hshown : [preserved].map Interface.codec.write = [shownPreserved] := rfl
  refine ⟨?_, ?_⟩
  · obtain ⟨hanswer, -⟩ := hhandle 0 ⟨0, 0⟩ seatQuery _ rfl rfl hfields rfl
    have hbody := (congrArg (List.map Interface.codec.write) hseat).trans hshown
    exact hanswer.trans (congrArg (pure <| Http.Response.json <| Json.list ·) hbody)
  · have hunion := hlaws.union "ts-seat " " ts-admin" ⟨"ts-seat", by decide⟩ ⟨"ts-admin", by decide⟩
    rw [hlaws.selected "ts-seat " ⟨"ts-seat", by decide⟩,
      hlaws.selected " ts-admin" ⟨"ts-admin", by decide⟩] at hunion
    exact hunion.trans (by decide)

end Plane

end FaultPlane
