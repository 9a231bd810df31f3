import FaultPlane.Plane.Basic
import FaultPlane.Proofs.Discovery.Reflection

/-!
# Rounds of polls

A control plane polls its services in rounds: all of them, or one. Whatever they answer, the
directory reflects the polls that were made, in whatever order the polls of a round go on
(`directory_reflects`). This needs services with different ids.
-/

namespace FaultPlane

open Discovery
open FaultPlane.Time (Instant)

namespace Discovery

/-! ### Rounds of polls -/

/-- What can come of some rounds of polls, one round after the other, when the polls of a round go
on side by side. -/
inductive Passed (servicePort : UInt16) :
    List (List Observation) → Directory → Directory → Prop where
  | nil (d : Directory) : Passed servicePort [] d d
  | cons {observations : List Observation} {rounds : List (List Observation)}
      {d d' d'' : Directory}
      (first : Concurrent (program servicePort) d d' (observations.map (·.finished servicePort)))
      (later : Passed servicePort rounds d' d'') : Passed servicePort (observations :: rounds) d d''

theorem Passed.entry {servicePort : UInt16} {rounds : List (List Observation)} {d d' : Directory}
    (h : Passed servicePort rounds d d')
    (once : ∀ observations ∈ rounds, (observations.map (·.service.id)).Nodup) (k : String) :
    d'.entry k = (rounds.flatten.foldl Directory.note d).entry k := by
  induction h with
  | nil d => rfl
  | cons first _ ih =>
    have hfirst := entry_concurrent first (once _ List.mem_cons_self) k
    rw [ih fun os inside => once os (List.mem_cons_of_mem _ inside), List.flatten_cons,
      List.foldl_append]
    exact entry_foldl_congr hfirst

/-! ### What rounds observe -/

section

variable {ω : Type} (world : World ω) (servicePort : UInt16) (now : Instant)

/-- A dialogue makes certain polls, one after the other, and notes the answers. -/
def Observes {α : Type} (dialogue : Dialogue Directory α) (polls : List (ServiceEntry × Instant)) :
    Prop :=
  ∀ d w, ∃ observations : List Observation,
    observations.map (fun o => (o.service, o.now)) = polls ∧
      dialogue.transcript world d w = observations.flatMap (·.exchanges servicePort) ∧
      ∀ {d₀ tasks}, Concurrent (program servicePort) d₀ d tasks →
        Concurrent (program servicePort) d₀ (dialogue.run world d w).2.1
          (tasks ++ observations.map (·.finished servicePort))

theorem observes_pure {α : Type} (a : α) : Observes world servicePort (pure a) [] :=
  fun _ _ => ⟨[], rfl, rfl, fun h => by rw [List.map_nil, List.append_nil]; exact h⟩

theorem Observes.poll_bind {α : Type} {f : Unit → Dialogue Directory α}
    {polls : List (ServiceEntry × Instant)} (h : Observes world servicePort (f ()) polls)
    (service : ServiceEntry) :
    Observes world servicePort (poll servicePort now service >>= f) ((service, now) :: polls) := by
  intro d w
  have hyields := Dialogue.yields_run world (poll servicePort now service) d w
  obtain ⟨o, same, hexchanges, -⟩ := yields_poll hyields
  obtain ⟨os, hsame, hrest, hlater⟩ := h
    ((poll servicePort now service).run world d w).2.1
    ((poll servicePort now service).run world d w).2.2
  refine ⟨o :: os, ?_, ?_, ?_⟩
  · rw [List.map_cons, same, hsame]
  · rw [Dialogue.transcript_bind, hexchanges, List.flatMap_cons, hrest]
  · intro d₀ tasks before
    rw [hexchanges] at hyields
    cases same
    obtain ⟨a, hfinished⟩ := (before.start (o.service, o.now)).finish hyields
    have hafter := hlater hfinished
    rw [List.append_assoc] at hafter
    rw [Dialogue.run_bind]
    exact hafter

theorem observes_pollAll (services : List ServiceEntry) :
    Observes world servicePort (pollAll servicePort now services) (services.map (·, now)) := by
  induction services with
  | nil => exact observes_pure world servicePort ()
  | cons service services ih => exact ih.poll_bind world servicePort now service

theorem observes_refresh (services : List ServiceEntry) (id : String) :
    Observes world servicePort (refresh services servicePort now id)
      ((services.find? (·.id == id)).toList.map (·, now)) := by
  unfold refresh
  cases services.find? (·.id == id) with
  | none => exact observes_pure world servicePort false
  | some service =>
    exact (observes_pure world servicePort true).poll_bind world servicePort now service

end

end Discovery

namespace Plane

/-- A round of polls: of all services, or of the one with an id. -/
inductive Round where
  | all (now : Instant)
  | one (now : Instant) (id : String)

variable (p : Plane)

def polls : Round → List (ServiceEntry × Instant)
  | .all now => p.config.services.map (·, now)
  | .one now id => (p.config.services.find? (·.id == id)).toList.map (·, now)

/-- Carries out some rounds, one after the other. -/
def carryOut : List Round → Dialogue State Unit
  | [] => pure ()
  | .all now :: rounds => do
    p.pollAll now
    carryOut rounds
  | .one now id :: rounds => do
    let _ ← p.refresh now id
    carryOut rounds

def Observed (rounds : List Round) (history : List (List Observation)) : Prop :=
  history.map (·.map fun o => (o.service, o.now)) = rounds.map p.polls

/-- A round polls some of the configured services, each of them once. -/
theorem sublist_polls (round : Round) :
    ((p.polls round).map Prod.fst).Sublist p.config.services := by
  cases round with
  | all now => simp [polls, Function.comp_def]
  | one now id =>
    cases hfind : p.config.services.find? (·.id == id) with
    | none => simp [polls, hfind]
    | some service => simpa [polls, hfind] using List.mem_of_find?_eq_some hfind

theorem Observed.sublist {p : Plane} {rounds : List Round} {history : List (List Observation)}
    (h : p.Observed rounds history) {observations : List Observation}
    (inside : observations ∈ history) :
    (observations.map (·.service)).Sublist p.config.services := by
  have hmap := List.mem_map_of_mem (f := (·.map fun o : Observation => (o.service, o.now))) inside
  rw [h] at hmap
  obtain ⟨round, -, hround⟩ := List.mem_map.1 hmap
  have hservices := congrArg (List.map Prod.fst) hround
  rw [List.map_map] at hservices
  exact hservices ▸ p.sublist_polls round

section

variable {ω : Type} (world : World ω)

/-- A dialogue carries out some rounds: it makes their polls and notes the answers. -/
def Records (dialogue : Dialogue State Unit) (rounds : List Round) : Prop :=
  ∀ s w, ∃ history, p.Observed rounds history ∧
    dialogue.transcript world s w = history.flatten.flatMap (·.exchanges p.servicePort) ∧
    Passed p.servicePort history s.directory (dialogue.run world s w).2.1.directory

theorem records_bind {α : Type} {dialogue : Dialogue Directory α} {f : α → Dialogue State Unit}
    {round : Round} {rounds : List Round}
    (first : Observes world p.servicePort dialogue (p.polls round))
    (later : ∀ a, p.Records world (f a) rounds) :
    p.Records world (onDirectory dialogue >>= f) (round :: rounds) := by
  intro s w
  obtain ⟨os, hsame, htranscript, hconcurrent⟩ := first s.directory w
  obtain ⟨history, hhistory, hrest, hpassed⟩ :=
    later ((onDirectory dialogue).run world s w).1 ((onDirectory dialogue).run world s w).2.1
      ((onDirectory dialogue).run world s w).2.2
  refine ⟨os :: history, ?_, ?_, ?_⟩
  · rw [Observed, List.map_cons, hsame, hhistory, List.map_cons]
  · rw [Dialogue.transcript_bind, hrest, List.flatten_cons, List.flatMap_append, ← htranscript]
    exact congrArg (· ++ _) (Dialogue.transcript_within world (fun _ _ => rfl) dialogue s w)
  · rw [Dialogue.run_bind]
    refine .cons ?_ hpassed
    rw [run_onDirectory world dialogue s w]
    exact hconcurrent .init

theorem records_carryOut (rounds : List Round) : p.Records world (p.carryOut rounds) rounds := by
  induction rounds with
  | nil => exact fun s w => ⟨[], rfl, rfl, .nil _⟩
  | cons round rounds ih =>
    cases round with
    | all now =>
      have hall := observes_pollAll world p.servicePort now p.config.services
      exact p.records_bind world hall fun _ => ih
    | one now id =>
      have hone := observes_refresh world p.servicePort now p.config.services id
      exact p.records_bind world hone fun _ => ih

/-- Whatever the services answer to some rounds of polls, the directory reflects the polls that were
made. So it does if the polls of each round go on side by side and are answered the same. -/
theorem directory_reflects (distinct : (p.config.services.map (·.id)).Nodup) (rounds : List Round)
    (w : ω) :
    ∃ history, p.Observed rounds history ∧
      (p.carryOut rounds).transcript world {} w =
        history.flatten.flatMap (·.exchanges p.servicePort) ∧
      Reflects p.config.services history.flatten
        ((p.carryOut rounds).run world {} w).2.1.directory ∧
      ∀ d, Passed p.servicePort history {} d → Reflects p.config.services history.flatten d := by
  obtain ⟨history, hobserved, htranscript, hpassed⟩ := p.records_carryOut world rounds {} w
  have hknown : ∀ o ∈ history.flatten, o.service ∈ p.config.services := by
    intro o inside
    obtain ⟨observations, member, ho⟩ := List.mem_flatten.1 inside
    exact (hobserved.sublist member).subset (List.mem_map_of_mem ho)
  have honce : ∀ observations ∈ history, (observations.map (·.service.id)).Nodup := by
    intro observations inside
    have hids := distinct.sublist ((hobserved.sublist inside).map (·.id))
    rwa [List.map_map] at hids
  -- The order within a round does not matter, because no two of its polls have one id.
  have hreflects : ∀ d, Passed p.servicePort history {} d →
      Reflects p.config.services history.flatten d :=
    fun d passed => reflects_of_entry distinct hknown (passed.entry honce)
  exact ⟨history, hobserved, htranscript, hreflects _ hpassed, hreflects⟩

/-- Two services that answer their first polls only. -/
theorem directory_reflects_orders :
    let p : Plane := ⟨{ services := [⟨"ts-order", "Orders", none⟩, ⟨"ts-seat", "Seats", none⟩] }, {}⟩
    let world : World Nat := fun
      | .service _ .info, n =>
        (if n < 4 then .ok { faults := [{ id := "slow-sql" }] } else .error (.refused 503), n + 1)
      | .service _ .status, n => (if n < 4 then .ok {} else .error (.refused 503), n + 1)
      | .service _ (.command c), n => (.ok (.failure c.faultId ""), n)
      | .cluster (.apply _), n => (⟨false, ""⟩, n)
      | .cluster (.delete ..), n => (false, n)
      | .cluster (.list ..), n => ([], n)
    let rounds : List Round := [.all ⟨0, 0⟩, .one ⟨1, 0⟩ "ts-order"]
    let d := ((p.carryOut rounds).run world {} 0).2.1.directory
    (p.config.services.map (·.id)).Nodup ∧
      (∃ history, p.Observed rounds history ∧ Reflects p.config.services history.flatten d) ∧
      d.statuses.get? "ts-order" = some
        { serviceId := "ts-order"
          serviceName := "Orders"
          status := "offline"
          details := "Service unreachable: Leaf service ts-order answered HTTP 503"
          timestamp := 1000
          faults := [{ id := "slow-sql" }] } := by
  intro p world rounds d
  have distinct : (p.config.services.map (·.id)).Nodup := by decide
  obtain ⟨history, hobserved, -, hreflects, -⟩ := p.directory_reflects world distinct rounds 0
  refine ⟨distinct, ⟨history, hobserved, hreflects⟩, ?_⟩
  rfl

end

end Plane

end FaultPlane
