import FaultPlane.Proofs.Discovery.Observation

/-!
# Directories that reflect the polls

A directory reflects a history of polls if all that it holds comes from there: the description of a
service from the last poll that has got one, its state from its last poll. The directory that is
written poll by poll reflects the polls, and so does any other with the same entries
(`reflects_of_entry`).
-/

namespace FaultPlane.Discovery

open Contract (ServiceInfo)

/-! ### Histories of polls -/

/-- The description that a poll has got of a service. -/
def Observation.info? (id : String) (o : Observation) : Option ServiceInfo :=
  if o.service.id = id then o.info.toOption else none

/-- The last description that was got of a service. -/
def lastInfo (history : List Observation) (id : String) : Option ServiceInfo :=
  (history.filterMap (·.info? id)).getLast?

/-- Whether a poll is the last one of a service, and which polls were made before it. -/
def IsLast (history : List Observation) (id : String) (earlier : List Observation)
    (o : Observation) : Prop :=
  o.service.id = id ∧ ∃ later, history = earlier ++ o :: later ∧ ∀ x ∈ later, x.service.id ≠ id

/-- A directory as a function of the polls that were made of some services. -/
structure Reflects (services : List ServiceEntry) (history : List Observation) (d : Directory) :
    Prop where
  configured : ∀ id, id ∈ d.infos.keys ∨ id ∈ d.statuses.keys → id ∈ services.map (·.id)
  info : ∀ id, d.infos.get? id = lastInfo history id
  unpolled : ∀ id, d.statuses.get? id = none ↔ ∀ o ∈ history, o.service.id ≠ id
  online : ∀ service ∈ services, ∀ earlier o, IsLast history service.id earlier o →
    ∀ status, o.status = .ok status →
      d.statuses.get? service.id = some
        { status with
          serviceId := if status.serviceId = "" then service.id else status.serviceId
          serviceName := if status.serviceName = "" then service.name else status.serviceName
          reachable := true }
  /-- The switches are those of the last description, the one of the failed poll included. -/
  offline : ∀ service ∈ services, ∀ earlier o, IsLast history service.id earlier o →
    ∀ failure, o.status = .error failure →
      d.statuses.get? service.id = some
        { serviceId := service.id
          serviceName := service.name
          status := "offline"
          details := "Service unreachable: " ++ failure.message service.id
          timestamp := Int64.ofInt o.now.millis
          reachable := false
          faults := (lastInfo (earlier ++ [o]) service.id).elim [] fun info => info.faults.map
            fun f => ⟨f.id, false, none, none, none⟩ }

section

variable {history : List Observation} {d : Directory} {id : String}

theorem infos_note (d : Directory) (o : Observation) (id : String) :
    (d.note o).infos.get? id = (o.info? id).or (d.infos.get? id) := by
  obtain ⟨service, now, info, status⟩ := o
  show (d.noteInfo service.id info).infos.get? id = _
  cases info with
  | error failure => simp [Observation.info?, Directory.noteInfo, Except.toOption]
  | ok info =>
    simp only [Directory.noteInfo, Directory.putInfo, Table.get?_insert, Observation.info?,
      Except.toOption]
    by_cases h : service.id = id
    · simp [h]
    · have h' : id ≠ service.id := Ne.symm h
      simp [h, h']

theorem lastInfo_cons (o : Observation) (history : List Observation) (id : String) :
    lastInfo (o :: history) id = (lastInfo history id).or (o.info? id) := by
  unfold lastInfo
  cases hinfo : o.info? id with
  | none => rw [List.filterMap_cons_none hinfo, Option.or_none]
  | some info =>
    rw [List.filterMap_cons_some hinfo, List.getLast?_cons]
    cases (history.filterMap (·.info? id)).getLast? <;> rfl

theorem infos_foldl (history : List Observation) (d : Directory) (id : String) :
    (history.foldl Directory.note d).infos.get? id =
      (lastInfo history id).or (d.infos.get? id) := by
  induction history generalizing d with
  | nil => rfl
  | cons o history ih => rw [List.foldl_cons, ih, infos_note, lastInfo_cons, Option.or_assoc]

theorem statuses_note (d : Directory) (o : Observation) :
    (d.note o).statuses.get? o.service.id =
      some (o.noted ((d.note o).knownToggles o.service.id)) :=
  (Table.get?_insert _ _ _ _).trans (if_pos rfl)

/-- The last poll of a service decides its state, with the switches known after its own answers. -/
theorem statuses_foldl_of_last {earlier : List Observation} {o : Observation}
    (h : IsLast history id earlier o) :
    (history.foldl Directory.note d).statuses.get? id =
      some (o.noted (((earlier ++ [o]).foldl Directory.note d).knownToggles id)) := by
  obtain ⟨rfl, later, rfl, hlater⟩ := h
  rw [List.foldl_append, List.foldl_cons, List.foldl_append, List.foldl_cons, List.foldl_nil]
  have hentry := entry_foldl_of_unpolled hlater (d := (earlier.foldl Directory.note d).note o)
  exact (congrArg Prod.snd hentry).trans (statuses_note _ o)

theorem exists_isLast (polled : ∃ o ∈ history, o.service.id = id) :
    ∃ earlier o, IsLast history id earlier o := by
  induction history with
  | nil =>
    obtain ⟨o, inside, -⟩ := polled
    cases inside
  | cons x history ih =>
    by_cases again : ∃ o ∈ history, o.service.id = id
    · obtain ⟨earlier, o, same, later, rfl, hlater⟩ := ih again
      exact ⟨x :: earlier, o, same, later, rfl, hlater⟩
    · obtain ⟨o, inside, same⟩ := polled
      rcases List.mem_cons.1 inside with rfl | later
      · exact ⟨[], o, same, history, rfl, fun y member hy => again ⟨y, member, hy⟩⟩
      · exact absurd ⟨o, later, same⟩ again

theorem polled_of_lastInfo (h : lastInfo history id ≠ none) :
    ∃ o ∈ history, o.service.id = id := by
  obtain ⟨info, hinfo⟩ := Option.ne_none_iff_exists'.1 h
  obtain ⟨o, inside, ho⟩ := List.mem_filterMap.1 (List.mem_of_getLast? hinfo)
  refine ⟨o, inside, Classical.byContradiction fun other => ?_⟩
  rw [Observation.info?, if_neg other] at ho
  cases ho

theorem knownToggles_foldl (history : List Observation) (id : String) :
    (history.foldl Directory.note {}).knownToggles id =
      (lastInfo history id).elim [] fun info => info.faults.map
        fun f => ⟨f.id, false, none, none, none⟩ := by
  rw [Directory.knownToggles, infos_foldl]
  cases lastInfo history id <;> rfl

theorem reflects_of_entry {services : List ServiceEntry}
    (distinct : (services.map (·.id)).Nodup) (known : ∀ o ∈ history, o.service ∈ services)
    (h : ∀ id, d.entry id = (history.foldl Directory.note {}).entry id) :
    Reflects services history d := by
  have hinfo : ∀ id, d.infos.get? id = lastInfo history id := by
    intro id
    have hfirst := congrArg Prod.fst (h id)
    exact hfirst.trans ((infos_foldl history {} id).trans (Option.or_none ..))
  have hstatus : ∀ id, d.statuses.get? id = (history.foldl Directory.note {}).statuses.get? id :=
    fun id => congrArg Prod.snd (h id)
  have hunpolled : ∀ id, d.statuses.get? id = none ↔ ∀ o ∈ history, o.service.id ≠ id := by
    intro id
    rw [hstatus]
    constructor
    · intro absent o inside same
      obtain ⟨earlier, x, last⟩ := exists_isLast ⟨o, inside, same⟩
      rw [statuses_foldl_of_last last] at absent
      cases absent
    · intro unpolled
      exact congrArg Prod.snd (entry_foldl_of_unpolled unpolled (d := {}))
  have hservice : ∀ service ∈ services, ∀ earlier o, IsLast history service.id earlier o →
      o.service = service := by
    rintro service inside earlier o ⟨same, later, rfl, -⟩
    have hknown := known o (List.mem_append_right _ List.mem_cons_self)
    exact List.inj_on_of_nodup_map distinct hknown inside same
  have hlast : ∀ service ∈ services, ∀ earlier o, IsLast history service.id earlier o →
      d.statuses.get? service.id =
        some (o.noted (((earlier ++ [o]).foldl Directory.note {}).knownToggles service.id)) :=
    fun service _ earlier o last => (hstatus _).trans (statuses_foldl_of_last last)
  refine ⟨?_, hinfo, hunpolled, ?_, ?_⟩
  · intro id kept
    have polled : ∃ o ∈ history, o.service.id = id := by
      rcases kept with described | observed
      · refine polled_of_lastInfo ?_
        rw [← hinfo]
        exact Option.ne_none_iff_exists'.2 ((Table.mem_keys_iff _).1 described)
      · have hsome := Option.ne_none_iff_exists'.2 ((Table.mem_keys_iff _).1 observed)
        rw [ne_eq, hunpolled] at hsome
        simpa using hsome
    obtain ⟨o, inside, rfl⟩ := polled
    exact List.mem_map_of_mem (known o inside)
  · intro service inside earlier o last status answered
    rw [hlast service inside earlier o last, Observation.noted, answered,
      hservice service inside earlier o last]
    rfl
  · intro service inside earlier o last failure answered
    rw [hlast service inside earlier o last, Observation.noted, answered,
      hservice service inside earlier o last, knownToggles_foldl]
    rfl

end

end FaultPlane.Discovery
