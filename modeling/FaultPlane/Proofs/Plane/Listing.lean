import FaultPlane.Proofs.Discovery.Listing
import FaultPlane.Proofs.Plane.Polling

/-!
# The listing of a control plane

After any rounds of polls the states of the polled services are listed, one for each, whatever the
services have sent (`statuses_listed`). That a state carries the id of its service is not among the
things that hold of every listing (`not_always_own_id`).
-/

namespace FaultPlane.Plane

open Discovery

section

variable (p : Plane)

theorem Observed.reflects {p : Plane} {rounds : List Round} {history : List (List Observation)}
    (h : p.Observed rounds history) (distinct : (p.config.services.map (·.id)).Nodup)
    {d : Directory} (passed : Passed p.servicePort history {} d) :
    Reflects p.config.services history.flatten d := by
  refine reflects_of_entry distinct (fun o inside => ?_) (passed.entry fun os inside => ?_)
  · obtain ⟨observations, member, ho⟩ := List.mem_flatten.1 inside
    exact (h.sublist member).subset (List.mem_map_of_mem ho)
  · have hids := distinct.sublist ((h.sublist inside).map (·.id))
    rwa [List.map_map] at hids

/-- Whatever the services answer to some rounds of polls, and in whatever order the polls of a round
go on, every polled service is listed once, by the id that its state carries. -/
theorem statuses_listed {ω : Type} (world : World ω)
    (distinct : (p.config.services.map (·.id)).Nodup) (rounds : List Round) (w : ω) :
    ∃ history, p.Observed rounds history ∧
      (p.carryOut rounds).transcript world {} w =
        history.flatten.flatMap (·.exchanges p.servicePort) ∧
      Listed p.config.services history.flatten
        ((p.carryOut rounds).run world {} w).2.1.directory ∧
      ∀ d, Passed p.servicePort history {} d → Listed p.config.services history.flatten d := by
  obtain ⟨history, hobserved, htranscript, hpassed⟩ := p.records_carryOut world rounds {} w
  have hlisted : ∀ d, Passed p.servicePort history {} d →
      Listed p.config.services history.flatten d :=
    fun d passed => (hobserved.reflects distinct passed).listed distinct
  exact ⟨history, hobserved, htranscript, hlisted _ hpassed, hlisted⟩

end

/-! ### Two services of which one sends the id of the other -/

def ordersAndSeats : Plane :=
  ⟨{ services := [⟨"ts-order", "Orders", none⟩, ⟨"ts-seat", "Seats", none⟩] }, {}⟩

/-- A world in which the state of the service ts-seat is sent for every service. -/
def seatsOnly : World Unit
  | .service _ .status, w =>
    (.ok { serviceId := "ts-seat", serviceName := "Seats", status := "normal" }, w)
  | call, w => World.failing call w

/-- The directory after both services were polled once. -/
def seatsTwice : Directory :=
  ((ordersAndSeats.carryOut [.all ⟨0, 0⟩]).run seatsOnly {} ()).2.1.directory

theorem statuses_listed_seats :
    (ordersAndSeats.config.services.map (·.id)).Nodup ∧
      (∃ history, ordersAndSeats.Observed [.all ⟨0, 0⟩] history ∧
        Listed ordersAndSeats.config.services history.flatten seatsTwice) ∧
      (seatsTwice.statesOf ordersAndSeats.config.services).map (·.serviceId) =
        ["ts-seat", "ts-seat"] := by
  have distinct : (ordersAndSeats.config.services.map (·.id)).Nodup := by decide
  obtain ⟨history, hobserved, -, hlisted, -⟩ :=
    ordersAndSeats.statuses_listed seatsOnly distinct [.all ⟨0, 0⟩] ()
  exact ⟨distinct, ⟨history, hobserved, hlisted⟩, rfl⟩

/-- A state need not carry the id of its service, and a listing may have one id twice. -/
theorem not_always_own_id :
    (¬ ∀ (p : Plane) (ω : Type) (world : World ω) (rounds : List Round) (w : ω),
      (p.config.services.map (·.id)).Nodup → ∀ id status,
        ((p.carryOut rounds).run world {} w).2.1.directory.statuses.get? id = some status →
          status.serviceId = id) ∧
    ¬ ∀ (p : Plane) (ω : Type) (world : World ω) (rounds : List Round) (w : ω),
      (p.config.services.map (·.id)).Nodup →
        ((p.carryOut rounds).run world {} w).2.1.directory.allStatuses.Pairwise
          fun a b => a.serviceId < b.serviceId := by
  have distinct : (ordersAndSeats.config.services.map (·.id)).Nodup := by decide
  refine ⟨fun always => ?_, fun always => ?_⟩
  · have hid := always ordersAndSeats Unit seatsOnly [.all ⟨0, 0⟩] () distinct "ts-order" _ rfl
    exact absurd hid (by decide)
  · have hincreasing := always ordersAndSeats Unit seatsOnly [.all ⟨0, 0⟩] () distinct
    have hnodup := (increasing_iff_nodup (ordered_allStatuses seatsTwice)).1 hincreasing
    have hvalues := ((perm_allStatuses seatsTwice).map (·.serviceId)).nodup_iff.1 hnodup
    have htwice : seatsTwice.statuses.values.map (·.serviceId) = ["ts-seat", "ts-seat"] := rfl
    rw [htwice] at hvalues
    exact absurd hvalues (by decide)

end FaultPlane.Plane
