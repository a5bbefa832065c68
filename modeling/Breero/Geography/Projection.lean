import Breero.Geography.Effects

/-!
The list of postal codes that a zone carries for the booking domain is the projection of its
rows.

* `Projected.sync` is the refresh after an edit, `Step.projected` any request;
* `Tables.always_projected` is a run of requests.
-/

namespace Breero.Geography
open KeyedTable Transaction Tables

def Projected (db : Tables) : Prop :=
  ∀ zone ∈ db.zones.rows, zone.postalCodes = projection (db.ofZone zone.id)

theorem Projected.sync {db mid : Tables} {serviceAreaId : Uuid} (h : Projected db)
    (hedited : Edited db mid serviceAreaId) :
    Projected (mid.syncLegacyPostalCodes serviceAreaId) := by
  intro zone hzone
  rw [sync_ofZone]
  rcases sync_get? (Table.get?_key hzone) with ⟨hne, hget⟩ | ⟨old, rfl, _, heq⟩
  · rw [hedited.zones _ hne] at hget
    rw [hedited.rows zone.id hne]
    exact h zone (Table.mem_of_get? hget)
  · exact congrArg ServiceArea.postalCodes heq

theorem Step.projected {platform : Platform} {db db' : Tables} {op : Op}
    (hstep : Step platform db op db') (h : Projected db) : Projected db' := by
  rcases hstep.edited with rfl | ⟨serviceAreaId, mid, hedited, rfl⟩ | ⟨old, hget, rfl⟩
  · exact h
  · exact h.sync hedited
  · -- the list and the rows of the zone are as they were
    intro zone hzone
    rcases Table.mem_put.mp hzone with ⟨rfl, _⟩ | ⟨hzone, _⟩
    · exact h old (Table.mem_of_get? hget)
    · exact h zone hzone

theorem Tables.always_projected (platform : Platform) (ops : List Op) :
    Runs.Always (exec platform) Projected {} ops := by
  apply Runs.always_of_inv (P := fun _ _ => True) (I := Projected)
  · intro db op h _
    exact (exec_step platform db op).projected h
  · intro zone hzone
    cases hzone
  · exact Runs.along_of_forall fun _ _ => trivial

end Breero.Geography
