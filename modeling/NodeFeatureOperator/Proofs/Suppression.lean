import Mathlib.Data.List.Forall2
import NodeFeatureOperator.Proofs.Classification
import NodeFeatureOperator.Proofs.Outcome

/-!
# Reports that are not written again

Whether a report is news is tested from one side: all of its conditions must be among those of the
instance, and there must be as many of them. As the conditions of a report differ, this finds out
whether the instance has the same ones in some order (`Condition.changed_eq_false_iff_perm`),
whatever conditions it has. The main result (`writeConditions_exact`) says which reports are
written, and with which times.
-/

namespace NodeFeatureOperator

open Cluster StoreM

namespace Condition

variable {old new : List Condition} {now : Moment}

/-- The reports that are made. -/
inductive IsReport (now : Moment) : List Condition → Prop where
  | available : IsReport now (available now)
  | progressing (reason message : String) : IsReport now (progressing now reason message)
  | degraded (reason message : String) : IsReport now (degraded now reason message)
  | aggregate (healths : List Health) : IsReport now (Health.aggregate now healths)

theorem IsReport.reportable (h : IsReport now new) : Reportable now new := by
  cases h with
  | available => exact ⟨.available, _, _, by decide, rfl⟩
  | progressing reason message => exact ⟨.progressing, reason, message, by decide, rfl⟩
  | degraded reason message => exact ⟨.degraded, reason, message, by decide, rfl⟩
  | aggregate healths => exact Health.aggregate_reportable now healths

theorem Reportable.nodup (h : Reportable now new) : (new.map untimed).Nodup := by
  obtain ⟨active, reason, message, -, rfl⟩ := h
  exact report_nodup ..

/-- A condition as it is written where there were others before: with the time of the first of them
that is the same, or with its own time if there is none. -/
structure Carried (old : List Condition) (c written : Condition) : Prop where
  same : written.untimed = c.untimed
  kept : ∀ o, IsFirst (·.untimed = c.untimed) old o → written.lastTransition = o.lastTransition
  fresh : (∀ o ∈ old, o.untimed ≠ c.untimed) → written.lastTransition = c.lastTransition

theorem carryTime_carried (old : List Condition) (c : Condition) :
    Carried old c (carryTime old c) := by
  unfold carryTime
  cases hfind : old.find? fun o => o.sameAs c with
  | none =>
    refine ⟨rfl, fun o ho => ?_, fun _ => rfl⟩
    cases hfind.symm.trans ((isFirst_iff fun _ => sameAs_iff).1 ho)
  | some o =>
    refine ⟨rfl, fun o' ho' => ?_, fun hnone => ?_⟩
    · cases hfind.symm.trans ((isFirst_iff fun _ => sameAs_iff).1 ho')
      rfl
    · have hsame : o.sameAs c = true := by simpa using List.find?_some hfind
      exact absurd (sameAs_iff.1 hsame) (hnone o (List.mem_of_find?_eq_some hfind))

theorem carryTimes_carried (old new : List Condition) :
    List.Forall₂ (Carried old) new (carryTimes old new) :=
  List.forall₂_map_right_iff.2 (List.forall₂_same.2 fun c _ => carryTime_carried old c)

end Condition

/-- Whether it was written or not, the instance has the report afterwards. -/
theorem reports_of_writeConditions {c c' : Cluster} {i j : Instance} {conditions : List Condition}
    {answer : Bool} (hi : Table.get? c.instances i.id = some i)
    (h : (writeConditions i conditions : StoreM Cluster Bool) c = .ok answer c')
    (hj : Table.get? c'.instances i.id = some j) : j.reports conditions = true := by
  by_cases hreports : i.reports conditions = true
  · cases (writeConditions_of_reports hreports c).symm.trans h
    obtain rfl := Option.some.inj (hi.symm.trans hj)
    exact hreports
  · cases (writeConditions_of_news hi hreports).symm.trans h
    obtain rfl := Option.some.inj ((Table.get?_insert_self ..).symm.trans hj)
    exact Instance.reports_report ..

/-- Which reports are written, and how. A report that an instance has already, in whatever order and
with whatever times, is not written if it is about the generation of the instance. Any other report
is written once, and a condition that is not new keeps the time of the first that is the same. What
has been reported is not written again. -/
theorem writeConditions_exact {c : Cluster} {i : Instance} {now : Moment}
    {conditions : List Condition} (hi : Table.get? c.instances i.id = some i)
    (hreport : Condition.IsReport now conditions) :
    let write (i : Instance) (conditions : List Condition) (c : Cluster) :=
      (writeConditions i conditions : StoreM Cluster Bool) c
    let known := (i.conditions.map Condition.untimed).Perm (conditions.map Condition.untimed) ∧
      i.observedGeneration = i.metadata.generation
    (known → write i conditions c = .ok false c) ∧
    (¬ known → ∃ c' written version, write i conditions c = .ok true c' ∧
      c'.calls = c.calls ++ [.one .status i.id] ∧
      List.Forall₂ (Condition.Carried i.conditions) conditions written ∧
      Table.get? c'.instances i.id = some { i with
        status := some ⟨written, i.metadata.generation⟩
        metadata := { i.metadata with resourceVersion := some version } }) ∧
    (∀ answer c' j again, write i conditions c = .ok answer c' →
      Table.get? c'.instances i.id = some j →
      (again.map Condition.untimed).Perm (conditions.map Condition.untimed) →
      write j again c' = .ok false c') := by
  intro write known
  have hnodup := hreport.reportable.nodup
  have hknown : i.reports conditions = true ↔ known := Instance.reports_iff hnodup
  refine ⟨fun h => writeConditions_of_reports (hknown.2 h) c, fun h => ?_, ?_⟩
  · exact ⟨_, _, _, writeConditions_of_news hi (mt hknown.1 h), rfl,
      Condition.carryTimes_carried i.conditions conditions, Table.get?_insert_self ..⟩
  · intro answer c' j again hwrite hj hagain
    have hreports := reports_of_writeConditions hi hwrite hj
    obtain ⟨hperm, hgeneration⟩ := (Instance.reports_iff hnodup).1 hreports
    refine writeConditions_of_reports ((Instance.reports_iff ?_).2 ⟨?_, hgeneration⟩) c'
    · exact hagain.nodup_iff.2 hnodup
    · exact hperm.trans hagain.symm

/-- The instance reports one condition twice and others not at all. -/
theorem writeConditions_exact_of_repeated :
    let bare := Instance.bare ⟨"nfd", "nfd"⟩
    let repeated (n : Nat) : Condition := ⟨some (.reading n), .degraded, false, none, none⟩
    let i : Instance := { bare with
      metadata := { bare.metadata with generation := some 3 }
      status := some ⟨[repeated 1, repeated 2], some 3⟩ }
    let c : Cluster := { instances := [(i.id, i)] }
    let conditions := Health.aggregate (.reading 9) [.available, .progressing "a" "b"]
    let again := Condition.progressing (.reading 10) "a" "b"
    Table.get? c.instances i.id = some i ∧ Condition.IsReport (.reading 9) conditions ∧
      ∃ c' written j, (writeConditions i conditions : StoreM Cluster Bool) c = .ok true c' ∧
        c'.calls = [.one .status i.id] ∧
        List.Forall₂ (Condition.Carried i.conditions) conditions written ∧
        Table.get? c'.instances i.id = some j ∧ j.conditions = written ∧
        (writeConditions j again : StoreM Cluster Bool) c' = .ok false c' := by
  intro bare repeated i c conditions again
  have hi : Table.get? c.instances i.id = some i := rfl
  have hreport : Condition.IsReport (.reading 9) conditions := .aggregate _
  obtain ⟨-, hwrites, hquiet⟩ := writeConditions_exact hi hreport
  obtain ⟨c', written, version, hwrite, hcalls, hcarried, hj⟩ :=
    hwrites fun h => absurd h.1.length_eq (by decide)
  exact ⟨hi, hreport, c', written, _, hwrite, hcalls, hcarried, hj, rfl,
    hquiet _ c' _ again hwrite hj (by decide)⟩

end NodeFeatureOperator
