import VkRelay.Registry.Model

/-!
The numbers of host placements. Every effect that opens, moves or shows a host window carries
one, and over a run they are handed out as 1, 2, 3 and so on, in the order of the effects, so
that the host can tell a late placement by its number.
-/

namespace VkRelay.Registry

def RegistryEffect.Places (eff : RegistryEffect) : Prop :=
  eff.kind ≠ .none ∧ eff.kind ≠ .destroyPlaceholder

/-- The effects carry the numbers after `last` up to `next`, in order, and the placements among
them are not without one. -/
structure Numbered (last next : Nat) (effs : List RegistryEffect) : Prop where
  le : last ≤ next
  numbers : (effs.map RegistryEffect.hostApplySeq).filter (· ≠ 0) =
    List.range' (last + 1) (next - last)
  stamped : ∀ eff ∈ effs, eff.Places → eff.hostApplySeq ≠ 0

theorem Numbered.append {last middle next : Nat} {first second : List RegistryEffect}
    (hfirst : Numbered last middle first) (hsecond : Numbered middle next second) :
    Numbered last next (first ++ second) := by
  have hle := hfirst.le
  have hle' := hsecond.le
  refine ⟨hle.trans hle', ?_, fun eff heff => ?_⟩
  · rw [List.map_append, List.filter_append, hfirst.numbers, hsecond.numbers,
      show middle + 1 = last + 1 + (middle - last) by omega, List.range'_append_1,
      show middle - last + (next - middle) = next - last by omega]
  · exact (List.mem_append.mp heff).elim (hfirst.stamped eff) (hsecond.stamped eff)

namespace WindowRegistry

variable (r : WindowRegistry)

/-- A call draws no number, or the next one for its only effect. -/
theorem call_numbered (op : Op) :
    Numbered r.nextHostApplySeq (r.call op).2.nextHostApplySeq (r.call op).1 := by
  have hsilent : ∀ effs : List RegistryEffect, (∀ eff ∈ effs, eff.hostApplySeq = 0 ∧ ¬ eff.Places) →
      Numbered r.nextHostApplySeq r.nextHostApplySeq effs := fun effs hnone =>
    ⟨le_rfl, by simpa using fun eff heff => (hnone eff heff).1,
      fun eff heff hplaces => absurd hplaces (hnone eff heff).2⟩
  have hnext : ∀ eff : RegistryEffect, eff.hostApplySeq = r.nextHostApplySeq + 1 →
      Numbered r.nextHostApplySeq (r.nextHostApplySeq + 1) [eff] := fun eff hseq =>
    ⟨Nat.le_succ _, by simp [hseq], by simp [hseq]⟩
  cases op with
  | takeOrphanedPopups ownerXid =>
    simp only [call, takeOrphanedPopups]
    split_ifs
    · exact hsilent [] (by simp)
    · refine hsilent _ fun eff heff => ?_
      obtain ⟨entry, -, rfl⟩ := List.mem_map.mp heff
      unfold Entry.orphanEffect
      split_ifs <;> simp [RegistryEffect.Places]
  | _ =>
    simp only [call, bindSurface, unbindSurface, registerToplevel, updateToplevel, setVisibility,
      unregisterToplevel, ifNewer, commitPlaceholderPaint, stampGeometryPlacement]
    repeat' split
    all_goals first
      | exact hnext _ rfl
      | exact hsilent _ (by simp [RegistryEffect.Places])

theorem effects_numbered (ops : List Op) :
    Numbered r.nextHostApplySeq (r.after ops).nextHostApplySeq (r.effects ops) := by
  induction ops generalizing r with
  | nil => exact ⟨le_rfl, by simp [effects, after], by simp [effects]⟩
  | cons op ops ih => exact (r.call_numbered op).append (ih (r.call op).2)

end WindowRegistry

/-- Over every run from the empty registry the placements are numbered from one on without a gap
or a repeat, in the order of the effects, and none goes without a number. -/
theorem placements_numbered (ops : List Op) :
    ((({} : WindowRegistry).effects ops).map RegistryEffect.hostApplySeq).filter (· ≠ 0) =
        List.range' 1 (({} : WindowRegistry).after ops).nextHostApplySeq ∧
      ∀ eff ∈ ({} : WindowRegistry).effects ops, eff.Places → eff.hostApplySeq ≠ 0 :=
  have hnumbered := WindowRegistry.effects_numbered {} ops
  ⟨hnumbered.numbers, hnumbered.stamped⟩

end VkRelay.Registry
