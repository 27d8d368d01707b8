import TraceAgent.Hook.Registry

/-!
# Registered and removed hooks

A registration is numbered with a number that none had before, so that it can be
told from all others for as long as it is held.

* `id_ne_install`: a new registration has a number of its own;
* `id_eq_of_toUInt64`: 64 bits tell registrations apart, as long as there are numbers left;
* `hooks_remove_of_last`: removing the last hook gives back the hooks before it,
  and `holds_of_last` says that there is something to remove.
-/

namespace TraceAgent.Registry

variable {η : Type}

/-- A new registration has a number of its own. -/
theorem id_ne_install (r : Registry η) (phase : Phase) (hook : η) :
    ∀ h ∈ r.hooks, h.registration.id ≠ (r.install phase hook).1.id :=
  fun h hmem => Nat.ne_of_lt (r.id_lt h hmem)

variable {r : Registry η} {kept : List (InstalledHook η)} {last : InstalledHook η}

/-- 64 bits tell registrations apart, as long as no more numbers were given than fit into them. -/
theorem id_eq_of_toUInt64 (hnext : r.nextId ≤ UInt64.size) {h h' : InstalledHook η}
    (hmem : h ∈ r.hooks) (hmem' : h' ∈ r.hooks)
    (heq : h.registration.id.toUInt64 = h'.registration.id.toUInt64) :
    h.registration.id = h'.registration.id := by
  have hlt := Nat.lt_of_lt_of_le (r.id_lt h hmem) hnext
  have hlt' := Nat.lt_of_lt_of_le (r.id_lt h' hmem') hnext
  rw [← UInt64.toNat_ofNat_of_lt' hlt, ← UInt64.toNat_ofNat_of_lt' hlt']
  exact congrArg UInt64.toNat heq

/-- A hook that is registered last is registered. -/
theorem holds_of_last (hhooks : r.hooks = kept ++ [last]) :
    r.holds last.registration = true := by
  rw [holds, hhooks, List.any_append]
  simp

/-- Removing the last hook gives back the hooks before it. -/
theorem hooks_remove_of_last (hhooks : r.hooks = kept ++ [last])
    (hid : ∀ h ∈ kept, h.registration.id ≠ last.registration.id) :
    (r.remove last.registration).hooks = kept := by
  have hkept : kept.filter (fun h => h.registration.id != last.registration.id) = kept :=
    List.filter_eq_self.mpr fun h hmem => by simpa using hid h hmem
  change r.hooks.filter _ = kept
  rw [hhooks, List.filter_append, hkept]
  simp

end TraceAgent.Registry
