import TraceAgent.Proofs.Scene.Deliveries

/-!
# How deep deliveries nest

Deliveries that hooks cause may nest without end, and are followed to a depth only. If they nest
deeper, the scene says so ever after. If they do not, the depth makes no difference: a delivery
that is followed deeper comes to the same.

* `SameIfShallow`: two ways to do something differ only if the first nests too deep;
* `sameIfShallow_deliverWithin`: so it is of a delivery that is followed to two depths.
-/

namespace TraceAgent.Scene

variable {σ α β : Type}

/-! ## What lay too deep -/

/-- That deliveries have nested too deep is never forgotten. -/
theorem overrun_deliveryFrame :
    DeliveryFrame fun (s : Scene σ) _ s' => s'.overrun = false → s.overrun = false where
  refl _ h := h
  append h₁ h₂ h := h₁ (h₂ h)
  host _ _ h := h
  report _ _ h := h
  overrun _ h := by cases h

/-- Nor do hooks forget it. -/
theorem overrun_workFrame (r : Registry (Hook σ)) :
    WorkFrame r fun s _ s' => s'.overrun = false → s.overrun = false where
  toDeliveryFrame := overrun_deliveryFrame
  capture _ _ _ _ _ _ h := h
  named _ _ _ h := h
  delivered _ _ _ _ hs hcalled h := by
    rw [← hs] at hcalled
    exact hcalled h

/-- Nor is it forgotten in one delivery. -/
theorem overrun_deliverWithin (depth : Nat) (event : ClassFileEvent) (s : Scene σ)
    (h : (deliverWithin depth event s).2.overrun = false) : s.overrun = false :=
  ((overrun_workFrame s.registry).within depth event s rfl).2 h

/-! ## Two ways to do something -/

/-- Two ways to do something come to the same, unless in the first one deliveries nest too deep. -/
def SameIfShallow (act act' : OnScene σ α) : Prop :=
  ∀ s, (act s).2.overrun = false → act' s = act s

/-- Two steps, if the second does not forget what lay too deep in the first. -/
theorem SameIfShallow.bind {first first' : OnScene σ α} {next next' : α → OnScene σ β}
    (hfirst : SameIfShallow first first') (hnext : ∀ a, SameIfShallow (next a) (next' a))
    (hkept : ∀ a s, (next a s).2.overrun = false → s.overrun = false) :
    SameIfShallow (first >>= next) (first' >>= next') := by
  intro s h
  rw [bind_apply, bind_apply, hfirst s (hkept _ _ h)]
  exact hnext _ _ h

section

variable {deliver deliver' : ClassFileEvent → OnScene σ (Option Bytes)}
  (hsame : ∀ event, SameIfShallow (deliver event) (deliver' event))
  (hkept : ∀ event s, (deliver event s).2.overrun = false → s.overrun = false)

include hsame hkept

/-- What a host does until it answers. -/
theorem sameIfShallow_performWith (activity : Activity σ α) :
    SameIfShallow (performWith deliver activity) (performWith deliver' activity) := by
  -- The host may be in any state when it goes on, so that each step starts from any scene.
  induction activity with
  | done answer host => exact fun _ _ => rfl
  | note note next ih => exact fun s => ih (report note s).2
  | hooked next ih => exact fun s => ih _ s
  | deliver event host next ih =>
    intro s h
    let delivered := deliver event { s with host }
    -- The deliveries that come later would not forget it either.
    have hshallow : delivered.2.overrun = false :=
      overrun_deliveryFrame.performWith (fun _ _ => []) hkept
        (next delivered.1 delivered.2.host) delivered.2 h
    have hfirst : deliver' event { s with host } = delivered := hsame event _ hshallow
    change performWith deliver' (next (deliver' event { s with host }).1
      (deliver' event { s with host }).2.host) (deliver' event { s with host }).2 = _
    rw [hfirst]
    exact ih _ _ _ h

/-- The call of a hook. -/
theorem sameIfShallow_call (h : InstalledHook (Hook σ)) (event : ClassFileEvent) :
    SameIfShallow (call deliver h event) (call deliver' h event) := by
  obtain ⟨registration, n | instrumenter | react⟩ := h
  · exact fun _ _ => rfl
  · rw [call, call]
    dsimp only
    split
    · refine .bind (fun s => sameIfShallow_performWith hsame hkept
        (instrumenter event.identity.name event.bytes s.host) s) (fun _ _ _ => rfl) ?_
      rintro (_ | bytes) s h <;> exact h
    · exact fun _ _ => rfl
  · exact fun s => sameIfShallow_performWith hsame hkept (react event s.host) s

/-- The calls of hooks, one after the other. -/
theorem sameIfShallow_chain (event : ClassFileEvent) (hooks : List (InstalledHook (Hook σ)))
    (replaced : Option Bytes) :
    SameIfShallow (hooks.foldlM (callNext deliver event) replaced)
      (hooks.foldlM (callNext deliver' event) replaced) := by
  induction hooks generalizing replaced with
  | nil => exact fun _ _ => rfl
  | cons h hooks ih =>
    rw [List.foldlM_cons, List.foldlM_cons]
    refine .bind (.bind (sameIfShallow_call hsame hkept h _) (fun _ _ _ => rfl) ?_) ih ?_
    · rintro (_ | bytes) s h <;> exact h
    · exact overrun_deliveryFrame.chain (fun _ _ => []) (fun h _ => overrun_deliveryFrame.call
        (fun _ _ => []) hkept (fun _ _ _ _ h => h) fun _ _ h => h) event

end

/-- A delivery in which others do not nest too deep is the same if it is followed deeper. -/
theorem sameIfShallow_deliverWithin (depth more : Nat) (event : ClassFileEvent) :
    SameIfShallow (deliverWithin depth event : OnScene σ _)
      (deliverWithin (depth + more) event) := by
  induction depth generalizing event with
  | zero => exact fun s h => by cases h
  | succ depth ih =>
    intro s h
    rw [Nat.succ_add, deliverWithin_succ_apply, deliverWithin_succ_apply, callAll,
      sameIfShallow_chain ih (overrun_deliverWithin depth) event s.registry.hooks none s h]
    rfl

/-- A hook that has one class loaded when another is delivered, before one that captures classes.
    Both classes are delivered to both hooks, and nothing lies too deep. -/
example :
    let load : ClassFileEvent → Work Unit (Option Bytes) := fun event => do
      if event.identity.name = "app/A" then
        let _ ← Work.deliver ⟨⟨"app/B", .object 1⟩, [2], false⟩
      pure none
    let installed := (install .intercept (.foreign load) { host := (), archives := #[{}] }).2
    let watched := (install .lateCapture (.capture 0) installed).2
    let delivered := (deliver ⟨⟨"app/A", .object 1⟩, [1], false⟩ watched).2
    (delivered.timeline.filterMap (·.delivery.map (·.1.identity.name)),
      (delivered.archive 0).size, delivered.overrun) = (["app/B", "app/A"], 2, false) := by
  decide +kernel

end TraceAgent.Scene
