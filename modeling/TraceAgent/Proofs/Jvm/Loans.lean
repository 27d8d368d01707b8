import TraceAgent.Jvm.State
import TraceAgent.Proofs.Frame

/-!
# Loans that are settled

What a machine lends has to be given back: each piece as often as it was lent, and nothing else.
Accounts only grow, so that what happened between two of them is what the later one has in front.

* `Loans.Settles.frame`: stretches in which all is given back, one after the other;
* `Loans.Settles.giveBack`: a stretch between taking something and giving it back.
-/

namespace TraceAgent.Loans

variable {α : Type} {before after : Loans α} {a : α}

/-- Between two accounts, what was lent was given back: each piece as often as it was lent, and
    nothing else. -/
def Settles (before after : Loans α) : Prop :=
  ∃ lent returned, after.taken = lent ++ before.taken ∧
    after.returned = returned ++ before.returned ∧ returned.Perm lent

/-- Loans are settled over two stretches if they are over each. -/
theorem Settles.frame : Frame (Settles (α := α)) where
  refl loans := ⟨[], [], rfl, rfl, .refl []⟩
  trans := by
    rintro loans₁ loans₂ loans₃ ⟨lent, returned, htaken, hreturned, hperm⟩
      ⟨lent', returned', htaken', hreturned', hperm'⟩
    refine ⟨lent' ++ lent, returned' ++ returned, ?_, ?_, hperm'.append hperm⟩
    · rw [htaken', htaken, List.append_assoc]
    · rw [hreturned', hreturned, List.append_assoc]

/-- What is taken before a stretch can be given back after it. -/
theorem Settles.giveBack (h : (before.take a).Settles after) :
    before.Settles (after.giveBack a) := by
  obtain ⟨lent, returned, htaken, hreturned, hperm⟩ := h
  refine ⟨lent ++ [a], a :: returned, ?_, ?_, ?_⟩
  · rw [List.append_assoc]
    exact htaken
  · exact congrArg (a :: ·) hreturned
  · exact (hperm.cons a).trans (List.perm_append_singleton a lent).symm

end TraceAgent.Loans
