import Switchboard.Bot.Activity

/-!
# What a program may ask for

A program uses allowed calls only if its next call is allowed and, whatever
the answer is, it goes on with allowed calls only.  The point at which a body
stands holds the rest of its program, so a step of a body leads from allowed
calls to allowed calls.
-/

namespace Switchboard

/-- Whatever answers a program gets, it makes allowed calls only. -/
def Program.Uses {α : Type} (allowed : Call → Prop) : Program α → Prop
  | .call request next =>
    allowed request ∧ ∀ reply, (next reply).Uses allowed
  | _ => True

/-- What is left of a body makes allowed calls only. -/
def Activity.Uses (allowed : Call → Prop) : Activity → Prop
  | .running program => program.Uses allowed
  | .sleeping _ next => next.Uses allowed
  | .replying _ next => ∀ reply, (next reply).Uses allowed
  | .notifying _ next => ∀ reply, (next reply).Uses allowed
  | .waiting _ next => ∀ reply, (next reply).Uses allowed
  | .asking _ next => ∀ reply, (next reply).Uses allowed
  | .confirming _ next => ∀ reply, (next reply).Uses allowed
  | .resolving _ next =>
    allowed .resolveClashes ∧ ∀ reply, (next reply).Uses allowed

/-- The body of a process, built or not, makes allowed calls only. -/
def Stage.Uses (allowed : Call → Prop) : Stage → Prop
  | .unbuilt (.ok program) => program.Uses allowed
  | .body activity => activity.Uses allowed
  | _ => True

theorem Program.Uses.mono {α : Type} {allowed more : Call → Prop}
    {program : Program α} (uses : program.Uses allowed)
    (wider : ∀ call, allowed call → more call) : program.Uses more := by
  induction program with
  | call request next induction =>
      exact ⟨wider request uses.1, fun reply => induction reply (uses.2 reply)⟩
  | _ => trivial

variable {allowed : Call → Prop} {world : World} {actor : Actor}

namespace World

theorem uses_perform {call : Call} {next : call.Reply → Program Unit}
    (permitted : allowed call)
    (uses : ∀ reply, (next reply).Uses allowed) :
    (world.perform actor call next).1.Uses allowed := by
  cases call with
  | reply text | notify text | confirm prompt timeout poll => exact uses
  | wait kind predicate timeout => exact uses
  | ask prompt timeout => exact uses
  | resolveClashes => exact ⟨permitted, uses⟩
  | _ => exact uses _

/-- A step of a body leads from allowed calls to allowed calls. -/
theorem uses_stepActivity {activity next : Activity}
    (uses : activity.Uses allowed) {after : World}
    (steps : world.stepActivity actor activity = (.go next, after) ∨
      world.stepActivity actor activity = (.blocked next, after)) :
    next.Uses allowed := by
  unfold stepActivity at steps
  cases activity with
  | running program =>
      cases program with
      | call call proceed =>
          rcases steps with same | same
          · cases same
            exact uses_perform uses.1 uses.2
          · cases same
      | _ => rcases steps with same | same <;> cases same
  | sleeping answer proceed =>
      dsimp only at steps
      split at steps <;> rcases steps with same | same <;> cases same <;>
        exact uses
  | replying sending proceed | notifying sending proceed =>
      dsimp only at steps
      split at steps <;> rcases steps with same | same <;> cases same
      · exact uses _
      · exact uses
  | waiting wait proceed =>
      dsimp only at steps
      generalize world.stepOpenWait actor "" wait = result at steps
      obtain ⟨progress, middle⟩ := result
      cases progress <;> rcases steps with same | same <;> cases same
      · exact uses
      · exact uses
      · exact uses _
  | asking asking proceed =>
      dsimp only at steps
      generalize world.stepAsking actor asking = result at steps
      obtain ⟨progress, middle⟩ := result
      cases progress <;> rcases steps with same | same <;> cases same
      · exact uses
      · exact uses
      · exact uses _
  | confirming confirming proceed =>
      dsimp only at steps
      generalize world.stepConfirming actor confirming = result at steps
      obtain ⟨progress, middle⟩ := result
      cases progress <;> rcases steps with same | same <;> cases same
      · exact uses
      · exact uses
      · exact uses _
  | resolving resolving proceed =>
      dsimp only at steps
      generalize world.stepResolving actor resolving = result at steps
      obtain ⟨progress, middle⟩ := result
      cases progress <;> rcases steps with same | same <;> cases same
      · exact uses
      · exact uses
      · exact uses.2 _

end World

end Switchboard
