import Mathlib.Data.List.Basic

/-!
# Runs

A system is told by what becomes of its state when something occurs.  A run is
any sequence of occurrences; it keeps the state before each of them.
-/

namespace Switchboard

/-- Something that happened, and the state before it. -/
structure Happening (ι σ : Type) where
  before : σ
  occurrence : ι

section

variable {ι σ : Type} (happen : ι → σ → σ)

/-- The state after a sequence of occurrences. -/
def happenAll (occurrences : List ι) (state : σ) : σ :=
  occurrences.foldl (fun state occurrence => happen occurrence state) state

/-- What happens in the course of a sequence of occurrences. -/
def history : List ι → σ → List (Happening ι σ)
  | [], _ => []
  | occurrence :: rest, state =>
    ⟨state, occurrence⟩ :: history rest (happen occurrence state)

/-- How a system can go on, with all that happened on the way. -/
inductive Run (start : σ) : List (Happening ι σ) → σ → Prop where
  | start : Run start [] start
  | next {episodes : List (Happening ι σ)} {state : σ} (occurrence : ι) :
      Run start episodes state →
      Run start (episodes ++ [⟨state, occurrence⟩]) (happen occurrence state)

theorem happenAll_append (first second : List ι) (state : σ) :
    happenAll happen (first ++ second) state =
      happenAll happen second (happenAll happen first state) :=
  List.foldl_append

theorem history_append (first second : List ι) (state : σ) :
    history happen (first ++ second) state =
      history happen first state ++
        history happen second (happenAll happen first state) := by
  induction first generalizing state with
  | nil => rfl
  | cons occurrence rest induction =>
      exact congrArg (⟨state, occurrence⟩ :: ·)
        (induction (happen occurrence state))

variable {happen}

theorem occurrence_mem_of_mem_history {occurrences : List ι} {state : σ}
    {episode : Happening ι σ}
    (member : episode ∈ history happen occurrences state) :
    episode.occurrence ∈ occurrences := by
  induction occurrences generalizing state with
  | nil => cases member
  | cons occurrence rest induction =>
      rcases List.mem_cons.mp member with rfl | later
      · exact List.mem_cons_self
      · exact List.mem_cons_of_mem _ (induction later)

namespace Run

variable {start middle last : σ} {earlier later : List (Happening ι σ)}
  {episode : Happening ι σ}

theorem trans (one : Run happen start earlier middle)
    (two : Run happen middle later last) :
    Run happen start (earlier ++ later) last := by
  induction two with
  | start => exact (List.append_nil earlier).symm ▸ one
  | next occurrence _ induction =>
      rw [← List.append_assoc]
      exact .next occurrence induction

theorem single (occurrence : ι) :
    Run happen start [⟨start, occurrence⟩] (happen occurrence start) :=
  .next occurrence .start

theorem of_occurrences (occurrences : List ι) (start : σ) :
    Run happen start (history happen occurrences start)
      (happenAll happen occurrences start) := by
  induction occurrences generalizing start with
  | nil => exact .start
  | cons occurrence rest induction =>
      exact (single occurrence).trans (induction (happen occurrence start))

theorem of_split (first second : List ι) (occurrence : ι) (start : σ) :
    Run happen start
      (history happen first start ++
        ⟨happenAll happen first start, occurrence⟩ ::
          history happen second
            (happen occurrence (happenAll happen first start)))
      (happenAll happen (first ++ occurrence :: second) start) := by
  rw [happenAll_append]
  exact (of_occurrences first start).trans
    ((single occurrence).trans (of_occurrences second _))

theorem split (run : Run happen start (earlier ++ episode :: later) last) :
    Run happen start earlier episode.before ∧
      Run happen (happen episode.occurrence episode.before) later last := by
  generalize whole : earlier ++ episode :: later = episodes at run
  induction run generalizing later with
  | start => simp at whole
  | @next past state occurrence prior induction =>
      rcases List.eq_nil_or_concat later with rfl | ⟨init, final, rfl⟩
      · obtain ⟨rfl, same⟩ := List.append_inj' whole rfl
        cases same
        exact ⟨prior, .start⟩
      · have parts : (earlier ++ episode :: init) ++ [final] =
            past ++ [⟨state, occurrence⟩] := by
          rw [← whole]
          simp
        obtain ⟨same, sameLast⟩ := List.append_inj' parts rfl
        cases sameLast
        obtain ⟨before, after⟩ := induction same
        refine ⟨before, ?_⟩
        rw [List.concat_eq_append]
        exact .next occurrence after

end Run

end

end Switchboard
