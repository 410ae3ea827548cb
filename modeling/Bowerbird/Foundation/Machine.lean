import Mathlib.Data.List.Basic

namespace Bowerbird.Foundation

/-! Labelled machines.  A label fixes every choice that the environment makes,
so a step is a partial function of the state and the label; beside its next
state it reports what an observer of the run sees. -/

structure Machine (State Label Seen : Type) where
  step : State → Label → Option (State × List Seen)

namespace Machine

variable {State Label Seen : Type}

/-- `Run machine ok start final seen`: some labels lead from `start` to `final`,
every step of the way meets `ok`, and `seen` is what they report, in order. -/
inductive Run (machine : Machine State Label Seen)
    (ok : State → Label → Prop) (start : State) :
    State → List Seen → Prop
  | start : Run machine ok start start []
  | step {middle final : State} {seen out : List Seen} {label : Label}
      (before : Run machine ok start middle seen)
      (allowed : ok middle label)
      (taken : machine.step middle label = some (final, out)) :
      Run machine ok start final (seen ++ out)

variable {machine : Machine State Label Seen}
variable {ok : State → Label → Prop} {start final : State} {seen : List Seen}

/-- The run rule: what holds of the start and survives every allowed step holds
at the end of every run. -/
theorem Run.invariant (holds : State → List Seen → Prop)
    (run : Run machine ok start final seen)
    (initially : holds start [])
    (preserved : ∀ {middle next seen out label},
      Run machine ok start middle seen → holds middle seen →
      ok middle label → machine.step middle label = some (next, out) →
      holds next (seen ++ out)) :
    holds final seen := by
  induction run with
  | start => exact initially
  | step before allowed taken induction =>
      exact preserved before induction allowed taken

theorem Run.mono {weaker : State → Label → Prop}
    (weaken : ∀ state label, ok state label → weaker state label)
    (run : Run machine ok start final seen) :
    Run machine weaker start final seen := by
  induction run with
  | start => exact .start
  | step _ allowed taken induction =>
      exact .step induction (weaken _ _ allowed) taken

theorem Run.trans {middle : State} {early late : List Seen}
    (first : Run machine ok start middle early)
    (second : Run machine ok middle final late) :
    Run machine ok start final (early ++ late) := by
  induction second with
  | start => simpa using first
  | step _ allowed taken induction =>
      rw [← List.append_assoc]
      exact .step induction allowed taken

/-- Forward simulation: when every allowed step of one machine is matched by a
run of another on the abstracted states, whole runs are matched. -/
theorem Run.simulate {State' Label' Seen' : Type}
    {abstract : Machine State' Label' Seen'} {ok' : State' → Label' → Prop}
    (forget : State → State') (report : Seen → List Seen')
    (matched : ∀ {middle next seen out label},
      Run machine ok start middle seen →
      ok middle label → machine.step middle label = some (next, out) →
      Run abstract ok' (forget middle) (forget next) (out.flatMap report))
    (run : Run machine ok start final seen) :
    Run abstract ok' (forget start) (forget final) (seen.flatMap report) := by
  induction run with
  | start => exact .start
  | step before allowed taken induction =>
      rw [List.flatMap_append]
      exact induction.trans (matched before allowed taken)

/-- Where a step reports one thing at most, a run can be cut at anything it
reports. -/
theorem Run.split
    (atMostOne : ∀ {state label next out},
      machine.step state label = some (next, out) → out.length ≤ 1)
    (run : Run machine ok start final seen) {early late : List Seen}
    {here : Seen} (trace : seen = early ++ here :: late) :
    ∃ before label after, Run machine ok start before early ∧
      ok before label ∧ machine.step before label = some (after, [here]) ∧
      Run machine ok after final late := by
  induction run generalizing early late with
  | start => simp at trace
  | @step middle final seen out label before allowed taken induction =>
      match out, atMostOne taken with
      | [], _ =>
          rw [List.append_nil] at trace
          obtain ⟨state, label', after, first, ok', taken', second⟩ :=
            induction trace
          have extended := Run.step second allowed taken
          rw [List.append_nil] at extended
          exact ⟨state, label', after, first, ok', taken', extended⟩
      | [last], _ =>
          rcases late.eq_nil_or_concat with rfl | ⟨front, other, rfl⟩
          · obtain ⟨rfl, same⟩ := List.append_inj' trace rfl
            cases same
            exact ⟨middle, label, final, before, allowed, taken, .start⟩
          · rw [List.concat_eq_append, ← List.cons_append,
              ← List.append_assoc] at trace
            obtain ⟨same, last'⟩ := List.append_inj' trace rfl
            cases last'
            obtain ⟨state, label', after, first, ok', taken', second⟩ :=
              induction same
            rw [List.concat_eq_append]
            exact ⟨state, label', after, first, ok', taken',
              .step second allowed taken⟩

theorem Run.single {label : Label} {out : List Seen}
    (allowed : ok start label)
    (taken : machine.step start label = some (final, out)) :
    Run machine ok start final out := by
  simpa using Run.step .start allowed taken

/-- What every allowed step is witness to holds, unless there was no step. -/
theorem Run.still_or {claim : Prop} (shows : ∀ state label, ok state label → claim)
    (run : Run machine ok start final seen) :
    (final = start ∧ seen = []) ∨ claim := by
  cases run with
  | start => exact .inl ⟨rfl, rfl⟩
  | step _ allowed _ => exact .inr (shows _ _ allowed)

/-! The same machine, with every label beside what its step reports. -/

def labelled (machine : Machine State Label Seen) :
    Machine State Label (Label × List Seen) where
  step state label :=
    (machine.step state label).map fun (next, out) => (next, [(label, out)])

theorem labelled_step {label : Label} {out : List (Label × List Seen)}
    (taken : machine.labelled.step start label = some (final, out)) :
    ∃ reported, machine.step start label = some (final, reported) ∧
      out = [(label, reported)] := by
  obtain ⟨⟨next, reported⟩, stepped, same⟩ := Option.map_eq_some_iff.mp taken
  cases same
  exact ⟨reported, stepped, rfl⟩

theorem Run.unlabelled {trace : List (Label × List Seen)}
    (run : Run machine.labelled ok start final trace) :
    Run machine ok start final (trace.flatMap Prod.snd) := by
  induction run with
  | start => exact .start
  | step _ allowed taken induction =>
      obtain ⟨reported, stepped, rfl⟩ := labelled_step taken
      rw [List.flatMap_append, List.flatMap_singleton]
      exact .step induction allowed stepped

theorem Run.withLabels (run : Run machine ok start final seen) :
    ∃ trace, Run machine.labelled ok start final trace ∧
      trace.flatMap Prod.snd = seen := by
  induction run with
  | start => exact ⟨[], .start, rfl⟩
  | @step middle final seen out label _ allowed taken induction =>
      obtain ⟨trace, before, same⟩ := induction
      refine ⟨trace ++ [(label, out)], .step before allowed ?_, by simp [same]⟩
      simp only [labelled, taken, Option.map_some]

/-! Runs computed from their labels. -/

def exec (machine : Machine State Label Seen) :
    State → List Label → Option (State × List Seen)
  | state, [] => some (state, [])
  | state, label :: rest =>
      match machine.step state label with
      | none => none
      | some (next, out) =>
          match machine.exec next rest with
          | none => none
          | some (final, seen) => some (final, out ++ seen)

/-- Every state-label pair that an execution goes through meets `ok`. -/
def execMeets (machine : Machine State Label Seen)
    (ok : State → Label → Prop) : State → List Label → Prop
  | _, [] => True
  | state, label :: rest =>
      ok state label ∧
        match machine.step state label with
        | none => True
        | some (next, _) => machine.execMeets ok next rest

instance execMeetsDecidable [∀ state label, Decidable (ok state label)] :
    (state : State) → (labels : List Label) →
      Decidable (machine.execMeets ok state labels)
  | _, [] => .isTrue trivial
  | state, label :: rest =>
      match taken : machine.step state label with
      | none => decidable_of_iff (ok state label) (by simp [execMeets, taken])
      | some (next, _) =>
          have := execMeetsDecidable next rest
          decidable_of_iff
            (ok state label ∧ machine.execMeets ok next rest)
            (by simp [execMeets, taken])

theorem exec_run {labels : List Label}
    (executed : machine.exec start labels = some (final, seen))
    (meets : machine.execMeets ok start labels) :
    Run machine ok start final seen := by
  induction labels generalizing start seen with
  | nil =>
      cases executed
      exact .start
  | cons label rest induction =>
      obtain ⟨allowed, meets⟩ := meets
      cases taken : machine.step start label with
      | none => simp [exec, taken] at executed
      | some result =>
          obtain ⟨next, out⟩ := result
          cases tail : machine.exec next rest with
          | none => simp [exec, taken, tail] at executed
          | some result =>
              obtain ⟨last, later⟩ := result
              simp only [exec, taken, tail, Option.some.injEq,
                Prod.mk.injEq] at executed
              obtain ⟨rfl, rfl⟩ := executed
              simp only [taken] at meets
              exact (Run.single allowed taken).trans (induction tail meets)

theorem execMeets_true (machine : Machine State Label Seen) (start : State)
    (labels : List Label) :
    machine.execMeets (fun _ _ => True) start labels := by
  induction labels generalizing start with
  | nil => exact trivial
  | cons label rest induction =>
      refine ⟨trivial, ?_⟩
      split
      · exact trivial
      · exact induction _

theorem execMeets_of_forall {labels : List Label}
    (allowed : ∀ label ∈ labels, ∀ state, ok state label) :
    machine.execMeets ok start labels := by
  induction labels generalizing start with
  | nil => exact trivial
  | cons label rest induction =>
      refine ⟨allowed label List.mem_cons_self start, ?_⟩
      split
      · exact trivial
      · exact induction fun other member =>
          allowed other (List.mem_cons_of_mem label member)

/-- A check that evaluates to true on an execution names a run that passes it. -/
theorem exec_check {labels : List Label}
    (meets : machine.execMeets ok start labels)
    (check : State × List Seen → Bool)
    (passes : (machine.exec start labels).any check = true) :
    ∃ final seen, Run machine ok start final seen ∧
      check (final, seen) = true := by
  cases executed : machine.exec start labels with
  | none => simp [executed] at passes
  | some result =>
      refine ⟨result.1, result.2, exec_run executed meets, ?_⟩
      simpa [executed] using passes

end Machine

end Bowerbird.Foundation
