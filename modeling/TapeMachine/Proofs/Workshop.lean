/-
  The log of a workshop.

  In a workshop any number of machines are put in front of programs and driven in any order,
  and sources are compiled in between.  Machines may share their ports and their tapes.  Main
  statement: whatever is called in which order, each call leaves the records of what it did
  and no others, and the warnings of a machine are as many as it has failures, one at most.
-/
import Mathlib.Logic.Function.Basic
import TapeMachine.Proofs.RunRecords

set_option autoImplicit false

namespace TapeMachine

/-! ## Workshops -/

/-- A machine whose port and tape are kept elsewhere. -/
structure Station where
  program : Program
  /-- The place of its port. -/
  port : Nat
  /-- The place of its tape. -/
  tape : Nat
  index : Int
  steps : Nat
  fault : Option Fault

/-- Ports, tapes, and the machines that use them. -/
structure Workshop (π : Type) where
  ports : Nat → π
  tapes : Nat → Tape
  stations : List Station

namespace Workshop

variable {π : Type}

/-- A workshop without machines. -/
def opened (ports : Nat → π) (tapes : Nat → Tape) : Workshop π :=
  ⟨ports, tapes, []⟩

/-- The machine of a station. -/
def machineOf (w : Workshop π) (s : Station) : Machine π :=
  ⟨s.program, w.ports s.port, w.tapes s.tape, s.index, s.steps, s.fault⟩

/-- The machine at a place. -/
def machine? (w : Workshop π) (place : Nat) : Option (Machine π) :=
  w.stations[place]?.map w.machineOf

/-- The machine at a place has failed. -/
def failedAt (w : Workshop π) (place : Nat) : Bool :=
  (w.machine? place).any fun m => decide (m.state = .failed)

/-- The workshop with a station in another state.  Its port and its tape are left to all that
share them. -/
def leave (w : Workshop π) (place : Nat) (s : Station) (m : Machine π) : Workshop π where
  ports := Function.update w.ports s.port m.port
  tapes := Function.update w.tapes s.tape m.tape
  stations := w.stations.set place
    { s with program := m.program, index := m.index, steps := m.steps, fault := m.fault }

/-! ## Calls -/

/-- What can be called in a workshop. -/
inductive Call where
  | compile (source : String)
  /-- Puts a machine in front of a program. -/
  | create (program : Program) (port tape : Nat)
  | step (place : Nat)
  /-- A run, which is looked at after any number of its steps. -/
  | run (place fuel : Nat)

/-- The place of the machine that a call drives. -/
def Call.place? : Call → Option Nat
  | .compile _ | .create _ _ _ => none
  | .step place | .run place _ => some place

/-- A call, what it leaves, and what is logged in it. -/
structure Event (π : Type) where
  before : Workshop π
  call : Call
  after : Workshop π
  raised : Option Raised
  /-- The result that a run returns. -/
  result : Option RunResult
  records : List Record

/-- The machine at a place is driven, if there is one. -/
def drive (w : Workshop π) (call : Call) (place : Nat)
    (driven : Machine π → Machine.Drive π) : Event π :=
  match w.stations[place]? with
  | none => ⟨w, call, w, none, none, []⟩
  | some s =>
      let left := driven (w.machineOf s)
      ⟨w, call, w.leave place s left.after, left.raised, left.result, left.records⟩

variable [Port π]

/-- What a call does and what is logged in it. -/
def perform (w : Workshop π) : Call → Event π
  | .compile source =>
      ⟨w, .compile source, w, none, none, Program.compileRecords (Program.compile source)⟩
  | .create program port tape =>
      let stations := w.stations ++ [⟨program, port, tape, 0, 0, none⟩]
      ⟨w, .create program port tape, { w with stations }, none, none, []⟩
  | .step place => w.drive (.step place) place Machine.driveStep
  | .run place fuel => w.drive (.run place fuel) place (Machine.driveRun fuel)

/-- What happens in calls made one after another. -/
def history (w : Workshop π) : List Call → List (Event π)
  | [] => []
  | call :: calls => w.perform call :: history (w.perform call).after calls

/-- The workshop after calls made one after another. -/
def performAll (w : Workshop π) : List Call → Workshop π
  | [] => w
  | call :: calls => performAll (w.perform call).after calls

omit [Port π] in
/-- The warnings that the machine at a place has left. -/
def warnings (place : Nat) (events : List (Event π)) : List Record :=
  (events.filter fun event => event.call.place? = some place).flatMap fun event =>
    event.records.filter fun record => record.level = .warning

/-! ## Events accounted for -/

/-- The event is a call of the machine at a place that leaves what is given. -/
def Event.Leaves (event : Event π) (place : Nat) (drive : Machine.Drive π) : Prop :=
  event.after.machine? place = some drive.after ∧ event.raised = drive.raised ∧
    event.result = drive.result ∧ event.records = drive.records

/-- The records of an event are those of what happened in it. -/
structure Event.Accounted (event : Event π) : Prop where
  compiled : ∀ source program, event.call = .compile source →
    Program.compile source = .ok program → event.records =
      [.counted program.instructions.length (program.instructions.count .loopOpen)]
  refused : ∀ source own, event.call = .compile source →
    Program.compile source = .error own → event.records = []
  /-- A step leaves the notes that it takes. -/
  stepped : ∀ place m, event.call = .step place → event.before.machine? place = some m →
    event.Leaves place m.driveStep ∧ m.Accounted m.driveStep ∧ event.records = m.stepNotes
  /-- A run leaves the notes that its steps and its end take. -/
  ran : ∀ place fuel m, event.call = .run place fuel → event.before.machine? place = some m →
    event.Leaves place (m.driveRun fuel) ∧ m.Accounted (m.driveRun fuel) ∧
      event.records = m.runNotes fuel
  /-- Where nothing is compiled and no machine driven, nothing is logged. -/
  silent : (∀ source, event.call ≠ .compile source) →
    (∀ place, event.call.place? = some place → event.before.machine? place = none) →
      event.records = []

/-! ## Machines at places -/

variable {w : Workshop π} {call : Call} {place : Nat} {driven : Machine π → Machine.Drive π}
  {m : Machine π}

section Places

omit [Port π]

theorem failedAt_of_machine? (h : w.machine? place = some m) :
    w.failedAt place = decide (m.state = .failed) := by
  rw [failedAt, h, Option.any_some]

theorem failedAt_of_absent (h : w.machine? place = none) : w.failedAt place = false := by
  rw [failedAt, h, Option.any_none]

/-- Whether a machine has failed depends on its station only. -/
theorem failedAt_congr {w' : Workshop π} (h : w.stations[place]? = w'.stations[place]?) :
    w.failedAt place = w'.failedAt place := by
  rw [failedAt, failedAt, machine?, machine?, h]
  cases w'.stations[place]? with
  | none => rfl
  | some s => rfl

/-- What is driven leaves its machine in its place, and fails nothing elsewhere. -/
theorem exists_drive (call : Call) (driven : Machine π → Machine.Drive π)
    (h : w.machine? place = some m) : ∃ after : Workshop π,
      after.machine? place = some (driven m).after ∧
        (∀ other, other ≠ place → after.failedAt other = w.failedAt other) ∧
        w.drive call place driven =
          ⟨w, call, after, (driven m).raised, (driven m).result, (driven m).records⟩ := by
  obtain ⟨s, hs, rfl⟩ := Option.map_eq_some_iff.1 h
  obtain ⟨hlt, -⟩ := List.getElem?_eq_some_iff.1 hs
  refine ⟨w.leave place s (driven (w.machineOf s)).after, ?_, ?_, ?_⟩
  · simp [machine?, machineOf, leave, List.getElem?_set_self hlt]
  · intro other hother
    exact failedAt_congr (List.getElem?_set_ne hother.symm)
  · rw [drive, hs]

theorem drive_of_absent (call : Call) (driven : Machine π → Machine.Drive π)
    (h : w.machine? place = none) :
    w.drive call place driven = ⟨w, call, w, none, none, []⟩ := by
  rw [drive, Option.map_eq_none_iff.1 h]

@[simp]
theorem call_drive : (w.drive call place driven).call = call := by
  rw [drive]
  cases w.stations[place]? with
  | none | some s => rfl

@[simp]
theorem before_drive : (w.drive call place driven).before = w := by
  rw [drive]
  cases w.stations[place]? with
  | none | some s => rfl

theorem leaves_drive (call : Call) (driven : Machine π → Machine.Drive π)
    (h : w.machine? place = some m) : (w.drive call place driven).Leaves place (driven m) := by
  obtain ⟨after, hafter, -, heq⟩ := exists_drive call driven h
  rw [heq]
  exact ⟨hafter, rfl, rfl, rfl⟩

end Places

/-! ## Every event -/

theorem accounted_compile (w : Workshop π) (source : String) :
    (w.perform (.compile source)).Accounted where
  compiled := by
    intro source' program hcall hcompile
    obtain rfl := Call.compile.inj hcall
    exact Program.compileRecords_of_compile hcompile
  refused := by
    intro source' own hcall hcompile
    obtain rfl := Call.compile.inj hcall
    exact congrArg Program.compileRecords hcompile
  stepped := by simp [perform]
  ran := by simp [perform]
  silent hcompile _ := absurd rfl (hcompile source)

theorem accounted_create (w : Workshop π) (program : Program) (port tape : Nat) :
    (w.perform (.create program port tape)).Accounted where
  compiled := by simp [perform]
  refused := by simp [perform]
  stepped := by simp [perform]
  ran := by simp [perform]
  silent _ _ := rfl

theorem accounted_step (w : Workshop π) (place : Nat) : (w.perform (.step place)).Accounted where
  compiled := by simp [perform]
  refused := by simp [perform]
  stepped := by
    intro other m hcall hm
    simp only [perform, call_drive, before_drive] at hcall hm
    obtain rfl := Call.step.inj hcall
    have hleaves := leaves_drive (.step place) Machine.driveStep hm
    exact ⟨hleaves, m.noted_driveStep.accounted, hleaves.2.2.2.trans m.stepNotes_eq.symm⟩
  ran := by simp [perform]
  silent := by
    intro _ habsent
    simp only [perform, call_drive, before_drive] at habsent ⊢
    rw [drive_of_absent _ _ (habsent place rfl)]

theorem accounted_run (w : Workshop π) (place fuel : Nat) :
    (w.perform (.run place fuel)).Accounted where
  compiled := by simp [perform]
  refused := by simp [perform]
  stepped := by simp [perform]
  ran := by
    intro other fuel' m hcall hm
    simp only [perform, call_drive, before_drive] at hcall hm
    obtain ⟨rfl, rfl⟩ := Call.run.inj hcall
    have hleaves := leaves_drive (.run place fuel) (Machine.driveRun fuel) hm
    exact ⟨hleaves, (m.noted_driveRun fuel).accounted,
      hleaves.2.2.2.trans (m.runNotes_eq fuel).symm⟩
  silent := by
    intro _ habsent
    simp only [perform, call_drive, before_drive] at habsent ⊢
    rw [drive_of_absent _ _ (habsent place rfl)]

theorem accounted_perform (w : Workshop π) (call : Call) : (w.perform call).Accounted := by
  cases call with
  | compile source => exact accounted_compile w source
  | create program port tape => exact accounted_create w program port tape
  | step place => exact accounted_step w place
  | run place fuel => exact accounted_run w place fuel

/-! ## Warnings -/

omit [Port π] in
theorem warnings_append (place : Nat) (events events' : List (Event π)) :
    warnings place (events ++ events') = warnings place events ++ warnings place events' := by
  rw [warnings, List.filter_append, List.flatMap_append]
  rfl

omit [Port π] in
theorem warnings_of_ne {event : Event π} (h : event.call.place? ≠ some place) :
    warnings place [event] = [] := by
  rw [warnings, List.filter_singleton, decide_eq_false h]
  rfl

omit [Port π] in
theorem warnings_of_eq {event : Event π} (h : event.call.place? = some place) :
    warnings place [event] = event.records.filter fun record => record.level = .warning := by
  rw [warnings, List.filter_singleton, decide_eq_true h]
  exact List.append_nil _

omit [Port π] in
/-- A call leaves a warning when the machine fails in it, and only then. -/
theorem length_warnings_of_accounted {drive : Machine.Drive π} (h : m.Accounted drive) :
    (drive.records.filter fun record => record.level = .warning).length +
        (decide (m.state = .failed)).toNat =
      (decide (drive.after.state = .failed)).toNat := by
  by_cases hbefore : m.state = .failed
  · obtain ⟨hafter, hrecords⟩ := h.silent_of_failed hbefore
    simp [hbefore, hafter, hrecords]
  · by_cases hafter : drive.after.state = .failed
    · obtain ⟨own, -, -, hrecords⟩ := h.warns hbefore hafter
      simp [hbefore, hafter, hrecords, Record.warned]
    · cases hresult : drive.result with
      | none => simp [hbefore, hafter, h.silent (Or.inr hafter) hresult]
      | some result => simp [hbefore, hafter, (h.returns result hresult).2, Record.returned]

omit [Port π] in
/-- A machine leaves a warning in the call in which it fails. -/
theorem length_warnings_drive (hcall : call.place? = some place)
    (hdriven : ∀ m : Machine π, m.Accounted (driven m)) (other : Nat) :
    (warnings other [w.drive call place driven]).length + (w.failedAt other).toNat =
      ((w.drive call place driven).after.failedAt other).toNat := by
  cases hm : w.machine? place with
  | none =>
      rw [drive_of_absent call driven hm]
      by_cases hother : call.place? = some other
      · rw [warnings_of_eq hother]
        exact Nat.zero_add _
      · rw [warnings_of_ne hother]
        exact Nat.zero_add _
  | some m =>
      obtain ⟨after, hafter, helsewhere, heq⟩ := exists_drive call driven hm
      rw [heq]
      by_cases hother : other = place
      · subst hother
        rw [warnings_of_eq hcall, failedAt_of_machine? hm, failedAt_of_machine? hafter]
        exact length_warnings_of_accounted (hdriven m)
      -- A machine elsewhere may share the port or the tape, but not the fault.
      · have hne : call.place? ≠ some other := by
          rw [hcall]
          exact fun h => hother (Option.some.inj h).symm
        rw [warnings_of_ne hne, helsewhere other hother]
        exact Nat.zero_add _

/-- A new machine has not failed, and those in front of it stay as they are. -/
theorem failedAt_create (w : Workshop π) (program : Program) (port tape place : Nat) :
    (w.perform (.create program port tape)).after.failedAt place = w.failedAt place := by
  rcases Nat.lt_or_ge place w.stations.length with hlt | hge
  · exact failedAt_congr (List.getElem?_append_left hlt)
  · have habsent : w.machine? place = none := by
      rw [machine?, List.getElem?_eq_none hge, Option.map_none]
    rw [failedAt_of_absent habsent, failedAt, machine?, perform,
      List.getElem?_append_right hge]
    cases place - w.stations.length with
    | zero => exact decide_eq_false ((Machine.state_ne_failed_iff _).2 rfl)
    | succ place => rfl

theorem length_warnings_perform (w : Workshop π) (call : Call) (place : Nat) :
    (warnings place [w.perform call]).length + (w.failedAt place).toNat =
      ((w.perform call).after.failedAt place).toNat := by
  cases call with
  | step driven => exact length_warnings_drive rfl (fun m => m.noted_driveStep.accounted) place
  | run driven fuel =>
      exact length_warnings_drive rfl (fun m => (m.noted_driveRun fuel).accounted) place
  | compile source => exact Nat.zero_add _
  | create program port tape =>
      rw [failedAt_create]
      exact Nat.zero_add _

theorem length_warnings_history (calls : List Call) (w : Workshop π) (place : Nat) :
    (warnings place (w.history calls)).length + (w.failedAt place).toNat =
      ((w.performAll calls).failedAt place).toNat := by
  induction calls generalizing w with
  | nil => exact Nat.zero_add _
  | cons call calls ih =>
      rw [history, ← List.singleton_append, warnings_append, List.length_append, performAll,
        ← ih (w.perform call).after, ← length_warnings_perform w call place]
      omega

theorem accounted_of_mem_history {calls : List Call} {event : Event π}
    (h : event ∈ w.history calls) : event.Accounted := by
  induction calls generalizing w with
  | nil => simp [history] at h
  | cons call calls ih =>
      rcases List.mem_cons.1 h with rfl | hrest
      · exact accounted_perform w call
      · exact ih hrest

/-- Whatever is called in a workshop, in any order, each call leaves the records of what
happened in it, and a machine leaves one warning if it has failed and none if it has not. -/
theorem accounted_history (ports : Nat → π) (tapes : Nat → Tape) (calls : List Call) :
    (∀ event ∈ (opened ports tapes).history calls, event.Accounted) ∧
      ∀ place, (warnings place ((opened ports tapes).history calls)).length =
        if ((opened ports tapes).performAll calls).failedAt place then 1 else 0 := by
  refine ⟨fun event hevent => accounted_of_mem_history hevent, fun place => ?_⟩
  have hopened : (opened ports tapes).failedAt place = false := failedAt_of_absent rfl
  have hcount := length_warnings_history calls (opened ports tapes) place
  rw [hopened, Bool.toNat_false, Nat.add_zero] at hcount
  rw [hcount]
  cases failedAt _ place with
  | true | false => rfl

/-- Two machines share a tape.  The first one fails on it and is silent from then on, and the
second one halts on it twice. -/
theorem accounted_history_shared :
    let program : Program := ⟨#[.increment, .moveLeft], ⟨[]⟩⟩
    let calls : List Call :=
      [.compile "]", .compile "[+]", .create program 0 0, .create ⟨#[.moveRight], ⟨[]⟩⟩ 0 0,
        .run 0 9, .step 1, .step 0, .run 0 9, .run 1 9, .step 1, .run 1 9]
    let events := (opened (fun _ => BufferPort.ofInput []) fun _ => Tape.single).history calls
    events.flatMap Event.records =
        [.counted 3 1, .warned 1 1 "cell pointer moved left of cell 0 (instruction 1)",
          .returned 1 2, .returned 1 2] ∧
      (∀ event ∈ events, event.Accounted) ∧
        (warnings 0 events).length = 1 ∧ (warnings 1 events).length = 0 := by
  intro program calls events
  obtain ⟨haccounted, hwarnings⟩ :=
    accounted_history (fun _ => BufferPort.ofInput []) (fun _ => Tape.single) calls
  have hrecords : events.flatMap Event.records =
      [.counted 3 1, .warned 1 1 "cell pointer moved left of cell 0 (instruction 1)",
        .returned 1 2, .returned 1 2] := by
    decide +kernel
  refine ⟨hrecords, haccounted, ?_, ?_⟩
  · rw [hwarnings 0]
    decide +kernel
  · rw [hwarnings 1]
    decide +kernel

end Workshop

end TapeMachine
