/-
  What loaded settings are good for.

  Main statement: settings that are loaded are valid, whatever their layers hold.  There is a
  tape under them, a single zero cell with as many cells set aside as they say; a run under
  them raises nothing but what its source text, its tape and its port give rise to; and what
  their fields hold, given as entries once more, gives the same settings.
-/
import TapeMachine.Proofs.Entries
import TapeMachine.Proofs.Safety
import TapeMachine.Proofs.Unbalanced

set_option autoImplicit false

namespace TapeMachine.Settings

/-! ## New tapes -/

/-- The number of cells that are set aside: no more of them than are allowed. -/
def firstCapacity (settings : Settings) : Int :=
  match settings.maxCells with
  | none => settings.initialCells
  | some bound => min settings.initialCells bound

/-- The tape is a single zero cell, with zero cells set aside as the settings say. -/
structure Blank (settings : Settings) (tape : Tape) : Prop where
  cells_eq : tape.cells = #[0]
  pointer_eq : tape.pointer = 0
  limit_eq : tape.limit = settings.maxCells.map Int.toNat
  capacity_eq : (tape.capacity : Int) = settings.firstCapacity
  allocated_eq_zero : ∀ place, place < tape.capacity → tape.allocated? place = some 0

theorem blank_blankTape {settings : Settings} {capacity : Nat} {limit : Option Nat}
    (hcapacity : 1 ≤ capacity) (hbound : ∀ bound, limit = some bound → capacity ≤ bound)
    (hlimit : limit = settings.maxCells.map Int.toNat)
    (hcells : (capacity : Int) = settings.firstCapacity) :
    Blank settings (Tape.blankTape capacity limit hcapacity hbound) where
  cells_eq := rfl
  pointer_eq := rfl
  limit_eq := hlimit
  capacity_eq := hcells
  allocated_eq_zero place hplace := by
    have hzero : (#[0] : Array UInt8)[place]?.getD 0 = 0 := by
      cases place with
      | zero | succ => rfl
    unfold Tape.allocated?
    rw [if_pos hplace]
    exact congrArg some hzero

theorem Valid.exists_blank {settings : Settings} (h : settings.Valid) :
    ∃ tape, settings.newTape = some tape ∧ Blank settings tape := by
  have hinitial := h.one_le_initialCells
  unfold newTape Tape.create
  cases hcells : settings.maxCells with
  | none =>
      refine ⟨_, rfl, blank_blankTape _ _ (by rw [hcells]; rfl) ?_⟩
      rw [firstCapacity, hcells]
      dsimp only
      omega
  | some bound =>
      have hbound := h.one_le_of_maxCells bound hcells
      dsimp only
      rw [dif_pos hbound]
      refine ⟨_, rfl, blank_blankTape _ _ (by rw [hcells]; rfl) ?_⟩
      rw [firstCapacity, hcells]
      dsimp only [Tape.clip]
      omega

/-! ## Runs -/

/-- How a run under settings can end: with a result, or not yet, or with a bracket that has no
partner, or with what is foreseen of its machine in front of its port. -/
inductive Admits {π : Type} [Port π] (settings : Settings) (source : String) (port : π) :
    Interpreter.Ending → Prop
  | halted (result : RunResult) : Admits settings source port (.halted result)
  | unfinished : Admits settings source port .unfinished
  | uncompiled {fault : Fault} (hcompile : Program.compile source = .error fault) :
      Admits settings source port (.raised (.fault fault))
  | raised {program : Program} {tape : Tape} {last : Machine π} {n : Nat} {error : Raised}
      (hcompile : Program.compile source = .ok program) (htape : settings.newTape = some tape)
      (hlast : Machine.Takes n (.start program port tape) last) (h : Foreseen last.port error) :
      Admits settings source port (.raised error)

theorem Valid.admits {settings : Settings} (h : settings.Valid) {π : Type} [Port π] (fuel : Nat)
    (source : String) (port : π) :
    Admits settings source port (Interpreter.run fuel source port settings).ending := by
  cases hcompile : Program.compile source with
  | error fault =>
      rw [Interpreter.run_of_compile_error hcompile]
      exact .uncompiled hcompile
  | ok program =>
      obtain ⟨tape, htape⟩ := h.exists_newTape
      rw [Interpreter.run_of_compile hcompile htape]
      dsimp only
      cases hrun : (Machine.start program port tape).runFor fuel with
      | mk after verdict =>
          cases verdict with
          | halted result => exact .halted result
          | unfinished => exact .unfinished
          | raised error =>
              obtain ⟨n, _, last, hlast, hraises⟩ := Machine.exists_fails_of_runFor hrun
              have hprogram := Program.resolves_of_compile hcompile
              have hwithin : Machine.Within program last :=
                hlast.invariant (fun _ hm => Machine.within_step hprogram hm)
                  (Machine.within_start program port tape)
              exact .raised hcompile htape hlast
                (Machine.foreseen_of_step hprogram hwithin hraises)

/-! ## Entries once more -/

theorem keysDistinct_entries (settings : Settings) : Value.KeysDistinct settings.entries := by
  unfold entries
  rw [← List.filterMap_eq_map]
  apply keysDistinct_filterMap
  rintro field _ ⟨⟩
  rfl

/-- What valid settings hold gives them again, whatever it is applied to and in whichever
order. -/
theorem Valid.apply_entries {settings : Settings} (h : settings.Valid)
    {given : List (Value × Value)} (hgiven : given.Perm settings.entries) (base : Settings) :
    base.apply given = .ok settings := by
  have hdistinct : Value.KeysDistinct given := (keysDistinct_entries settings).perm hgiven.symm
  have hsuit : ∀ entry ∈ given, Suits entry := by
    intro entry hentry
    obtain ⟨field, _, rfl⟩ := List.mem_map.1 (hgiven.mem_iff.1 hentry)
    exact .named (h.coerce_written field)
  obtain ⟨after, hafter⟩ := exists_apply_of_all_suit hsuit base
  have hsame : after = settings := by
    apply eq_of_content_eq
    intro field
    have hmem : (.text field.name, written field (settings.content field)) ∈ given :=
      hgiven.mem_iff.2 (List.mem_map.2 ⟨field, field.mem_all, rfl⟩)
    have hdetermined := determined_of_apply hdistinct hafter field
    rw [(Value.lookupText_eq_some_iff hdistinct).2 hmem] at hdetermined
    exact Except.ok.inj (hdetermined.symm.trans (h.coerce_written field))
  rw [hafter, hsame]

/-! ## Loaded settings -/

/-- What settings are good for. -/
structure Usable (settings : Settings) : Prop where
  one_le_of_maxCells : ∀ bound, settings.maxCells = some bound → 1 ≤ bound
  one_le_initialCells : 1 ≤ settings.initialCells
  logLevel_mem : settings.logLevel.name ∈ ["DEBUG", "INFO", "WARNING", "ERROR", "CRITICAL"]
  encoding_ne_nil : settings.encoding ≠ []
  blank : ∃ tape, settings.newTape = some tape ∧ Blank settings tape
  /-- In a run nothing is raised but what the source text, the tape and the port give rise
  to. -/
  admits : ∀ {π : Type} [Port π] (fuel : Nat) (source : String) (port : π),
    Admits settings source port (Interpreter.run fuel source port settings).ending
  /-- What the fields hold, applied once more, gives the same settings. -/
  apply_entries : ∀ given : List (Value × Value), given.Perm settings.entries →
    ∀ base : Settings, base.apply given = .ok settings

/-- Settings that are loaded can be used. -/
theorem usable_of_load {host : Host} {path : Option Text.Codes} {environment : Option Environment}
    {overrides : List (Value × Value)} {settings : Settings}
    (h : (load host path environment overrides).2 = .ok settings) : Usable settings := by
  have hvalid := valid_of_load h
  constructor
  · exact hvalid.one_le_of_maxCells
  · exact hvalid.one_le_initialCells
  · cases settings.logLevel with
    | debug | info | warning | error | critical => decide
  · exact hvalid.encoding_ne_nil
  · exact hvalid.exists_blank
  · exact hvalid.admits
  · exact fun given hgiven base => hvalid.apply_entries hgiven base

/-- The environment allows eight cells and names an encoding that there is not, and the
overrides set more cells than that aside. -/
theorem usable_of_load_clipped :
    let host : Host := { readFile := fun path => .error (.system (.fileNotFound path)) }
    let settings : Settings :=
      { maxCells := some 8, initialCells := 16, encoding := [.half 0xD800 rfl] }
    let environment : Environment :=
      [("BYTETAPE_MAX_CELLS", .ofString " 8 "), ("BYTETAPE_ENCODING", [.half 0xD800 rfl])]
    (load host none (some environment) [(.text "initial_cells", .integer 16)]).2 =
        .ok settings ∧
      Usable settings ∧ ∃ tape, settings.newTape = some tape ∧ tape.capacity = 8 := by
  intro host settings environment
  have hload : (load host none (some environment) [(.text "initial_cells", .integer 16)]).2 =
      .ok settings := rfl
  exact ⟨hload, usable_of_load hload, _, rfl, rfl⟩

end TapeMachine.Settings
