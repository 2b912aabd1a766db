/-
  Where settings come from.

  Settings are loaded from the document of a settings file and from an environment, which is
  given or is that of the host with the variables of its environment file.  Main statements:
  a variable has the value of the environment, or else of the environment file; and settings
  are loaded from the entries of the document, once it is read.
-/
import TapeMachine.Proofs.Entries

set_option autoImplicit false

namespace TapeMachine

/-! ## Variables of environment files -/

namespace EnvFile

theorem keys_put (known : FileVariables) (name : String) (value : Option (List UInt8)) :
    (put known name value).map Prod.fst =
      if name ∈ known.map Prod.fst then known.map Prod.fst else known.map Prod.fst ++ [name] := by
  induction known with
  | nil => rfl
  | cons entry rest ih =>
      obtain ⟨other, old⟩ := entry
      unfold put
      by_cases hname : other = name
      · simp [hname]
      · simp only [if_neg hname, List.map_cons, ih, List.mem_cons, Ne.symm hname, false_or]
        split
        · rfl
        · rfl

/-- An environment file sets each of its variables once. -/
theorem nodup_assigned (environment : RawEnvironment)
    (assignments : List (String × Option String)) :
    ((assigned environment assignments).map Prod.fst).Nodup := by
  unfold assigned
  refine List.foldlRecOn assignments _
    (motive := fun known : FileVariables => (known.map Prod.fst).Nodup)
    List.nodup_nil ?_
  intro known hknown assignment _
  rw [keys_put]
  split
  · exact hknown
  · rename_i hnew
    refine List.nodup_append.2 ⟨hknown, List.pairwise_singleton _ _, ?_⟩
    rintro name hname _ hlast rfl
    rw [List.mem_singleton.1 hlast] at hname
    exact hnew hname

theorem eq_addMissing_of_assign {environment after : RawEnvironment} {name : String}
    {value : List UInt8} (h : assign environment name value = .ok after) :
    after = environment.addMissing name value := by
  unfold assign at h
  split at h
  · rename_i hset
    obtain ⟨old, hold⟩ := Option.isSome_iff_exists.1 hset
    obtain rfl := Except.ok.inj h
    unfold Variables.addMissing
    rw [hold]
  · split at h
    · cases h
    · split at h
      · cases h
      · exact (Except.ok.inj h).symm

theorem value?_of_foldlM {entries : FileVariables}
    {environment after : RawEnvironment} (hnodup : (entries.map Prod.fst).Nodup)
    (h : entries.foldlM
      (fun environment entry =>
        match entry.2 with
        | some value => assign environment entry.1 value
        | none => .ok environment)
      environment = .ok after) (name : String) :
    after.value? name = (environment.value? name).or (entries.value? name).join := by
  induction entries generalizing environment with
  | nil =>
      obtain rfl : environment = after := Except.ok.inj h
      simp
  | cons entry rest ih =>
      obtain ⟨variableName, value⟩ := entry
      obtain ⟨hnew, hrest⟩ := List.nodup_cons.1 hnodup
      rw [List.foldlM_cons] at h
      obtain ⟨next, hnext, h⟩ := exists_of_bind_eq_ok h
      have hvalue : next.value? name =
          (environment.value? name).or (if name = variableName then value else none) := by
        cases value with
        | some value =>
            rw [eq_addMissing_of_assign hnext, Variables.value?_addMissing]
        | none =>
            obtain rfl : environment = next := Except.ok.inj hnext
            simp
      rw [ih hrest h, hvalue, Option.or_assoc]
      rw [Variables.value?_cons]
      by_cases hname : name = variableName
      · subst hname
        have hnone : Variables.value? rest name = none := by
          unfold Variables.value?
          rw [List.lookup_eq_none_iff]
          intro entry hentry
          rw [bne_iff_ne]
          intro hsame
          have hmem : entry.1 ∈ rest.map Prod.fst := List.mem_map_of_mem hentry
          exact hnew (hsame ▸ hmem)
        simp [hnone]
      · simp [hname]

/-- A variable has the value that the environment gives it, else that of the file. -/
theorem value?_of_load {environment after : RawEnvironment} {contents : Contents}
    (h : load environment contents = .ok after) (name : String) :
    after.value? name = (environment.value? name).or
      ((assigned environment contents.assignments).value? name).join :=
  value?_of_foldlM (nodup_assigned environment contents.assignments) h name

/-- The variables of an environment file with their values read. -/
def FileVariables.read (known : FileVariables) : Variables (Option Text.Codes) :=
  known.mapValues (Option.map Encoding.Utf8.decodeEscaped)

end EnvFile

namespace Settings

/-! ## The document -/

/-- The document that settings are loaded from.  Where no file is named it is empty. -/
inductive HoldsDocument (host : Host) : Option Text.Codes → Value → Prop
  | unasked : HoldsDocument host none .null
  | unnamed : HoldsDocument host (some []) .null
  | read {path : Text.Codes} {bytes : List UInt8} {document : Value} (hpath : path ≠ [])
      (hfile : host.readFile path = .ok bytes)
      (hdocument : readDocument path bytes = .ok document) :
      HoldsDocument host (some path) document

/-- Settings from a document, an environment and overrides. -/
def fromDocument (levels : ShownLevels) (path : Text.Codes) (document : Value)
    (environment : Environment) (overrides : List (Value × Value)) : Except LoadError Settings :=
  match documentEntries path document with
  | .error refusal => .error (.refused refusal)
  | .ok file => ofAssigned levels (merge file (environmentEntries environment) overrides)

theorem HoldsDocument.loadWith_eq {host : Host} {path : Option Text.Codes} {document : Value}
    (h : HoldsDocument host path document) (environment : Environment)
    (overrides : List (Value × Value)) :
    loadWith host path environment overrides =
      fromDocument host.shownLevels (path.getD []) document environment overrides := by
  cases h with
  | unasked | unnamed => rfl
  | @read path bytes document hpath hfile hdocument =>
      have hentries : readEntries host path =
          (documentEntries path document).mapError LoadError.refused := by
        unfold readEntries
        rw [hfile]
        dsimp only
        rw [hdocument]
        dsimp only [bind, Except.bind]
        cases documentEntries path document with
        | ok | error => rfl
      unfold loadWith fromDocument
      simp only [if_neg hpath, hentries, Option.getD_some]
      cases documentEntries path document with
      | ok | error => rfl

/-- The layers are applied as one row of entries. -/
theorem merge_eq_apply (file environment overrides : List (Value × Value)) :
    merge file environment overrides =
      ({} : Settings).apply (file ++ (environment ++ givenOverrides overrides)) := by
  rw [apply_append]
  simp only [apply_append]
  rfl

/-! ## The environment -/

/-- Settings are loaded from this environment: a given one, or else that of the host. -/
inductive Sees (host : Host) : Option Environment → Environment → Prop
  | given (environment : Environment) : Sees host (some environment) environment
  | own {environment : Environment} (h : (hostEnvironment host).2 = .ok environment) :
      Sees host none environment

theorem Sees.load_eq {host : Host} {given : Option Environment} {environment : Environment}
    (h : Sees host given environment) (path : Option Text.Codes)
    (overrides : List (Value × Value)) :
    (load host path given overrides).2 = loadWith host path environment overrides := by
  cases h with
  | given => rfl
  | own hown =>
      unfold load
      cases hhost : hostEnvironment host with
      | mk records found =>
          obtain rfl : found = .ok environment := by rw [← hown, hhost]
          rfl

/-- The variables of the process and of its environment file.  A given environment stands for
the process and leaves environment files aside. -/
inductive HoldsVariables (host : Host) :
    Option Environment → Environment → Variables (Option Text.Codes) → Prop
  | given (environment : Environment) : HoldsVariables host (some environment) environment []
  | bare (hfile : usedEnvFile host = none) : HoldsVariables host none host.environment.read []
  | extended {bytes : List UInt8} {text : List Char} {after : RawEnvironment}
      (hfile : usedEnvFile host = some bytes) (htext : Encoding.Utf8.decode bytes = .ok text)
      (hload : EnvFile.load host.environment (EnvFile.parse (Text.unifyLines text)) = .ok after) :
      HoldsVariables host none host.environment.read
        (EnvFile.assigned host.environment
          (EnvFile.parse (Text.unifyLines text)).assignments).read

theorem HoldsVariables.process_eq {host : Host} {process : Environment}
    {envFile : Variables (Option Text.Codes)} (h : HoldsVariables host none process envFile) :
    process = host.environment.read := by
  cases h with
  | bare | extended => rfl

/-- What the environment of the process and an environment file say of a variable. -/
def variableText (process : Environment) (envFile : Variables (Option Text.Codes))
    (name : String) : Option Text.Codes :=
  (process.value? name).or (envFile.value? name).join

/-- Settings are loaded from an environment in which the process comes before the file. -/
theorem HoldsVariables.exists_sees {host : Host} {given : Option Environment}
    {process : Environment} {envFile : Variables (Option Text.Codes)}
    (h : HoldsVariables host given process envFile) :
    ∃ environment, Sees host given environment ∧
      ∀ name, environment.value? name = variableText process envFile name := by
  cases h with
  | given environment => exact ⟨process, .given process, fun name => by simp [variableText]⟩
  | bare hfile =>
      refine ⟨host.environment.read, .own ?_, fun name => by simp [variableText]⟩
      unfold hostEnvironment
      rw [hfile]
  | @extended bytes text after hfile htext hload =>
      refine ⟨after.read, .own ?_, ?_⟩
      · unfold hostEnvironment
        rw [hfile]
        simp only [htext, hload]
      · intro name
        unfold variableText RawEnvironment.read EnvFile.FileVariables.read
        simp only [Variables.value?_mapValues, EnvFile.value?_of_load hload, Option.map_or,
          Option.join_map_eq_map_join]

/-! ## Loaded settings -/

theorem HoldsDocument.unique {host : Host} {path : Option Text.Codes} {document document' : Value}
    (h : HoldsDocument host path document) (h' : HoldsDocument host path document') :
    document' = document := by
  cases h with
  | unasked =>
      cases h' with
      | unasked => rfl
  | unnamed =>
      cases h' with
      | unnamed => rfl
      | read hpath => exact absurd rfl hpath
  | read hpath hfile hdocument =>
      cases h' with
      | unnamed => exact absurd rfl hpath
      | read _ hfile' hdocument' =>
          obtain rfl := Except.ok.inj (hfile.symm.trans hfile')
          exact Except.ok.inj (hdocument'.symm.trans hdocument)

theorem exists_holdsDocument_of_loadWith {host : Host} {path : Option Text.Codes}
    {environment : Environment} {overrides : List (Value × Value)} {settings : Settings}
    (h : loadWith host path environment overrides = .ok settings) :
    ∃ document, HoldsDocument host path document := by
  cases path with
  | none => exact ⟨.null, .unasked⟩
  | some path =>
      by_cases hpath : path = []
      · subst hpath
        exact ⟨.null, .unnamed⟩
      · unfold loadWith at h
        simp only [if_neg hpath] at h
        obtain ⟨file, hentries, _⟩ := exists_of_bind_eq_ok h
        unfold readEntries at hentries
        cases hfile : host.readFile path with
        | error e =>
            rw [hfile] at hentries
            cases hentries
        | ok bytes =>
            rw [hfile] at hentries
            obtain ⟨document, hdocument, _⟩ := exists_of_bind_eq_ok hentries
            exact ⟨document, .read hpath hfile hdocument⟩

theorem exists_sees_of_load {host : Host} {path : Option Text.Codes} {given : Option Environment}
    {overrides : List (Value × Value)} {settings : Settings}
    (h : (load host path given overrides).2 = .ok settings) :
    ∃ environment, Sees host given environment := by
  cases given with
  | some environment => exact ⟨environment, .given environment⟩
  | none =>
      unfold load at h
      dsimp only at h
      cases hhost : hostEnvironment host with
      | mk records found =>
          rw [hhost] at h
          cases found with
          | error e => cases h
          | ok environment => exact ⟨environment, .own (congrArg Prod.snd hhost)⟩

/-- Where settings are loaded, they are so from a document, an environment and overrides, all
of whose entries suit. -/
theorem exists_sources_of_load {host : Host} {path : Option Text.Codes} {given : Option Environment}
    {overrides : List (Value × Value)} {settings : Settings}
    (h : (load host path given overrides).2 = .ok settings) :
    ∃ document file, HoldsDocument host path document ∧
      documentEntries (path.getD []) document = .ok file ∧
        (∀ entry ∈ file, Suits entry) ∧ ∀ entry ∈ givenOverrides overrides, Suits entry := by
  obtain ⟨environment, hsees⟩ := exists_sees_of_load h
  rw [hsees.load_eq] at h
  obtain ⟨document, hdocument⟩ := exists_holdsDocument_of_loadWith h
  rw [hdocument.loadWith_eq] at h
  unfold fromDocument at h
  cases hentries : documentEntries (path.getD []) document with
  | error refusal =>
      rw [hentries] at h
      cases h
  | ok file =>
      rw [hentries] at h
      dsimp only at h
      rw [ofAssigned_eq_ok_iff, merge_eq_apply] at h
      have hsuit := exists_apply_iff.1 ⟨settings, h⟩
      rw [List.forall_mem_append, List.forall_mem_append] at hsuit
      exact ⟨document, file, hdocument, hentries, hsuit.1, hsuit.2.2⟩

end Settings

end TapeMachine
